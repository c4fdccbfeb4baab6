import RhythmChart.Sentence.Basic

/-!
# Conditional blocks

Control sentences are followed with two stacks that need not nest in each other: the
numbers drawn by the open random choices, and the open blocks, each either taken or not. A
content sentence is skipped exactly when the innermost open block is not taken.
-/

namespace RhythmChart

/-- Where a compilation stands between random choices and conditional blocks. -/
structure Gate where
  /-- The numbers that will be drawn, in order; once they run out, every draw is a one. -/
  draws : List Int
  /-- The numbers drawn by the open random choices, the latest first. -/
  drawn : List Int
  /-- The open blocks, the innermost first; `true` stands for a branch
  that is not taken. -/
  blocks : List Bool
  deriving DecidableEq, Repr

namespace Gate

def start (draws : List Int) : Gate := ⟨draws, [], []⟩

def skips (gate : Gate) : Bool :=
  gate.blocks.headD false

def swapBranch : List Bool → List Bool
  | [] => []
  | skipped :: outer => (!skipped) :: outer

/-- Follows a control sentence. Without an open block or choice to refer
to, it changes nothing. -/
def step (gate : Gate) : Control → Gate
  | .random _ =>
      { gate with draws := gate.draws.tail, drawn := gate.draws.headD 1 :: gate.drawn }
  | .ifDrawn value =>
      { gate with blocks := (gate.drawn.head? != some (value : Int)) :: gate.blocks }
  | .orElse => { gate with blocks := swapBranch gate.blocks }
  | .endIf => { gate with blocks := gate.blocks.tail }
  | .endRandom => { gate with drawn := gate.drawn.tail }

def isUnmatched (gate : Gate) : Control → Bool
  | .orElse => gate.blocks.isEmpty
  | .endIf => gate.blocks.isEmpty
  | _ => false

end Gate

end RhythmChart
