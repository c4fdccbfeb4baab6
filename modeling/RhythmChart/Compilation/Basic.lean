import RhythmChart.Compilation.Effect
import RhythmChart.Compilation.Gate
import RhythmChart.Sentence.Reader

/-!
# Compilation

The sentences of a source are taken in order. Control sentences move the gate, content
sentences are applied to the chart unless the gate skips them, and every sentence is
counted. The numbers that random choices draw are given beforehand, so compilation is a
function of the source and the draws.
-/

namespace RhythmChart

/-- How many sentences of each kind were met. Skipped sentences are counted
under their kind too. -/
structure Counts where
  header : Nat
  channel : Nat
  control : Nat
  skipped : Nat
  malformed : Nat
  deriving DecidableEq, Repr

namespace Counts

def zero : Counts := ⟨0, 0, 0, 0, 0⟩

def add (counts : Counts) : Sentence → Counts
  | .control _ => { counts with control := counts.control + 1 }
  | .content (.header _ _) => { counts with header := counts.header + 1 }
  | .content _ => { counts with channel := counts.channel + 1 }
  | .malformed _ => { counts with malformed := counts.malformed + 1 }

def addSkipped (counts : Counts) : Counts :=
  { counts with skipped := counts.skipped + 1 }

end Counts

/-- A chart, and what was noticed while it was compiled. -/
structure Compilation (α : Type) where
  chart : Chart α
  counts : Counts
  warnings : List Warning
  bounds : List Nat

namespace Compilation

structure State (α : Type) where
  gate : Gate
  result : Compilation α

def boundOf : Control → List Nat
  | .random bound => [bound]
  | _ => []

variable {α : Type}

def empty : Compilation α := ⟨.empty, .zero, [], []⟩

def count (result : Compilation α) (sentence : Sentence) : Compilation α :=
  { result with counts := result.counts.add sentence }

def skip (result : Compilation α) : Compilation α :=
  { result with counts := result.counts.addSkipped }

def warn (result : Compilation α) (line : Nat) (issue : Option Issue) : Compilation α :=
  { result with warnings := result.warnings ++ (issue.map (Warning.mk line)).toList }

variable [Scalar α]

/-- Takes one sentence. -/
def step (state : State α) (entry : Nat × Sentence) : State α :=
  let (line, sentence) := entry
  let result := state.result.count sentence
  match sentence with
  | .control control =>
      let issue :=
        if state.gate.isUnmatched control then Issue.ofUnmatched? control else none
      { gate := state.gate.step control
        result :=
          { result.warn line issue with bounds := result.bounds ++ boundOf control } }
  | .malformed text => { state with result := result.warn line (some (.malformed text)) }
  | .content content =>
      if state.gate.skips then { state with result := result.skip }
      else
        { state with
          result := { result.warn line (content.issue? α) with
            chart := content.apply line result.chart } }

def ofSentences (draws : List Int) (sentences : List (Nat × Sentence)) : Compilation α :=
  (sentences.foldl step ⟨.start draws, empty⟩).result

/-- Compiles a source in a dialect. -/
def ofText (dialect : Dialect) (draws : List Int) (source : Text) : Compilation α :=
  ofSentences draws (Sentence.ofText dialect source)

end Compilation

end RhythmChart
