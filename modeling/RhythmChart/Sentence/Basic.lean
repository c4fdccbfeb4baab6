import RhythmChart.Chart.Code

/-!
# Sentences

A line of a chart source that starts with a number sign is a sentence. Control
sentences choose between variants of a chart, content sentences build it, and a
sentence that is neither is malformed.
-/

namespace RhythmChart

/-- The sentences that choose between variants. -/
inductive Control where
  | random (bound : Nat)
  | ifDrawn (value : Nat)
  | orElse
  | endIf
  /-- Forgets the latest draw. -/
  | endRandom
  deriving DecidableEq, Repr

/-- The sentences that build a chart. -/
inductive Content where
  /-- The size of a measure, still as a text. -/
  | measureSize (measure : Nat) (size : Text)
  /-- Objects on a channel, spread evenly over a measure. -/
  | channel (measure : Nat) (code : Code) (data : Text)
  | header (name : Text) (value : Option Text)
  deriving DecidableEq, Repr

inductive Sentence where
  | control (control : Control)
  | content (content : Content)
  | malformed (line : Text)
  deriving DecidableEq, Repr

end RhythmChart
