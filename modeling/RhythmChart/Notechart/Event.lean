import RhythmChart.Note.Basic
import RhythmChart.Motion.Scroll
import RhythmChart.Motion.Timing

/-!
# Game events

Everything a game shows or plays happens on a beat, at a time in seconds,
and at a scroll position.
-/

namespace RhythmChart

/-- A beat with its time and its scroll position. -/
structure GameEvent (α : Type) where
  beat : α
  time : α
  position : α

structure AutoEvent (α : Type) where
  event : GameEvent α
  keysound : Text
  keysoundStart : Field α
  keysoundEnd : Field α

/-- A note to be played. Ids count from one. -/
structure GameNote (α : Type) where
  id : Nat
  event : GameEvent α
  column : Text
  keysound : Text
  keysoundStart : Field α
  keysoundEnd : Field α
  finish : Option (GameEvent α)

structure Landmine (α : Type) where
  id : Nat
  event : GameEvent α
  column : Text

def GameEvent.at {α : Type} [Scalar α] (timing : Timing α) (scroll : Scroll α)
    (beat : α) : GameEvent α :=
  ⟨beat, timing.beatToSeconds beat, scroll.position beat⟩

/-- How many judgments a note yields: a long note is pressed and released. -/
def GameNote.combos {α : Type} (note : GameNote α) : Nat :=
  if note.finish.isSome then 2 else 1

end RhythmChart
