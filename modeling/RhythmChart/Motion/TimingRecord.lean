import RhythmChart.Motion.Timing

/-!
# Unchecked timing actions

Actions that come from outside may hold a value of any type as their beat, tempo or
length. Their beats must be numbers, because they are put in order before anything else.
Then each action is checked when its turn comes: that the time on which it falls can be
calculated, that the amount of a tempo is a number, that the segment at this time and beat
may be made, and that the length of a stop is a number.
-/

namespace RhythmChart

structure TimingAction.Record (α : Type) where
  kind : TimingAction.Kind
  beat : Field α
  amount : Field α

namespace Timing

variable {α : Type} [Scalar α]

/-- The length given for a stop. What counts as no is no length. -/
def stopLength (given : Field α) : Except (Fault α) α :=
  if given.isTruthy then given.quantity else .ok ((0 : Nat) : α)

/-- The action that a record on a beat stands for after the segment `last`. -/
def readAction (last : TempoSegment α) (beat : α) (record : TimingAction.Record α) :
    Except (Fault α) (TimingAction α) := do
  let reached := last.t + (← duration (beat - last.x) last.label)
  match record.kind with
  | .tempo =>
      let bpm ← record.amount.quantity
      let _ ← Segment.defined .t reached
      let beat ← Segment.numeric .x record.beat
      return .tempo beat bpm
  | .stop =>
      let _ ← Segment.defined .t reached
      let beat ← Segment.numeric .x record.beat
      let length ← stopLength record.amount
      return .stop beat length

def readSegments (last : TempoSegment α) :
    List (α × TimingAction.Record α) → Except (Fault α) (List (TempoSegment α))
  | [] => .ok []
  | (beat, record) :: rest => do
      let action ← readAction last beat record
      let segments ← segmentsFrom last.label last.x last.t [action]
      let later ← readSegments (segments.getLastD last) rest
      return segments ++ later

def ofRecords (bpm : Field α) (records : List (TimingAction.Record α)) :
    Except (Fault α) (Timing α) := do
  let first ← firstSegment (← bpm.quantity)
  let entries ← records.mapM fun record => record.beat.quantity.map (·, record)
  let ordered :=
    TimingAction.inOrder (fun entry => entry.1) (fun entry => entry.2.kind) entries
  let rest ← readSegments first ordered
  return ⟨⟨first, rest⟩, distinctBeats (ordered.map fun entry => entry.1)⟩

end Timing

end RhythmChart
