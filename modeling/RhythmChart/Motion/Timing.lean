import RhythmChart.Chart.Basic
import RhythmChart.Motion.Action
import RhythmChart.Motion.Basic
import RhythmChart.Number.Radix

/-!
# Timing

Beats are musical time and seconds are metric time. A timing starts with a tempo, in beats
per minute, and applies tempo changes and stops in the order of their beats; on one beat,
tempo changes come before stops. It is a motion with `t` in seconds and `x` in beats whose
segments carry the tempo in force. A stop is a segment at rest followed by one that
resumes the tempo; the last instant of the stop still belongs to the rest.
-/

namespace RhythmChart

/-- The relation of beats and seconds. -/
structure Timing (α : Type) where
  motion : Motion α α
  /-- The beats on which something changes, each once. -/
  eventBeats : List α

namespace Timing

/-- A segment whose label is the tempo in force. -/
abbrev TempoSegment (α : Type) := Segment α α

variable {α : Type} [Scalar α]

def minute : α := ((60 : Nat) : α)

def duration (beats bpm : α) : Except (Fault α) α :=
  if Scalar.isZero bpm then .error .divisionByZero else .ok (beats * minute / bpm)

/-- The segments of actions in order, from a beat that is reached at a
time in some tempo. -/
def segmentsFrom (bpm beat seconds : α) :
    List (TimingAction α) → Except (Fault α) (List (TempoSegment α))
  | [] => .ok []
  | .tempo next bpm' :: rest => do
      let reached := seconds + (← duration (next - beat) bpm)
      let segment ← Segment.make reached next (bpm' / minute) true bpm'
      let later ← segmentsFrom bpm' next reached rest
      return segment :: later
  | .stop next length :: rest => do
      let reached := seconds + (← duration (next - beat) bpm)
      let hold ← Segment.make reached next ((0 : Nat) : α) true bpm
      let resumed := reached + (← duration length bpm)
      let segment ← Segment.make resumed next (bpm / minute) false bpm
      let later ← segmentsFrom bpm next resumed rest
      return hold :: segment :: later

def firstSegment (bpm : α) : Except (Fault α) (TempoSegment α) :=
  Segment.make ((0 : Nat) : α) ((0 : Nat) : α) (bpm / minute) true bpm

def distinctBeats (beats : List α) : List α :=
  dedupe (· == ·) beats

/-- The timing with an initial tempo and actions in any order. -/
def ofActions (bpm : α) (actions : List (TimingAction α)) :
    Except (Fault α) (Timing α) := do
  let first ← firstSegment bpm
  let ordered := TimingAction.inOrder TimingAction.beat TimingAction.kind actions
  let rest ← segmentsFrom bpm ((0 : Nat) : α) ((0 : Nat) : α) ordered
  return ⟨⟨first, rest⟩, distinctBeats (ordered.map TimingAction.beat)⟩

def beatToSeconds (timing : Timing α) (beat : α) : α :=
  timing.motion.t beat

def secondsToBeat (timing : Timing α) (seconds : α) : α :=
  timing.motion.x seconds

def bpmAtBeat (timing : Timing α) (beat : α) : α :=
  (timing.motion.segmentAtX beat).label

def lookUpTempo (timing : Timing α) (given : Field α) : Except (Fault α) α :=
  (timing.motion.lookUp Segment.x given).map Segment.label

/-- The unit of stop lengths: forty-eight make a beat. -/
def stopUnits : α := ((48 : Nat) : α)

def defaultTempo : α := ((60 : Nat) : α)

/-- The action that an object stands for, if it stands for one. A stop whose header is no
number has no length. -/
def action? (chart : Chart α) (object : ChartObject α) : Option (TimingAction α) :=
  let beat := chart.beatOf object
  if object.channel = Code.plainTempo then
    ((Radix.integer? 16 object.value.text).bind fun bpm =>
      Scalar.ofDecimal? (decide (bpm < 0)) bpm.natAbs 0).map (.tempo beat)
  else if object.channel = Code.namedTempo then
    (chart.number? (['b', 'p', 'm'] ++ object.value.text)).map (.tempo beat)
  else if object.channel = Code.stop then
    let units :=
      (chart.number? (['s', 't', 'o', 'p'] ++ object.value.text)).getD ((0 : Nat) : α)
    some (.stop beat (units / stopUnits))
  else none

/-- The actions of a chart in the order of its objects, without bad tempo changes. -/
def actions (chart : Chart α) : List (TimingAction α) :=
  TimingAction.dropBadTempos (chart.objects.toList.filterMap (action? chart))

/-- The initial tempo of a chart: its header, if that is a positive number. -/
def initialTempo (chart : Chart α) : α :=
  ((chart.number? ['b', 'p', 'm']).filter fun bpm => decide (((0 : Nat) : α) < bpm)).getD
    defaultTempo

def ofChart (chart : Chart α) : Except (Fault α) (Timing α) :=
  ofActions (initialTempo chart) (actions chart)

end Timing

end RhythmChart
