import Mathlib.Tactic.FieldSimp
import Mathlib.Tactic.Ring
import RhythmChart.Motion.Timing
import RhythmChart.Proofs.Motion.Selection
import RhythmChart.Proofs.Timing.Tempo

/-!
# The course of time over ordered actions

Between two actions time runs steadily, so a walk over ordered actions is described by the
waypoints it passes. From a waypoint on, `arrival` is the time of a beat and `progress`
the beat at a time, both by recursion on the actions. In exact arithmetic a timing can
always be made, and its two conversions are these functions.
-/

namespace RhythmChart

namespace Timing

open TimingAction

/-- A beat that is reached at a time, and the tempo in force from there. -/
structure Waypoint where
  bpm : Rat
  beat : Rat
  seconds : Rat

namespace Waypoint

/-- The time of a beat as long as nothing changes. -/
def reach (point : Waypoint) (target : Rat) : Rat :=
  point.seconds + (target - point.beat) * 60 / point.bpm

/-- The beat at a time as long as nothing changes. -/
def cover (point : Waypoint) (time : Rat) : Rat :=
  point.beat + (time - point.seconds) * (point.bpm / 60)

def change (point : Waypoint) (next bpm : Rat) : Waypoint :=
  ⟨bpm, next, point.reach next⟩

def stopFor (point : Waypoint) (next length : Rat) : Waypoint :=
  ⟨point.bpm, next, point.reach next + length * 60 / point.bpm⟩

/-- The beat and the tempo of a waypoint, from which later tempos are counted. -/
def origin (point : Waypoint) : Rat × Rat :=
  (point.beat, point.bpm)

def segment (point : Waypoint) (inclusive : Bool) : TempoSegment Rat :=
  ⟨point.seconds, point.beat, point.bpm / 60, inclusive, point.bpm⟩

def hold (point : Waypoint) (next : Rat) : TempoSegment Rat :=
  ⟨point.reach next, next, 0, true, point.bpm⟩

theorem reach_cover (point : Waypoint) (positive : 0 < point.bpm) (time : Rat) :
    point.reach (point.cover time) = time := by
  unfold reach cover
  field_simp
  ring

theorem reach_lt_reach {point : Waypoint} (positive : 0 < point.bpm) {left right : Rat} :
    point.reach left < point.reach right ↔ left < right := by
  unfold reach
  constructor
  · intro less
    by_contra notLess
    have order :
        (right - point.beat) * 60 / point.bpm ≤ (left - point.beat) * 60 / point.bpm := by
      gcongr
      exact not_lt.mp notLess
    linarith
  · intro less
    gcongr

theorem reach_beat (point : Waypoint) : point.reach point.beat = point.seconds := by
  simp [reach]

/-- Ordered actions that can be walked from a waypoint on. -/
inductive Ahead : Waypoint → List (TimingAction Rat) → Prop where
  | nil {point : Waypoint} : 0 < point.bpm → Ahead point []
  | tempo {point : Waypoint} {next bpm : Rat} {rest : List (TimingAction Rat)} :
      0 < point.bpm → point.beat ≤ next → Ahead (point.change next bpm) rest →
      Ahead point (.tempo next bpm :: rest)
  | stop {point : Waypoint} {next length : Rat} {rest : List (TimingAction Rat)} :
      0 < point.bpm → point.beat ≤ next → 0 ≤ length →
      (∀ later bpm, .tempo later bpm ∈ rest → next < later) →
      Ahead (point.stopFor next length) rest →
      Ahead point (.stop next length :: rest)

theorem Ahead.positive {point : Waypoint} {actions : List (TimingAction Rat)}
    (ahead : Ahead point actions) : 0 < point.bpm := by
  cases ahead <;> assumption

theorem Ahead.upcoming {point : Waypoint} {actions : List (TimingAction Rat)}
    (ahead : Ahead point actions) : Upcoming point.beat actions := by
  induction ahead with
  | nil _ => exact .nil _
  | tempo _ later tail ih => exact .tempo later tail.positive ih
  | stop _ later lengthNonneg noChange _ ih => exact .stop later lengthNonneg noChange ih

theorem ahead_of_upcoming {point : Waypoint} {actions : List (TimingAction Rat)}
    (positive : 0 < point.bpm) (upcoming : Upcoming point.beat actions) :
    Ahead point actions := by
  induction actions generalizing point with
  | nil => exact .nil positive
  | cons first rest ih =>
      cases upcoming with
      | tempo later bpmPositive upcoming =>
          exact .tempo positive later (ih bpmPositive upcoming)
      | stop later lengthNonneg noChange upcoming =>
          exact .stop positive later lengthNonneg noChange (ih positive upcoming)

/-- The tempo of a waypoint and all that are set behind it are positive. -/
def Paced (point : Waypoint) (actions : List (TimingAction Rat)) : Prop :=
  0 < point.bpm ∧ ∀ action ∈ actions, action.IsPaced

theorem Paced.change {point : Waypoint} {next bpm : Rat} {rest : List (TimingAction Rat)}
    (paced : point.Paced (.tempo next bpm :: rest)) :
    (point.change next bpm).Paced rest :=
  List.forall_mem_cons.mp paced.2

theorem Paced.stopFor {point : Waypoint} {next length : Rat}
    {rest : List (TimingAction Rat)} (paced : point.Paced (.stop next length :: rest)) :
    (point.stopFor next length).Paced rest :=
  ⟨paced.1, (List.forall_mem_cons.mp paced.2).2⟩

theorem Ahead.paced {point : Waypoint} {actions : List (TimingAction Rat)}
    (ahead : Ahead point actions) : point.Paced actions := by
  induction ahead with
  | nil positive => exact ⟨positive, List.forall_mem_nil _⟩
  | tempo positive _ tail ih =>
      exact ⟨positive, List.forall_mem_cons.mpr ⟨tail.positive, ih.2⟩⟩
  | stop positive _ _ _ _ ih => exact ⟨positive, List.forall_mem_cons.mpr ⟨trivial, ih.2⟩⟩

end Waypoint

def segmentsBehind (point : Waypoint) : List (TimingAction Rat) → List (TempoSegment Rat)
  | [] => []
  | .tempo next bpm :: rest =>
      (point.change next bpm).segment true :: segmentsBehind (point.change next bpm) rest
  | .stop next length :: rest =>
      point.hold next :: (point.stopFor next length).segment false ::
        segmentsBehind (point.stopFor next length) rest

/-- The time of a beat, for ordered actions behind a waypoint. At a stop the
first instant counts. -/
def arrival (point : Waypoint) : List (TimingAction Rat) → Rat → Rat
  | [], target => point.reach target
  | .tempo next bpm :: rest, target =>
      if next ≤ target then arrival (point.change next bpm) rest target
      else point.reach target
  | .stop next length :: rest, target =>
      if next < target then arrival (point.stopFor next length) rest target
      else point.reach target

def progress (point : Waypoint) : List (TimingAction Rat) → Rat → Rat
  | [], time => point.cover time
  | .tempo next bpm :: rest, time =>
      if point.reach next ≤ time then progress (point.change next bpm) rest time
      else point.cover time
  | .stop next length :: rest, time =>
      if point.reach next ≤ time then
        if (point.stopFor next length).seconds < time then
          progress (point.stopFor next length) rest time
        else next
      else point.cover time

section Exact

variable {point : Waypoint} {actions : List (TimingAction Rat)}

theorem duration_of_pos {bpm : Rat} (positive : 0 < bpm) (beats : Rat) :
    duration beats bpm = .ok (beats * 60 / bpm) := by
  have nonzero : bpm ≠ 0 := ne_of_gt positive
  simp [duration, Scalar.isZero, nonzero, minute]

/-- In exact arithmetic positive tempos leave nothing to refuse. -/
theorem segmentsFrom_eq_ok (paced : point.Paced actions) :
    segmentsFrom point.bpm point.beat point.seconds actions =
      .ok (segmentsBehind point actions) := by
  induction actions generalizing point with
  | nil => rfl
  | cons first rest ih =>
      unfold segmentsFrom
      cases first with
      | tempo next bpm =>
          dsimp only
          rw [duration_of_pos paced.1]
          exact congrArg (fun later => later >>= fun later =>
            Except.ok ((point.change next bpm).segment true :: later)) (ih paced.change)
      | stop next length =>
          dsimp only
          rw [duration_of_pos paced.1, duration_of_pos paced.1]
          exact congrArg (fun later => later >>= fun later =>
            Except.ok (point.hold next :: (point.stopFor next length).segment false ::
              later))
            (ih paced.stopFor)

theorem tAt_segment (positive : 0 < point.bpm) (inclusive : Bool) (target : Rat) :
    (point.segment inclusive).tAt target = point.reach target := by
  have nonzero : point.bpm / 60 ≠ 0 := by positivity
  have moving : Scalar.isZero (point.bpm / 60) = false := by
    simpa [Scalar.isZero] using nonzero
  unfold Segment.tAt Waypoint.segment Waypoint.reach
  dsimp only
  rw [moving]
  change _ + _ / (point.bpm / 60) = _
  field_simp

theorem tAt_hold (next : Rat) : (point.hold next).tAt next = point.reach next := by
  unfold Segment.tAt Waypoint.hold
  rw [sub_self, zero_div, add_zero]

theorem xAt_hold (next time : Rat) : (point.hold next).xAt time = next := by
  unfold Segment.xAt Waypoint.hold
  rw [mul_zero, add_zero]

theorem reached_segment_true (key : TempoSegment Rat → Rat) {position : Rat} :
    (point.segment true).reached key position = true ↔
      key (point.segment true) ≤ position :=
  decide_eq_true_iff

theorem reached_segment_false (key : TempoSegment Rat → Rat) {position : Rat} :
    (point.segment false).reached key position = true ↔
      key (point.segment false) < position :=
  decide_eq_true_iff

theorem reached_hold (key : TempoSegment Rat → Rat) {next position : Rat} :
    (point.hold next).reached key position = true ↔ key (point.hold next) ≤ position :=
  decide_eq_true_iff

theorem t_eq_arrival_of_paced (paced : point.Paced actions) (inclusive : Bool)
    (target : Rat) :
    (Motion.mk (point.segment inclusive) (segmentsBehind point actions)).t target =
      arrival point actions target := by
  induction actions generalizing point inclusive with
  | nil => exact tAt_segment paced.1 inclusive target
  | cons first rest ih =>
      cases first with
      | tempo next bpm =>
          have onward :
              ((point.change next bpm).segment true).reached Segment.x target = true ↔
                next ≤ target := reached_segment_true Segment.x
          rw [segmentsBehind, Motion.t_cons, ih paced.change, tAt_segment paced.1,
            arrival]
          by_cases passed : next ≤ target
          · rw [if_pos (onward.mpr passed), if_pos passed]
          · rw [if_neg (mt onward.mp passed), if_neg passed]
      | stop next length =>
          have held : (point.hold next).reached Segment.x target = true ↔ next ≤ target :=
            reached_hold Segment.x
          have onward :
            ((point.stopFor next length).segment false).reached Segment.x target = true ↔
              next < target := reached_segment_false Segment.x
          rw [segmentsBehind, Motion.t_cons, Motion.t_cons, ih paced.stopFor,
            tAt_segment paced.1, arrival]
          by_cases passed : next < target
          · rw [if_pos (held.mpr (le_of_lt passed)), if_pos (onward.mpr passed),
              if_pos passed]
          · rw [if_neg (mt onward.mp passed), if_neg passed]
            by_cases here : next ≤ target
            · rw [if_pos (held.mpr here), ← le_antisymm here (not_lt.mp passed), tAt_hold]
            · rw [if_neg (mt held.mp here)]

theorem t_eq_arrival (ahead : point.Ahead actions) (inclusive : Bool) (target : Rat) :
    (Motion.mk (point.segment inclusive) (segmentsBehind point actions)).t target =
      arrival point actions target :=
  t_eq_arrival_of_paced ahead.paced inclusive target

theorem x_eq_progress (ahead : point.Ahead actions) (inclusive : Bool) (time : Rat) :
    (Motion.mk (point.segment inclusive) (segmentsBehind point actions)).x time =
      progress point actions time := by
  induction ahead generalizing inclusive with
  | nil _ => rfl
  | @tempo point next bpm rest _ _ _ ih =>
      have onward : ((point.change next bpm).segment true).reached Segment.t time = true ↔
          point.reach next ≤ time := reached_segment_true Segment.t
      rw [segmentsBehind, Motion.x_cons, ih, progress]
      by_cases passed : point.reach next ≤ time
      · rw [if_pos (onward.mpr passed), if_pos passed]
      · rw [if_neg (mt onward.mp passed), if_neg passed]
        rfl
  | @stop point next length rest _ _ _ _ _ ih =>
      have held :
          (point.hold next).reached Segment.t time = true ↔ point.reach next ≤ time :=
        reached_hold Segment.t
      have onward : ((point.stopFor next length).segment false).reached Segment.t time =
            true ↔
          (point.stopFor next length).seconds < time := reached_segment_false Segment.t
      rw [segmentsBehind, Motion.x_cons, Motion.x_cons, ih, xAt_hold, progress]
      by_cases passed : point.reach next ≤ time
      · rw [if_pos (held.mpr passed), if_pos passed]
        by_cases resumed : (point.stopFor next length).seconds < time
        · rw [if_pos (onward.mpr resumed), if_pos resumed]
        · rw [if_neg (mt onward.mp resumed), if_neg resumed]
      · rw [if_neg (mt held.mp passed), if_neg passed]
        rfl

/-- The segment at a beat carries the tempo in force there. -/
theorem label_segmentAtX (ahead : point.Ahead actions) (inclusive : Bool) (target : Rat) :
    ((Motion.mk (point.segment inclusive) (segmentsBehind point actions)).segmentAtX
      target).label = tempoSince point.origin actions target := by
  unfold Motion.segmentAtX
  induction ahead generalizing inclusive with
  | nil _ => rfl
  | @tempo point next bpm rest _ later tail ih =>
      have onward :
          ((point.change next bpm).segment true).reached Segment.x target = true ↔
            next ≤ target := reached_segment_true Segment.x
      rw [segmentsBehind, Motion.select_cons]
      by_cases passed : next ≤ target
      · rw [if_pos (onward.mpr passed), ih]
        exact (tempoSince_tempo later passed point.bpm).symm
      · rw [if_neg (mt onward.mp passed)]
        exact (tempoSince_tempo_of_lt (lt_of_not_ge passed) point.bpm tail.upcoming).symm
  | @stop point next length rest _ later _ noChange tail ih =>
      have held : (point.hold next).reached Segment.x target = true ↔ next ≤ target :=
        reached_hold Segment.x
      have onward : ((point.stopFor next length).segment false).reached Segment.x target =
            true ↔
          next < target := reached_segment_false Segment.x
      have tempos : tempoSince point.origin (.stop next length :: rest) =
          tempoSince (point.stopFor next length).origin rest :=
        tempoSince_stop length later tail.upcoming
      rw [segmentsBehind, Motion.select_cons, Motion.select_cons]
      by_cases passed : next < target
      · rw [if_pos (held.mpr (le_of_lt passed)), if_pos (onward.mpr passed), ih, tempos]
      · have unchanged :
            tempoSince point.origin (.stop next length :: rest) target = point.bpm :=
          tempoSince_of_lt fun other bpm member => by
            rcases List.mem_cons.mp member with first | others
            · cases first
            · exact lt_of_le_of_lt (not_lt.mp passed) (noChange other bpm others)
        rw [if_neg (mt onward.mp passed), unchanged]
        split <;> rfl

end Exact

def beginning (initial : Rat) : Waypoint :=
  ⟨initial, 0, 0⟩

/-- With positive tempos a timing can be made, and it follows the actions in order. -/
theorem ofActions_eq_ok_of_paced {initial : Rat} {actions : List (TimingAction Rat)}
    (paced : (beginning initial).Paced (ordered actions)) :
    ofActions initial actions = .ok
      ⟨⟨(beginning initial).segment true,
        segmentsBehind (beginning initial) (ordered actions)⟩,
        distinctBeats ((ordered actions).map TimingAction.beat)⟩ := by
  unfold ofActions
  exact congrArg (fun later => later >>= fun later =>
    Except.ok (Timing.mk ⟨(beginning initial).segment true, later⟩
      (distinctBeats ((ordered actions).map TimingAction.beat))))
        (segmentsFrom_eq_ok paced)

theorem ofActions_eq_ok {initial : Rat} {actions : List (TimingAction Rat)}
    (positive : 0 < initial) (sound : ∀ action ∈ actions, action.Sound) :
    (beginning initial).Ahead (ordered actions) ∧
      ofActions initial actions = .ok
        ⟨⟨(beginning initial).segment true,
          segmentsBehind (beginning initial) (ordered actions)⟩,
          distinctBeats ((ordered actions).map TimingAction.beat)⟩ := by
  have ahead : (beginning initial).Ahead (ordered actions) :=
    Waypoint.ahead_of_upcoming positive (upcoming_ordered sound)
  exact ⟨ahead, ofActions_eq_ok_of_paced ahead.paced⟩

end Timing

end RhythmChart
