import Mathlib.Order.Monotone.Basic
import RhythmChart.Proofs.Timing.Integral

/-!
# Converting beats to times and back

Each beat occupies a span of time: the instant on which it is reached and, where stops
are, the hold behind it. The spans of different beats lie in order, and the beat at a time
is one whose span contains the time. Both conversions are determined by this.
-/

namespace RhythmChart

namespace Timing

open TimingAction

section Walk

variable {point : Waypoint} {actions : List (TimingAction Rat)}

theorem restsOn_nonneg (ahead : point.Ahead actions) (place : Rat) :
    0 ≤ restsOn point.origin actions place :=
  restsWhere_nonneg _ ahead.upcoming ahead.positive

theorem restsOn_of_lt {origin : Rat × Rat} {place : Rat}
    (later : ∀ action ∈ actions, place < action.beat) :
    restsOn origin actions place = 0 :=
  restsWhere_eq_zero fun action member => decide_eq_false (ne_of_gt (later action member))

/-- Before the first action time runs steadily and nothing is held. -/
theorem span_of_lt {next target : Rat} {first : TimingAction Rat}
    (ahead : point.Ahead (first :: actions)) (here : first.beat = next)
    (before : target < next) (upcoming : Upcoming next actions) :
    arrival point (first :: actions) target = point.reach target ∧
      restsOn point.origin (first :: actions) target = 0 := by
  have later : ∀ action ∈ first :: actions, target < action.beat := by
    intro action member
    exact lt_of_lt_of_le before
      (early_of_le first (le_refl next) here upcoming action member)
  exact ⟨arrival_of_le ahead fun action member => le_of_lt (later action member),
    restsOn_of_lt later⟩

theorem span_tempo {next bpm target : Rat} (later : point.beat ≤ next)
    (tail : (point.change next bpm).Ahead actions) (passed : next ≤ target) :
    arrival point (.tempo next bpm :: actions) target =
        arrival (point.change next bpm) actions target ∧
      restsOn point.origin (.tempo next bpm :: actions) target =
        restsOn (point.change next bpm).origin actions target :=
  ⟨by rw [arrival, if_pos passed], restsWhere_tempo _ later point.bpm tail.upcoming⟩

theorem restsOn_stop {next length : Rat} (later : point.beat ≤ next)
    (noChange : ∀ other bpm, .tempo other bpm ∈ actions → next < other)
    (tail : (point.stopFor next length).Ahead actions) (place : Rat) :
    restsOn point.origin (.stop next length :: actions) place =
      (if decide (next = place) then length * 60 / point.bpm else 0) +
        restsOn (point.stopFor next length).origin actions place :=
  restsWhere_stop _ later noChange tail.upcoming

theorem span_stop {next length target : Rat} (later : point.beat ≤ next)
    (noChange : ∀ other bpm, .tempo other bpm ∈ actions → next < other)
    (tail : (point.stopFor next length).Ahead actions) (passed : next < target) :
    arrival point (.stop next length :: actions) target =
        arrival (point.stopFor next length) actions target ∧
      restsOn point.origin (.stop next length :: actions) target =
        restsOn (point.stopFor next length).origin actions target := by
  constructor
  · rw [arrival, if_pos passed]
  · rw [restsOn_stop later noChange tail,
      if_neg (by simpa using ne_of_lt passed), zero_add]

/-- The span of a stop's beat begins when the beat is reached; it is the stop and, from
there, what is left to hold on the same beat. -/
theorem span_stop_here {next length : Rat} (later : point.beat ≤ next)
    (noChange : ∀ other bpm, .tempo other bpm ∈ actions → next < other)
    (tail : (point.stopFor next length).Ahead actions) :
    arrival point (.stop next length :: actions) next = point.reach next ∧
      arrival point (.stop next length :: actions) next +
          restsOn point.origin (.stop next length :: actions) next =
        arrival (point.stopFor next length) actions next +
          restsOn (point.stopFor next length).origin actions next := by
  have reached :
      arrival point (.stop next length :: actions) next = point.reach next := by
    rw [arrival, if_neg (lt_irrefl next)]
  have behind : arrival (point.stopFor next length) actions next =
      point.reach next + length * 60 / point.bpm := arrival_beat tail
  refine ⟨reached, ?_⟩
  rw [reached, behind, restsOn_stop later noChange tail, if_pos (decide_eq_true rfl)]
  ring

theorem seconds_le_arrival (ahead : point.Ahead actions) {target : Rat}
    (later : point.beat ≤ target) : point.seconds ≤ arrival point actions target := by
  have steady : ∀ {point : Waypoint} {target : Rat}, 0 < point.bpm → point.beat ≤ target →
      point.seconds ≤ point.reach target := by
    intro point target positive later
    have distance : 0 ≤ target - point.beat := sub_nonneg.mpr later
    have duration : 0 ≤ (target - point.beat) * 60 / point.bpm := by positivity
    exact le_add_of_nonneg_right duration
  induction ahead with
  | nil positive => exact steady positive later
  | tempo positive next _ ih =>
      rw [arrival]
      split
      · rename_i passed
        exact le_trans (steady positive next) (ih passed)
      · exact steady positive later
  | @stop point next length rest positive after lengthNonneg _ _ ih =>
      rw [arrival]
      split
      · rename_i passed
        have held : 0 ≤ length * 60 / point.bpm := by positivity
        have behind : (point.stopFor next length).seconds ≤ _ := ih (le_of_lt passed)
        have reached := steady positive after
        exact le_trans (le_trans reached (le_add_of_nonneg_right held)) behind
      · exact steady positive later

/-- The span of a beat ends before any later beat is reached. -/
theorem arrival_add_restsOn_lt (ahead : point.Ahead actions) {left right : Rat}
    (less : left < right) :
    arrival point actions left + restsOn point.origin actions left <
      arrival point actions right := by
  induction ahead generalizing left with
  | @nil point positive =>
      have noRests : restsOn point.origin [] left = 0 := rfl
      rw [noRests, add_zero]
      exact (Waypoint.reach_lt_reach positive).mpr less
  | @tempo point next bpm rest positive later tail ih =>
      have ahead : point.Ahead (.tempo next bpm :: rest) := .tempo positive later tail
      by_cases passed : next ≤ left
      · obtain ⟨arrivalLeft, restsLeft⟩ := span_tempo later tail passed
        obtain ⟨arrivalRight, _⟩ :=
          span_tempo later tail (le_trans passed (le_of_lt less))
        rw [arrivalLeft, restsLeft, arrivalRight]
        exact ih less
      · have before : left < next := lt_of_not_ge passed
        obtain ⟨arrivalLeft, restsLeft⟩ := span_of_lt ahead rfl before tail.upcoming
        rw [arrivalLeft, restsLeft, add_zero]
        by_cases beyond : next ≤ right
        · rw [(span_tempo later tail beyond).1]
          exact lt_of_lt_of_le ((Waypoint.reach_lt_reach positive).mpr before)
            (seconds_le_arrival tail beyond)
        · rw [(span_of_lt ahead rfl (lt_of_not_ge beyond) tail.upcoming).1]
          exact (Waypoint.reach_lt_reach positive).mpr less
  | @stop point next length rest positive later lengthNonneg noChange tail ih =>
      have ahead : point.Ahead (.stop next length :: rest) :=
        .stop positive later lengthNonneg noChange tail
      rcases lt_trichotomy left next with before | here | passed
      · obtain ⟨arrivalLeft, restsLeft⟩ := span_of_lt ahead rfl before tail.upcoming
        rw [arrivalLeft, restsLeft, add_zero]
        by_cases beyond : next < right
        · have held : 0 ≤ length * 60 / point.bpm := by positivity
          have behind := seconds_le_arrival tail (le_of_lt beyond)
          rw [(span_stop later noChange tail beyond).1]
          exact lt_of_lt_of_le ((Waypoint.reach_lt_reach positive).mpr before)
            (le_trans (le_add_of_nonneg_right held) behind)
        · rw [arrival, if_neg beyond]
          exact (Waypoint.reach_lt_reach positive).mpr less
      · subst here
        rw [(span_stop_here later noChange tail).2,
          (span_stop later noChange tail less).1]
        exact ih less
      · obtain ⟨arrivalLeft, restsLeft⟩ := span_stop later noChange tail passed
        rw [arrivalLeft, restsLeft,
          (span_stop later noChange tail (lt_trans passed less)).1]
        exact ih less

theorem span_cover {next time : Rat} {first : TimingAction Rat}
    (ahead : point.Ahead (first :: actions)) (here : first.beat = next)
    (upcoming : Upcoming next actions) (before : time < point.reach next) :
    arrival point (first :: actions) (point.cover time) = time ∧
      restsOn point.origin (first :: actions) (point.cover time) = 0 := by
  have covered := Waypoint.reach_cover point ahead.positive time
  have earlier : point.cover time < next := by
    rw [← Waypoint.reach_lt_reach ahead.positive, covered]
    exact before
  obtain ⟨arrivalThere, restsThere⟩ := span_of_lt ahead here earlier upcoming
  exact ⟨arrivalThere.trans covered, restsThere⟩

/-- The beat at a time is one whose span contains the time. -/
theorem arrival_progress_le (ahead : point.Ahead actions) (time : Rat) :
    arrival point actions (progress point actions time) ≤ time ∧
      time ≤ arrival point actions (progress point actions time) +
        restsOn point.origin actions (progress point actions time) := by
  induction ahead with
  | @nil point positive =>
      have noRests : restsOn point.origin [] (point.cover time) = 0 := rfl
      rw [progress, arrival, Waypoint.reach_cover point positive, noRests, add_zero]
      exact ⟨le_refl time, le_refl time⟩
  | @tempo point next bpm rest positive later tail ih =>
      rw [progress]
      split
      · rename_i passed
        -- An earlier beat would have its span end before the change is reached.
        have beyond : next ≤ progress (point.change next bpm) rest time := by
          by_contra notBeyond
          have ended := arrival_add_restsOn_lt tail (lt_of_not_ge notBeyond)
          have reached : arrival (point.change next bpm) rest next = point.reach next :=
            arrival_beat tail
          rw [reached] at ended
          exact absurd (lt_of_le_of_lt ih.2 ended) (not_lt.mpr passed)
        obtain ⟨arrivalThere, restsThere⟩ := span_tempo later tail beyond
        rw [arrivalThere, restsThere]
        exact ih
      · rename_i notPassed
        obtain ⟨arrivalThere, restsThere⟩ := span_cover (.tempo positive later tail) rfl
          tail.upcoming (lt_of_not_ge notPassed)
        rw [restsThere, arrivalThere, add_zero]
        exact ⟨le_refl time, le_refl time⟩
  | @stop point next length rest positive later lengthNonneg noChange tail ih =>
      have ahead : point.Ahead (.stop next length :: rest) :=
        .stop positive later lengthNonneg noChange tail
      obtain ⟨arrivalHere, spanHere⟩ := span_stop_here later noChange tail
      have behind : arrival (point.stopFor next length) rest next =
          (point.stopFor next length).seconds := arrival_beat tail
      rw [progress]
      split
      · rename_i passed
        split
        · rename_i resumed
          rcases lt_trichotomy (progress (point.stopFor next length) rest time) next with
            before | here | beyond
          · have ended := arrival_add_restsOn_lt tail before
            rw [behind] at ended
            exact absurd (lt_of_le_of_lt ih.2 ended) (not_lt.mpr (le_of_lt resumed))
          · -- Another stop on the same beat goes on holding it.
            rw [here] at ih ⊢
            rw [spanHere, arrivalHere]
            exact ⟨passed, ih.2⟩
          · obtain ⟨arrivalThere, restsThere⟩ := span_stop later noChange tail beyond
            rw [arrivalThere, restsThere]
            exact ih
        · rename_i notOver
          rw [spanHere, arrivalHere, behind]
          exact ⟨passed, le_trans (not_lt.mp notOver)
            (le_add_of_nonneg_right (restsOn_nonneg tail next))⟩
      · rename_i notPassed
        obtain ⟨arrivalThere, restsThere⟩ := span_cover ahead rfl tail.upcoming
          (lt_of_not_ge notPassed)
        rw [restsThere, arrivalThere, add_zero]
        exact ⟨le_refl time, le_refl time⟩

theorem strictMono_arrival (ahead : point.Ahead actions) :
    StrictMono (arrival point actions) := by
  intro left right less
  exact lt_of_le_of_lt (le_add_of_nonneg_right (restsOn_nonneg ahead left))
    (arrival_add_restsOn_lt ahead less)

/-- A time belongs to the span of one beat only. -/
theorem progress_eq_of_span (ahead : point.Ahead actions) {place time : Rat}
    (reached : arrival point actions place ≤ time)
    (notOver : time ≤ arrival point actions place + restsOn point.origin actions place) :
    progress point actions time = place := by
  obtain ⟨reachedThere, notOverThere⟩ := arrival_progress_le ahead time
  rcases lt_trichotomy (progress point actions time) place with before | here | beyond
  · have ended := arrival_add_restsOn_lt ahead before
    exact absurd (lt_of_le_of_lt notOverThere ended) (not_lt.mpr reached)
  · exact here
  · have ended := arrival_add_restsOn_lt ahead beyond
    exact absurd (lt_of_le_of_lt notOver ended) (not_lt.mpr reachedThere)

theorem progress_arrival (ahead : point.Ahead actions) (place : Rat) :
    progress point actions (arrival point actions place) = place :=
  progress_eq_of_span ahead (le_refl _)
    (le_add_of_nonneg_right (restsOn_nonneg ahead place))

theorem monotone_progress (ahead : point.Ahead actions) :
    Monotone (progress point actions) := by
  intro earlier later order
  by_contra backwards
  have ended := arrival_add_restsOn_lt ahead (lt_of_not_ge backwards)
  have reached := (arrival_progress_le ahead earlier).1
  have notOver := (arrival_progress_le ahead later).2
  exact absurd (lt_of_le_of_lt notOver ended) (not_lt.mpr (le_trans reached order))

end Walk

/-- The first instant on a beat: what the tempo integral and the stops before it make. -/
def firstInstant (initial : Rat) (actions : List (TimingAction Rat))
    (place : Rat) : Rat :=
  travelTime initial actions place + restsBefore (0, initial) actions place

/-- A time after the first instant on a beat, up to the last instant
of the stops on it. -/
def InHold (initial : Rat) (actions : List (TimingAction Rat))
    (place time : Rat) : Prop :=
  firstInstant initial actions place < time ∧
    time ≤ firstInstant initial actions place + restsOn (0, initial) actions place

section Holds

variable {initial : Rat} {actions : List (TimingAction Rat)}

theorem restsOn_ordered (place : Rat) :
    restsOn (beginning initial).origin (ordered actions) place =
      restsOn (0, initial) actions place :=
  restsWhere_ordered _ _ _

theorem restsOn_of_neg (ahead : (beginning initial).Ahead (ordered actions)) {place : Rat}
    (negative : place < 0) : restsOn (0, initial) actions place = 0 := by
  rw [← restsOn_ordered]
  exact restsOn_of_lt fun action member =>
    lt_of_lt_of_le negative (ahead.upcoming.le_beat action member)

theorem InHold.nonneg (ahead : (beginning initial).Ahead (ordered actions))
    {place time : Rat} (inside : InHold initial actions place time) : 0 ≤ place := by
  by_contra negative
  obtain ⟨after, upTo⟩ := inside
  rw [restsOn_of_neg ahead (lt_of_not_ge negative), add_zero] at upTo
  exact absurd after (not_lt.mpr upTo)

/-- A hold is what is left of a span without its first instant. -/
theorem inHold_of_span (ahead : (beginning initial).Ahead (ordered actions))
    {place time : Rat}
    (after : arrival (beginning initial) (ordered actions) place < time)
    (notOver : time ≤ arrival (beginning initial) (ordered actions) place +
      restsOn (0, initial) actions place) : InHold initial actions place time := by
  have nonneg : 0 ≤ place := by
    by_contra negative
    rw [restsOn_of_neg ahead (lt_of_not_ge negative), add_zero] at notOver
    exact absurd after (not_lt.mpr notOver)
  rw [arrival_eq_integral ahead nonneg] at after notOver
  exact ⟨after, notOver⟩

end Holds

/-- Converting beats to times and back gives the same beats, both conversions keep the
order, and converting times to beats and back gives the same times, except that a hold
collapses to its first instant. -/
theorem secondsToBeat_beatToSeconds {initial : Rat} {actions : List (TimingAction Rat)}
    (positive : 0 < initial) (sound : ∀ action ∈ actions, action.Sound) :
    ∃ timing, ofActions initial actions = .ok timing ∧
      (∀ beat, timing.secondsToBeat (timing.beatToSeconds beat) = beat) ∧
      Monotone timing.secondsToBeat ∧ StrictMono timing.beatToSeconds ∧
      (∀ time, (∀ place, ¬InHold initial actions place time) →
        timing.beatToSeconds (timing.secondsToBeat time) = time) ∧
      ∀ place time, InHold initial actions place time →
        timing.secondsToBeat time = place ∧
          timing.beatToSeconds (timing.secondsToBeat time) =
            firstInstant initial actions place := by
  obtain ⟨ahead, made⟩ := ofActions_eq_ok positive sound
  refine ⟨_, made, ?_⟩
  unfold secondsToBeat beatToSeconds
  dsimp only
  have forth : ∀ place, _ = arrival (beginning initial) (ordered actions) place :=
    t_eq_arrival ahead true
  have back : ∀ time, _ = progress (beginning initial) (ordered actions) time :=
    x_eq_progress ahead true
  rw [funext forth, funext back]
  refine ⟨progress_arrival ahead, monotone_progress ahead,
    strictMono_arrival ahead, ?_, ?_⟩
  · intro time outside
    obtain ⟨reached, notOver⟩ := arrival_progress_le ahead time
    rw [restsOn_ordered] at notOver
    by_contra different
    exact outside _ (inHold_of_span ahead (lt_of_le_of_ne reached different) notOver)
  · intro place time inside
    have atFirst : arrival (beginning initial) (ordered actions) place =
        firstInstant initial actions place :=
          arrival_eq_integral ahead (inside.nonneg ahead)
    obtain ⟨after, notOver⟩ := inside
    rw [← atFirst] at after notOver
    rw [← restsOn_ordered] at notOver
    have there := progress_eq_of_span ahead (le_of_lt after) notOver
    exact ⟨there, (congrArg _ there).trans atFirst⟩

/-- Two stops and a tempo change on one beat: the stops hold it for half a second. -/
theorem secondsToBeat_beatToSeconds_in_hold :
    0 < (60 : Rat) ∧
    (∀ action ∈ [TimingAction.stop (4 : Rat) 1, .stop 4 0, .tempo 4 120], action.Sound) ∧
    InHold 60 [.stop 4 1, .stop 4 0, .tempo 4 120] 4 (9 / 2) ∧
    ∃ timing, ofActions (60 : Rat) [.stop 4 1, .stop 4 0, .tempo 4 120] = .ok timing ∧
      timing.secondsToBeat (9 / 2) = 4 ∧
        timing.secondsToBeat (timing.beatToSeconds 6) = 6 := by
  have sound : ∀ action ∈ [TimingAction.stop (4 : Rat) 1, .stop 4 0, .tempo 4 120],
      action.Sound := by
    simp [Sound]
  have inside : InHold 60 [.stop 4 1, .stop 4 0, .tempo 4 120] 4 (9 / 2) := by
    unfold InHold
    decide +kernel
  obtain ⟨timing, made, again, _, _, _, held⟩ :=
    @secondsToBeat_beatToSeconds 60 _ (by norm_num) sound
  exact ⟨by norm_num, sound, inside, timing, made, (held 4 (9 / 2) inside).1, again 6⟩

end Timing

end RhythmChart
