import Mathlib.Data.Finset.Sort
import Mathlib.Tactic.LinearCombination
import RhythmChart.Proofs.Timing.Course

/-!
# The tempo integral

The time of a beat is the time that the constant-tempo pieces before it take,
together with the stops strictly before it. Both are read off the actions in
whatever order they are given.
-/

namespace RhythmChart

namespace Timing

open TimingAction

def changeBeats (actions : List (TimingAction Rat)) : List Rat :=
  actions.filterMap fun
    | .tempo beat _ => some beat
    | .stop _ _ => none

/-- Zero, the beats in between on which the tempo changes, and the
limit, in ascending order. -/
def boundaries (actions : List (TimingAction Rat)) (limit : Rat) : List Rat :=
  0 :: ((changeBeats actions).filter fun beat =>
    decide (0 < beat ∧ beat < limit)).toFinset.sort ++ [limit]

def pieces (ends : List Rat) : List (Rat × Rat) :=
  ends.zip ends.tail

/-- How many seconds pass on the way to a beat when no stop is made: every piece takes its
length at the tempo in force from its start. -/
def travelTime (initial : Rat) (actions : List (TimingAction Rat)) (limit : Rat) : Rat :=
  ((pieces (boundaries actions limit)).map fun piece =>
    (piece.2 - piece.1) * 60 / tempoSince (0, initial) actions piece.1).sum

theorem mem_changeBeats {actions : List (TimingAction Rat)} {beat : Rat} :
    beat ∈ changeBeats actions ↔ ∃ bpm, .tempo beat bpm ∈ actions := by
  unfold changeBeats
  rw [List.mem_filterMap]
  constructor
  · rintro ⟨action, member, found⟩
    cases action with
    | tempo next bpm =>
        cases found
        exact ⟨bpm, member⟩
    | stop next length => cases found
  · rintro ⟨bpm, member⟩
    exact ⟨.tempo beat bpm, member, rfl⟩

/-- What a sum over pieces telescopes to, when every piece without a change inside
contributes the difference of its ends. -/
theorem sum_pieces {weight : Rat × Rat → Rat} (changes : List Rat) (value : Rat → Rat)
    (contributes : ∀ left right, 0 ≤ left → left ≤ right →
      (∀ change ∈ changes, change ≤ left ∨ right ≤ change) →
      weight (left, right) = value right - value left)
    {left right : Rat} {inner : List Rat} (nonneg : 0 ≤ left)
    (ascending : (left :: inner ++ [right]).Pairwise (· ≤ ·))
    (complete : ∀ change ∈ changes, left < change → change < right → change ∈ inner) :
    ((pieces (left :: inner ++ [right])).map weight).sum = value right - value left := by
  induction inner generalizing left with
  | nil =>
      have order : left ≤ right := by simpa using ascending
      have whole := contributes left right nonneg order (by
        intro change member
        by_contra inside
        push Not at inside
        cases complete change member inside.1 inside.2)
      simpa [pieces] using whole
  | cons middle inner ih =>
      obtain ⟨first, tailAscending⟩ := List.pairwise_cons.mp ascending
      obtain ⟨second, _⟩ := List.pairwise_cons.mp tailAscending
      have order : left ≤ middle := first middle (by simp)
      have head := contributes left middle nonneg order (by
        intro change member
        by_contra inside
        push Not at inside
        have before : change < right := lt_of_lt_of_le inside.2 (second right (by simp))
        rcases List.mem_cons.mp (complete change member inside.1 before) with same | later
        · exact lt_irrefl _ (same ▸ inside.2)
        · exact lt_irrefl _ (lt_of_lt_of_le inside.2 (second change (by simp [later]))))
      have tail := ih (le_trans nonneg order) tailAscending (by
        intro change member after before
        rcases List.mem_cons.mp
          (complete change member (lt_of_le_of_lt order after) before) with
          same | later
        · exact absurd after (same ▸ lt_irrefl _)
        · exact later)
      have split : pieces (left :: middle :: inner ++ [right]) =
          (left, middle) :: pieces (middle :: inner ++ [right]) := rfl
      rw [split, List.map_cons, List.sum_cons, head, tail]
      ring

/-- Zero, the beats in between on which something changes, and the
limit, in ascending order. -/
def ends (changes : List Rat) (limit : Rat) : List Rat :=
  0 :: (changes.filter fun beat => decide (0 < beat ∧ beat < limit)).toFinset.sort ++
    [limit]

theorem pairwise_ends (changes : List Rat) {limit : Rat} (nonneg : 0 ≤ limit) :
    (ends changes limit).Pairwise (· ≤ ·) := by
  have inside : ∀ beat ∈ (changes.filter fun beat =>
      decide (0 < beat ∧ beat < limit)).toFinset.sort, 0 < beat ∧ beat < limit := by
    intro beat member
    rw [Finset.mem_sort, List.mem_toFinset, List.mem_filter] at member
    exact of_decide_eq_true member.2
  unfold ends
  rw [List.cons_append, List.pairwise_cons, List.pairwise_append]
  refine ⟨?_, Finset.pairwise_sort _ _, List.pairwise_singleton _ _, ?_⟩
  · intro beat member
    rcases List.mem_append.mp member with inner | last
    · exact le_of_lt (inside beat inner).1
    · rwa [List.mem_singleton.mp last]
  · intro beat inner last member
    rw [List.mem_singleton.mp member]
    exact le_of_lt (inside beat inner).2

theorem sum_pieces_ends {weight : Rat × Rat → Rat} (changes : List Rat)
    (value : Rat → Rat) (contributes : ∀ left right, 0 ≤ left → left ≤ right →
      (∀ change ∈ changes, change ≤ left ∨ right ≤ change) →
      weight (left, right) = value right - value left)
    {limit : Rat} (nonneg : 0 ≤ limit) :
    ((pieces (ends changes limit)).map weight).sum = value limit - value 0 := by
  refine sum_pieces changes value contributes (le_refl 0)
    (pairwise_ends changes nonneg) ?_
  intro change member after before
  rw [Finset.mem_sort, List.mem_toFinset, List.mem_filter]
  exact ⟨member, decide_eq_true ⟨after, before⟩⟩

section Walk

variable {point : Waypoint} {actions : List (TimingAction Rat)}

theorem reach_eq_add (point : Waypoint) (left right : Rat) :
    point.reach right = point.reach left + (right - left) * 60 / point.bpm := by
  unfold Waypoint.reach
  ring

theorem arrival_beat (ahead : point.Ahead actions) :
    arrival point actions point.beat = point.seconds := by
  induction ahead with
  | nil _ => exact Waypoint.reach_beat _
  | @tempo point next bpm rest _ later _ ih =>
      rw [arrival]
      by_cases here : next ≤ point.beat
      · have same : next = point.beat := le_antisymm here later
        subst same
        rw [if_pos here]
        exact ih.trans (Waypoint.reach_beat point)
      · rw [if_neg here, Waypoint.reach_beat]
  | stop _ later _ _ _ _ =>
      rw [arrival, if_neg (not_lt.mpr later), Waypoint.reach_beat]

theorem arrival_of_le (ahead : point.Ahead actions) {target : Rat}
    (early : ∀ action ∈ actions, target ≤ action.beat) :
    arrival point actions target = point.reach target := by
  cases ahead with
  | nil _ => rfl
  | @tempo _ next bpm rest _ _ tail =>
      have order : target ≤ next := early _ List.mem_cons_self
      rw [arrival]
      by_cases here : next ≤ target
      · have same : next = target := le_antisymm here order
        subst same
        rw [if_pos here]
        exact arrival_beat tail
      · rw [if_neg here]
  | @stop _ next length rest _ _ _ _ _ =>
      have order : target ≤ next := early _ List.mem_cons_self
      rw [arrival, if_neg (not_lt.mpr order)]

theorem restsBefore_of_le {origin : Rat × Rat} {target : Rat}
    (early : ∀ action ∈ actions, target ≤ action.beat) :
    restsBefore origin actions target = 0 :=
  restsWhere_eq_zero fun action member =>
    decide_eq_false (not_lt.mpr (early action member))

theorem early_of_le {next target : Rat} (first : TimingAction Rat) (order : target ≤ next)
    (here : first.beat = next) (upcoming : Upcoming next actions) :
    ∀ action ∈ first :: actions, target ≤ action.beat := by
  intro action member
  rcases List.mem_cons.mp member with same | others
  · rw [same, here]
    exact order
  · exact le_trans order (upcoming.le_beat action others)

theorem arrival_sub_restsBefore_of_le (ahead : point.Ahead actions) {left right : Rat}
    (order : left ≤ right) (early : ∀ action ∈ actions, right ≤ action.beat)
    (tempo : tempoSince point.origin actions left = point.bpm) :
    arrival point actions right - restsBefore point.origin actions right =
      arrival point actions left - restsBefore point.origin actions left +
        (right - left) * 60 / tempoSince point.origin actions left := by
  have earlier : ∀ action ∈ actions, left ≤ action.beat := fun action member =>
    le_trans order (early action member)
  rw [arrival_of_le ahead early, arrival_of_le ahead earlier, restsBefore_of_le early,
    restsBefore_of_le earlier, tempo, reach_eq_add point left right]
  ring

section Stop

variable {next length : Rat} {rest : List (TimingAction Rat)}

theorem restsBefore_stop_of_lt (later : point.beat ≤ next)
    (noChange : ∀ other bpm, .tempo other bpm ∈ rest → next < other)
    (tail : (point.stopFor next length).Ahead rest) {target : Rat}
    (beyond : next < target) :
    restsBefore point.origin (.stop next length :: rest) target =
      length * 60 / point.bpm +
        restsBefore (point.stopFor next length).origin rest target := by
  have taken : restsBefore point.origin (.stop next length :: rest) target =
      (if decide (next < target) then length * 60 / point.bpm else 0) +
        restsBefore (point.stopFor next length).origin rest target :=
    restsWhere_stop _ later noChange tail.upcoming
  rwa [if_pos (decide_eq_true beyond)] at taken

/-- Where a stop lies in between, time runs steadily up to it, and on from its end. -/
theorem arrival_sub_restsBefore_over_stop
    (ahead : point.Ahead (.stop next length :: rest))
    (later : point.beat ≤ next)
    (noChange : ∀ other bpm, .tempo other bpm ∈ rest → next < other)
    (tail : (point.stopFor next length).Ahead rest) {left right : Rat}
    (soon : left ≤ next) (beyond : next < right)
    (tempo : tempoSince point.origin (.stop next length :: rest) left = point.bpm)
    (onward : arrival (point.stopFor next length) rest right -
        restsBefore (point.stopFor next length).origin rest right =
      arrival (point.stopFor next length) rest next -
        restsBefore (point.stopFor next length).origin rest next +
          (right - next) * 60 / tempoSince (point.stopFor next length).origin rest next) :
    arrival point (.stop next length :: rest) right -
        restsBefore point.origin (.stop next length :: rest) right =
      arrival point (.stop next length :: rest) left -
        restsBefore point.origin (.stop next length :: rest) left +
          (right - left) * 60 /
            tempoSince point.origin (.stop next length :: rest) left := by
  have atNext : tempoSince (point.stopFor next length).origin rest next = point.bpm :=
    tempoSince_of_lt noChange
  have arrived : arrival (point.stopFor next length) rest next =
      point.reach next + length * 60 / point.bpm := arrival_beat tail
  have noRests : restsBefore (point.stopFor next length).origin rest next = 0 :=
    restsBefore_of_le tail.upcoming.le_beat
  rw [atNext, noRests, arrived] at onward
  have early := early_of_le (.stop next length) soon rfl tail.upcoming
  rw [restsBefore_stop_of_lt later noChange tail beyond, tempo, arrival_of_le ahead early,
    restsBefore_of_le early, arrival, if_pos beyond]
  have steady := reach_eq_add point left next
  linear_combination onward + steady

end Stop

/-- Between two beats without a tempo change inside, what passes besides the stops is the
distance at the tempo in force. -/
theorem arrival_sub_restsBefore (ahead : point.Ahead actions) {left right : Rat}
    (start : point.beat ≤ left) (order : left ≤ right)
    (constant : ∀ next bpm, .tempo next bpm ∈ actions → next ≤ left ∨ right ≤ next) :
    arrival point actions right - restsBefore point.origin actions right =
      arrival point actions left - restsBefore point.origin actions left +
        (right - left) * 60 / tempoSince point.origin actions left := by
  induction ahead generalizing left with
  | @nil point positive =>
      exact arrival_sub_restsBefore_of_le (.nil positive) order
        (fun _ member => nomatch member) rfl
  | @tempo point next bpm rest positive later tail ih =>
      by_cases passed : next ≤ left
      · have onward := ih passed order fun other bpm member =>
          constant other bpm (List.mem_cons_of_mem _ member)
        have rests : restsBefore point.origin (.tempo next bpm :: rest) =
            restsBefore (point.change next bpm).origin rest := by
          funext target
          exact restsWhere_tempo _ later point.bpm tail.upcoming
        have tempos : tempoSince point.origin (.tempo next bpm :: rest) left =
            tempoSince (point.change next bpm).origin rest left :=
          tempoSince_tempo later passed point.bpm
        rw [rests, tempos, arrival, arrival, if_pos passed,
          if_pos (le_trans passed order)]
        exact onward
      · have notYet : right ≤ next :=
          (constant next bpm List.mem_cons_self).resolve_left passed
        apply arrival_sub_restsBefore_of_le (.tempo positive later tail) order
        · exact early_of_le (.tempo next bpm) notYet rfl tail.upcoming
        · exact tempoSince_tempo_of_lt (lt_of_not_ge passed) point.bpm tail.upcoming
  | @stop point next length rest positive later lengthNonneg noChange tail ih =>
      have ahead : point.Ahead (.stop next length :: rest) :=
        .stop positive later lengthNonneg noChange tail
      have restConstant :
          ∀ other bpm, .tempo other bpm ∈ rest → other ≤ left ∨ right ≤ other :=
        fun other bpm member => constant other bpm (List.mem_cons_of_mem _ member)
      have tempos : tempoSince point.origin (.stop next length :: rest) =
          tempoSince (point.stopFor next length).origin rest :=
        tempoSince_stop length later tail.upcoming
      by_cases before : next < left
      · have onward := ih (le_of_lt before) order restConstant
        have beyond : next < right := lt_of_lt_of_le before order
        rw [restsBefore_stop_of_lt later noChange tail before,
          restsBefore_stop_of_lt later noChange tail beyond, tempos, arrival, arrival,
          if_pos before, if_pos beyond]
        linear_combination onward
      · have soon : left ≤ next := not_lt.mp before
        have tempo :
            tempoSince point.origin (.stop next length :: rest) left = point.bpm := by
          rw [tempos]
          exact tempoSince_of_lt fun other bpm member =>
            lt_of_le_of_lt soon (noChange other bpm member)
        by_cases beyond : next < right
        · apply arrival_sub_restsBefore_over_stop ahead later noChange tail soon beyond
            tempo
          exact ih (le_refl next) (le_of_lt beyond) fun other bpm member =>
            .inr ((restConstant other bpm member).resolve_left
              (not_le_of_gt (lt_of_le_of_lt soon (noChange other bpm member))))
        · exact arrival_sub_restsBefore_of_le ahead order
            (early_of_le (.stop next length) (not_lt.mp beyond) rfl tail.upcoming) tempo

end Walk

/-- Over ordered actions the pieces and the stops add up to the time of a beat. -/
theorem arrival_eq_integral {initial : Rat} {actions : List (TimingAction Rat)}
    (ahead : (beginning initial).Ahead (ordered actions)) {limit : Rat}
    (nonneg : 0 ≤ limit) :
    arrival (beginning initial) (ordered actions) limit =
      travelTime initial actions limit + restsBefore (0, initial) actions limit := by
  have atStart : arrival (beginning initial) (ordered actions) 0 = 0 := arrival_beat ahead
  have noRests : restsBefore (0, initial) (ordered actions) 0 = 0 :=
    restsBefore_of_le ahead.upcoming.le_beat
  have stops : restsBefore (0, initial) (ordered actions) limit =
      restsBefore (0, initial) actions limit := restsWhere_ordered _ _ _
  have travelled : travelTime initial actions limit =
      (arrival (beginning initial) (ordered actions) limit -
        restsBefore (0, initial) (ordered actions) limit) -
      (arrival (beginning initial) (ordered actions) 0 -
        restsBefore (0, initial) (ordered actions) 0) := by
    unfold travelTime
    rw [← tempoSince_ordered]
    refine sum_pieces_ends (changeBeats actions) (fun beat =>
      arrival (beginning initial) (ordered actions) beat -
        restsBefore (0, initial) (ordered actions) beat) ?_ nonneg
    intro left right start order constant
    have passed := arrival_sub_restsBefore ahead start order fun next bpm member =>
      constant next (mem_changeBeats.mpr ⟨bpm, (ordered_perm actions).mem_iff.mp member⟩)
    exact eq_sub_of_add_eq' passed.symm
  rw [travelled, atStart, noRests, stops]
  ring

/-- The time of a beat is the tempo integral up to it together with the
stops strictly before it. -/
theorem beatToSeconds_eq_integral {initial : Rat} {actions : List (TimingAction Rat)}
    (positive : 0 < initial) (sound : ∀ action ∈ actions, action.Sound) :
    ∃ timing, ofActions initial actions = .ok timing ∧ ∀ beat, 0 ≤ beat →
      timing.beatToSeconds beat =
        travelTime initial actions beat + restsBefore (0, initial) actions beat ∧
      timing.bpmAtBeat beat = tempoSince (0, initial) actions beat ∧
      IsInForce (0, initial) actions beat (timing.bpmAtBeat beat) := by
  obtain ⟨ahead, made⟩ := ofActions_eq_ok positive sound
  refine ⟨_, made, ?_⟩
  intro beat nonneg
  have tempo : tempoSince (beginning initial).origin (ordered actions) beat =
      tempoSince (0, initial) actions beat := congrFun (tempoSince_ordered _ _) beat
  have inForce := isInForce_tempoSince (0, initial) actions beat
  unfold beatToSeconds bpmAtBeat
  dsimp only
  rw [t_eq_arrival ahead, label_segmentAtX ahead, tempo]
  exact ⟨arrival_eq_integral ahead nonneg, rfl, inForce⟩

/-- A tempo change and a stop on one beat, the stop listed first: it takes half a second,
at the new tempo, and only behind its beat. -/
theorem beatToSeconds_eq_integral_stop_before_change :
    0 < (60 : Rat) ∧
      (∀ action ∈ [TimingAction.stop (4 : Rat) 1, .tempo 4 120], action.Sound) ∧
    ∃ timing, ofActions (60 : Rat) [.stop 4 1, .tempo 4 120] = .ok timing ∧
      timing.beatToSeconds 6 =
        travelTime 60 [.stop 4 1, .tempo 4 120] 6 +
          restsBefore (0, 60) [.stop 4 1, .tempo 4 120] 6 ∧
      restsBefore (0, 60) [.stop 4 1, .tempo 4 120] 6 = 1 / 2 ∧
      restsBefore (0, 60) [.stop 4 1, .tempo 4 120] 4 = 0 := by
  have sound :
      ∀ action ∈ [TimingAction.stop (4 : Rat) 1, .tempo 4 120], action.Sound := by
    simp [Sound]
  obtain ⟨timing, made, agrees⟩ := @beatToSeconds_eq_integral 60 _ (by norm_num) sound
  exact ⟨by norm_num, sound, timing, made, (agrees 6 (by norm_num)).1, by decide +kernel,
    by decide +kernel⟩

end Timing

end RhythmChart
