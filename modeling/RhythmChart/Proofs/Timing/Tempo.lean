import Mathlib.Algebra.BigOperators.Group.List.Basic
import Mathlib.Algebra.Order.BigOperators.Group.List
import Mathlib.Algebra.Order.Field.Rat
import Mathlib.Tactic.Positivity
import RhythmChart.Proofs.Timing.Order

/-!
# Tempos and rests

The tempo in force on a beat and the time that stops take, read off actions in any
order. The tempo before all of them counts as a change on an origin that is listed
first. Putting the actions in order changes neither, and on ordered actions both can be
followed action by action.
-/

namespace RhythmChart

namespace TimingAction

/-- The later of a tempo change found so far, a beat and a tempo, and another
action, as far as it is a tempo change up to the limit. On one beat the one that
is listed later counts. -/
def laterChange (limit : Rat) (found : Rat × Rat) : TimingAction Rat → Rat × Rat
  | .tempo beat bpm => if found.1 ≤ beat ∧ beat ≤ limit then (beat, bpm) else found
  | .stop _ _ => found

/-- The tempo in force on a beat: that of the last change up to it. -/
def tempoSince (origin : Rat × Rat) (actions : List (TimingAction Rat))
    (beat : Rat) : Rat :=
  (actions.foldl (laterChange beat) origin).2

/-- That a tempo is in force on a beat, said of the listed actions: it is set by a change
from the origin up to the beat, and no such change is later or, on the same beat, listed
later. Without any such change it is the tempo of the origin. -/
def IsInForce (origin : Rat × Rat) (actions : List (TimingAction Rat))
    (limit bpm : Rat) : Prop :=
  (∃ before beat after, actions = before ++ .tempo beat bpm :: after ∧
    origin.1 ≤ beat ∧ beat ≤ limit ∧
    (∀ next other, .tempo next other ∈ before → next ≤ limit → next ≤ beat) ∧
    (∀ next other, .tempo next other ∈ after → next ≤ limit → next < beat)) ∨
  bpm = origin.2 ∧ ∀ next other, .tempo next other ∈ actions → next ≤ limit →
    next < origin.1

/-- How many seconds an action takes at the tempos of beats. -/
def secondsTaken (tempo : Rat → Rat) : TimingAction Rat → Rat
  | .tempo _ _ => 0
  | .stop beat length => length * 60 / tempo beat

/-- The seconds that the actions on some beats take, summed up. -/
def total (isMet : Rat → Bool) (seconds : TimingAction Rat → Rat)
    (actions : List (TimingAction Rat)) : Rat :=
  ((actions.filter fun action => isMet action.beat).map seconds).sum

/-- How many seconds the stops on some beats take. -/
def restsWhere (isMet : Rat → Bool) (origin : Rat × Rat)
    (actions : List (TimingAction Rat)) : Rat :=
  total isMet (secondsTaken (tempoSince origin actions)) actions

def restsBefore (origin : Rat × Rat) (actions : List (TimingAction Rat))
    (limit : Rat) : Rat :=
  restsWhere (fun beat => decide (beat < limit)) origin actions

def restsOn (origin : Rat × Rat) (actions : List (TimingAction Rat))
    (place : Rat) : Rat :=
  restsWhere (fun beat => decide (beat = place)) origin actions

/-- An action that is no change up to the limit from the origin on has no effect. -/
theorem IsInForce.cons {origin : Rat × Rat} {first : TimingAction Rat}
    {rest : List (TimingAction Rat)} {limit bpm : Rat}
    (passedOver :
      ∀ next other, first = .tempo next other → next ≤ limit → next < origin.1)
    (inForce : IsInForce origin rest limit bpm) :
    IsInForce origin (first :: rest) limit bpm := by
  rcases inForce with
    ⟨before, beat, after, split, ahead, reached, earlier, later⟩ | ⟨same, early⟩
  · refine .inl ⟨first :: before, beat, after, congrArg _ split, ahead, reached,
      ?_, later⟩
    intro next other member upTo
    rcases List.mem_cons.mp member with here | others
    · exact le_trans (le_of_lt (passedOver next other here.symm upTo)) ahead
    · exact earlier next other others upTo
  · refine .inr ⟨same, ?_⟩
    intro next other member upTo
    rcases List.mem_cons.mp member with here | others
    · exact passedOver next other here.symm upTo
    · exact early next other others upTo

theorem isInForce_tempoSince (origin : Rat × Rat) (actions : List (TimingAction Rat))
    (limit : Rat) : IsInForce origin actions limit (tempoSince origin actions limit) := by
  induction actions generalizing origin with
  | nil => exact .inr ⟨rfl, fun _ _ member => nomatch member⟩
  | cons first rest ih =>
      have onward : tempoSince origin (first :: rest) limit =
          tempoSince (laterChange limit origin first) rest limit := rfl
      rw [onward]
      cases first with
      | stop place length => exact (ih origin).cons fun _ _ same => nomatch same
      | tempo place bpm =>
          by_cases counts : origin.1 ≤ place ∧ place ≤ limit
          · rw [laterChange, if_pos counts]
            rcases ih (place, bpm) with
              ⟨before, beat, after, split, ahead, reached, earlier, later⟩ | ⟨same, early⟩
            · refine .inl ⟨.tempo place bpm :: before, beat, after, congrArg _ split,
                le_trans counts.1 ahead, reached, ?_, later⟩
              intro next other member upTo
              rcases List.mem_cons.mp member with here | others
              · cases here
                exact ahead
              · exact earlier next other others upTo
            · rw [same]
              exact .inl ⟨[], place, rest, rfl, counts.1, counts.2,
                fun _ _ member => (nomatch member), early⟩
          · rw [laterChange, if_neg counts]
            refine (ih origin).cons ?_
            intro next other same upTo
            cases same
            exact lt_of_not_ge fun fromOrigin => counts ⟨fromOrigin, upTo⟩

section Order

variable (origin : Rat × Rat) (actions : List (TimingAction Rat))

theorem laterChange_comm (limit : Rat) (found : Rat × Rat) (x y : TimingAction Rat)
    (before : precedes y x = true) :
    laterChange limit (laterChange limit found x) y =
      laterChange limit (laterChange limit found y) x := by
  rw [precedes_eq_true_iff] at before
  cases x with
  | stop beat length => rfl
  | tempo beat bpm =>
      cases y with
      | stop beat' length => rfl
      | tempo beat' bpm' =>
          have less : beat' < beat := by
            rcases before with less | ⟨_, rank⟩
            · exact less
            · exact absurd rank (by simp [kind])
          simp only [laterChange]
          split_ifs <;> grind

theorem tempoSince_ordered : tempoSince origin (ordered actions) =
      tempoSince origin actions := by
  funext beat
  unfold tempoSince
  rw [ordered_eq_sortBy, foldl_sortBy (laterChange_comm beat)]

theorem restsWhere_ordered (isMet : Rat → Bool) :
    restsWhere isMet origin (ordered actions) = restsWhere isMet origin actions := by
  unfold restsWhere total
  rw [tempoSince_ordered]
  exact (((ordered_perm actions).filter _).map _).sum_eq

end Order

section Walk

variable {start beat bpm : Rat} {rest : List (TimingAction Rat)}

theorem tempoSince_of_lt {origin : Rat × Rat} {limit : Rat}
    {actions : List (TimingAction Rat)}
    (later : ∀ next tempo, .tempo next tempo ∈ actions → limit < next) :
    tempoSince origin actions limit = origin.2 := by
  induction actions with
  | nil => rfl
  | cons first rest ih =>
      have restLater : ∀ next tempo, .tempo next tempo ∈ rest → limit < next :=
        fun next tempo member => later next tempo (List.mem_cons_of_mem first member)
      cases first with
      | stop beat length => exact ih restLater
      | tempo next tempo =>
          have beyond : ¬next ≤ limit :=
            not_le_of_gt (later next tempo List.mem_cons_self)
          have same := ih restLater
          unfold tempoSince at same ⊢
          rwa [List.foldl_cons, laterChange, if_neg (fun both => beyond both.2)]

/-- From a change on, the tempo is counted from that change. -/
theorem tempoSince_tempo {limit : Rat} (later : start ≤ beat) (reached : beat ≤ limit)
    (old : Rat) :
    tempoSince (start, old) (.tempo beat bpm :: rest) limit =
      tempoSince (beat, bpm) rest limit := by
  unfold tempoSince
  rw [List.foldl_cons, laterChange, if_pos ⟨later, reached⟩]

theorem tempoSince_tempo_of_lt {limit : Rat} (early : limit < beat) (old : Rat)
    (upcoming : Upcoming beat rest) :
    tempoSince (start, old) (.tempo beat bpm :: rest) limit = old := by
  apply tempoSince_of_lt
  intro next tempo member
  rcases List.mem_cons.mp member with first | others
  · cases first
    exact early
  · exact lt_of_lt_of_le early (upcoming.le_beat _ others)

/-- Where the origin is placed does not matter, as long as no change lies before it. -/
theorem tempoSince_origin {later : Rat} (ahead : start ≤ later)
    (upcoming : Upcoming later rest) :
    tempoSince (start, bpm) rest = tempoSince (later, bpm) rest := by
  funext limit
  induction upcoming generalizing start with
  | nil => rfl
  | stop after _ _ _ ih =>
      exact (ih (le_trans ahead after)).trans (ih after).symm
  | @tempo origin beat' bpm' rest' after _ upcoming ih =>
      by_cases reached : beat' ≤ limit
      · rw [tempoSince_tempo (le_trans ahead after) reached,
          tempoSince_tempo after reached]
      · have early := lt_of_not_ge reached
        rw [tempoSince_tempo_of_lt early _ upcoming,
          tempoSince_tempo_of_lt early _ upcoming]

theorem tempoSince_stop (length : Rat) (later : start ≤ beat)
    (upcoming : Upcoming beat rest) :
    tempoSince (start, bpm) (.stop beat length :: rest) =
      tempoSince (beat, bpm) rest := by
  change tempoSince (start, bpm) rest = _
  exact tempoSince_origin later upcoming

theorem total_cons (isMet : Rat → Bool) (seconds : TimingAction Rat → Rat)
    (first : TimingAction Rat) (rest : List (TimingAction Rat)) :
    total isMet seconds (first :: rest) =
      (if isMet first.beat then seconds first else 0) + total isMet seconds rest := by
  unfold total
  rw [List.filter_cons]
  split
  · rw [List.map_cons, List.sum_cons]
  · rw [zero_add]

theorem total_congr {isMet : Rat → Bool} {seconds others : TimingAction Rat → Rat}
    {actions : List (TimingAction Rat)}
    (same : ∀ action ∈ actions, seconds action = others action) :
    total isMet seconds actions = total isMet others actions := by
  unfold total
  rw [List.map_congr_left]
  intro action member
  exact same action (List.mem_filter.mp member).1

theorem restsWhere_tempo (isMet : Rat → Bool) (later : start ≤ beat) (old : Rat)
    (upcoming : Upcoming beat rest) :
    restsWhere isMet (start, old) (.tempo beat bpm :: rest) =
      restsWhere isMet (beat, bpm) rest := by
  unfold restsWhere
  rw [total_cons]
  simp only [secondsTaken, ite_self, zero_add]
  apply total_congr
  intro action member
  cases action with
  | tempo next tempo => rfl
  | stop next length =>
      have reached : beat ≤ next := upcoming.le_beat _ member
      simp only [secondsTaken, tempoSince_tempo later reached]

theorem restsWhere_stop (isMet : Rat → Bool) {length : Rat} (later : start ≤ beat)
    (noChange : ∀ next bpm, .tempo next bpm ∈ rest → beat < next)
    (upcoming : Upcoming beat rest) :
    restsWhere isMet (start, bpm) (.stop beat length :: rest) =
      (if isMet beat then length * 60 / bpm else 0) +
        restsWhere isMet (beat, bpm) rest := by
  have here : tempoSince (beat, bpm) rest beat = bpm := tempoSince_of_lt noChange
  unfold restsWhere
  rw [total_cons, tempoSince_stop length later upcoming]
  simp only [TimingAction.beat, secondsTaken, here]

theorem restsWhere_eq_zero {isMet : Rat → Bool} {origin : Rat × Rat}
    {actions : List (TimingAction Rat)}
    (none : ∀ action ∈ actions, isMet action.beat = false) :
    restsWhere isMet origin actions = 0 := by
  unfold restsWhere total
  rw [List.filter_eq_nil_iff.mpr]
  · rfl
  · intro action member
    simp [none action member]

theorem restsWhere_nonneg (isMet : Rat → Bool) (upcoming : Upcoming start rest)
    (positive : 0 < bpm) :
    0 ≤ restsWhere isMet (start, bpm) rest := by
  induction upcoming generalizing bpm with
  | nil => exact le_refl 0
  | tempo later tempoPos upcoming ih =>
      rw [restsWhere_tempo isMet later bpm upcoming]
      exact ih tempoPos
  | stop later lengthNonneg noChange upcoming ih =>
      rw [restsWhere_stop isMet later noChange upcoming]
      have others := ih positive
      split <;> positivity

end Walk

end TimingAction

end RhythmChart
