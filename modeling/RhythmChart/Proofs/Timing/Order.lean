import Mathlib.Data.Rat.Defs
import Mathlib.Tactic.Linarith
import RhythmChart.Motion.Action
import RhythmChart.Proofs.Sorting.Stable

/-!
# Actions in order

In exact arithmetic every beat has an order, so actions are put in order by stable
sorting. What the walk over ordered actions relies on is gathered in one inductive notion:
upcoming actions never go back, set positive tempos, stop for no negative length, and no
tempo change stands behind a stop on its own beat.
-/

namespace RhythmChart

namespace TimingAction

/-- An action that makes sense on its own: its beat is not negative, a tempo is positive,
and a stop has no negative length. -/
def Sound : TimingAction Rat → Prop
  | .tempo beat bpm => 0 ≤ beat ∧ 0 < bpm
  | .stop beat length => 0 ≤ beat ∧ 0 ≤ length

/-- A tempo is positive. -/
def IsPaced : TimingAction Rat → Prop
  | .tempo _ bpm => 0 < bpm
  | .stop _ _ => True

def IsForward : TimingAction Rat → Prop
  | .tempo _ _ => True
  | .stop _ length => 0 ≤ length

theorem Sound.beat_nonneg {action : TimingAction Rat} (sound : action.Sound) :
    0 ≤ action.beat := by
  cases action with
  | tempo beat bpm => exact sound.1
  | stop beat length => exact sound.1

/-- Whether an action must come strictly before another one. -/
def precedes (a b : TimingAction Rat) : Bool :=
  comesBefore (a.beat, a.kind) (b.beat, b.kind)

theorem precedes_eq_true_iff {a b : TimingAction Rat} :
    precedes a b = true ↔
      a.beat < b.beat ∨ a.beat = b.beat ∧ a.kind.rank < b.kind.rank := by
  unfold precedes comesBefore
  by_cases same : a.beat = b.beat
  · simp [same]
  · simp [same]

theorem precedes_eq_false_iff {a b : TimingAction Rat} :
    precedes a b = false ↔
      b.beat < a.beat ∨ b.beat = a.beat ∧ b.kind.rank ≤ a.kind.rank := by
  rw [← Bool.not_eq_true, precedes_eq_true_iff]
  constructor
  · intro notBefore
    rcases lt_trichotomy b.beat a.beat with less | same | greater
    · exact .inl less
    · refine .inr ⟨same, ?_⟩
      by_contra higher
      exact notBefore (.inr ⟨same.symm, Nat.lt_of_not_le higher⟩)
    · exact absurd (.inl greater) notBefore
  · rintro (less | ⟨same, rank⟩) (before | ⟨_, higher⟩)
    · exact lt_asymm less before
    · linarith
    · linarith
    · omega

theorem beat_le_of_not_precedes {a b : TimingAction Rat}
    (notBefore : precedes b a = false) : a.beat ≤ b.beat := by
  rcases precedes_eq_false_iff.mp notBefore with less | ⟨same, _⟩
  · exact le_of_lt less
  · exact le_of_eq same

theorem isStrictRanking_precedes : IsStrictRanking precedes where
  asymm := by
    intro a b before
    rw [precedes_eq_true_iff] at before
    rw [precedes_eq_false_iff]
    rcases before with less | ⟨same, rank⟩
    · exact .inl less
    · exact .inr ⟨same, Nat.le_of_lt rank⟩
  trans := by
    intro a b c
    simp only [precedes_eq_false_iff]
    rintro (less | ⟨same, rank⟩) (less' | ⟨same', rank'⟩)
    · exact .inl (lt_trans less less')
    · exact .inl (same' ▸ less)
    · exact .inl (same ▸ less')
    · exact .inr ⟨same.trans same', Nat.le_trans rank rank'⟩

/-- The actions in the order in which they take effect. -/
def ordered (actions : List (TimingAction Rat)) : List (TimingAction Rat) :=
  inOrder beat kind actions

theorem ordered_eq_sortBy (actions : List (TimingAction Rat)) :
    ordered actions = sortBy precedes actions := by
  have numbers : (actions.any fun action => Scalar.isUndefined action.beat) = false := by
    rw [List.any_eq_false]
    intro action _
    exact Bool.false_ne_true
  unfold ordered inOrder sortPartly
  rw [numbers]
  rfl

theorem ordered_perm (actions : List (TimingAction Rat)) :
    (ordered actions).Perm actions :=
  inOrder_perm _ _ _

/-- Actions from a beat on, in the order in which they take effect. -/
inductive Upcoming : Rat → List (TimingAction Rat) → Prop where
  | nil (origin : Rat) : Upcoming origin []
  | tempo {origin beat bpm : Rat} {rest : List (TimingAction Rat)} :
      origin ≤ beat → 0 < bpm → Upcoming beat rest →
      Upcoming origin (.tempo beat bpm :: rest)
  | stop {origin beat length : Rat} {rest : List (TimingAction Rat)} :
      origin ≤ beat → 0 ≤ length →
      (∀ next bpm, .tempo next bpm ∈ rest → beat < next) → Upcoming beat rest →
      Upcoming origin (.stop beat length :: rest)

theorem Upcoming.le_beat {origin : Rat} {actions : List (TimingAction Rat)}
    (upcoming : Upcoming origin actions) : ∀ action ∈ actions, origin ≤ action.beat := by
  induction upcoming with
  | nil =>
      intro action member
      cases member
  | tempo later _ _ ih | stop later _ _ _ ih =>
      intro action member
      rcases List.mem_cons.mp member with first | others
      · rw [first]
        exact later
      · exact le_trans later (ih action others)

theorem upcoming_of_isSorted {origin : Rat} {actions : List (TimingAction Rat)}
    (sorted : IsSorted precedes actions) (sound : ∀ action ∈ actions, action.Sound)
    (later : ∀ action ∈ actions, origin ≤ action.beat) : Upcoming origin actions := by
  induction actions generalizing origin with
  | nil => exact .nil origin
  | cons first rest ih =>
      obtain ⟨headFirst, restSorted⟩ := List.pairwise_cons.mp sorted
      have restSound : ∀ action ∈ rest, action.Sound := fun action member =>
        sound action (List.mem_cons_of_mem first member)
      have restLater : ∀ action ∈ rest, first.beat ≤ action.beat := fun action member =>
        beat_le_of_not_precedes (headFirst action member)
      have upcoming := ih restSorted restSound restLater
      have firstLater := later first List.mem_cons_self
      have firstSound := sound first List.mem_cons_self
      cases first with
      | tempo beat bpm => exact .tempo firstLater firstSound.2 upcoming
      | stop beat length =>
          refine .stop firstLater firstSound.2 ?_ upcoming
          intro next bpm member
          rcases precedes_eq_false_iff.mp (headFirst _ member) with less | ⟨_, rank⟩
          · exact less
          · exact absurd rank (by simp [kind, Kind.rank])

theorem isSorted_ordered (actions : List (TimingAction Rat)) :
    IsSorted precedes (ordered actions) := by
  rw [ordered_eq_sortBy]
  exact isSorted_sortBy isStrictRanking_precedes actions

theorem upcoming_ordered {actions : List (TimingAction Rat)}
    (sound : ∀ action ∈ actions, action.Sound) : Upcoming 0 (ordered actions) := by
  have members : ∀ action ∈ ordered actions, action ∈ actions := fun action member =>
    (ordered_perm actions).mem_iff.mp member
  apply upcoming_of_isSorted (isSorted_ordered actions)
  · exact fun action member => sound action (members action member)
  · exact fun action member => (sound action (members action member)).beat_nonneg

end TimingAction

end RhythmChart
