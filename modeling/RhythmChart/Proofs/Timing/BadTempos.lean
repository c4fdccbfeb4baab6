import RhythmChart.Proofs.Motion.Doubles
import RhythmChart.Proofs.Number.Levels

/-!
# Bad tempos are filtered out

Bad tempo changes are removed from a list of actions along a copy of it. The entries of
the list are objects, each of which is an action. What is removed for a bad entry is the
first one equal to it, and that need not be the same object. Since all that is equal to a
bad tempo change is one as well, the removal never fails, and leaves the very entries that
are stops or set a positive tempo, in their order and as often as they were listed.
-/

namespace RhythmChart

/-- Scales on which each number is positive or not, and every decimal is a number. -/
class LawfulSign (α : Type) [Scalar α] : Prop extends LawfulSame α where
  not_nonpos_iff : ∀ {x : α}, ¬x ≤ ((0 : Nat) : α) ↔
    ((0 : Nat) : α) < x ∨ Scalar.isUndefined x = true
  isUndefined_of_ofDecimal? : ∀ {negative digits exponent} {x : α},
    Scalar.ofDecimal? negative digits exponent = some x → Scalar.isUndefined x = false

instance : LawfulSign Rat where
  not_nonpos_iff := by
    intro x
    exact not_le.trans (or_iff_left Bool.false_ne_true).symm
  isUndefined_of_ofDecimal? _ := rfl

instance : LawfulSign Float where
  not_nonpos_iff := by
    intro x
    constructor
    · intro notNonpos
      cases undefined : Scalar.isUndefined x with
      | true => exact .inr rfl
      | false =>
          left
          by_contra notPos
          exact notNonpos (HasLevel.le_of_not_lt rfl undefined notPos)
    · rintro (pos | undefined) nonpos
      · exact HasLevel.not_le_of_lt pos nonpos
      · have defined := (HasLevel.le_iff.mp nonpos).1
        rw [undefined] at defined
        cases defined
  isUndefined_of_ofDecimal? read :=
    Double.isUndefined_of_isFinite (Double.isFinite_of_ofDecimal? read)

namespace TimingAction

variable {α ι : Type} [Scalar α]

/-- Whether two actions of one kind hold equal numbers. What is
undefined is equal to nothing. -/
def equal : TimingAction α → TimingAction α → Bool
  | tempo beat bpm, tempo beat' bpm' => beat == beat' && bpm == bpm'
  | stop beat length, stop beat' length' => beat == beat' && length == length'
  | _, _ => false

def isPositive : TimingAction α → Bool
  | tempo _ bpm => decide (((0 : Nat) : α) < bpm)
  | stop _ _ => true

def isUndefinedTempo : TimingAction α → Bool
  | tempo _ bpm => Scalar.isUndefined bpm
  | stop _ _ => false

theorem same_of_equal {a b : TimingAction α} (equals : a.equal b = true) :
    a.same b = true := by
  cases a with
  | tempo beat bpm =>
      cases b with
      | tempo beat' bpm' =>
          obtain ⟨beats, tempos⟩ := Bool.and_eq_true_iff.mp equals
          rw [same, Scalar.same, Scalar.same, beats, tempos]
          rfl
      | stop beat' length' => cases equals
  | stop beat length =>
      cases b with
      | tempo beat' bpm' => cases equals
      | stop beat' length' =>
          obtain ⟨beats, lengths⟩ := Bool.and_eq_true_iff.mp equals
          rw [same, Scalar.same, Scalar.same, beats, lengths]
          rfl

/-- How a search for one entry finds others: it finds the entry itself and all
that are equal to it. Of two entries with undefined numbers it is left open
whether they find each other. -/
structure Search (action : ι → TimingAction α) where
  finds : ι → ι → Bool
  finds_self : ∀ entry, finds entry entry = true
  finds_of_equal : ∀ {entry other}, (action entry).equal (action other) = true →
    finds entry other = true
  same_of_finds : ∀ {entry other}, finds entry other = true →
    (action entry).same (action other) = true

namespace Search

/-- The search that finds an entry itself and otherwise goes by what is equal. -/
def byEquality [DecidableEq ι] [LawfulSame α] (action : ι → TimingAction α) :
    Search action where
  finds entry other := decide (entry = other) || (action entry).equal (action other)
  finds_self entry := by rw [decide_eq_true rfl, Bool.true_or]
  finds_of_equal equals := by rw [equals, Bool.or_true]
  same_of_finds := by
    intro entry other found
    rcases (Bool.or_eq_true _ _).mp found with itself | equals
    · rw [of_decide_eq_true itself]
      exact same_self _
    · exact same_of_equal equals

/-- Removes, along a copy of the entries, for each bad tempo change the
first entry that is found. -/
def removeBadTempos? {action : ι → TimingAction α} (search : Search action)
    (entries : List ι) :
    Option (List ι) :=
  deleteBad? (fun entry => (action entry).isBadTempo) search.finds entries

end Search

variable [LawfulSign α]

theorem not_isBadTempo_eq (action : TimingAction α) :
    (!action.isBadTempo) = (action.isPositive || action.isUndefinedTempo) := by
  cases action with
  | stop beat length => rfl
  | tempo beat bpm =>
      rw [Bool.eq_iff_iff, Bool.not_eq_true', Bool.or_eq_true, isPositive,
        decide_eq_true_iff]
      exact decide_eq_false_iff_not.trans LawfulSign.not_nonpos_iff

theorem removeBadTempos?_eq {action : ι → TimingAction α} (search : Search action)
    (entries : List ι) :
    search.removeBadTempos? entries =
      some (entries.filter fun entry => !(action entry).isBadTempo) :=
  deleteBad?_eq_filter search.finds_self
    (fun found bad => isBadTempo_of_same (search.same_of_finds found) bad) entries

end TimingAction

namespace Timing

variable {α : Type} [Scalar α] [LawfulSign α]

theorem isUndefinedTempo_of_action? {chart : Chart α} {object : ChartObject α}
    {action : TimingAction α} (made : action? chart object = some action) :
    action.isUndefinedTempo = false := by
  cases action with
  | stop beat length => rfl
  | tempo beat bpm =>
      obtain ⟨negative, digits, exponent, read⟩ := exists_ofDecimal?_of_action? made
      exact LawfulSign.isUndefined_of_ofDecimal? read

/-- All tempos of a chart are numbers, so those that are not bad are positive. -/
theorem actions_eq_filter_isPositive (chart : Chart α) :
    actions chart =
      (chart.objects.toList.filterMap (action? chart)).filter
        TimingAction.isPositive := by
  rw [actions, TimingAction.dropBadTempos_eq_filter]
  refine List.filter_congr fun action listed => ?_
  obtain ⟨object, -, made⟩ := List.mem_filterMap.mp listed
  rw [TimingAction.not_isBadTempo_eq, isUndefinedTempo_of_action? made, Bool.or_false]

end Timing

namespace TimingAction

variable {α ι : Type} [Scalar α] [LawfulSign α]

/-- Removing bad tempo changes along a copy never fails. It leaves the stops and the
positive tempos in their order, each as often as it was listed, whichever entries are
equal and whatever their beats are; only a tempo that is not a number would stay as well,
and no chart has one. -/
theorem removing_is_filtering {action : ι → TimingAction α} (search : Search action)
    (entries : List ι) :
    search.removeBadTempos? entries = some (entries.filter fun entry =>
        (action entry).isPositive || (action entry).isUndefinedTempo) ∧
      (search.removeBadTempos? entries).map (List.map action) =
        some (dropBadTempos (entries.map action)) ∧
      ∀ chart : Chart α, Timing.actions chart =
        (chart.objects.toList.filterMap (Timing.action? chart)).filter isPositive := by
  refine ⟨?_, ?_, Timing.actions_eq_filter_isPositive⟩
  · rw [removeBadTempos?_eq]
    simp only [not_isBadTempo_eq]
  · rw [removeBadTempos?_eq, dropBadTempos_eq_filter, List.filter_map]
    rfl

/-- Zero tempos of either sign on one beat and on undefined ones, among others. -/
def restlessBeat (entry : Fin 7) : TimingAction Float :=
  [.tempo 4 0, .tempo 4 120, .stop 4 0, .tempo (0 / 0) 0, .tempo 4 (-0), .tempo (0 / 0) 0,
    .tempo 4 120].get entry

theorem removing_is_filtering_restlessBeat :
    LawfulSign Float ∧
      (Search.byEquality restlessBeat).removeBadTempos? [0, 1, 0, 2, 3, 4, 5, 6, 1] =
        some [1, 2, 6, 1] := by
  refine ⟨inferInstance, ?_⟩
  rw [(removing_is_filtering (Search.byEquality restlessBeat) _).1]
  decide +kernel

end TimingAction

end RhythmChart
