import RhythmChart.Motion.Timing
import RhythmChart.Proofs.Sorting.Removal

/-!
# The actions of a chart

For each bad tempo change the first action that is the same is taken out. That is a bad
tempo change as well, as long as scalars that are the same have the same sign, and so the
good actions are what remains.
-/

namespace RhythmChart

/-- Scalars each of which is the same as itself, and only as others of its sign. -/
class LawfulSame (α : Type) [Scalar α] : Prop where
  same_self : ∀ x : α, Scalar.same x x = true
  nonpos_of_same : ∀ {x y : α}, Scalar.same x y = true → x ≤ ((0 : Nat) : α) →
    y ≤ ((0 : Nat) : α)

variable {α : Type} [Scalar α]

theorem Text.exists_ofDecimal?_of_number? {text : Text} {value : α}
    (read : number? text = some value) :
    ∃ negative digits exponent,
      Scalar.ofDecimal? negative digits exponent = some value := by
  obtain ⟨numeral, -, read⟩ := Option.bind_eq_some_iff.mp read
  cases numeral with
  | decimal negative digits exponent => exact ⟨negative, digits, exponent, read⟩
  | infinite negative => cases read
  | undefined => cases read

theorem Headers.exists_ofDecimal?_of_number? {headers : Headers} {name : Text} {value : α}
    (read : headers.number? name = some value) :
    ∃ negative digits exponent,
      Scalar.ofDecimal? negative digits exponent = some value := by
  obtain ⟨text, -, read⟩ := Option.bind_eq_some_iff.mp read
  exact Text.exists_ofDecimal?_of_number? read

namespace TimingAction

section BadTempos

variable [LawfulSame α]

theorem same_self (action : TimingAction α) : action.same action = true := by
  cases action with
  | tempo beat bpm => rw [same, LawfulSame.same_self, LawfulSame.same_self, Bool.and_self]
  | stop beat length =>
      rw [same, LawfulSame.same_self, LawfulSame.same_self, Bool.and_self]

theorem isBadTempo_of_same {a b : TimingAction α} (same : a.same b = true)
    (bad : a.isBadTempo = true) : b.isBadTempo = true := by
  cases a with
  | stop beat length => cases bad
  | tempo beat bpm =>
      cases b with
      | stop beat' length' => cases same
      | tempo beat' bpm' =>
          have tempos : Scalar.same bpm bpm' = true := (Bool.and_eq_true_iff.mp same).2
          exact decide_eq_true (LawfulSame.nonpos_of_same tempos (of_decide_eq_true bad))

theorem dropBadTempos_eq_filter (actions : List (TimingAction α)) :
    dropBadTempos actions = actions.filter fun action => !action.isBadTempo :=
  foldl_eraseP_of_deleteBad? (deleteBad?_eq_filter same_self isBadTempo_of_same actions)

end BadTempos

end TimingAction

namespace Timing

variable {chart : Chart α} {object : ChartObject α} {action : TimingAction α}

theorem beat_of_action? (made : action? chart object = some action) :
    action.beat = chart.beatOf object := by
  unfold action? at made
  dsimp only at made
  split at made
  · obtain ⟨bpm, -, rfl⟩ := Option.map_eq_some_iff.mp made
    rfl
  · split at made
    · obtain ⟨bpm, -, rfl⟩ := Option.map_eq_some_iff.mp made
      rfl
    · split at made
      · cases made
        rfl
      · cases made

theorem exists_ofDecimal?_of_action? {beat bpm : α}
    (made : action? chart object = some (.tempo beat bpm)) :
    ∃ negative digits exponent,
      Scalar.ofDecimal? negative digits exponent = some bpm := by
  unfold action? at made
  dsimp only at made
  split at made
  · obtain ⟨bpm, read, same⟩ := Option.map_eq_some_iff.mp made
    cases same
    obtain ⟨number, -, read⟩ := Option.bind_eq_some_iff.mp read
    exact ⟨_, _, _, read⟩
  · split at made
    · obtain ⟨bpm, read, same⟩ := Option.map_eq_some_iff.mp made
      cases same
      exact Headers.exists_ofDecimal?_of_number? read
    · split at made <;> cases made

theorem action?_eq_stop_iff {beat length : α} :
    action? chart object = some (.stop beat length) ↔
      object.channel = Code.stop ∧ beat = chart.beatOf object ∧
        length = (chart.number? (['s', 't', 'o', 'p'] ++ object.value.text)).getD
          ((0 : Nat) : α) / stopUnits := by
  constructor
  · intro made
    unfold action? at made
    dsimp only at made
    split at made
    · obtain ⟨bpm, -, other⟩ := Option.map_eq_some_iff.mp made
      cases other
    · split at made
      · obtain ⟨bpm, -, other⟩ := Option.map_eq_some_iff.mp made
        cases other
      · split at made
        · rename_i stop
          cases made
          exact ⟨stop, rfl, rfl⟩
        · cases made
  · rintro ⟨stop, rfl, rfl⟩
    unfold action?
    dsimp only
    rw [stop]
    rfl

theorem mem_actions_iff [LawfulSame α] :
    action ∈ actions chart ↔
      (∃ object ∈ chart.objects.toList, action? chart object = some action) ∧
        action.isBadTempo = false := by
  rw [actions, TimingAction.dropBadTempos_eq_filter, List.mem_filter, List.mem_filterMap,
    Bool.not_eq_true']

end Timing

end RhythmChart
