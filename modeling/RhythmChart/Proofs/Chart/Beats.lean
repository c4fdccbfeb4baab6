import Mathlib.Algebra.Order.Field.Rat
import Mathlib.Tactic.Linarith
import Mathlib.Tactic.Positivity
import RhythmChart.Chart.MeasureSizes

/-!
# The order of beats

With positive sizes every measure takes some beats, so beats come in the order of measures
and, inside a measure, of fractions. Setting sizes leads to positive ones only, and a beat
depends on the sizes of its own measure and of those before it.
-/

namespace RhythmChart.MeasureSizes

section Entries

variable {α : Type}

theorem mem_insertEntry {measure : Int} {size : α} {entries : List (Int × α)}
    {entry : Int × α} (member : entry ∈ insertEntry measure size entries) :
    entry = (measure, size) ∨ entry ∈ entries := by
  induction entries with
  | nil => exact .inl (List.mem_singleton.mp member)
  | cons other rest ih =>
      unfold insertEntry at member
      split at member
      · exact List.mem_cons.mp member
      · split at member
        · exact (List.mem_cons.mp member).imp_right (List.mem_cons_of_mem _)
        · rcases List.mem_cons.mp member with first | later
          · exact .inr (first ▸ List.mem_cons_self)
          · exact (ih later).imp_right (List.mem_cons_of_mem _)

theorem lookup_insertEntry_self (measure : Int) (size : α) (entries : List (Int × α)) :
    (insertEntry measure size entries).lookup measure = some size := by
  induction entries with
  | nil => exact List.lookup_cons_self
  | cons entry rest ih =>
      rw [insertEntry]
      split
      · exact List.lookup_cons_self
      · split
        · exact List.lookup_cons_self
        · rename_i different
          rw [List.lookup_cons, beq_eq_false_iff_ne.mpr different]
          exact ih

theorem lookup_insertEntry_of_ne {measure other : Int} (different : other ≠ measure)
    (size : α) (entries : List (Int × α)) :
    (insertEntry measure size entries).lookup other = entries.lookup other := by
  have passes : ∀ rest : List (Int × α), ((measure, size) :: rest).lookup other =
      rest.lookup other := by
    intro rest
    rw [List.lookup_cons, beq_eq_false_iff_ne.mpr different]
  induction entries with
  | nil => exact passes []
  | cons entry rest ih =>
      rw [insertEntry]
      split
      · exact passes (entry :: rest)
      · split
        · rename_i same
          rw [passes, List.lookup_cons, ← same, beq_eq_false_iff_ne.mpr different]
        · rw [List.lookup_cons, List.lookup_cons, ih]

end Entries

/-- No measure is given a size of zero or less. -/
def Positive (sizes : MeasureSizes Rat) : Prop :=
  ∀ entry ∈ sizes.entries, 0 < entry.2

theorem Positive.insert {sizes : MeasureSizes Rat} (positive : sizes.Positive)
    (measure : Int)
    {size : Rat} (more : 0 < size) : (sizes.insert measure size).Positive := by
  intro entry member
  rcases mem_insertEntry member with new | old
  · rw [new]
    exact more
  · exact positive entry old

theorem start_zero (sizes : MeasureSizes Rat) : sizes.start (0 : Nat) = 0 := rfl

theorem start_succ {α : Type} [Scalar α] (sizes : MeasureSizes α) (measure : Nat) :
    sizes.start (measure + 1 : Nat) = sizes.start measure + sizes.beats measure := by
  unfold start
  rw [Int.toNat_natCast, Int.toNat_natCast, List.range_succ, List.foldl_append]
  rfl

namespace Positive

variable {sizes : MeasureSizes Rat} (positive : sizes.Positive)

include positive

theorem beats_pos (measure : Int) : 0 < sizes.beats measure := by
  have sized : 0 < sizes.size measure := by
    unfold size
    cases found : sizes.entries.lookup measure with
    | none => exact one_pos
    | some size =>
        obtain ⟨before, after, split, -⟩ := List.lookup_eq_some_iff.mp found
        exact positive (measure, size)
          (split ▸ List.mem_append_right _ List.mem_cons_self)
  exact mul_pos sized four_pos

theorem start_le_start {left right : Nat} (order : left ≤ right) :
    sizes.start left ≤ sizes.start right := by
  induction order with
  | refl => exact le_refl _
  | step _ ih =>
      rw [start_succ]
      exact le_trans ih (le_add_of_nonneg_right (le_of_lt (positive.beats_pos _)))

theorem start_lt_start {left right : Nat} (order : left < right) :
    sizes.start left < sizes.start right := by
  calc sizes.start left
    _ < sizes.start left + sizes.beats left :=
      lt_add_of_pos_right _ (positive.beats_pos left)
    _ = sizes.start (left + 1 : Nat) := (sizes.start_succ left).symm
    _ ≤ sizes.start right := positive.start_le_start order

theorem start_le_beatAt (measure : Nat) {fraction : Rat} (nonneg : 0 ≤ fraction) :
    sizes.start measure ≤ sizes.beatAt measure fraction :=
  le_add_of_nonneg_right (mul_nonneg (le_of_lt (positive.beats_pos measure)) nonneg)

theorem beatAt_lt_start_succ (measure : Nat) {fraction : Rat} (proper : fraction < 1) :
    sizes.beatAt measure fraction < sizes.start (measure + 1 : Nat) := by
  rw [start_succ]
  exact add_lt_add_right (mul_lt_of_lt_one_right (positive.beats_pos measure) proper) _

theorem beatAt_nonneg (measure : Nat) {fraction : Rat} (nonneg : 0 ≤ fraction) :
    0 ≤ sizes.beatAt measure fraction := by
  calc (0 : Rat)
    _ = sizes.start (0 : Nat) := sizes.start_zero.symm
    _ ≤ sizes.start measure := positive.start_le_start (Nat.zero_le measure)
    _ ≤ sizes.beatAt measure fraction := positive.start_le_beatAt measure nonneg

/-- A later measure, or a later fraction of the same measure, has a later beat. -/
theorem beatAt_lt_beatAt {left right : Nat} {fraction fraction' : Rat}
    (proper : fraction < 1)
    (nonneg : 0 ≤ fraction') (less : left < right ∨ left = right ∧ fraction < fraction') :
    sizes.beatAt left fraction < sizes.beatAt right fraction' := by
  rcases less with earlier | ⟨rfl, earlier⟩
  · calc sizes.beatAt left fraction
      _ < sizes.start (left + 1 : Nat) := positive.beatAt_lt_start_succ left proper
      _ ≤ sizes.start right := positive.start_le_start earlier
      _ ≤ sizes.beatAt right fraction' := positive.start_le_beatAt right nonneg
  · exact add_lt_add_right (mul_lt_mul_of_pos_left earlier (positive.beats_pos left)) _

/-- The order of beats is that of places. -/
theorem beatAt_lt_beatAt_iff {left right : Nat} {fraction fraction' : Rat}
    (inside : 0 ≤ fraction ∧ fraction < 1) (inside' : 0 ≤ fraction' ∧ fraction' < 1) :
    sizes.beatAt left fraction < sizes.beatAt right fraction' ↔
      left < right ∨ left = right ∧ fraction < fraction' := by
  refine ⟨fun less => ?_, positive.beatAt_lt_beatAt inside.2 inside'.1⟩
  rcases lt_trichotomy left right with earlier | rfl | later
  · exact .inl earlier
  · refine .inr ⟨rfl, lt_of_not_ge fun back => not_le_of_gt less ?_⟩
    exact add_le_add_right
      (mul_le_mul_of_nonneg_left back (le_of_lt (positive.beats_pos left))) _
  · have back := positive.beatAt_lt_beatAt inside'.2 inside.1 (.inl later)
    exact absurd less (not_lt_of_gt back)

theorem beatAt_injective {left right : Nat} {fraction fraction' : Rat}
    (inside : 0 ≤ fraction ∧ fraction < 1) (inside' : 0 ≤ fraction' ∧ fraction' < 1)
    (same : sizes.beatAt left fraction = sizes.beatAt right fraction') :
    left = right ∧ fraction = fraction' := by
  have notBefore :=
    mt (positive.beatAt_lt_beatAt_iff inside inside').mpr (not_lt_of_ge same.ge)
  have notAfter :=
    mt (positive.beatAt_lt_beatAt_iff inside' inside).mpr (not_lt_of_ge same.le)
  rcases lt_trichotomy left right with earlier | rfl | later
  · exact absurd (.inl earlier) notBefore
  · exact ⟨rfl, le_antisymm (le_of_not_gt fun less => notAfter (.inr ⟨rfl, less⟩))
      (le_of_not_gt fun less => notBefore (.inr ⟨rfl, less⟩))⟩
  · exact absurd (.inl later) notAfter

end Positive

section Setting

variable {sizes : MeasureSizes Rat}

theorem set_of_pos {size : Rat} (positive : 0 < size) (measure : Int) :
    sizes.set measure (.number size) = .ok (sizes.insert measure size) := by
  have accepted : (checked (.number size) : Except (Fault Rat) Rat) = .ok size :=
    if_neg (not_le_of_gt positive)
  rw [set, accepted]
  rfl

theorem pos_of_checked {given : Field Rat} {size : Rat}
    (accepted : checked given = .ok size) : 0 < size := by
  unfold checked at accepted
  cases read : given.quantity with
  | error fault =>
      rw [read] at accepted
      cases accepted
  | ok value =>
      rw [read] at accepted
      by_cases refused : value ≤ 0
      · cases accepted.symm.trans (if_pos refused)
      · cases accepted.symm.trans (if_neg refused)
        exact lt_of_not_ge refused

theorem exists_insert_of_set {sizes' : MeasureSizes Rat} {measure : Int}
    {given : Field Rat} (made : sizes.set measure given = .ok sizes') :
    ∃ size, 0 < size ∧ sizes' = sizes.insert measure size := by
  rw [set] at made
  cases accepted : (checked given : Except (Fault Rat) Rat) with
  | error fault =>
      rw [accepted] at made
      cases made
  | ok size =>
      rw [accepted] at made
      exact ⟨size, pos_of_checked accepted, (Except.ok.inj made).symm⟩

/-- The tables that setting sizes leads to. A size that is refused
leaves a table as it is. -/
inductive Reached : MeasureSizes Rat → Prop
  | empty : Reached .empty
  | set {sizes sizes' : MeasureSizes Rat} {measure : Int} {given : Field Rat} :
      Reached sizes → sizes.set measure given = .ok sizes' → Reached sizes'

theorem Reached.positive (reached : sizes.Reached) : sizes.Positive := by
  induction reached with
  | empty => exact fun _ member => nomatch member
  | set _ made ih =>
      obtain ⟨size, more, rfl⟩ := exists_insert_of_set made
      exact ih.insert _ more

theorem beats_insert_of_ne {measure other : Int} (different : other ≠ measure)
    (size : Rat) : (sizes.insert measure size).beats other = sizes.beats other := by
  rw [beats, beats, MeasureSizes.size, MeasureSizes.size, MeasureSizes.insert,
    lookup_insertEntry_of_ne different]

/-- The start of a measure is known as soon as the sizes before it are. -/
theorem start_insert_of_le {measure : Nat} {later : Int} (order : (measure : Int) ≤ later)
    (size : Rat) : (sizes.insert later size).start measure = sizes.start measure := by
  induction measure with
  | zero => rfl
  | succ measure ih =>
      have before : (measure : Int) < later := by omega
      rw [start_succ, start_succ, ih (le_of_lt before),
        beats_insert_of_ne (ne_of_lt before)]

theorem beatAt_insert_of_lt {measure : Nat} {later : Int}
    (order : (measure : Int) < later) (size fraction : Rat) :
    (sizes.insert later size).beatAt measure fraction =
      sizes.beatAt measure fraction := by
  rw [beatAt, beatAt, start_insert_of_le (le_of_lt order),
    beats_insert_of_ne (ne_of_lt order)]

end Setting

end RhythmChart.MeasureSizes
