import RhythmChart.Proofs.Number.Operations

/-!
# Scalars that are not negative

From zero on, rationals and doubles are both ordered like the extents of what they denote.
What follows from this alone is proved once for the two of them.
-/

namespace RhythmChart

/-- A scale that is ordered by extents from zero on. -/
class HasExtent (α : Type) [Scalar α] where
  extent : α → WithTop Rat
  natCast_nonneg (n : Nat) : ((0 : Nat) : α) ≤ (n : α)
  add_nonneg {x y : α} : ((0 : Nat) : α) ≤ x → ((0 : Nat) : α) ≤ y →
    ((0 : Nat) : α) ≤ x + y
  nonneg_of_lt {x y : α} : ((0 : Nat) : α) ≤ x → x < y → ((0 : Nat) : α) ≤ y
  lt_iff {x y : α} : ((0 : Nat) : α) ≤ x → ((0 : Nat) : α) ≤ y →
    (x < y ↔ extent x < extent y)
  le_iff {x y : α} : ((0 : Nat) : α) ≤ x → ((0 : Nat) : α) ≤ y →
    (x ≤ y ↔ extent x ≤ extent y)
  beq_iff {x y : α} :
    ((0 : Nat) : α) ≤ x → ((0 : Nat) : α) ≤ y → ((x == y) = true ↔ extent x = extent y)

instance : HasExtent Rat where
  extent x := x
  natCast_nonneg n := Nat.cast_nonneg n
  add_nonneg := Rat.add_nonneg
  nonneg_of_lt nonneg less := le_of_lt (lt_of_le_of_lt nonneg less)
  lt_iff _ _ := WithTop.coe_lt_coe.symm
  le_iff _ _ := WithTop.coe_le_coe.symm
  beq_iff _ _ := beq_iff_eq.trans WithTop.coe_inj.symm

namespace Double

open Float.Model

theorem compare_of_neg {a b : UnpackedFloat} (nonneg : Nonneg a)
    (neg : order b = some .lt) : a.compare b = some .gt := by
  cases b with
  | notANumber => cases neg
  | zero sign => cases neg
  | infinity sign =>
      cases sign with
      | positive => cases neg
      | negative =>
          cases a with
          | notANumber => exact nonneg.elim
          | zero sign => rfl
          | infinity sign => cases nonneg; rfl
          | finite sign significand exponent positive => rfl
  | finite sign significand exponent positive =>
      cases sign with
      | positive => cases neg
      | negative =>
          cases a with
          | notANumber => exact nonneg.elim
          | zero sign => rfl
          | infinity sign => cases nonneg; rfl
          | finite sign significand exponent positive => cases nonneg; rfl

/-- Comparing the other way round. -/
theorem map_swap_compare (a b : UnpackedFloat) :
    (a.compare b).map Ordering.swap = b.compare a := by
  cases a with
  | notANumber => cases b <;> rfl
  | infinity sign =>
      cases b with
      | infinity sign' => cases sign <;> cases sign' <;> rfl
      | _ => cases sign <;> rfl
  | zero sign =>
      cases b with
      | notANumber => rfl
      | zero sign' => rfl
      | infinity sign' => cases sign' <;> rfl
      | finite sign' m' e' positive' => cases sign' <;> rfl
  | finite sign m e positive =>
      cases b with
      | notANumber => rfl
      | zero sign' => cases sign <;> rfl
      | infinity sign' => cases sign' <;> rfl
      | finite sign' m' e' positive' =>
          have magnitudes : ((compare e e').then (compare m m')).swap =
              (compare e' e).then (compare m' m) := by
            rw [Ordering.swap_then, Int.compare_swap, Nat.compare_swap]
          cases sign with
          | positive =>
              cases sign' with
              | positive => exact congrArg some magnitudes
              | negative => rfl
          | negative =>
              cases sign' with
              | positive => rfl
              | negative => exact congrArg some (congrArg Ordering.swap magnitudes)

variable {x y : Float}

theorem nonneg_of_lt (nonneg : ((0 : Nat) : Float) ≤ x) (less : x < y) :
    ((0 : Nat) : Float) ≤ y := by
  refine nonneg_of_defined (fun neg => ?_) (defined_of_lt less).2
  rw [lt_iff_parts, compare_of_neg (nonneg_iff.mp nonneg) (neg_iff.mp neg)] at less
  cases less

theorem le_trans_lt {z : Float} (nonneg : ((0 : Nat) : Float) ≤ x)
    (nonneg' : ((0 : Nat) : Float) ≤ y) (le : x ≤ y) (less : y < z) : x < z := by
  have positive := nonneg_of_lt nonneg' less
  rw [lt_iff_extent nonneg' positive] at less
  rw [le_iff_extent nonneg nonneg'] at le
  exact (lt_iff_extent nonneg positive).mpr (le.trans_lt less)

theorem nonneg_of_le (nonneg : ((0 : Nat) : Float) ≤ x) (le : x ≤ y) :
    ((0 : Nat) : Float) ≤ y := by
  rw [le_iff_parts] at le
  apply nonneg_of_defined
  · intro neg
    rw [compare_of_neg (nonneg_iff.mp nonneg) (neg_iff.mp neg)] at le
    cases le
  · rw [isUndefined_eq_false_iff]
    intro undefined
    rw [undefined, compare_notANumber] at le
    cases le

theorem lt_trans_le {z : Float} (nonneg : ((0 : Nat) : Float) ≤ x) (less : x < y)
    (le : y ≤ z) : x < z := by
  have middle := nonneg_of_lt nonneg less
  have last := nonneg_of_le middle le
  rw [lt_iff_extent nonneg middle] at less
  rw [le_iff_extent middle last] at le
  exact (lt_iff_extent nonneg last).mpr (less.trans_le le)

theorem not_lt_iff (nonneg : ((0 : Nat) : Float) ≤ x)
    (finite : Scalar.isFinite y = true) : ¬x < y ↔ y ≤ x := by
  by_cases neg : y < ((0 : Nat) : Float)
  · have notLess : ¬x < y := fun less => not_neg_of_nonneg (nonneg_of_lt nonneg less) neg
    refine iff_of_true notLess ?_
    rw [le_iff_parts, ← map_swap_compare,
      compare_of_neg (nonneg_iff.mp nonneg) (neg_iff.mp neg)]
    rfl
  · have nonneg' := nonneg_of_not_neg neg finite
    rw [lt_iff_extent nonneg nonneg', le_iff_extent nonneg' nonneg, not_lt]

theorem beq_iff_extent (nonneg : ((0 : Nat) : Float) ≤ x)
    (nonneg' : ((0 : Nat) : Float) ≤ y) : (x == y) = true ↔ extent x = extent y := by
  rw [beq_iff_parts, compare_extent nonneg nonneg', Option.some_inj, compare_eq_iff_eq]

end Double

instance : HasExtent Float where
  extent := Double.extent
  natCast_nonneg := Double.nonneg_natCast
  add_nonneg := Double.add_nonneg
  nonneg_of_lt := Double.nonneg_of_lt
  lt_iff := Double.lt_iff_extent
  le_iff := Double.le_iff_extent
  beq_iff := Double.beq_iff_extent

end RhythmChart
