import Mathlib.Order.WithBot
import RhythmChart.Proofs.Number.Nonnegative

/-!
# Scales in order

All doubles but the undefined ones lie on one line, from one infinity to the other, and so
do the rationals. A comparison is true only of defined values, and then it is that of
their levels on the line.
-/

namespace RhythmChart

/-- A scale whose defined values are compared by their levels on a line. -/
class HasLevel (α : Type) [Scalar α] where
  level : α → WithBot (WithTop Rat)
  lt_iff {x y : α} : x < y ↔
    Scalar.isUndefined x = false ∧ Scalar.isUndefined y = false ∧ level x < level y
  le_iff {x y : α} : x ≤ y ↔
    Scalar.isUndefined x = false ∧ Scalar.isUndefined y = false ∧ level x ≤ level y

instance : HasLevel Rat where
  level x := (x : WithTop Rat)
  lt_iff {x y} := by
    have levels :
        ((x : WithTop Rat) : WithBot (WithTop Rat)) < (y : WithTop Rat) ↔ x < y := by
      rw [WithBot.coe_lt_coe, WithTop.coe_lt_coe]
    exact ⟨fun less => ⟨rfl, rfl, levels.mpr less⟩, fun less => levels.mp less.2.2⟩
  le_iff {x y} := by
    have levels :
        ((x : WithTop Rat) : WithBot (WithTop Rat)) ≤ (y : WithTop Rat) ↔ x ≤ y := by
      rw [WithBot.coe_le_coe, WithTop.coe_le_coe]
    exact ⟨fun le => ⟨rfl, rfl, levels.mpr le⟩, fun le => levels.mp le.2.2⟩

namespace Double

open Float.Model

def level : UnpackedFloat → WithBot (WithTop Rat)
  | .infinity .positive => (⊤ : WithTop Rat)
  | .infinity .negative => ⊥
  | other => ((value other : Rat) : WithTop Rat)

theorem level_of_isFinite {result : UnpackedFloat} (finite : result.isFinite = true) :
    level result = ((value result : Rat) : WithTop Rat) := by
  cases result with
  | infinity sign => cases finite
  | _ => rfl

/-- An infinity lies beyond all finite results. -/
theorem compare_infinity {result : UnpackedFloat} (finite : result.isFinite = true)
    (sign : UnpackedFloat.Sign) :
    (UnpackedFloat.infinity sign).compare result =
      some (compare (level (.infinity sign)) (level result)) := by
  have inside := level_of_isFinite finite
  cases sign with
  | positive =>
      have beyond : level result < level (.infinity .positive) := by
        rw [inside]
        exact WithBot.coe_lt_coe.mpr (WithTop.coe_lt_top _)
      rw [compare_gt_iff_gt.mpr beyond]
      cases result with
      | notANumber => cases finite
      | infinity sign => cases finite
      | zero sign => rfl
      | finite sign significand exponent positive => rfl
  | negative =>
      have beyond : level (.infinity .negative) < level result := by
        rw [inside]
        exact WithBot.bot_lt_coe _
      rw [compare_lt_iff_lt.mpr beyond]
      cases result with
      | notANumber => cases finite
      | infinity sign => cases finite
      | zero sign => rfl
      | finite sign significand exponent positive => rfl

theorem compare_infinities (sign sign' : UnpackedFloat.Sign) :
    (UnpackedFloat.infinity sign).compare (.infinity sign') =
      some (compare (level (.infinity sign)) (level (.infinity sign'))) := by
  have order : level (.infinity .negative) < level (.infinity .positive) :=
    WithBot.bot_lt_coe _
  cases sign with
  | positive =>
      cases sign' with
      | positive => rw [compare_eq_iff_eq.mpr rfl]; rfl
      | negative => rw [compare_gt_iff_gt.mpr order]; rfl
  | negative =>
      cases sign' with
      | positive => rw [compare_lt_iff_lt.mpr order]; rfl
      | negative => rw [compare_eq_iff_eq.mpr rfl]; rfl

theorem isFinite_or_infinity {result : UnpackedFloat} (defined : result ≠ .notANumber) :
    result.isFinite = true ∨ ∃ sign, result = .infinity sign := by
  cases result with
  | notANumber => exact absurd rfl defined
  | infinity sign => exact .inr ⟨sign, rfl⟩
  | zero sign => exact .inl rfl
  | finite sign significand exponent positive => exact .inl rfl

theorem compare_denoted (a b : Rat) :
    compare ((a : WithTop Rat) : WithBot (WithTop Rat)) (b : WithTop Rat) =
      compare a b := by
  have mono : StrictMono fun a : Rat => ((a : WithTop Rat) : WithBot (WithTop Rat)) :=
    WithBot.coe_strictMono.comp WithTop.coe_strictMono
  rw [← cmp_eq_compare, ← cmp_eq_compare]
  exact mono.cmp_map_eq a b

/-- Defined doubles compare like their levels. -/
theorem compare_level {x y : Float} (defined : parts x ≠ .notANumber)
    (defined' : parts y ≠ .notANumber) :
    (parts x).compare (parts y) = some (compare (level (parts x)) (level (parts y))) := by
  rcases isFinite_or_infinity defined with finite | ⟨sign, infinite⟩
  · rcases isFinite_or_infinity defined' with finite' | ⟨sign', infinite'⟩
    · rw [compare_parts finite finite', level_of_isFinite finite,
        level_of_isFinite finite', compare_denoted]
    · rw [infinite', ← map_swap_compare, compare_infinity finite, Option.map_some,
        Std.OrientedOrd.eq_swap (a := level (parts x))]
  · rcases isFinite_or_infinity defined' with finite' | ⟨sign', infinite'⟩
    · rw [infinite, compare_infinity finite']
    · rw [infinite, infinite', compare_infinities]

end Double

theorem isLE_compare {α : Type} [LinearOrder α] {a b : α} : (compare a b).isLE = true ↔
      a ≤ b := by
  rw [Ordering.isLE_iff_ne_gt, compare_gt_iff_gt, not_lt]

instance : HasLevel Float where
  level x := Double.level (Double.parts x)
  lt_iff {x y} := by
    rw [Double.isUndefined_eq_false_iff, Double.isUndefined_eq_false_iff,
      Double.lt_iff_parts]
    constructor
    · intro less
      obtain ⟨defined, defined'⟩ := Double.defined_of_compare less
      rw [Double.compare_level defined defined', Option.some_inj,
        compare_lt_iff_lt] at less
      exact ⟨defined, defined', less⟩
    · rintro ⟨defined, defined', less⟩
      rw [Double.compare_level defined defined', compare_lt_iff_lt.mpr less]
  le_iff {x y} := by
    rw [Double.isUndefined_eq_false_iff, Double.isUndefined_eq_false_iff,
      Double.le_iff_parts]
    constructor
    · intro le
      obtain ⟨order, compared, -⟩ := (Option.any_eq_true _ _).mp le
      obtain ⟨defined, defined'⟩ := Double.defined_of_compare compared
      rw [Double.compare_level defined defined', Option.any_some, isLE_compare] at le
      exact ⟨defined, defined', le⟩
    · rintro ⟨defined, defined', le⟩
      rw [Double.compare_level defined defined', Option.any_some, isLE_compare]
      exact le

namespace HasLevel

variable {α : Type} [Scalar α] [HasLevel α] {x y z : α}

theorem le_of_lt (less : x < y) : x ≤ y := by
  rw [lt_iff] at less
  rw [le_iff]
  exact ⟨less.1, less.2.1, less.2.2.le⟩

theorem le_trans (first : x ≤ y) (second : y ≤ z) : x ≤ z := by
  rw [le_iff] at first second ⊢
  exact ⟨first.1, second.2.1, first.2.2.trans second.2.2⟩

theorem lt_of_lt_of_le (first : x < y) (second : y ≤ z) : x < z := by
  rw [lt_iff] at first ⊢
  rw [le_iff] at second
  exact ⟨first.1, second.2.1, first.2.2.trans_le second.2.2⟩

theorem lt_of_le_of_lt (first : x ≤ y) (second : y < z) : x < z := by
  rw [le_iff] at first
  rw [lt_iff] at second ⊢
  exact ⟨first.1, second.2.1, first.2.2.trans_lt second.2.2⟩

/-- Defined values that are not in one strict order are in the other weak one. -/
theorem le_of_not_lt (defined : Scalar.isUndefined x = false)
    (defined' : Scalar.isUndefined y = false) (notLess : ¬x < y) : y ≤ x := by
  rw [lt_iff] at notLess
  rw [le_iff]
  exact ⟨defined', defined, le_of_not_gt fun less => notLess ⟨defined, defined', less⟩⟩

theorem not_le_of_lt (less : x < y) : ¬y ≤ x := by
  rw [lt_iff] at less
  rw [le_iff]
  exact fun le => not_le_of_gt less.2.2 le.2.2

end HasLevel

end RhythmChart
