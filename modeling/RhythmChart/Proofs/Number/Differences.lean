import RhythmChart.Proofs.Number.Operations

/-!
# Differences

Rounding and storing do not look at signs. So the difference of two finite doubles is a
size with a sign, and the size is what becomes of the exact distance between the two.
-/

namespace RhythmChart.Double

open Float.Model
open Float.Model.UnpackedFloat (Sign)

section Signs

variable {m : Nat} {e : Int} {positive : 0 < m}

theorem round_negative (m : Nat) (e : Int) :
    UnpackedFloat.round .binary64 .negative m e =
      (UnpackedFloat.round .binary64 .positive m e).neg := by
  unfold UnpackedFloat.round UnpackedFloat.roundWithAccuracy
  dsimp only
  split <;> rfl

theorem Storable.stored_neg {result : UnpackedFloat} (storable : Storable result) :
    stored result.neg = (stored result).neg := by
  rcases storable with rfl | ⟨m, e, positive, rfl, fitted⟩
  · rfl
  · change stored (.finite .negative m e positive) = _
    rcases le_or_gt e 971 with inRange | large
    · rw [fitted.stored_eq inRange, fitted.stored_eq inRange]
      rfl
    · rw [stored_of_large large, stored_of_large large]
      rfl

theorem Storable.settled {result : UnpackedFloat} (storable : Storable result) :
    Settled (stored result) := by
  rcases storable with rfl | ⟨m, e, positive, rfl, fitted⟩
  · exact .zero .positive
  · rcases le_or_gt e 971 with inRange | large
    · rw [fitted.stored_eq inRange]
      exact .finite positive ⟨fitted.bounded, fitted.least, inRange, fitted.leading⟩
    · rw [stored_of_large large]
      exact .infinite

/-- A number is the same whatever exponent it is brought to. -/
theorem value_shiftLeft (sign : Sign) {common : Int} (le : common ≤ e) :
    ((sign.apply (m <<< (e - common).toNat : Nat) : Int) : Rat) * 2 ^ common =
      value (.finite sign m e positive) := by
  cases sign with
  | positive =>
      rw [Sign.apply, Int.cast_natCast]
      exact magnitude_shiftLeft le
  | negative =>
      rw [Sign.apply, Int.cast_neg, Int.cast_natCast, neg_mul, magnitude_shiftLeft le]
      rfl

end Signs

theorem Settled.nonneg {result : UnpackedFloat} (settled : Settled result) :
    Nonneg result := by
  cases settled with
  | infinite => rfl
  | zero sign => trivial
  | finite positive canonical => rfl

/-- A size that becomes of an exact one, or its negative. -/
def IsSized (exact : Rat) (result : UnpackedFloat) : Prop :=
  ∃ size, Settled size ∧ Becomes exact (extentOf size) ∧
    (result = size ∨ result = size.neg)

namespace IsSized

theorem finite {m : Nat} {e : Int} (canonical : Canonical m e) (positive : 0 < m)
    (sign : Sign) :
    IsSized |value (.finite sign m e positive)| (stored (.finite sign m e positive)) := by
  refine ⟨.finite .positive m e positive, .finite positive canonical, ?_, ?_⟩
  · have size : |value (.finite sign m e positive)| = m * 2 ^ e := by
      cases sign with
      | positive => exact abs_of_pos (magnitude_pos positive e)
      | negative => exact (abs_neg _).trans (abs_of_pos (magnitude_pos positive e))
    rw [size]
    exact canonical.becomes
  · rw [canonical.fitted.stored_eq canonical.greatest]
    cases sign with
    | positive => exact .inl rfl
    | negative => exact .inr rfl

theorem round {m : Nat} (positive : 0 < m) (e : Int) (sign : Sign) :
    IsSized (m * 2 ^ e) (stored (UnpackedFloat.round .binary64 sign m e)) := by
  have rounds := rounded_round positive e
  refine ⟨_, rounds.2.settled, becomes_stored rounds, ?_⟩
  cases sign with
  | positive => exact .inl rfl
  | negative =>
      right
      rw [round_negative, rounds.2.stored_neg]

theorem normalize (significand : Int) (e : Int) :
    IsSized |significand * 2 ^ e|
      (stored (UnpackedFloat.normalize .binary64 significand e .positive)) := by
  have unit : (0 : Rat) < 2 ^ e := by positivity
  rw [abs_mul, abs_of_pos unit, UnpackedFloat.normalize]
  rcases lt_trichotomy significand 0 with negative | rfl | positive
  · have size : |(significand : Rat)| = (-significand).toNat := by
      rw [← Int.cast_abs, abs_of_neg negative]
      exact_mod_cast (Int.toNat_of_nonneg (by omega)).symm
    rw [Int.compare_eq_lt.mpr negative, size]
    exact round (by omega) e .negative
  · rw [Int.compare_eq_eq.mpr rfl, Int.cast_zero, abs_zero, zero_mul]
    exact ⟨.zero .positive, .zero .positive, becomes_zero, .inl (stored_zero .positive)⟩
  · have size : |(significand : Rat)| = significand.toNat := by
      rw [← Int.cast_abs, abs_of_pos positive]
      exact_mod_cast (Int.toNat_of_nonneg (by omega)).symm
    rw [Int.compare_eq_gt.mpr positive, size]
    exact round (by omega) e .positive

section Sizes

variable {exact : Rat} {x : Float} (sized : IsSized exact (parts x))

include sized

theorem becomes_of_not_neg (notNeg : ¬x < ((0 : Nat) : Float)) :
    ((0 : Nat) : Float) ≤ x ∧ Becomes exact (extent x) := by
  rw [neg_iff] at notNeg
  rw [nonneg_iff, extent]
  obtain ⟨size, settled, becomes, same | opposite⟩ := sized
  · rw [same]
    exact ⟨settled.nonneg, becomes⟩
  · rw [opposite] at notNeg ⊢
    cases settled with
    | infinite => exact absurd rfl notNeg
    | zero sign => exact ⟨trivial, becomes⟩
    | finite positive canonical => exact absurd rfl notNeg

theorem becomes_zero_sub_of_neg (neg : x < ((0 : Nat) : Float)) :
    ((0 : Nat) : Float) ≤ ((0 : Nat) : Float) - x ∧
      Becomes exact (extent (((0 : Nat) : Float) - x)) := by
  rw [neg_iff] at neg
  rw [nonneg_iff, extent, parts_sub, parts_zero]
  obtain ⟨size, settled, becomes, same | opposite⟩ := sized
  · rw [same] at neg
    cases settled <;> cases neg
  · have turned :
        stored (UnpackedFloat.sub .binary64 (.zero .positive) (parts x)) = size := by
      rw [opposite] at neg ⊢
      cases settled with
      | infinite => rfl
      | zero sign => cases neg
      | finite positive canonical => exact (Settled.finite positive canonical).stored
    rw [turned]
    exact ⟨settled.nonneg, becomes⟩

end Sizes

end IsSized

variable {x y : Float}

/-- Which of two numbers is the greater one shows in the sign only. -/
theorem isSized_sub (finite : Scalar.isFinite x = true)
    (finite' : Scalar.isFinite y = true) :
    IsSized |value (parts x) - value (parts y)| (parts (x - y)) := by
  rw [isFinite_iff] at finite finite'
  rw [parts_sub]
  cases left : parts x with
  | notANumber => rw [left] at finite; cases finite
  | infinity sign => rw [left] at finite; cases finite
  | zero sign =>
      cases right : parts y with
      | notANumber => rw [right] at finite'; cases finite'
      | infinity sign => rw [right] at finite'; cases finite'
      | zero sign' =>
          have none : |value (.zero sign) - value (.zero sign')| = 0 := by simp [value]
          rw [none]
          cases sign <;> cases sign' <;> exact ⟨.zero _, .zero _, becomes_zero, .inl rfl⟩
      | finite sign' m' e' positive' =>
          have sized := IsSized.finite (canonical_unpack right) positive' (-sign')
          have opposite : value (.zero sign) - value (.finite sign' m' e' positive') =
              value (.finite (-sign') m' e' positive') := by
            cases sign' with
            | positive => exact zero_sub _
            | negative => exact (zero_sub _).trans (neg_neg _)
          rwa [opposite]
  | finite sign m e positive =>
      cases right : parts y with
      | notANumber => rw [right] at finite'; cases finite'
      | infinity sign => rw [right] at finite'; cases finite'
      | zero sign' =>
          have sized := IsSized.finite (canonical_unpack left) positive sign
          have zero : value (.zero sign') = 0 := rfl
          rwa [zero, sub_zero]
      | finite sign' m' e' positive' =>
          let common := min e e'
          let significand : Int := sign.apply (m <<< (e - common).toNat : Nat) -
            sign'.apply (m' <<< (e' - common).toNat : Nat)
          have difference : (significand : Rat) * 2 ^ common =
              value (.finite sign m e positive) -
                value (.finite sign' m' e' positive') := by
            rw [← value_shiftLeft sign (Int.min_le_left e e'),
              ← value_shiftLeft sign' (Int.min_le_right e e'), ← sub_mul, ← Int.cast_sub]
          rw [← difference]
          exact IsSized.normalize significand common

end RhythmChart.Double
