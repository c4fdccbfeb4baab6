import Mathlib
import RhythmChart.Number.Binary64
import RhythmChart.Number.Finite

/-!
# Signs of doubles

An operation on doubles takes its operands apart, computes with whole numbers, rounds, and
stores the result. Storing may turn a finite result into zero or into an infinity, but it
keeps the sign, and it makes no number undefined. So signs can be followed through
calculations without regard to what rounding does to the digits.
-/

namespace RhythmChart.Double

open Float.Model
open Float.Model.UnpackedFloat (Sign)

def parts (x : Float) : UnpackedFloat :=
  x.toModel.unpack

/-- What becomes of a result when it is stored. -/
def stored (result : UnpackedFloat) : UnpackedFloat :=
  UnpackedFloat.unpack .binary64 (UnpackedFloat.pack .binary64 result)

theorem parts_add (x y : Float) :
    parts (x + y) = stored (UnpackedFloat.add .binary64 (parts x) (parts y)) := rfl

theorem parts_sub (x y : Float) :
    parts (x - y) = stored (UnpackedFloat.sub .binary64 (parts x) (parts y)) := rfl

theorem parts_mul (x y : Float) :
    parts (x * y) = stored (UnpackedFloat.mul .binary64 (parts x) (parts y)) := rfl

theorem parts_div (x y : Float) :
    parts (x / y) = stored (UnpackedFloat.div .binary64 (parts x) (parts y)) := rfl

theorem parts_neg (x : Float) : parts (-x) = stored (parts x).neg := rfl

theorem parts_zero : parts ((0 : Nat) : Float) = .zero .positive := rfl

theorem lt_iff_parts {x y : Float} : x < y ↔ (parts x).compare (parts y) = some .lt := by
  change decide ((parts x).lt (parts y) = true) = true ↔ _
  rw [decide_eq_true_iff, UnpackedFloat.lt, beq_iff_eq]

theorem le_iff_parts {x y : Float} :
    x ≤ y ↔ ((parts x).compare (parts y)).any Ordering.isLE = true := by
  change decide ((parts x).le (parts y) = true) = true ↔ _
  rw [decide_eq_true_iff, UnpackedFloat.le]

theorem beq_iff_parts {x y : Float} :
    (x == y) = true ↔ (parts x).compare (parts y) = some .eq := by
  change (parts x).beq (parts y) = true ↔ _
  rw [UnpackedFloat.beq, beq_iff_eq]

/-- A finite result of a sign, in any of its forms. -/
def IsFiniteOf (sign : Sign) (result : UnpackedFloat) : Prop :=
  result = .zero sign ∨ ∃ significand exponent positive,
    result = .finite sign significand exponent positive

section Storing

theorem isFiniteOf_unpack_packComponents (sign : Sign) {exponent : BitVec 11}
    (proper : exponent ≠ -1#11) (fraction : BitVec 52) :
    IsFiniteOf sign (UnpackedFloat.unpack .binary64
      (UnpackedFloat.packComponents .binary64 sign exponent fraction)) := by
  rw [UnpackedFloat.unpack]
  simp only [UnpackedFloat.unpackMantissa_packComponents,
    UnpackedFloat.unpackExponent_packComponents, UnpackedFloat.unpackSign_packComponents,
    Sign.ofBitVec_toBitVec]
  rw [if_neg proper]
  split
  · split
    · exact .inl rfl
    · exact .inr ⟨_, _, _, rfl⟩
  · exact .inr ⟨_, _, _, rfl⟩

/-- The exponent of the last digit is stored with a bias. -/
theorem biased_eq (exponent : Int) :
    exponent + (Format.binary64.exponentBias : Int) +
      (Format.binary64.mantissaBitsWithoutImplicit : Int) = exponent + 1075 := by
  change exponent + 1023 + 52 = exponent + 1075
  omega

theorem stored_finite (sign : Sign) (significand : Nat) (exponent : Int)
    (positive : 0 < significand) :
    IsFiniteOf sign (stored (.finite sign significand exponent positive)) ∨
      971 < exponent ∧ stored (.finite sign significand exponent positive) =
        .infinity sign := by
  rw [stored, UnpackedFloat.pack]
  dsimp only
  rw [biased_eq]
  split
  · rename_i large
    have tooLarge : 2048 ≤ (exponent + 1075).toNat + 1 := large
    refine .inr ⟨by omega, ?_⟩
    cases sign <;> rfl
  · rename_i inRange
    have bounded : (exponent + 1075).toNat < 2047 := by
      have := Nat.lt_of_not_le inRange
      omega
    refine .inl ?_
    split
    · apply isFiniteOf_unpack_packComponents
      intro allOnes
      have number := congrArg BitVec.toNat allOnes
      rw [BitVec.toNat_ofNat, Nat.mod_eq_of_lt (by omega)] at number
      exact absurd number (Nat.ne_of_lt bounded)
    · exact isFiniteOf_unpack_packComponents sign (by decide) _

theorem stored_infinity (sign : Sign) : stored (.infinity sign) = .infinity sign := by
  cases sign <;> rfl

theorem stored_zero (sign : Sign) : stored (.zero sign) = .zero sign := by
  cases sign <;> rfl

end Storing

/-- A result that is defined and carries a sign. -/
def HasSign (sign : Sign) : UnpackedFloat → Prop
  | .infinity sign' => sign' = sign
  | .notANumber => False
  | .zero sign' => sign' = sign
  | .finite sign' _ _ _ => sign' = sign

theorem IsFiniteOf.hasSign {sign : Sign} {result : UnpackedFloat}
    (finite : IsFiniteOf sign result) : HasSign sign result := by
  rcases finite with rfl | ⟨_, _, _, rfl⟩ <;> rfl

theorem HasSign.stored {sign : Sign} {result : UnpackedFloat}
    (signed : HasSign sign result) : HasSign sign (stored result) := by
  cases result with
  | infinity sign' => rwa [stored_infinity]
  | notANumber => exact signed
  | zero sign' => rwa [stored_zero]
  | finite sign' significand exponent positive =>
      obtain rfl : sign' = sign := signed
      rcases stored_finite sign' significand exponent positive with finite | ⟨-, infinite⟩
      · exact finite.hasSign
      · rw [infinite]
        rfl

/-- A result that is defined and not less than zero. Both zeros are none less. -/
def Nonneg : UnpackedFloat → Prop
  | .infinity sign => sign = .positive
  | .notANumber => False
  | .zero _ => True
  | .finite sign _ _ _ => sign = .positive

theorem IsFiniteOf.nonneg {result : UnpackedFloat}
    (finite : IsFiniteOf .positive result) : Nonneg result := by
  rcases finite with rfl | ⟨_, _, _, rfl⟩
  · trivial
  · rfl

theorem Nonneg.stored {result : UnpackedFloat} (nonneg : Nonneg result) :
    Nonneg (stored result) := by
  cases result with
  | infinity sign => rwa [stored_infinity]
  | notANumber => exact nonneg
  | zero sign => rwa [stored_zero]
  | finite sign significand exponent positive =>
      cases nonneg
      rcases stored_finite .positive significand exponent positive with finite
        | ⟨-, infinite⟩
      · exact finite.nonneg
      · rw [infinite]
        rfl

/-- A result that is undefined or not less than zero. -/
def NotNeg (result : UnpackedFloat) : Prop :=
  result = .notANumber ∨ Nonneg result

theorem NotNeg.stored {result : UnpackedFloat} (notNeg : NotNeg result) :
    NotNeg (stored result) := by
  rcases notNeg with rfl | nonneg
  · exact .inl rfl
  · exact .inr nonneg.stored

theorem Nonneg.hasSign {result : UnpackedFloat} (nonneg : Nonneg result) :
    ∃ sign, HasSign sign result := by
  cases result with
  | infinity sign => exact ⟨sign, rfl⟩
  | notANumber => exact nonneg.elim
  | zero sign => exact ⟨sign, rfl⟩
  | finite sign significand exponent positive => exact ⟨sign, rfl⟩

theorem HasSign.nonneg {result : UnpackedFloat} (signed : HasSign .positive result) :
    Nonneg result := by
  cases result with
  | infinity sign => exact signed
  | notANumber => exact signed
  | zero sign => trivial
  | finite sign significand exponent positive => exact signed

theorem NotNeg.nonneg {result : UnpackedFloat} {sign : Sign} (notNeg : NotNeg result)
    (signed : HasSign sign result) : Nonneg result := by
  rcases notNeg with rfl | nonneg
  · exact signed.elim
  · exact nonneg

section Rounding

theorem isFiniteOf_roundWithAccuracy (sign : Sign) (significand : Nat) (exponent : Int)
    (accuracy : UnpackedFloat.Accuracy) :
    IsFiniteOf sign
      (UnpackedFloat.roundWithAccuracy .binary64 sign significand exponent accuracy) := by
  unfold UnpackedFloat.roundWithAccuracy
  dsimp only
  split
  · exact .inl rfl
  · exact .inr ⟨_, _, _, rfl⟩

theorem isFiniteOf_round (sign : Sign) (significand : Nat) (exponent : Int) :
    IsFiniteOf sign (UnpackedFloat.round .binary64 sign significand exponent) :=
  isFiniteOf_roundWithAccuracy _ _ _ _

theorem isFiniteOf_normalize {significand : Int} (nonneg : 0 ≤ significand)
    (exponent : Int) :
    IsFiniteOf .positive
      (UnpackedFloat.normalize .binary64 significand exponent .positive) := by
  unfold UnpackedFloat.normalize
  split
  · rename_i less
    exact absurd (Int.compare_eq_lt.mp less) (Int.not_lt.mpr nonneg)
  · exact .inl rfl
  · exact isFiniteOf_round _ _ _

variable {a b : UnpackedFloat}

theorem Nonneg.add (left : Nonneg a) (right : Nonneg b) :
    Nonneg (UnpackedFloat.add .binary64 a b) := by
  cases a with
  | notANumber => exact left.elim
  | infinity sign =>
      cases left
      cases b with
      | notANumber => exact right.elim
      | infinity sign => cases right; rfl
      | zero sign => rfl
      | finite sign significand exponent positive => rfl
  | zero sign =>
      cases b with
      | notANumber => exact right.elim
      | infinity sign => exact right
      | zero sign' => cases sign <;> cases sign' <;> trivial
      | finite sign significand exponent positive => exact right
  | finite sign significand exponent positive =>
      cases left
      cases b with
      | notANumber => exact right.elim
      | infinity sign => exact right
      | zero sign => rfl
      | finite sign significand' exponent' positive' =>
          cases right
          refine (isFiniteOf_normalize ?_ _).nonneg
          exact Int.add_nonneg (Int.natCast_nonneg _) (Int.natCast_nonneg _)

theorem Nonneg.mul (left : Nonneg a) (right : Nonneg b) :
    NotNeg (UnpackedFloat.mul .binary64 a b) := by
  cases a with
  | notANumber => exact left.elim
  | infinity sign =>
      cases left
      cases b with
      | notANumber => exact right.elim
      | infinity sign => cases right; exact .inr rfl
      | zero sign => exact .inl rfl
      | finite sign significand exponent positive => cases right; exact .inr rfl
  | zero sign =>
      cases b with
      | notANumber => exact right.elim
      | infinity sign => exact .inl rfl
      | zero sign => exact .inr trivial
      | finite sign significand exponent positive => exact .inr trivial
  | finite sign significand exponent positive =>
      cases left
      cases b with
      | notANumber => exact right.elim
      | infinity sign => cases right; exact .inr rfl
      | zero sign => exact .inr trivial
      | finite sign significand' exponent' positive' =>
          cases right
          exact .inr (isFiniteOf_roundWithAccuracy .positive _ _ _).nonneg

/-- Division by a positive zero gives a positive infinity. -/
theorem Nonneg.div (left : Nonneg a) (right : HasSign .positive b) :
    NotNeg (UnpackedFloat.div .binary64 a b) := by
  cases a with
  | notANumber => exact left.elim
  | infinity sign =>
      cases left
      cases b with
      | notANumber => exact right.elim
      | infinity sign => exact .inl rfl
      | zero sign => cases right; exact .inr rfl
      | finite sign significand exponent positive => cases right; exact .inr rfl
  | zero sign =>
      cases b with
      | notANumber => exact right.elim
      | infinity sign => exact .inr trivial
      | zero sign => exact .inl rfl
      | finite sign significand exponent positive => exact .inr trivial
  | finite sign significand exponent positive =>
      cases left
      cases b with
      | notANumber => exact right.elim
      | infinity sign => exact .inr trivial
      | zero sign => cases right; exact .inr rfl
      | finite sign significand' exponent' positive' =>
          cases right
          exact .inr (isFiniteOf_roundWithAccuracy .positive _ _ _).nonneg

theorem notANumber_add (b : UnpackedFloat) :
    UnpackedFloat.add .binary64 .notANumber b = .notANumber := by
  cases b <;> rfl

theorem add_notANumber (a : UnpackedFloat) :
    UnpackedFloat.add .binary64 a .notANumber = .notANumber := by
  cases a <;> rfl

theorem notANumber_mul (b : UnpackedFloat) :
    UnpackedFloat.mul .binary64 .notANumber b = .notANumber := by
  cases b <;> rfl

theorem mul_notANumber (a : UnpackedFloat) :
    UnpackedFloat.mul .binary64 a .notANumber = .notANumber := by
  cases a <;> rfl

theorem notANumber_div (b : UnpackedFloat) :
    UnpackedFloat.div .binary64 .notANumber b = .notANumber := by
  cases b <;> rfl

theorem NotNeg.add (left : NotNeg a) (right : NotNeg b) :
    NotNeg (UnpackedFloat.add .binary64 a b) := by
  rcases left with rfl | left
  · exact .inl (notANumber_add b)
  · rcases right with rfl | right
    · exact .inl (add_notANumber a)
    · exact .inr (left.add right)

theorem NotNeg.mul (left : NotNeg a) (right : NotNeg b) :
    NotNeg (UnpackedFloat.mul .binary64 a b) := by
  rcases left with rfl | left
  · exact .inl (notANumber_mul b)
  · rcases right with rfl | right
    · exact .inl (mul_notANumber a)
    · exact left.mul right

theorem NotNeg.div (left : NotNeg a) (right : HasSign .positive b) :
    NotNeg (UnpackedFloat.div .binary64 a b) := by
  rcases left with rfl | left
  · exact .inl (notANumber_div b)
  · exact left.div right

section Divisors

variable {sign : Sign} {significand : Nat} {exponent : Int} {positive : 0 < significand}

/-- Multiplication with a positive finite number keeps the sign. -/
theorem HasSign.mul (signed : HasSign sign a) :
    HasSign sign (UnpackedFloat.mul .binary64 a
      (.finite .positive significand exponent positive)) := by
  cases a with
  | notANumber => exact signed.elim
  | infinity sign' => cases signed; cases sign <;> rfl
  | zero sign' => cases signed; cases sign <;> rfl
  | finite sign' significand' exponent' positive' =>
      cases signed
      cases sign <;> exact (isFiniteOf_roundWithAccuracy _ _ _ _).hasSign

theorem HasSign.div (signed : HasSign sign a) :
    HasSign sign (UnpackedFloat.div .binary64 a
      (.finite .positive significand exponent positive)) := by
  cases a with
  | notANumber => exact signed.elim
  | infinity sign' => cases signed; cases sign <;> rfl
  | zero sign' => cases signed; cases sign <;> rfl
  | finite sign' significand' exponent' positive' =>
      cases signed
      cases sign <;> exact (isFiniteOf_roundWithAccuracy _ _ _ _).hasSign

end Divisors

end Rounding

theorem parts_one : parts Float.exactlyRepresentablePowersOfTen[0] =
    .finite .positive 4503599627370496 (-52) (by decide) := rfl

theorem hasSign_ofScientific (digits : Nat) (exponent : Int) :
    HasSign .positive (UnpackedFloat.ofScientific .binary64 digits exponent) := by
  unfold UnpackedFloat.ofScientific
  split
  · rfl
  · split
    · rfl
    · split
      · rfl
      · split
        · exact (isFiniteOf_roundWithAccuracy .positive _ _ _).hasSign
        · exact (isFiniteOf_roundWithAccuracy .positive _ _ _).hasSign

theorem hasSign_natCast (n : Nat) : HasSign .positive (parts (n : Float)) := by
  change HasSign .positive (parts (Float.ofScientific n false 0))
  unfold Float.ofScientific
  split
  · rename_i small
    dsimp only
    rw [if_neg (by decide), parts_mul]
    rw [parts_one]
    refine (HasSign.mul ?_).stored
    have whole : IsFiniteOf .positive (UnpackedFloat.ofNat .binary64 n.toUInt64.toNat) :=
      isFiniteOf_normalize (Int.natCast_nonneg _) 0
    exact whole.hasSign.stored
  · exact (hasSign_ofScientific n 0).stored

section Comparing

/-- How a result compares to zero, if it is defined. -/
def order : UnpackedFloat → Option Ordering
  | .infinity .positive => some .gt
  | .infinity .negative => some .lt
  | .notANumber => none
  | .zero _ => some .eq
  | .finite .positive _ _ _ => some .gt
  | .finite .negative _ _ _ => some .lt

theorem compare_zero (a : UnpackedFloat) : a.compare (.zero .positive) = order a := by
  cases a with
  | infinity sign => cases sign <;> rfl
  | notANumber => rfl
  | zero sign => rfl
  | finite sign significand exponent positive => cases sign <;> rfl

theorem zero_compare (a : UnpackedFloat) :
    (UnpackedFloat.zero .positive).compare a = (order a).map Ordering.swap := by
  cases a with
  | infinity sign => cases sign <;> rfl
  | notANumber => rfl
  | zero sign => rfl
  | finite sign significand exponent positive => cases sign <;> rfl

/-- What compares equal has the same sign. -/
theorem order_eq_of_beq {a b : UnpackedFloat} (equal : a.beq b = true) :
    order a = order b := by
  obtain ⟨-, -, same | ⟨zero, zero'⟩ | ⟨zero, zero'⟩⟩ :=
    (UnpackedFloat.beq_iff_ne_notANumber_and_eq a b).mp equal
  · rw [same]
  · rw [zero, zero']
    rfl
  · rw [zero, zero']
    rfl

theorem nonneg_iff_order {a : UnpackedFloat} :
    Nonneg a ↔ order a = some .gt ∨ order a = some .eq := by
  cases a with
  | infinity sign => cases sign <;> simp [Nonneg, order]
  | notANumber => simp [Nonneg, order]
  | zero sign => simp [Nonneg, order]
  | finite sign significand exponent positive => cases sign <;> simp [Nonneg, order]

theorem order_eq_none_iff {a : UnpackedFloat} : order a = none ↔ a = .notANumber := by
  constructor
  · intro undefined
    cases a with
    | infinity sign => cases sign <;> cases undefined
    | notANumber => rfl
    | zero sign => cases undefined
    | finite sign significand exponent positive => cases sign <;> cases undefined
  · rintro rfl
    rfl

end Comparing

section Signs

variable {x y : Float}

theorem isUndefined_iff : Scalar.isUndefined x = true ↔ parts x = .notANumber :=
  UnpackedFloat.isNaN_iff

theorem nonneg_iff : ((0 : Nat) : Float) ≤ x ↔ Nonneg (parts x) := by
  rw [le_iff_parts, parts_zero, zero_compare, nonneg_iff_order]
  rcases order (parts x) with _ | (_ | _ | _) <;> decide

theorem not_neg_iff : ¬x < ((0 : Nat) : Float) ↔ NotNeg (parts x) := by
  rw [lt_iff_parts, parts_zero, compare_zero, NotNeg, nonneg_iff_order,
    ← order_eq_none_iff]
  rcases order (parts x) with _ | (_ | _ | _) <;> decide

theorem neg_iff : x < ((0 : Nat) : Float) ↔ order (parts x) = some .lt := by
  rw [lt_iff_parts, parts_zero, compare_zero]

theorem pos_iff : ((0 : Nat) : Float) < x ↔ order (parts x) = some .gt := by
  rw [lt_iff_parts, parts_zero, zero_compare]
  rcases order (parts x) with _ | (_ | _ | _) <;> decide

theorem nonpos_iff :
    x ≤ ((0 : Nat) : Float) ↔ order (parts x) = some .lt ∨
      order (parts x) = some .eq := by
  rw [le_iff_parts, parts_zero, compare_zero]
  rcases order (parts x) with _ | (_ | _ | _) <;> decide

theorem nonneg_natCast (n : Nat) : ((0 : Nat) : Float) ≤ (n : Float) :=
  nonneg_iff.mpr (hasSign_natCast n).nonneg

theorem nonneg_of_pos (pos : ((0 : Nat) : Float) < x) : ((0 : Nat) : Float) ≤ x :=
  nonneg_iff.mpr (nonneg_iff_order.mpr (.inl (pos_iff.mp pos)))

theorem not_neg_of_nonneg (nonneg : ((0 : Nat) : Float) ≤ x) : ¬x < ((0 : Nat) : Float) :=
  not_neg_iff.mpr (.inr (nonneg_iff.mp nonneg))

theorem not_neg_natCast (n : Nat) : ¬(n : Float) < ((0 : Nat) : Float) :=
  not_neg_of_nonneg (nonneg_natCast n)

theorem isZero_of_pos (pos : ((0 : Nat) : Float) < x) : Scalar.isZero x = false := by
  rw [← Bool.not_eq_true]
  intro zero
  have equal := beq_iff_parts.mp zero
  rw [parts_zero, compare_zero, pos_iff.mp pos] at equal
  cases equal

theorem same_self (x : Float) : Scalar.same x x = true := by
  rw [Scalar.same, Bool.or_eq_true, Bool.and_self, isUndefined_iff]
  by_cases undefined : parts x = .notANumber
  · exact .inr undefined
  · exact .inl ((UnpackedFloat.beq_iff_ne_notANumber_and_eq _ _).mpr
      ⟨undefined, undefined, .inl rfl⟩)

theorem nonpos_of_same (same : Scalar.same x y = true)
    (nonpos : x ≤ ((0 : Nat) : Float)) : y ≤ ((0 : Nat) : Float) := by
  rw [Scalar.same, Bool.or_eq_true, Bool.and_eq_true, isUndefined_iff,
    isUndefined_iff] at same
  rw [nonpos_iff] at nonpos ⊢
  rcases same with equal | ⟨undefined, undefined'⟩
  · have signs : order (parts x) = order (parts y) := order_eq_of_beq equal
    rwa [← signs]
  · rwa [undefined', ← undefined]

theorem isUndefined_of_nonneg (nonneg : ((0 : Nat) : Float) ≤ x) :
    Scalar.isUndefined x = false := by
  rw [← Bool.not_eq_true, isUndefined_iff]
  intro undefined
  rw [nonneg_iff, undefined] at nonneg
  exact nonneg

theorem add_nonneg (left : ((0 : Nat) : Float) ≤ x) (right : ((0 : Nat) : Float) ≤ y) :
    ((0 : Nat) : Float) ≤ x + y := by
  rw [nonneg_iff] at left right ⊢
  exact (left.add right).stored

theorem not_neg_add (left : ¬x < ((0 : Nat) : Float)) (right : ¬y < ((0 : Nat) : Float)) :
    ¬x + y < ((0 : Nat) : Float) := by
  rw [not_neg_iff] at left right ⊢
  exact (left.add right).stored

theorem not_neg_mul (left : ¬x < ((0 : Nat) : Float)) (right : ¬y < ((0 : Nat) : Float)) :
    ¬x * y < ((0 : Nat) : Float) := by
  rw [not_neg_iff] at left right ⊢
  exact (left.mul right).stored

theorem not_neg_div (left : ¬x < ((0 : Nat) : Float))
    (right : HasSign .positive (parts y)) : ¬x / y < ((0 : Nat) : Float) := by
  rw [not_neg_iff] at left ⊢
  exact (left.div right).stored

end Signs

end RhythmChart.Double
