import RhythmChart.Proofs.Number.Doubles

/-!
# The order of doubles

Finite doubles compare like the rational numbers they denote, since each number has one
form only. Rounding may carry a result out of range, but not the difference of two doubles
neither of which is negative: it is rounded to no more than the greater one.
-/

namespace RhythmChart.Double

open Float.Model
open Float.Model.UnpackedFloat (Sign)

/-- The form in which finite doubles are stored: the leading bit of the significand is set
unless the exponent is the least one. -/
structure Canonical (significand : Nat) (exponent : Int) : Prop where
  bounded : significand < 2 ^ 53
  least : -1074 ≤ exponent
  greatest : exponent ≤ 971
  leading : 2 ^ 52 ≤ significand ∨ exponent = -1074

theorem canonical_unpack {bits : BitVec Format.binary64.numBits} {sign : Sign}
    {significand : Nat} {exponent : Int} {positive : 0 < significand}
    (finite : UnpackedFloat.unpack .binary64 bits =
      .finite sign significand exponent positive) :
    Canonical significand exponent := by
  have exponentBound : (UnpackedFloat.unpackExponent bits).toNat < 2048 :=
    (UnpackedFloat.unpackExponent bits).isLt
  have fractionBound : (UnpackedFloat.unpackMantissa bits).toNat < 2 ^ 52 :=
    (UnpackedFloat.unpackMantissa bits).isLt
  have bias : ((Format.binary64.exponentBias : Int) +
      (Format.binary64.mantissaBitsWithoutImplicit : Int)) = 1075 := rfl
  rw [UnpackedFloat.unpack] at finite
  dsimp only at finite
  rw [bias] at finite
  -- An exponent of ones stands for an infinity or NaN, one of zeros for a number without
  -- leading bit. Any other is a finite number's, whose leading bit is not stored.
  split at finite
  · split at finite <;> cases finite
  · rename_i notOnes
    split at finite
    · rename_i zeroExponent
      split at finite
      · cases finite
      · cases finite
        have none : (UnpackedFloat.unpackExponent bits).toNat = 0 := by
          rw [zeroExponent]; rfl
        exact ⟨by omega, by omega, by omega, .inr (by omega)⟩
    · rename_i nonzero
      cases finite
      have some : (UnpackedFloat.unpackExponent bits).toNat ≠ 0 := fun zero =>
        nonzero (BitVec.eq_of_toNat_eq zero)
      have below : (UnpackedFloat.unpackExponent bits).toNat ≠ 2047 := fun ones =>
        notOnes (BitVec.eq_of_toNat_eq ones)
      have significand : (1#1 ++ UnpackedFloat.unpackMantissa bits).toNat =
          2 ^ 52 + (UnpackedFloat.unpackMantissa bits).toNat := by
        rw [BitVec.toNat_append, ← Nat.shiftLeft_add_eq_or_of_lt fractionBound]
        rfl
      rw [significand]
      exact ⟨by omega, by omega, by omega, .inl (by omega)⟩

theorem magnitude_lt {m m' : Nat} {e e' : Int} (canonical : Canonical m e)
    (canonical' : Canonical m' e') (less : e < e') :
    (m : Rat) * 2 ^ e < (m' : Rat) * 2 ^ e' := by
  have leading : 2 ^ 52 ≤ m' := by
    rcases canonical'.leading with leading | least
    · exact leading
    · have := canonical.least
      omega
  have scale : (2 : Rat) ^ (e + 1) ≤ 2 ^ e' := zpow_le_zpow_right₀ one_le_two (by omega)
  have unit : (0 : Rat) < 2 ^ e := by positivity
  calc (m : Rat) * 2 ^ e
    _ < 2 ^ 53 * 2 ^ e := by
        have bounded : (m : Rat) < 2 ^ 53 := by exact_mod_cast canonical.bounded
        exact mul_lt_mul_of_pos_right bounded unit
    _ = 2 ^ 52 * 2 ^ (e + 1) := by
        rw [zpow_add_one₀ two_ne_zero]
        ring
    _ ≤ (m' : Rat) * 2 ^ e' := by
        have leading : (2 : Rat) ^ 52 ≤ m' := by exact_mod_cast leading
        exact mul_le_mul leading scale (by positivity) (by positivity)

/-- Exponents are compared before significands. -/
theorem compare_magnitude {m m' : Nat} {e e' : Int} (canonical : Canonical m e)
    (canonical' : Canonical m' e') :
    (compare e e').then (compare m m') = compare ((m : Rat) * 2 ^ e)
    ((m' : Rat) * 2 ^ e') := by
  rcases lt_trichotomy e e' with less | rfl | greater
  · rw [Int.compare_eq_lt.mpr less,
    compare_lt_iff_lt.mpr (magnitude_lt canonical canonical' less)]
    rfl
  · have unit : (0 : Rat) < 2 ^ e := by positivity
    rw [Int.compare_eq_eq.mpr rfl, Ordering.then]
    rcases lt_trichotomy m m' with less | rfl | greater
    · rw [Nat.compare_eq_lt.mpr less, compare_lt_iff_lt.mpr]
      exact mul_lt_mul_of_pos_right (Nat.cast_lt.mpr less) unit
    · rw [Nat.compare_eq_eq.mpr rfl, compare_eq_iff_eq.mpr rfl]
    · rw [Nat.compare_eq_gt.mpr greater, compare_gt_iff_gt.mpr]
      exact mul_lt_mul_of_pos_right (Nat.cast_lt.mpr greater) unit
  · rw [Int.compare_eq_gt.mpr greater,
      compare_gt_iff_gt.mpr (magnitude_lt canonical' canonical greater)]
    rfl

theorem swap_compare (a b : Rat) : (compare a b).swap = compare (-a) (-b) := by
  rcases lt_trichotomy a b with less | rfl | greater
  · rw [compare_lt_iff_lt.mpr less, compare_gt_iff_gt.mpr (neg_lt_neg less)]
    rfl
  · rw [compare_eq_iff_eq.mpr rfl, compare_eq_iff_eq.mpr rfl]
    rfl
  · rw [compare_gt_iff_gt.mpr greater, compare_lt_iff_lt.mpr (neg_lt_neg greater)]
    rfl

def value : UnpackedFloat → Rat
  | .finite .positive significand exponent _ => (significand : Rat) * 2 ^ exponent
  | .finite .negative significand exponent _ => -((significand : Rat) * 2 ^ exponent)
  | _ => 0

theorem magnitude_pos {significand : Nat} (positive : 0 < significand) (exponent : Int) :
    (0 : Rat) < (significand : Rat) * 2 ^ exponent := by
  have : (0 : Rat) < significand := Nat.cast_pos.mpr positive
  positivity

theorem value_nonneg {result : UnpackedFloat} (nonneg : Nonneg result) :
    0 ≤ value result := by
  cases result with
  | infinity sign => exact le_refl 0
  | notANumber => exact nonneg.elim
  | zero sign => exact le_refl 0
  | finite sign m e positive =>
      cases nonneg
      exact le_of_lt (magnitude_pos positive e)

/-- Finite doubles compare like the numbers they denote. -/
theorem compare_parts {x y : Float} (finite : (parts x).isFinite = true)
    (finite' : (parts y).isFinite = true) :
    (parts x).compare (parts y) = some (compare (value (parts x)) (value (parts y))) := by
  cases left : parts x with
  | notANumber => rw [left] at finite; cases finite
  | infinity sign => rw [left] at finite; cases finite
  | zero sign =>
      cases right : parts y with
      | notANumber => rw [right] at finite'; cases finite'
      | infinity sign => rw [right] at finite'; cases finite'
      | zero sign' => exact congrArg some (compare_eq_iff_eq.mpr rfl).symm
      | finite sign' m' e' positive' =>
          have size := magnitude_pos positive' e'
          cases sign' with
          | positive => exact congrArg some (compare_lt_iff_lt.mpr size).symm
          | negative =>
              exact congrArg some (compare_gt_iff_gt.mpr (neg_neg_of_pos size)).symm
  | finite sign m e positive =>
      have size := magnitude_pos positive e
      cases right : parts y with
      | notANumber => rw [right] at finite'; cases finite'
      | infinity sign => rw [right] at finite'; cases finite'
      | zero sign' =>
          cases sign with
          | positive => exact congrArg some (compare_gt_iff_gt.mpr size).symm
          | negative =>
              exact congrArg some (compare_lt_iff_lt.mpr (neg_neg_of_pos size)).symm
      | finite sign' m' e' positive' =>
          have size' := magnitude_pos positive' e'
          have magnitudes :=
            compare_magnitude (canonical_unpack left) (canonical_unpack right)
          cases sign with
          | positive =>
              cases sign' with
              | positive => exact congrArg some magnitudes
              | negative =>
                  exact congrArg some
                    (compare_gt_iff_gt.mpr ((neg_neg_of_pos size').trans size)).symm
          | negative =>
              cases sign' with
              | positive =>
                  exact congrArg some
                    (compare_lt_iff_lt.mpr ((neg_neg_of_pos size).trans size')).symm
              | negative =>
                  exact congrArg some
                    ((congrArg Ordering.swap magnitudes).trans (swap_compare _ _))

section Rounding

open Float.Model.UnpackedFloat (ExtendedMantissa)

theorem mantissa_shiftRight (m k : Nat) :
    (ExtendedMantissa.mk m false false >>> k).mantissa = m / 2 ^ k := by
  induction k with
  | zero => exact (Nat.div_one m).symm
  | succ k ih =>
      change (ExtendedMantissa.mk m false false >>> k).mantissa / 2 = m / 2 ^ (k + 1)
      rw [ih, Nat.div_div_eq_div_mul, pow_succ]

/-- Rounding a shifted significand does not lead past a whole number. -/
theorem roundedMantissa_le {m bound k : Nat} (le : m ≤ bound * 2 ^ k) :
    (ExtendedMantissa.mk m false false >>> k).roundedMantissa ≤ bound := by
  have quotient := mantissa_shiftRight m k
  have below : m / 2 ^ k ≤ bound := Nat.div_le_of_le_mul (by rwa [Nat.mul_comm])
  -- Rounding up happens only if the last digit shifted out is set, and then the quotient
  -- is not the bound.
  have up :
      (ExtendedMantissa.mk m false false >>> k).roundBit = true → m / 2 ^ k < bound := by
    cases k with
    | zero => exact fun set => nomatch set
    | succ k =>
        intro set
        have odd : (ExtendedMantissa.mk m false false >>> k).mantissa % 2 ≠ 0 :=
          bne_iff_ne.mp set
        rw [mantissa_shiftRight] at odd
        refine lt_of_le_of_ne below fun same => odd ?_
        have exact' : m = bound * 2 * 2 ^ k := by
          have least := Nat.div_mul_le_self m (2 ^ (k + 1))
          rw [same] at least
          rw [mul_assoc, ← pow_succ']
          exact le_antisymm le least
        rw [exact', Nat.mul_div_cancel _ (by positivity)]
        exact Nat.mul_mod_left _ _
  cases shifted : ExtendedMantissa.mk m false false >>> k with
  | mk mantissa roundBit stickyBit =>
      rw [shifted] at quotient up
      simp only at quotient up
      rw [← quotient] at below up
      cases roundBit with
      | false => cases stickyBit <;> exact below
      | true =>
          have less := up rfl
          cases stickyBit with
          | true => exact less
          | false =>
              change mantissa + mantissa % 2 ≤ bound
              omega

/-- The exponent that a significand is brought to. -/
def target (m : Nat) (e : Int) : Int :=
  max (m.log2 + e - 52) (-1074)

theorem target_eq (m : Nat) (e : Int) : target m e = max (m.log2 + e - 52) (-1074) := rfl

theorem targetExponent_eq (m : Nat) (e : Int) :
    Format.binary64.targetExponent (totalExponent m e) = target m e := by
  unfold Format.targetExponent totalExponent target
  change max ((m.log2 : Int) + 1 + e - 53) (-1074) = _
  congr 1
  omega

/-- Where rounding leaves the exponent: the significand is shifted to its place, rounded,
and shifted once more if it has become too large. -/
theorem exponent_roundWithAccuracy {sign sign' : Sign} {m m' : Nat} {e e' : Int}
    {positive : 0 < m'}
    (rounded : UnpackedFloat.roundWithAccuracy .binary64 sign m e .exact =
      .finite sign' m' e' positive) :
    e' = e + (target m e - e).toNat +
      (target
          (ExtendedMantissa.mk m false false >>> (target m e - e).toNat).roundedMantissa
          (e + (target m e - e).toNat) - (e + (target m e - e).toNat)).toNat := by
  unfold UnpackedFloat.roundWithAccuracy UnpackedFloat.shiftToTargetExponent
    UnpackedFloat.shiftToExponent at rounded
  simp only [targetExponent_eq, ExtendedMantissa.ofMantissaAndAccuracy] at rounded
  split at rounded
  · cases rounded
  · cases rounded
    rfl

theorem log2_lt_of_lt {m k : Nat} (positive : 0 < k) (less : m < 2 ^ k) : m.log2 < k := by
  rcases Nat.eq_zero_or_pos m with rfl | nonzero
  · rwa [Nat.log2_zero]
  · exact (Nat.log2_lt (Nat.ne_of_gt nonzero)).mpr less

/-- A result that is not greater than some double has no greater exponent. -/
theorem exponent_roundWithAccuracy_le {sign sign' : Sign} {m m' bound : Nat}
    {e e' top : Int}
    {positive : 0 < m'} (least : -1074 ≤ e) (order : e ≤ top) (bounded : bound < 2 ^ 53)
    (le : m ≤ bound * 2 ^ (top - e).toNat)
    (rounded : UnpackedFloat.roundWithAccuracy .binary64 sign m e .exact =
      .finite sign' m' e' positive) :
    e' ≤ top := by
  have log : m.log2 < 53 + (top - e).toNat := by
    apply log2_lt_of_lt (by omega)
    calc m
      _ ≤ bound * 2 ^ (top - e).toNat := le
      _ < 2 ^ 53 * 2 ^ (top - e).toNat :=
        Nat.mul_lt_mul_of_pos_right bounded (by positivity)
      _ = 2 ^ (53 + (top - e).toNat) := (pow_add 2 53 _).symm
  have final := exponent_roundWithAccuracy rounded
  generalize shift : (target m e - e).toNat = j at final
  have reach : (m.log2 : Int) - 52 ≤ j ∧ e + j ≤ top := by
    unfold target at shift
    omega
  -- Rounding may carry into a new digit and so raise the exponent by one, but not at the
  -- top, where the significand is still bounded by that of the greater double.
  have carried : (ExtendedMantissa.mk m false false >>> j).roundedMantissa ≤ 2 ^ 53 := by
    apply roundedMantissa_le
    rw [← pow_add]
    exact (Nat.lt_log2_self).le.trans (Nat.pow_le_pow_right two_pos (by omega))
  have atTop : e + j = top →
      (ExtendedMantissa.mk m false false >>> j).roundedMantissa < 2 ^ 53 := by
    intro same
    have index : (top - e).toNat = j := by omega
    rw [index] at le
    exact lt_of_le_of_lt (roundedMantissa_le le) bounded
  generalize (ExtendedMantissa.mk m false false >>> j).roundedMantissa =
    r at final carried atTop
  have logCarried : r.log2 < 54 := log2_lt_of_lt (by omega) (by omega)
  have logTop : e + j = top → r.log2 < 53 :=
    fun same => log2_lt_of_lt (by omega) (atTop same)
  unfold target at final
  omega

theorem exponent_round_le {sign sign' : Sign} {m m' bound : Nat} {e e' top : Int}
    {positive : 0 < m'} (least : -1074 ≤ e) (order : e ≤ top) (bounded : bound < 2 ^ 53)
    (le : m ≤ bound * 2 ^ (top - e).toNat)
    (rounded : UnpackedFloat.round .binary64 sign m e = .finite sign' m' e' positive) :
    e' ≤ top := by
  unfold UnpackedFloat.round UnpackedFloat.decreaseExponent at rounded
  dsimp only at rounded
  rw [targetExponent_eq] at rounded
  have floor : -1074 ≤ target m e := Int.le_max_right _ _
  refine exponent_roundWithAccuracy_le (by omega) (by omega) bounded ?_ rounded
  rw [Nat.shiftLeft_eq]
  calc m * 2 ^ (e - target m e).toNat
    _ ≤ bound * 2 ^ (top - e).toNat * 2 ^ (e - target m e).toNat :=
      Nat.mul_le_mul_right _ le
    _ = bound * 2 ^ ((top - e).toNat + (e - target m e).toNat) := by
      rw [mul_assoc, ← pow_add]
    _ = bound * 2 ^ (top - (e - ((e - target m e).toNat : Int))).toNat := by
        congr 2
        omega

end Rounding

section Difference

theorem IsFiniteOf.isFinite {sign : Sign} {result : UnpackedFloat}
    (finite : IsFiniteOf sign result) : result.isFinite = true := by
  rcases finite with rfl | ⟨_, _, _, rfl⟩ <;> rfl

theorem isFiniteOf_stored {sign : Sign} {significand : Nat} {exponent : Int}
    {positive : 0 < significand} (inRange : exponent ≤ 971) :
    IsFiniteOf sign (stored (.finite sign significand exponent positive)) := by
  rcases stored_finite sign significand exponent positive with finite | ⟨large, -⟩
  · exact finite
  · omega

theorem magnitude_shiftLeft {m : Nat} {e common : Int} (le : common ≤ e) :
    ((m <<< (e - common).toNat : Nat) : Rat) * 2 ^ common = (m : Rat) * 2 ^ e := by
  have whole : (((e - common).toNat : Nat) : Int) = e - common :=
    Int.toNat_of_nonneg (by omega)
  rw [Nat.shiftLeft_eq, Nat.cast_mul, Nat.cast_pow, Nat.cast_two, mul_assoc,
    ← zpow_natCast, whole, ← zpow_add₀ two_ne_zero]
  congr 2
  omega

/-- The difference of two magnitudes is rounded to no more than the greater one. -/
theorem isFiniteOf_sub_magnitudes {m m' : Nat} {e e' : Int} {positive : 0 < m}
    {positive' : 0 < m'} (canonical : Canonical m e) (canonical' : Canonical m' e')
    (le : (m' : Rat) * 2 ^ e' ≤ (m : Rat) * 2 ^ e) :
    IsFiniteOf .positive
      (stored (UnpackedFloat.sub .binary64 (.finite .positive m e positive)
      (.finite .positive m' e' positive'))) := by
  have common : min e e' ≤ e := Int.min_le_left e e'
  have common' : min e e' ≤ e' := Int.min_le_right e e'
  have least : -1074 ≤ min e e' := Int.le_min.mpr ⟨canonical.least, canonical'.least⟩
  have order : m' <<< (e' - min e e').toNat ≤ m <<< (e - min e e').toNat := by
    rw [← magnitude_shiftLeft common, ← magnitude_shiftLeft common'] at le
    exact_mod_cast le_of_mul_le_mul_right le (by positivity)
  unfold UnpackedFloat.sub UnpackedFloat.normalize UnpackedFloat.decreaseExponent
  dsimp only [Sign.apply]
  split
  · rename_i less
    have := Int.compare_eq_lt.mp less
    omega
  · rw [stored_zero]
    exact .inl rfl
  · rename_i difference
    rcases isFiniteOf_round .positive _ _ with zero | ⟨m'', e'', positive'', finite⟩
    · rw [zero, stored_zero]
      exact .inl rfl
    · rw [finite]
      refine isFiniteOf_stored (le_trans ?_ canonical.greatest)
      refine exponent_round_le least common canonical.bounded ?_ finite
      have less : ∀ a b : Nat, ((a : Int) - b).toNat ≤ a := by omega
      rw [← Nat.shiftLeft_eq]
      exact less _ _

end Difference

section Finite

variable {x y : Float}

theorem isFinite_iff : Scalar.isFinite x = true ↔ (parts x).isFinite = true := by
  have parted : Scalar.isFinite x =
      !(stored (UnpackedFloat.sub .binary64 (parts x) (parts x))).isNaN := rfl
  rw [parted]
  cases parts x with
  | notANumber => exact Iff.rfl
  | infinity sign => cases sign <;> exact Iff.rfl
  | zero sign => cases sign <;> exact Iff.rfl
  | finite sign m e positive =>
      have same : UnpackedFloat.sub .binary64 (.finite sign m e positive)
          (.finite sign m e positive) = .zero .positive := by
        unfold UnpackedFloat.sub UnpackedFloat.normalize
        dsimp only
        rw [Int.sub_self]
        rfl
      rw [same]
      exact Iff.rfl

theorem isUndefined_of_isFinite (finite : Scalar.isFinite x = true) :
    Scalar.isUndefined x = false := by
  rw [isFinite_iff] at finite
  rw [← Bool.not_eq_true, isUndefined_iff]
  intro undefined
  rw [undefined] at finite
  cases finite

theorem isFinite_neg (finite : Scalar.isFinite x = true) :
    Scalar.isFinite (-x) = true := by
  rw [isFinite_iff] at finite ⊢
  rw [parts_neg]
  cases taken : parts x with
  | notANumber => rw [taken] at finite; cases finite
  | infinity sign => rw [taken] at finite; cases finite
  | zero sign => cases sign <;> rfl
  | finite sign m e positive =>
      exact (isFiniteOf_stored (canonical_unpack taken).greatest).isFinite

/-- Decimals that are in range are finite. -/
theorem isFinite_of_ofDecimal? {negative : Bool} {digits : Nat} {exponent : Int}
    (read : Scalar.ofDecimal? negative digits exponent = some x) :
    Scalar.isFinite x = true := by
  change (if (Binary64.nearestDecimal digits exponent).isFinite then
    some (if negative then -Binary64.nearestDecimal digits exponent
      else Binary64.nearestDecimal digits exponent) else none) = some x at read
  split at read
  · rename_i inRange
    have finite : Scalar.isFinite (Binary64.nearestDecimal digits exponent) = true :=
      isFinite_iff.mpr inRange
    cases read
    split
    · exact isFinite_neg finite
    · exact finite
  · cases read

theorem lt_iff_value (finite : Scalar.isFinite x = true)
    (finite' : Scalar.isFinite y = true) : x < y ↔ value (parts x) < value (parts y) := by
  rw [isFinite_iff] at finite finite'
  rw [lt_iff_parts, compare_parts finite finite', Option.some_inj, compare_lt_iff_lt]

theorem beq_iff_value (finite : Scalar.isFinite x = true)
    (finite' : Scalar.isFinite y = true) :
    (x == y) = true ↔ value (parts x) = value (parts y) := by
  rw [isFinite_iff] at finite finite'
  rw [beq_iff_parts, compare_parts finite finite', Option.some_inj, compare_eq_iff_eq]

theorem le_iff_value (finite : Scalar.isFinite x = true)
    (finite' : Scalar.isFinite y = true) : x ≤ y ↔ value (parts x) ≤ value (parts y) := by
  rw [isFinite_iff] at finite finite'
  rw [le_iff_parts, compare_parts finite finite', Option.any_some,
    Ordering.isLE_iff_ne_gt, compare_gt_iff_gt]
  exact not_lt

theorem nonneg_of_not_neg (notNeg : ¬x < ((0 : Nat) : Float))
    (finite : Scalar.isFinite x = true) : ((0 : Nat) : Float) ≤ x := by
  rw [not_neg_iff] at notNeg
  rw [isFinite_iff] at finite
  rw [nonneg_iff]
  rcases notNeg with undefined | nonneg
  · rw [undefined] at finite
    cases finite
  · exact nonneg

theorem pos_of_not_nonpos (notNonpos : ¬x ≤ ((0 : Nat) : Float))
    (finite : Scalar.isFinite x = true) : ((0 : Nat) : Float) < x := by
  have zero : Scalar.isFinite ((0 : Nat) : Float) = true := rfl
  rw [le_iff_value finite zero] at notNonpos
  rw [lt_iff_value zero finite]
  exact lt_of_not_ge notNonpos

theorem parts_of_pos (pos : ((0 : Nat) : Float) < x) (finite : Scalar.isFinite x = true) :
    ∃ significand exponent positive,
      parts x = .finite .positive significand exponent positive := by
  rw [pos_iff] at pos
  rw [isFinite_iff] at finite
  cases taken : parts x with
  | notANumber => rw [taken] at finite; cases finite
  | infinity sign => rw [taken] at finite; cases finite
  | zero sign => rw [taken] at pos; cases pos
  | finite sign m e positive =>
      rw [taken] at pos
      cases sign with
      | positive => exact ⟨m, e, positive, rfl⟩
      | negative => cases pos

theorem mul_nonneg_of_pos (left : ((0 : Nat) : Float) ≤ x) (pos : ((0 : Nat) : Float) < y)
    (finite : Scalar.isFinite y = true) : ((0 : Nat) : Float) ≤ x * y := by
  obtain ⟨m, e, positive, right⟩ := parts_of_pos pos finite
  rw [nonneg_iff] at left ⊢
  obtain ⟨sign, signed⟩ := left.hasSign
  have factor : Nonneg (.finite .positive m e positive) := rfl
  rw [parts_mul, right]
  exact ((left.mul factor).nonneg signed.mul).stored

theorem div_nonneg_of_pos (left : ((0 : Nat) : Float) ≤ x) (pos : ((0 : Nat) : Float) < y)
    (finite : Scalar.isFinite y = true) : ((0 : Nat) : Float) ≤ x / y := by
  obtain ⟨m, e, positive, right⟩ := parts_of_pos pos finite
  rw [nonneg_iff] at left ⊢
  obtain ⟨sign, signed⟩ := left.hasSign
  have divisor : HasSign .positive (.finite .positive m e positive) := rfl
  rw [parts_div, right]
  exact ((left.div divisor).nonneg signed.div).stored

theorem mul_nonneg_of_finite (left : ((0 : Nat) : Float) ≤ x)
    (right : ((0 : Nat) : Float) ≤ y)
    (finite : Scalar.isFinite x = true) (finite' : Scalar.isFinite y = true) :
    ((0 : Nat) : Float) ≤ x * y := by
  rw [nonneg_iff] at left right ⊢
  rw [isFinite_iff] at finite finite'
  rw [parts_mul]
  refine Nonneg.stored ?_
  cases taken : parts y with
  | notANumber => rw [taken] at right; exact right.elim
  | infinity sign => rw [taken] at finite'; cases finite'
  | zero sign =>
      cases taken' : parts x with
      | notANumber => rw [taken'] at left; exact left.elim
      | infinity sign => rw [taken'] at finite; cases finite
      | zero sign => trivial
      | finite sign m e positive => trivial
  | finite sign m e positive =>
      rw [taken] at right
      obtain ⟨sign', signed⟩ := left.hasSign
      have product := left.mul right
      cases right
      exact product.nonneg signed.mul

/-- The difference to a double that is not greater is found without overflow. -/
theorem sub_of_le (nonneg : ((0 : Nat) : Float) ≤ y) (le : y ≤ x)
    (finite : Scalar.isFinite x = true) (finite' : Scalar.isFinite y = true) :
    ((0 : Nat) : Float) ≤ x - y ∧ Scalar.isFinite (x - y) = true := by
  rw [le_iff_value finite' finite] at le
  rw [nonneg_iff] at nonneg ⊢
  rw [isFinite_iff] at finite finite' ⊢
  have resolved : ∀ {result}, IsFiniteOf .positive result →
      Nonneg result ∧ result.isFinite = true :=
        fun finite => ⟨finite.nonneg, finite.isFinite⟩
  rw [parts_sub]
  cases taken : parts x with
  | notANumber => rw [taken] at finite; cases finite
  | infinity sign => rw [taken] at finite; cases finite
  | zero sign =>
      cases taken' : parts y with
      | notANumber => rw [taken'] at finite'; cases finite'
      | infinity sign => rw [taken'] at finite'; cases finite'
      | zero sign' => cases sign <;> cases sign' <;> exact ⟨trivial, rfl⟩
      | finite sign' m e positive =>
          rw [taken'] at nonneg
          cases nonneg
          rw [taken, taken'] at le
          exact absurd le (not_le_of_gt (magnitude_pos positive e))
  | finite sign m e positive =>
      have size := magnitude_pos positive e
      rw [taken] at le
      cases sign with
      | negative =>
          exact absurd (le_trans (value_nonneg nonneg) le)
            (not_le_of_gt (neg_neg_of_pos size))
      | positive =>
          cases taken' : parts y with
          | notANumber => rw [taken'] at finite'; cases finite'
          | infinity sign => rw [taken'] at finite'; cases finite'
          | zero sign' =>
              exact resolved (isFiniteOf_stored (canonical_unpack taken).greatest)
          | finite sign' m' e' positive' =>
              rw [taken'] at nonneg le
              cases nonneg
              exact resolved (isFiniteOf_sub_magnitudes (canonical_unpack taken)
                (canonical_unpack taken') le)

end Finite

end RhythmChart.Double
