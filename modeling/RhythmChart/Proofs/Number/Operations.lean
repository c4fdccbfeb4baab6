import RhythmChart.Proofs.Number.Extents

/-!
# Sums, products and quotients

The extent of a sum, a product or a quotient is what becomes of the exact one. So sums
grow with their terms and are not less than any of them, products with a proper fraction
are not greater than the other factor, and no part is more than the whole. Steps of four
are not lost in rounding as long as doubles are no more than four apart.
-/

namespace RhythmChart.Double

open Float.Model
open Float.Model.UnpackedFloat (Sign)

variable {x y : Float}

section Operations

variable {m m' : Nat} {e e' : Int} {positive : 0 < m} {positive' : 0 < m'}

theorem becomes_stored {exact : Rat} {result : UnpackedFloat}
    (rounds : Rounded exact (value result) ∧ Storable result) :
    Becomes exact (extentOf (stored result)) := by
  rw [rounds.2.extentOf_stored]
  exact .finite rounds.1

theorem becomes_infinite : Becomes ⊤ (extentOf (stored (.infinity .positive))) := by
  rw [stored_infinity]
  exact .infinite

theorem round_of_normalize (positive : 0 < m) (e : Int) :
    UnpackedFloat.normalize .binary64 m e .positive =
      UnpackedFloat.round .binary64 .positive m e := by
  rw [UnpackedFloat.normalize, Int.compare_eq_gt.mpr (Int.natCast_pos.mpr positive)]
  rfl

theorem becomes_add_finite :
    Becomes ((m * 2 ^ e + m' * 2 ^ e' : Rat) : WithTop Rat)
      (extentOf (stored (UnpackedFloat.add .binary64 (.finite .positive m e positive)
        (.finite .positive m' e' positive')))) := by
  let sum := m <<< (e - min e e').toNat + m' <<< (e' - min e e').toNat
  have digits : 0 < sum := by
    dsimp only [sum]
    rw [Nat.shiftLeft_eq, Nat.shiftLeft_eq]
    positivity
  have total : (sum : Rat) * 2 ^ min e e' = m * 2 ^ e + m' * 2 ^ e' := by
    rw [← magnitude_shiftLeft (Int.min_le_left e e'),
      ← magnitude_shiftLeft (Int.min_le_right e e'), ← add_mul, ← Nat.cast_add]
  have result : UnpackedFloat.add .binary64 (.finite .positive m e positive)
      (.finite .positive m' e' positive') =
        UnpackedFloat.round .binary64 .positive sum (min e e') :=
    (round_of_normalize digits _).symm ▸ rfl
  rw [result, ← total]
  exact becomes_stored (rounded_round digits _)

theorem becomes_mul_finite (canonical : Canonical m e) (canonical' : Canonical m' e') :
    Becomes ((m * 2 ^ e * (m' * 2 ^ e') : Rat) : WithTop Rat)
      (extentOf (stored (UnpackedFloat.mul .binary64 (.finite .positive m e positive)
        (.finite .positive m' e' positive')))) := by
  have product : ((m * m' : Nat) : Rat) * 2 ^ (e + e') = m * 2 ^ e * (m' * 2 ^ e') := by
    rw [zpow_add₀ two_ne_zero, Nat.cast_mul]
    ring
  have coarse : e + e' ≤ target (m * m') (e + e') := by
    have shape := target_eq (m * m') (e + e')
    have digits : m * m' ≠ 0 := Nat.ne_of_gt (Nat.mul_pos positive positive')
    -- Two significands without leading bit have the least exponent, far below that of the
    -- result.
    have enough : 52 ≤ (m * m').log2 ∨ e + e' ≤ -1074 := by
      rw [Nat.le_log2 digits]
      rcases canonical.leading with leading | least
      · exact .inl (le_trans leading (Nat.le_mul_of_pos_right m positive'))
      · rcases canonical'.leading with leading' | least'
        · exact .inl (le_trans leading' (Nat.le_mul_of_pos_left m' positive))
        · omega
    omega
  have result := rounded_roundWithAccuracy (tells_exact (m * m')) coarse
  rw [product] at result
  exact becomes_stored result

theorem le_target_div (positive : 0 < m) (positive' : 0 < m') {scale : Int}
    (le : scale ≤ e - e')
    (enough : scale ≤ max (m.log2 + e - (m'.log2 + e') - 53) (-1074)) :
    scale ≤ target ((m <<< (e - e' - scale).toNat) / m') scale := by
  have shape := target_eq ((m <<< (e - e' - scale).toNat) / m') scale
  have log := log2_shiftLeft positive (e - e' - scale).toNat
  have nonzero : m <<< (e - e' - scale).toNat ≠ 0 := by
    rw [Nat.shiftLeft_eq]
    positivity
  generalize m <<< (e - e' - scale).toNat = dividend at shape log nonzero ⊢
  by_cases least : scale ≤ -1074
  · omega
  · -- The dividend has fifty-three digits more than the divisor, so fifty-two follow
    -- the first one.
    have digits : 2 ^ 52 ≤ dividend / m' := by
      rw [Nat.le_div_iff_mul_le positive']
      calc 2 ^ 52 * m'
        _ ≤ 2 ^ 52 * 2 ^ (m'.log2 + 1) :=
          Nat.mul_le_mul_left _ (le_of_lt Nat.lt_log2_self)
        _ = 2 ^ (53 + m'.log2) := by rw [← pow_add]; congr 1; omega
        _ ≤ 2 ^ dividend.log2 := Nat.pow_le_pow_right two_pos (by omega)
        _ ≤ dividend := Nat.log2_self_le nonzero
    have some : dividend / m' ≠ 0 := Nat.ne_of_gt (lt_of_lt_of_le (by positivity) digits)
    have logQuotient : 52 ≤ (dividend / m').log2 := (Nat.le_log2 some).mpr digits
    omega

/-- The remainder of a division tells how the quotient lies to the exact one. -/
theorem tells_quotient (positive' : 0 < m') :
    Tells (.ofMantissaAndAccuracy (m / m') (UnpackedFloat.accuracyOfFraction (m % m') m'))
      ((m : Rat) / m') := by
  have divisor : (0 : Rat) < m' := Nat.cast_pos.mpr positive'
  have division : (m : Rat) / m' = (m / m' : Nat) + (m % m' : Nat) / (m' : Rat) := by
    rw [div_eq_iff (ne_of_gt divisor), add_mul, div_mul_cancel₀ _ (ne_of_gt divisor)]
    exact_mod_cast (Nat.div_add_mod' m m').symm
  have less : ((m % m' : Nat) : Rat) / m' < 1 := by
    rw [div_lt_one divisor]
    exact_mod_cast Nat.mod_lt m positive'
  rw [division, UnpackedFloat.accuracyOfFraction]
  generalize m / m' = quotient
  generalize m % m' = remainder at less ⊢
  split
  · rename_i zero
    rw [zero, Nat.cast_zero, zero_div, add_zero]
    exact tells_exact quotient
  · rename_i nonzero
    have some : 0 < (remainder : Rat) / m' :=
      div_pos (Nat.cast_pos.mpr (Nat.pos_of_ne_zero nonzero)) divisor
    rcases lt_trichotomy (2 * remainder) m' with below | half | above
    · have below' : (remainder : Rat) / m' < 1 / 2 := by
        rw [div_lt_div_iff₀ divisor two_pos]
        exact_mod_cast by omega
      rw [Nat.compare_eq_lt.mpr below]
      change (quotient : Rat) + 0 < _ ∧ _ < (quotient : Rat) + 0 + 1 / 2
      constructor <;> linarith
    · have half' : (remainder : Rat) / m' = 1 / 2 := by
        rw [div_eq_div_iff (ne_of_gt divisor) two_ne_zero]
        exact_mod_cast by omega
      rw [Nat.compare_eq_eq.mpr half, half']
      rfl
    · have above' : 1 / 2 < (remainder : Rat) / m' := by
        rw [div_lt_div_iff₀ two_pos divisor]
        exact_mod_cast by omega
      rw [Nat.compare_eq_gt.mpr above]
      change (quotient : Rat) + 1 / 2 < _ ∧ _ < (quotient : Rat) + 1 / 2 + 1 / 2
      constructor <;> linarith

theorem becomes_div_finite :
    Becomes ((m * 2 ^ e / (m' * 2 ^ e') : Rat) : WithTop Rat)
      (extentOf (stored (UnpackedFloat.div .binary64 (.finite .positive m e positive)
        (.finite .positive m' e' positive')))) := by
  let scale := min (e - e')
    (Format.binary64.targetExponent (totalExponent m e - totalExponent m' e'))
  let dividend := m <<< (e - e' - scale).toNat
  have le : scale ≤ e - e' := Int.min_le_left _ _
  have enough : scale ≤ max (m.log2 + e - (m'.log2 + e') - 53) (-1074) := by
    refine le_trans (Int.min_le_right _ _) ?_
    change max ((m.log2 : Int) + 1 + e - (m'.log2 + 1 + e') - 53) (-1074) ≤ _
    omega
  have quotient : (dividend : Rat) / m' * 2 ^ scale = m * 2 ^ e / (m' * 2 ^ e') := by
    rw [div_mul_eq_mul_div, magnitude_shiftLeft le, zpow_sub₀ two_ne_zero,
      ← mul_div_assoc, div_div, mul_comm (2 ^ e' : Rat)]
  rw [← quotient]
  exact becomes_stored (rounded_roundWithAccuracy (tells_quotient positive')
    (le_target_div positive positive' le enough))

variable {a b : UnpackedFloat}

namespace Settled

theorem add (settled : Settled a) (settled' : Settled b) :
    Becomes (extentOf a + extentOf b)
      (extentOf (Double.stored (UnpackedFloat.add .binary64 a b))) := by
  cases settled with
  | infinite =>
      have sum : extentOf (.infinity .positive) + extentOf b = ⊤ :=
        WithTop.top_add (extentOf b)
      rw [sum]
      cases settled' <;> exact becomes_infinite
  | zero sign =>
      have same : extentOf (Double.stored (UnpackedFloat.add .binary64 (.zero sign) b)) =
          extentOf b := by
        cases settled' with
        | infinite => exact congrArg extentOf (stored_infinity .positive)
        | zero sign' => cases sign <;> cases sign' <;> rfl
        | finite positive canonical =>
            exact congrArg extentOf (finite positive canonical).stored
      rw [same]
      exact (zero_add (extentOf b)).symm ▸ settled'.becomes
  | @finite m e positive canonical =>
      cases settled' with
      | infinite => exact becomes_infinite
      | zero sign =>
          have own := finite positive canonical
          have same : extentOf (Double.stored (UnpackedFloat.add .binary64
              (.finite .positive m e positive) (.zero sign))) =
                extentOf (.finite .positive m e positive) :=
            congrArg extentOf own.stored
          rw [same]
          exact (add_zero (extentOf (.finite .positive m e positive))).symm ▸ own.becomes
      | finite positive' canonical' => exact becomes_add_finite

/-- Only finite factors are allowed: an infinity times zero is undefined. -/
theorem mul (settled : Settled a) (settled' : Settled b) (finite : a.isFinite = true)
    (finite' : b.isFinite = true) :
    Becomes ((value a * value b : Rat) : WithTop Rat)
      (extentOf (Double.stored (UnpackedFloat.mul .binary64 a b))) := by
  have nothing : ∀ sign, extentOf (Double.stored (.zero sign)) = 0 := by
    intro sign
    rw [stored_zero]
    rfl
  cases settled with
  | infinite => cases finite
  | zero sign =>
      rw [show value (.zero sign) * value b = 0 from zero_mul _]
      cases settled' with
      | infinite => cases finite'
      | zero sign' => exact (nothing _).symm ▸ becomes_zero
      | finite positive' canonical' => exact (nothing _).symm ▸ becomes_zero
  | finite positive canonical =>
      cases settled' with
      | infinite => cases finite'
      | zero sign' =>
          rw [show _ * value (.zero sign') = 0 from mul_zero _]
          exact (nothing _).symm ▸ becomes_zero
      | finite positive' canonical' => exact becomes_mul_finite canonical canonical'

end Settled

end Operations

section Defined

theorem isUndefined_eq_false_iff : Scalar.isUndefined x = false ↔
      parts x ≠ .notANumber := by
  rw [← Bool.not_eq_true, isUndefined_iff]

theorem notANumber_compare (b : UnpackedFloat) :
    UnpackedFloat.notANumber.compare b = none := by
  cases b <;> rfl

theorem compare_notANumber (a : UnpackedFloat) : a.compare .notANumber = none := by
  cases a <;> rfl

theorem defined_of_compare {order : Ordering}
    (compared : (parts x).compare (parts y) = some order) :
    parts x ≠ .notANumber ∧ parts y ≠ .notANumber := by
  constructor
  · intro undefined
    rw [undefined, notANumber_compare] at compared
    cases compared
  · intro undefined
    rw [undefined, compare_notANumber] at compared
    cases compared

theorem defined_of_lt (less : x < y) :
    Scalar.isUndefined x = false ∧ Scalar.isUndefined y = false := by
  rw [lt_iff_parts] at less
  rw [isUndefined_eq_false_iff, isUndefined_eq_false_iff]
  exact defined_of_compare less

theorem nonneg_of_defined (notNeg : ¬x < ((0 : Nat) : Float))
    (defined : Scalar.isUndefined x = false) : ((0 : Nat) : Float) ≤ x := by
  rw [isUndefined_eq_false_iff] at defined
  rw [not_neg_iff] at notNeg
  exact nonneg_iff.mpr (notNeg.resolve_left defined)

/-- Nothing is defined that is calculated from an undefined number. -/
theorem defined_operands {operation : UnpackedFloat → UnpackedFloat → UnpackedFloat}
    (left : ∀ b, operation .notANumber b = .notANumber)
    (right : ∀ a, operation a .notANumber = .notANumber)
    (defined : stored (operation (parts x) (parts y)) ≠ .notANumber) :
    Scalar.isUndefined x = false ∧ Scalar.isUndefined y = false := by
  rw [isUndefined_eq_false_iff, isUndefined_eq_false_iff]
  constructor
  · intro undefined
    rw [undefined, left] at defined
    exact defined rfl
  · intro undefined
    rw [undefined, right] at defined
    exact defined rfl

theorem defined_of_add (defined : Scalar.isUndefined (x + y) = false) :
    Scalar.isUndefined x = false ∧ Scalar.isUndefined y = false := by
  rw [isUndefined_eq_false_iff, parts_add] at defined
  exact defined_operands notANumber_add add_notANumber defined

theorem defined_of_mul (defined : Scalar.isUndefined (x * y) = false) :
    Scalar.isUndefined x = false ∧ Scalar.isUndefined y = false := by
  rw [isUndefined_eq_false_iff, parts_mul] at defined
  exact defined_operands notANumber_mul mul_notANumber defined

end Defined

section Whole

/-- The form of the powers of two: the leading bit alone, fifty-two
digits before the last one. -/
theorem canonical_leading {e : Int} (least : -1074 ≤ e) (greatest : e ≤ 971) :
    Canonical 4503599627370496 e :=
  ⟨by norm_num, least, greatest, .inl (by norm_num)⟩

theorem extent_mul_one (nonneg : ((0 : Nat) : Float) ≤ x) :
    extent (x * Float.exactlyRepresentablePowersOfTen[0]) = extent x := by
  have settled := settled_parts nonneg
  unfold extent
  rw [parts_mul, parts_one]
  rcases settled.infinite_or_isFinite with infinite | finite
  · rw [infinite]
    exact congrArg extentOf (stored_infinity .positive)
  · have canonical : Canonical 4503599627370496 (-52) :=
      canonical_leading (by decide) (by decide)
    have one : value (.finite .positive 4503599627370496 (-52) (by decide)) = 1 := by
      change ((4503599627370496 : Nat) : Rat) * 2 ^ (-52 : Int) = 1
      norm_num
    have product := settled.mul (.finite (by decide) canonical) finite rfl
    rw [one, mul_one, ← extentOf_of_isFinite finite] at product
    exact product.unique settled.becomes

theorem becomes_ofNat (n : Nat) :
    Becomes ((n : Rat) : WithTop Rat)
    (extentOf (stored (UnpackedFloat.ofNat .binary64 n))) := by
  rcases Nat.eq_zero_or_pos n with rfl | positive
  · exact becomes_zero
  · have rounds := rounded_round positive 0
    rw [zpow_zero, mul_one] at rounds
    unfold UnpackedFloat.ofNat UnpackedFloat.ofInt
    rw [round_of_normalize positive]
    exact becomes_stored rounds

theorem mul_finite (positive : 0 < m) (e : Int) (positive' : 0 < m') (e' : Int) :
    UnpackedFloat.mul .binary64 (.finite .positive m e positive)
        (.finite .positive m' e' positive') =
      UnpackedFloat.roundWithAccuracy .binary64 .positive (m * m') (e + e') .exact := rfl

theorem becomes_ofScientific {n : Nat} (positive : 0 < n) :
    Becomes ((n : Rat) : WithTop Rat)
      (extentOf (stored (UnpackedFloat.ofScientific .binary64 n 0))) := by
  have coarse : (-53 : Int) ≤ target (n <<< 53) (-53) := by
    rw [target_eq, log2_shiftLeft positive]
    omega
  have digits : ((n <<< 53 : Nat) : Rat) * 2 ^ (-53 : Int) = n := by
    have least : (-53 : Int) ≤ 0 := by decide
    exact (magnitude_shiftLeft least).trans (by rw [zpow_zero, mul_one])
  have rounds := rounded_roundWithAccuracy (tells_exact (n <<< 53)) coarse
  have high : ¬(0 : Int) > 2 ^ Format.binary64.exponentBits := by decide
  have low : ¬(0 : Int) < -((2 ^ Format.binary64.exponentBits : Int) + n.log2) := by
    change ¬(0 : Int) < -(2048 + (n.log2 : Int))
    omega
  have bits : Format.binary64.mantissaBits = 53 := rfl
  have power : 10 ^ Int.toNat 0 = 1 := rfl
  have exponent : -((53 : Nat) : Int) + 0 = -53 := rfl
  unfold UnpackedFloat.ofScientific
  rw [dif_neg (Nat.ne_of_gt positive), if_neg high, if_neg low, if_pos (Int.le_refl 0),
    mul_finite, bits, power, exponent, mul_one, ← digits]
  exact becomes_stored rounds

/-- A whole number is rounded as it is. -/
theorem becomes_natCast (n : Nat) :
    Becomes ((n : Rat) : WithTop Rat) (extent (n : Float)) := by
  change Becomes _ (extent (Float.ofScientific n false 0))
  unfold Float.ofScientific
  split
  · rename_i small
    dsimp only
    have whole : n.toUInt64.toNat = n := Nat.mod_eq_of_lt (lt_trans small.1 (by norm_num))
    have taken : parts n.toUInt64.toFloat = stored (UnpackedFloat.ofNat .binary64 n) := by
      change stored (UnpackedFloat.ofNat .binary64 n.toUInt64.toNat) = _
      rw [whole]
    have nonneg : ((0 : Nat) : Float) ≤ n.toUInt64.toFloat := by
      have finite : IsFiniteOf .positive (UnpackedFloat.ofNat .binary64 n) :=
        isFiniteOf_normalize (Int.natCast_nonneg n) 0
      rw [nonneg_iff, taken]
      exact finite.nonneg.stored
    rw [if_neg (by decide), extent_mul_one nonneg, extent, taken]
    exact becomes_ofNat n
  · rename_i large
    exact becomes_ofScientific (by omega)

end Whole

section Comparing

variable (nonneg : ((0 : Nat) : Float) ≤ x)

include nonneg

theorem becomes_extent : Becomes (extent x) (extent x) :=
  (settled_parts nonneg).becomes

theorem becomes_add (nonneg' : ((0 : Nat) : Float) ≤ y) :
    Becomes (extent x + extent y) (extent (x + y)) :=
  (settled_parts nonneg).add (settled_parts nonneg')

/-- A sum is not less than a term of it. -/
theorem le_sum (nonneg' : ((0 : Nat) : Float) ≤ y) : x ≤ x + y := by
  rw [le_iff_extent nonneg (add_nonneg nonneg nonneg')]
  exact (becomes_extent nonneg).mono (becomes_add nonneg nonneg')
    (le_add_of_nonneg_right (settled_parts nonneg').extentOf_nonneg)

theorem sum_le_sum {x' y' : Float} (nonneg' : ((0 : Nat) : Float) ≤ y) (le : x ≤ x')
    (le' : y ≤ y') (more : ((0 : Nat) : Float) ≤ x') (more' : ((0 : Nat) : Float) ≤ y') :
    x + y ≤ x' + y' := by
  rw [le_iff_extent nonneg more] at le
  rw [le_iff_extent nonneg' more'] at le'
  rw [le_iff_extent (add_nonneg nonneg nonneg') (add_nonneg more more')]
  exact (becomes_add nonneg nonneg').mono (becomes_add more more') (add_le_add le le')

end Comparing

/-- A whole number with few digits is one of the doubles. -/
theorem extent_natCast {n m : Nat} {e : Int} (canonical : Canonical m e)
    (same : (n : Rat) = m * 2 ^ e) : extent (n : Float) = ((n : Rat) : WithTop Rat) := by
  refine (becomes_natCast n).unique ?_
  rw [same]
  exact canonical.becomes

theorem extent_two_pow {k : Nat} (small : k ≤ 1023) :
    extent ((2 ^ k : Nat) : Float) = ((2 ^ k : Rat) : WithTop Rat) := by
  have same :
      ((2 ^ k : Nat) : Rat) = (4503599627370496 : Nat) * 2 ^ ((k : Int) - 52) := by
    rw [zpow_sub₀ two_ne_zero, zpow_natCast]
    push_cast
    ring
  have extent := extent_natCast (canonical_leading (by omega) (by omega)) same
  rwa [Nat.cast_pow] at extent

theorem extent_one : extent ((1 : Nat) : Float) = ((1 : Rat) : WithTop Rat) := by
  have extent := extent_two_pow (Nat.zero_le 1023)
  rwa [pow_zero, pow_zero] at extent

theorem extent_four : extent ((4 : Nat) : Float) = ((4 : Rat) : WithTop Rat) := by
  have square : (2 : Rat) ^ 2 = 4 := by norm_num
  have extent := extent_two_pow (k := 2) (by decide)
  rwa [square] at extent

/-- A product with a proper fraction is not greater than the other
factor. It may be undefined. -/
theorem not_lt_mul {fraction : Float} (nonneg : ((0 : Nat) : Float) ≤ x)
    (notNeg : ¬fraction < ((0 : Nat) : Float))
    (proper : ¬((1 : Nat) : Float) < fraction) : ¬x < x * fraction := by
  intro greater
  obtain ⟨-, defined⟩ := defined_of_lt greater
  obtain ⟨-, defined'⟩ := defined_of_mul defined
  have nonneg' := nonneg_of_defined notNeg defined'
  have product :=
    nonneg_of_defined (not_neg_mul (not_neg_of_nonneg nonneg) notNeg) defined
  rw [lt_iff_extent nonneg product] at greater
  rw [lt_iff_extent (nonneg_natCast 1) nonneg', extent_one, not_lt] at proper
  have settled := settled_parts nonneg
  have settled' := settled_parts nonneg'
  rcases settled.infinite_or_isFinite with infinite | finite
  · rw [extent, infinite] at greater
    exact absurd greater not_top_lt
  · rcases settled'.infinite_or_isFinite with infinite' | finite'
    · rw [extent, infinite'] at proper
      exact absurd proper (not_le_of_gt (WithTop.coe_lt_top 1))
    · have own : extent x = _ := extentOf_of_isFinite finite
      have own' : extent fraction = _ := extentOf_of_isFinite finite'
      have small : value (parts fraction) ≤ 1 := WithTop.coe_le_coe.mp (own' ▸ proper)
      have less : value (parts x) * value (parts fraction) ≤ value (parts x) :=
        mul_le_of_le_one_right (value_nonneg (nonneg_iff.mp nonneg)) small
      have becomes : Becomes _ (extent (x * fraction)) :=
        settled.mul settled' finite finite'
      refine absurd greater (not_lt_of_ge (becomes.mono (becomes_extent nonneg) ?_))
      rw [own]
      exact WithTop.coe_le_coe.mpr less

theorem Settled.div_le_one {a b : UnpackedFloat} (settled : Settled a)
    (settled' : Settled b) (le : extentOf a ≤ extentOf b) :
    extentOf (Double.stored (UnpackedFloat.div .binary64 a b)) ≤
      ((1 : Rat) : WithTop Rat) := by
  have nothing :
      ∀ sign, extentOf (Double.stored (.zero sign)) ≤ ((1 : Rat) : WithTop Rat) := by
    intro sign
    rw [stored_zero]
    exact WithTop.coe_le_coe.mpr zero_le_one
  have undefined : extentOf (Double.stored .notANumber) ≤ ((1 : Rat) : WithTop Rat) :=
    WithTop.coe_le_coe.mpr zero_le_one
  cases settled with
  | infinite =>
      cases settled' with
      | infinite => exact undefined
      | zero sign' => exact absurd le (not_le_of_gt (WithTop.coe_lt_top 0))
      | finite positive' canonical' =>
          exact absurd le (not_le_of_gt (WithTop.coe_lt_top _))
  | zero sign =>
      cases settled' with
      | infinite => exact nothing _
      | zero sign' => exact undefined
      | finite positive' canonical' => exact nothing _
  | finite positive canonical =>
      have size := magnitude_pos positive
      cases settled' with
      | infinite => exact nothing _
      | zero sign' => exact absurd le (not_le_of_gt (WithTop.coe_lt_coe.mpr (size _)))
      | finite positive' canonical' =>
          refine becomes_div_finite.mono
            (extent_one ▸ becomes_extent (nonneg_natCast 1)) ?_
          refine WithTop.coe_le_coe.mpr (div_le_one_of_le₀ (WithTop.coe_le_coe.mp le) ?_)
          exact le_of_lt (magnitude_pos positive' _)

/-- Whole numbers are rounded before they are divided, and still no part
is more than the whole. -/
theorem not_one_lt_div {part whole : Nat} (le : part ≤ whole) :
    ¬((1 : Nat) : Float) < (part : Float) / (whole : Float) := by
  intro greater
  have notNeg := not_neg_div (not_neg_natCast part) (hasSign_natCast whole)
  have nonneg := nonneg_of_defined notNeg (defined_of_lt greater).2
  rw [lt_iff_extent (nonneg_natCast 1) nonneg, extent_one] at greater
  refine absurd greater (not_lt_of_ge ?_)
  refine (settled_parts (nonneg_natCast part)).div_le_one
    (settled_parts (nonneg_natCast whole)) ?_
  exact (becomes_natCast part).mono (becomes_natCast whole)
    (WithTop.coe_le_coe.mpr (Nat.cast_le.mpr le))

/-- One more in the last digit leads to another number with as few digits. -/
theorem Fitted.rounded_next {m : Nat} {e : Int} (fitted : Fitted m e) :
    Rounded ((m + 1 : Nat) * 2 ^ e) ((m + 1 : Nat) * 2 ^ e) := by
  obtain ⟨bounded, least, leading⟩ := fitted
  rcases lt_or_eq_of_le (Nat.succ_le_of_lt bounded) with small | full
  · exact Fitted.rounded ⟨small, least, leading.imp_left fun leading =>
      Nat.le_succ_of_le leading⟩
  · have next : Fitted (2 ^ 52) (e + 1) := ⟨by norm_num, by omega, .inl (le_refl _)⟩
    have same : ((m + 1 : Nat) : Rat) * 2 ^ e = (2 ^ 52 : Nat) * 2 ^ (e + 1) := by
      rw [show m + 1 = 2 ^ 53 from full, zpow_add_one₀ two_ne_zero]
      push_cast
      ring
    rw [same]
    exact next.rounded

/-- As long as doubles are no more than four apart, there is one in every step of four. -/
theorem Settled.exists_next {a : UnpackedFloat} (settled : Settled a)
    (small : extentOf a < ((2 ^ 55 : Rat) : WithTop Rat)) :
    ∃ next : Rat, Rounded next next ∧ extentOf a < next ∧
      (next : WithTop Rat) ≤ extentOf a + ((4 : Rat) : WithTop Rat) := by
  cases settled with
  | infinite => exact absurd small (not_lt_of_ge le_top)
  | zero sign =>
      refine ⟨_,
        (canonical_leading (e := -52) (by decide) (by decide)).fitted.rounded, ?_, ?_⟩
      · exact WithTop.coe_lt_coe.mpr (by norm_num)
      · exact WithTop.coe_le_coe.mpr (by norm_num)
  | @finite m e positive canonical =>
      replace small : (m : Rat) * 2 ^ e < 2 ^ 55 := WithTop.coe_lt_coe.mp small
      have scale : e ≤ 2 := by
        by_contra large
        have leading : (2 : Rat) ^ 52 ≤ m := by
          rcases canonical.leading with leading | least
          · exact_mod_cast leading
          · omega
        have scaled : (2 : Rat) ^ (3 : Int) ≤ 2 ^ e :=
          zpow_le_zpow_right₀ one_le_two (by omega)
        have product := mul_le_mul leading scaled (by positivity) (by positivity)
        norm_num at product small
        linarith
      have step : (2 : Rat) ^ e ≤ 2 ^ (2 : Int) := zpow_le_zpow_right₀ one_le_two scale
      have unit : (0 : Rat) < 2 ^ e := by positivity
      refine ⟨_, canonical.fitted.rounded_next, ?_, ?_⟩
      · refine WithTop.coe_lt_coe.mpr (mul_lt_mul_of_pos_right ?_ unit)
        exact Nat.cast_lt.mpr (Nat.lt_succ_self m)
      · refine WithTop.coe_le_coe.mpr ?_
        change ((m + 1 : Nat) : Rat) * 2 ^ e ≤ (m : Rat) * 2 ^ e + 4
        push_cast
        norm_num at step
        linarith

theorem lt_add_four (nonneg : ((0 : Nat) : Float) ≤ x)
    (small : x < ((2 ^ 55 : Nat) : Float)) : x < x + ((4 : Nat) : Float) := by
  rw [lt_iff_extent nonneg (nonneg_natCast _), extent_two_pow (by decide)] at small
  rw [lt_iff_extent nonneg (add_nonneg nonneg (nonneg_natCast 4))]
  obtain ⟨next, rounded, less, le⟩ := (settled_parts nonneg).exists_next small
  have sum := becomes_add nonneg (nonneg_natCast 4)
  rw [extent_four] at sum
  calc extent x
    _ < next := less
    _ ≤ kept next := le_kept next
    _ ≤ extent (x + ((4 : Nat) : Float)) := (Becomes.finite rounded).mono sum le

end RhythmChart.Double
