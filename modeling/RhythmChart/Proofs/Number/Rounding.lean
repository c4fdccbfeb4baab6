import RhythmChart.Proofs.Number.DoubleOrder

/-!
# Rounding is monotone

The result of an operation on doubles is the exact result, rounded: of the numbers with as
many digits as a significand has, it is the nearest one, and of two that are equally near
the even one. A greater number is never rounded to a smaller double, and a double is
rounded to itself. This is all that is needed to compare sums, products and quotients
without looking at their digits.
-/

namespace RhythmChart.Double

open Float.Model
open Float.Model.UnpackedFloat (Sign Accuracy ExtendedMantissa)

/-- A whole number that is nearest to a rational one, and even if
another one is equally near. -/
structure IsNearest (whole : Nat) (exact : Rat) : Prop where
  notBelow : exact ≤ whole + 1 / 2
  notAbove : (whole : Rat) ≤ exact + 1 / 2
  even : exact = whole + 1 / 2 ∨ (whole : Rat) = exact + 1 / 2 → whole % 2 = 0

theorem IsNearest.mono {whole whole' : Nat} {exact exact' : Rat}
    (nearest : IsNearest whole exact)
    (nearest' : IsNearest whole' exact') (le : exact ≤ exact') : whole ≤ whole' := by
  by_contra greater
  have next : whole' + 1 ≤ whole := Nat.lt_of_not_le greater
  have next' : (whole' : Rat) + 1 ≤ whole := by exact_mod_cast next
  have above := nearest.notAbove
  have below := nearest'.notBelow
  -- Both are as far from the exact number as can be, but only one of two neighbours is
  -- even.
  have tie : (whole : Rat) = exact + 1 / 2 := by linarith
  have tie' : exact' = whole' + 1 / 2 := by linarith
  have neighbours : (whole : Rat) = (whole' + 1 : Nat) := by
    push_cast
    linarith
  have even := nearest.even (.inr tie)
  have even' := nearest'.even (.inl tie')
  rw [Nat.cast_inj.mp neighbours] at even
  omega

theorem isNearest_natCast (whole : Nat) : IsNearest whole whole where
  notBelow := by linarith
  notAbove := by linarith
  even := by
    rintro (above | below)
    · linarith
    · linarith

/-- The part of a number that a significand and its round bit hold,
which counts for one half. -/
def held (cut : ExtendedMantissa) : Rat :=
  cut.mantissa + bif cut.roundBit then 1 / 2 else 0

/-- What the residual bits tell of a number: whether the sticky bit is set says whether
there is more to the number than the part that is held. -/
def Tells (cut : ExtendedMantissa) (exact : Rat) : Prop :=
  bif cut.stickyBit then held cut < exact ∧ exact < held cut + 1 / 2 else exact = held cut

theorem held_shiftRightOne (cut : ExtendedMantissa) :
    held cut.shiftRightOne = (cut.mantissa : Rat) / 2 := by
  have digits :
      (cut.mantissa : Rat) = 2 * (cut.mantissa / 2 : Nat) + (cut.mantissa % 2 : Nat) := by
    exact_mod_cast (Nat.div_add_mod cut.mantissa 2).symm
  change ((cut.mantissa / 2 : Nat) : Rat) +
    (bif cut.mantissa % 2 != 0 then 1 / 2 else 0) = _
  rcases Nat.mod_two_eq_zero_or_one cut.mantissa with last | last <;>
    rw [last] at digits ⊢
  · change ((cut.mantissa / 2 : Nat) : Rat) + 0 = _
    rw [digits, Nat.cast_zero]
    ring
  · change ((cut.mantissa / 2 : Nat) : Rat) + 1 / 2 = _
    rw [digits, Nat.cast_one]
    ring

namespace Tells

variable {cut : ExtendedMantissa} {exact : Rat}

theorem isNearest (tells : Tells cut exact) : IsNearest cut.roundedMantissa exact := by
  obtain ⟨m, round, sticky⟩ := cut
  cases round <;> cases sticky
  · obtain rfl : exact = (m : Rat) + 0 := tells
    rw [add_zero]
    exact isNearest_natCast m
  · obtain ⟨above, below⟩ : (m : Rat) + 0 < exact ∧ exact < (m : Rat) + 0 + 1 / 2 := tells
    change IsNearest m exact
    exact ⟨by linarith, by linarith, by rintro (tie | tie) <;> linarith⟩
  · obtain rfl : exact = (m : Rat) + 1 / 2 := tells
    change IsNearest (m + m % 2) ((m : Rat) + 1 / 2)
    rcases Nat.mod_two_eq_zero_or_one m with last | last <;> rw [last]
    · exact ⟨by push_cast; linarith, by push_cast; linarith, fun _ => last⟩
    · exact ⟨by push_cast; linarith, by push_cast; linarith, fun _ => by omega⟩
  · obtain ⟨above, below⟩ : (m : Rat) + 1 / 2 < exact ∧
      exact < (m : Rat) + 1 / 2 + 1 / 2 := tells
    change IsNearest (m + 1) exact
    refine ⟨by push_cast; linarith, by push_cast; linarith, ?_⟩
    push_cast
    rintro (tie | tie) <;> linarith

/-- Shifting moves the last digit to the round bit, and the round bit
joins the sticky bit. -/
theorem shiftRightOne (tells : Tells cut exact) :
    Tells cut.shiftRightOne (exact / 2) := by
  have half := held_shiftRightOne cut
  have joined : cut.shiftRightOne.stickyBit = (cut.roundBit || cut.stickyBit) := rfl
  rw [Tells, half, joined]
  obtain ⟨m, round, sticky⟩ := cut
  cases round <;> cases sticky
  · obtain rfl : exact = (m : Rat) + 0 := tells
    exact congrArg (· / 2) (add_zero _)
  · obtain ⟨above, below⟩ : (m : Rat) + 0 < exact ∧ exact < (m : Rat) + 0 + 1 / 2 := tells
    constructor <;> dsimp only <;> linarith
  · obtain rfl : exact = (m : Rat) + 1 / 2 := tells
    constructor <;> dsimp only <;> linarith
  · obtain ⟨above, below⟩ : (m : Rat) + 1 / 2 < exact ∧
      exact < (m : Rat) + 1 / 2 + 1 / 2 := tells
    constructor <;> dsimp only <;> linarith

theorem shiftRight (tells : Tells cut exact) (count : Nat) :
    Tells (cut >>> count) (exact / 2 ^ count) := by
  induction count with
  | zero =>
      rw [pow_zero, div_one]
      exact tells
  | succ count ih =>
      rw [pow_succ, ← div_div]
      exact ih.shiftRightOne

theorem mantissa_bounds (tells : Tells cut exact) :
    (cut.mantissa : Rat) ≤ exact ∧ exact < cut.mantissa + 1 := by
  obtain ⟨m, round, sticky⟩ := cut
  have half :
      (m : Rat) ≤ held ⟨m, round, sticky⟩ ∧ held ⟨m, round, sticky⟩ ≤ m + 1 / 2 := by
    cases round
    · change (m : Rat) ≤ m + 0 ∧ (m : Rat) + 0 ≤ m + 1 / 2
      constructor <;> linarith
    · change (m : Rat) ≤ m + 1 / 2 ∧ (m : Rat) + 1 / 2 ≤ m + 1 / 2
      constructor <;> linarith
  cases sticky
  · obtain rfl : exact = held ⟨m, round, false⟩ := tells
    exact ⟨half.1, by linarith [half.2]⟩
  · obtain ⟨above, below⟩ :
        held ⟨m, round, true⟩ < exact ∧ exact < held ⟨m, round, true⟩ + 1 / 2 :=
      tells
    exact ⟨by linarith [half.1], by linarith [half.2]⟩

end Tells

/-- The exponent of the last digit that is kept of a number: fifty-three digits are kept,
but none after the last one that any double has. -/
structure Scaled (exact : Rat) (scale : Int) : Prop where
  bounded : exact < 2 ^ 53 * 2 ^ scale
  least : -1074 ≤ scale
  leading : 2 ^ 52 * 2 ^ scale ≤ exact ∨ scale = -1074

/-- Whether a number is another one rounded to the digits that are kept. -/
def Rounded (exact rounded : Rat) : Prop :=
  ∃ scale whole, Scaled exact scale ∧ IsNearest whole (exact / 2 ^ scale) ∧
    rounded = whole * 2 ^ scale

theorem next_scale_le {scale scale' : Int} (less : scale < scale') :
    (2 : Rat) ^ 53 * 2 ^ scale ≤ 2 ^ 52 * 2 ^ scale' := by
  calc (2 : Rat) ^ 53 * 2 ^ scale
    _ = 2 ^ 52 * 2 ^ (scale + 1) := by
        rw [zpow_add_one₀ two_ne_zero]
        ring
    _ ≤ 2 ^ 52 * 2 ^ scale' :=
        mul_le_mul_of_nonneg_left (zpow_le_zpow_right₀ one_le_two less) (by positivity)

theorem Scaled.mono {exact exact' : Rat} {scale scale' : Int}
    (scaled : Scaled exact scale)
    (scaled' : Scaled exact' scale') (le : exact ≤ exact') : scale ≤ scale' := by
  by_contra greater
  rcases scaled.leading with leading | least
  · have next := next_scale_le (lt_of_not_ge greater)
    have bounded := scaled'.bounded
    linarith
  · have least' := scaled'.least
    omega

section Whole

variable {exact : Rat} {scale : Int} {whole : Nat} (scaled : Scaled exact scale)
  (nearest : IsNearest whole (exact / 2 ^ scale))

include scaled nearest

theorem whole_le : whole ≤ 2 ^ 53 := by
  refine nearest.mono (isNearest_natCast (2 ^ 53)) (le_of_lt ?_)
  rw [div_lt_iff₀ (by positivity)]
  exact_mod_cast scaled.bounded

theorem le_whole : 2 ^ 52 ≤ whole ∨ scale = -1074 := by
  refine scaled.leading.imp_left fun leading => ?_
  refine (isNearest_natCast (2 ^ 52)).mono nearest ?_
  rw [le_div_iff₀ (by positivity)]
  exact_mod_cast leading

end Whole

theorem Rounded.mono {exact exact' rounded rounded' : Rat}
    (rounds : Rounded exact rounded)
    (rounds' : Rounded exact' rounded') (le : exact ≤ exact') : rounded ≤ rounded' := by
  obtain ⟨scale, whole, scaled, nearest, rfl⟩ := rounds
  obtain ⟨scale', whole', scaled', nearest', rfl⟩ := rounds'
  rcases lt_or_eq_of_le (scaled.mono scaled' le) with less | rfl
  · have top : (whole : Rat) ≤ 2 ^ 53 := by exact_mod_cast whole_le scaled nearest
    have bottom : (2 : Rat) ^ 52 ≤ whole' := by
      rcases le_whole scaled' nearest' with leading | least
      · exact_mod_cast leading
      · have := scaled.least
        omega
    calc (whole : Rat) * 2 ^ scale
      _ ≤ 2 ^ 53 * 2 ^ scale := mul_le_mul_of_nonneg_right top (by positivity)
      _ ≤ 2 ^ 52 * 2 ^ scale' := next_scale_le less
      _ ≤ whole' * 2 ^ scale' := mul_le_mul_of_nonneg_right bottom (by positivity)
  · have quotients : exact / 2 ^ scale ≤ exact' / 2 ^ scale :=
      div_le_div_of_nonneg_right le (by positivity)
    have wholes : (whole : Rat) ≤ whole' := by
      exact_mod_cast nearest.mono nearest' quotients
    exact mul_le_mul_of_nonneg_right wholes (by positivity)

/-- A significand with an exponent that leaves it no more digits to be kept. -/
structure Fitted (significand : Nat) (exponent : Int) : Prop where
  bounded : significand < 2 ^ 53
  least : -1074 ≤ exponent
  leading : 2 ^ 52 ≤ significand ∨ exponent = -1074

theorem Canonical.fitted {m : Nat} {e : Int} (canonical : Canonical m e) : Fitted m e :=
  ⟨canonical.bounded, canonical.least, canonical.leading⟩

/-- What has no more digits than are kept is not changed. -/
theorem Fitted.rounded {m : Nat} {e : Int} (fitted : Fitted m e) :
    Rounded (m * 2 ^ e) (m * 2 ^ e) := by
  refine ⟨e, m, ⟨?_, fitted.least, ?_⟩, ?_, rfl⟩
  · have bounded : (m : Rat) < 2 ^ 53 := by exact_mod_cast fitted.bounded
    exact mul_lt_mul_of_pos_right bounded (by positivity)
  · refine fitted.leading.imp_left fun leading => ?_
    have leading : (2 : Rat) ^ 52 ≤ m := by exact_mod_cast leading
    exact mul_le_mul_of_nonneg_right leading (by positivity)
  · rw [mul_div_cancel_right₀ _ (by positivity)]
    exact isNearest_natCast m

section Significands

variable {m : Nat} {e : Int} {accuracy : Accuracy} {exact : Rat}
  (tells : Tells (.ofMantissaAndAccuracy m accuracy) exact) (coarse : e ≤ target m e)

theorem mantissa_ofMantissaAndAccuracy (m : Nat) (accuracy : Accuracy) :
    (ExtendedMantissa.ofMantissaAndAccuracy m accuracy).mantissa = m := by
  cases accuracy with
  | exact => rfl
  | inexact half => cases half <;> rfl

include tells coarse

/-- A significand that has all the digits that are kept is brought to the
exponent of the last one. -/
theorem scaled_target : Scaled (exact * 2 ^ e) (target m e) := by
  obtain ⟨above, below⟩ := tells.mantissa_bounds
  rw [mantissa_ofMantissaAndAccuracy] at above below
  have shape := target_eq m e
  refine ⟨?_, Int.le_max_right _ _, ?_⟩
  · have next : (m : Rat) + 1 ≤ 2 ^ (m.log2 + 1) := by exact_mod_cast Nat.lt_log2_self
    calc exact * 2 ^ e
      _ < 2 ^ (m.log2 + 1) * 2 ^ e :=
        mul_lt_mul_of_pos_right (lt_of_lt_of_le below next) (by positivity)
      _ = 2 ^ ((m.log2 + 1 : Nat) + e : Int) := by
        rw [zpow_add₀ two_ne_zero, zpow_natCast]
      _ ≤ 2 ^ ((53 : Nat) + target m e : Int) := zpow_le_zpow_right₀ one_le_two (by omega)
      _ = 2 ^ 53 * 2 ^ target m e := by rw [zpow_add₀ two_ne_zero, zpow_natCast]
  · by_cases floor : target m e = -1074
    · exact .inr floor
    · left
      have nonzero : m ≠ 0 := by
        rintro rfl
        rw [Nat.log2_zero] at shape
        omega
      have leading : (2 : Rat) ^ m.log2 ≤ m := by exact_mod_cast Nat.log2_self_le nonzero
      calc (2 : Rat) ^ 52 * 2 ^ target m e
        _ = 2 ^ ((52 : Nat) + target m e : Int) := by
          rw [zpow_add₀ two_ne_zero, zpow_natCast]
        _ = 2 ^ ((m.log2 : Nat) + e : Int) := by congr 1; omega
        _ = 2 ^ m.log2 * 2 ^ e := by rw [zpow_add₀ two_ne_zero, zpow_natCast]
        _ ≤ exact * 2 ^ e :=
          mul_le_mul_of_nonneg_right (le_trans leading above) (by positivity)

theorem isNearest_target :
    IsNearest
      (ExtendedMantissa.ofMantissaAndAccuracy m accuracy >>>
        (target m e - e).toNat).roundedMantissa
      (exact * 2 ^ e / 2 ^ target m e) := by
  have shift : target m e = e + (target m e - e).toNat := by omega
  have quotient :
      exact * 2 ^ e / 2 ^ target m e = exact / 2 ^ (target m e - e).toNat := by
    nth_rewrite 1 [shift]
    rw [zpow_add₀ two_ne_zero, zpow_natCast, mul_comm,
      mul_div_mul_left _ _ (by positivity)]
  rw [quotient]
  exact (tells.shiftRight _).isNearest

end Significands

/-- A result that may be stored digit by digit, if it is not too large. -/
def Storable (result : UnpackedFloat) : Prop :=
  result = .zero .positive ∨ ∃ significand exponent positive,
    result = .finite .positive significand exponent positive ∧ Fitted significand exponent

/-- The result with a significand and an exponent; zero if there is no digit. -/
def composed (significand : Nat) (exponent : Int) : UnpackedFloat :=
  if zero : significand = 0 then .zero .positive
  else .finite .positive significand exponent (Nat.pos_of_ne_zero zero)

theorem value_composed (m : Nat) (e : Int) : value (composed m e) = m * 2 ^ e := by
  unfold composed
  split
  · rename_i zero
    rw [zero, Nat.cast_zero, zero_mul]
    rfl
  · rfl

theorem Fitted.storable {m : Nat} {e : Int} (fitted : Fitted m e) :
    Storable (composed m e) := by
  unfold composed
  split
  · exact .inl rfl
  · exact .inr ⟨m, e, _, rfl, fitted⟩

/-- A significand that has become too large is brought to the next exponent. -/
def carried (whole : Nat) (scale : Int) : UnpackedFloat :=
  let places := (target whole scale - scale).toNat
  composed (whole / 2 ^ places) (scale + places)

/-- Rounding carries into one more digit at most, and then all others are zero. -/
theorem carried_eq {whole : Nat} {scale : Int} (least : -1074 ≤ scale)
    (top : whole ≤ 2 ^ 53) (bottom : 2 ^ 52 ≤ whole ∨ scale = -1074) :
    value (carried whole scale) = whole * 2 ^ scale ∧ Storable (carried whole scale) := by
  have shape := target_eq whole scale
  rcases lt_or_eq_of_le top with small | rfl
  · have log : whole.log2 < 53 := log2_lt_of_lt (by omega) small
    have none : (target whole scale - scale).toNat = 0 := by omega
    have same : carried whole scale = composed whole scale := by
      rw [carried, none, pow_zero, Nat.div_one, Nat.cast_zero, add_zero]
    rw [same]
    exact ⟨value_composed _ _, Fitted.storable ⟨small, least, bottom⟩⟩
  · rw [Nat.log2_two_pow] at shape
    have one : (target (2 ^ 53) scale - scale).toNat = 1 := by omega
    have next : carried (2 ^ 53) scale = composed (2 ^ 52) (scale + 1) := by
      rw [carried, one]
      rfl
    rw [next]
    refine ⟨?_, Fitted.storable ⟨by omega, by omega, .inl (le_refl _)⟩⟩
    rw [value_composed, zpow_add_one₀ two_ne_zero]
    push_cast
    ring

theorem roundWithAccuracy_eq (m : Nat) (e : Int) (accuracy : Accuracy) :
    UnpackedFloat.roundWithAccuracy .binary64 .positive m e accuracy =
      carried (ExtendedMantissa.ofMantissaAndAccuracy m accuracy >>>
        (target m e - e).toNat).roundedMantissa (e + (target m e - e).toNat) := by
  unfold carried
  dsimp only
  rw [← mantissa_shiftRight, ← targetExponent_eq, ← targetExponent_eq]
  rfl

/-- Results are rounded and may be stored, if there are enough digits to round. -/
theorem rounded_roundWithAccuracy {m : Nat} {e : Int} {accuracy : Accuracy} {exact : Rat}
    (tells : Tells (.ofMantissaAndAccuracy m accuracy) exact) (coarse : e ≤ target m e) :
    Rounded (exact * 2 ^ e)
        (value (UnpackedFloat.roundWithAccuracy .binary64 .positive m e accuracy)) ∧
      Storable (UnpackedFloat.roundWithAccuracy .binary64 .positive m e accuracy) := by
  have scaled := scaled_target tells coarse
  have nearest := isNearest_target tells coarse
  have placed : e + ((target m e - e).toNat : Int) = target m e := by omega
  obtain ⟨result, storable⟩ :=
    carried_eq scaled.least (whole_le scaled nearest) (le_whole scaled nearest)
  rw [roundWithAccuracy_eq, placed]
  exact ⟨⟨_, _, scaled, nearest, result⟩, storable⟩

theorem tells_exact (m : Nat) : Tells (.ofMantissaAndAccuracy m .exact) m :=
  (add_zero (m : Rat)).symm

theorem log2_shiftLeft {m : Nat} (positive : 0 < m) (count : Nat) :
    (m <<< count).log2 = m.log2 + count := by
  induction count with
  | zero => rw [Nat.shiftLeft_zero, Nat.add_zero]
  | succ count ih =>
      have nonzero : m <<< count ≠ 0 := by
        rw [Nat.shiftLeft_eq]
        positivity
      rw [Nat.shiftLeft_succ, Nat.log2_two_mul nonzero, ih, Nat.add_assoc]

/-- Digits are appended where there are too few. -/
theorem rounded_round {m : Nat} (positive : 0 < m) (e : Int) :
    Rounded (m * 2 ^ e) (value (UnpackedFloat.round .binary64 .positive m e)) ∧
      Storable (UnpackedFloat.round .binary64 .positive m e) := by
  generalize places : (e - target m e).toNat = count
  have coarse : e - count ≤ target (m <<< count) (e - count) := by
    have shape := target_eq m e
    have shape' := target_eq (m <<< count) (e - count)
    rw [log2_shiftLeft positive] at shape'
    omega
  have same : ((m <<< count : Nat) : Rat) * 2 ^ (e - count : Int) = m * 2 ^ e := by
    have le : e - count ≤ e := by omega
    have shifted := magnitude_shiftLeft (m := m) le
    rwa [sub_sub_cancel, Int.toNat_natCast] at shifted
  have result := rounded_roundWithAccuracy (tells_exact (m <<< count)) coarse
  rw [same] at result
  unfold UnpackedFloat.round UnpackedFloat.decreaseExponent
  dsimp only
  rw [targetExponent_eq, places]
  exact result

section Storing

theorem finite_congr {sign : Sign} {m m' : Nat} {e e' : Int} {positive : 0 < m}
    {positive' : 0 < m'} (significands : m = m') (exponents : e = e') :
    UnpackedFloat.finite sign m e positive = .finite sign m' e' positive' := by
  subst significands exponents
  rfl

theorem unpack_packComponents_normal (sign : Sign) {exponent : BitVec 11}
    (notOnes : exponent ≠ -1#11) (notZero : exponent ≠ 0#11) (fraction : BitVec 52) :
    ∃ positive, UnpackedFloat.unpack .binary64
        (UnpackedFloat.packComponents .binary64 sign exponent fraction) =
      .finite sign (2 ^ 52 + fraction.toNat) ((exponent.toNat : Int) - 1075)
        positive := by
  have leading : (1#1 ++ fraction).toNat = 2 ^ 52 + fraction.toNat := by
    rw [BitVec.toNat_append, ← Nat.shiftLeft_add_eq_or_of_lt fraction.isLt]
    rfl
  refine ⟨by positivity, ?_⟩
  rw [UnpackedFloat.unpack]
  simp only [UnpackedFloat.unpackMantissa_packComponents,
    UnpackedFloat.unpackExponent_packComponents, UnpackedFloat.unpackSign_packComponents,
    Sign.ofBitVec_toBitVec]
  rw [if_neg notOnes, if_neg notZero]
  exact finite_congr leading rfl

theorem unpack_packComponents_subnormal (sign : Sign) {fraction : BitVec 52}
    (nonzero : fraction ≠ 0#52) :
    ∃ positive, UnpackedFloat.unpack .binary64
        (UnpackedFloat.packComponents .binary64 sign 0#11 fraction) =
      .finite sign fraction.toNat (-1074) positive := by
  have ones : (0#11 : BitVec Format.binary64.exponentBits) ≠ -1#_ := by decide
  refine ⟨Nat.pos_of_ne_zero fun zero => nonzero (BitVec.eq_of_toNat_eq zero), ?_⟩
  rw [UnpackedFloat.unpack]
  simp only [UnpackedFloat.unpackMantissa_packComponents,
    UnpackedFloat.unpackExponent_packComponents, UnpackedFloat.unpackSign_packComponents,
    Sign.ofBitVec_toBitVec]
  rw [if_neg ones, if_pos trivial, dif_neg nonzero]
  rfl

variable {m : Nat} {e : Int} {positive : 0 < m}

/-- What is not too large is stored digit by digit. -/
theorem Fitted.stored_eq (fitted : Fitted m e) (inRange : e ≤ 971) (sign : Sign) :
    stored (.finite sign m e positive) = .finite sign m e positive := by
  obtain ⟨bounded, least, leading⟩ := fitted
  have small : ¬2 ^ Format.binary64.exponentBits ≤ (e + 1075).toNat + 1 := by
    change ¬2048 ≤ (e + 1075).toNat + 1
    omega
  rw [stored, UnpackedFloat.pack]
  dsimp only
  rw [biased_eq, if_neg small]
  by_cases normal : 2 ^ 52 ≤ m
  · have log : m.log2 + 1 = Format.binary64.mantissaBits := by
      rw [(Nat.log2_eq_iff (Nat.ne_of_gt positive)).mpr ⟨normal, bounded⟩]
      rfl
    have exponent : (BitVec.ofNat 11 (e + 1075).toNat).toNat = (e + 1075).toNat := by
      rw [BitVec.toNat_ofNat, Nat.mod_eq_of_lt (by omega)]
    have fraction : (BitVec.ofNat 52 m).toNat = m - 2 ^ 52 := by
      rw [BitVec.toNat_ofNat]
      omega
    have notOnes : BitVec.ofNat 11 (e + 1075).toNat ≠ -1#11 := by
      rw [BitVec.toNat_ne, exponent]
      change _ ≠ 2047
      omega
    have notZero : BitVec.ofNat 11 (e + 1075).toNat ≠ 0#11 := by
      rw [BitVec.toNat_ne, exponent]
      change _ ≠ 0
      omega
    obtain ⟨_, unpacked⟩ :=
      unpack_packComponents_normal sign notOnes notZero (.ofNat 52 m)
    rw [if_pos log]
    refine unpacked.trans (finite_congr ?_ ?_)
    · rw [fraction]
      omega
    · rw [exponent]
      omega
  · have log : ¬m.log2 + 1 = Format.binary64.mantissaBits := by
      have few : m.log2 < 52 := log2_lt_of_lt (by omega) (Nat.lt_of_not_le normal)
      change ¬m.log2 + 1 = 53
      omega
    have fraction : (BitVec.ofNat 52 m).toNat = m := by
      rw [BitVec.toNat_ofNat, Nat.mod_eq_of_lt (Nat.lt_of_not_le normal)]
    have nonzero : BitVec.ofNat 52 m ≠ 0#52 := by
      rw [BitVec.toNat_ne, fraction]
      exact Nat.ne_of_gt positive
    obtain ⟨_, unpacked⟩ := unpack_packComponents_subnormal sign nonzero
    rw [if_neg log]
    refine unpacked.trans (finite_congr fraction ?_)
    omega

theorem stored_of_large (large : 971 < e) (sign : Sign) :
    stored (.finite sign m e positive) = .infinity sign := by
  have tooLarge : 2 ^ Format.binary64.exponentBits ≤ (e + 1075).toNat + 1 := by
    change 2048 ≤ (e + 1075).toNat + 1
    omega
  rw [stored, UnpackedFloat.pack]
  dsimp only
  rw [biased_eq, if_pos tooLarge]
  cases sign <;> rfl

end Storing

end RhythmChart.Double
