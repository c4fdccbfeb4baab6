import RhythmChart.Proofs.Number.Rounding

/-!
# The extents of doubles

Doubles that are not negative are ordered like their extents: the numbers they denote, and
an infinity after all of them. What becomes of an exact result is settled by its extent:
it is rounded, and it is infinite if it is too large. This keeps the order of exact
results and all doubles.
-/

namespace RhythmChart.Double

open Float.Model
open Float.Model.UnpackedFloat (Sign)

/-- The number that a result denotes; nothing is greater than an infinity. -/
def extentOf : UnpackedFloat → WithTop Rat
  | .infinity _ => ⊤
  | .notANumber => 0
  | .zero _ => 0
  | .finite sign significand exponent positive =>
      value (.finite sign significand exponent positive)

def extent (x : Float) : WithTop Rat :=
  extentOf (parts x)

/-- What is left of a rounded number when it is stored. -/
def kept (rounded : Rat) : WithTop Rat :=
  if rounded < 2 ^ (1024 : Int) then rounded else ⊤

theorem kept_of_lt {rounded : Rat} (small : rounded < 2 ^ (1024 : Int)) :
    kept rounded = rounded :=
  if_pos small

theorem le_kept (rounded : Rat) : (rounded : WithTop Rat) ≤ kept rounded := by
  unfold kept
  split
  · exact le_refl _
  · exact le_top

theorem kept_mono {rounded rounded' : Rat} (le : rounded ≤ rounded') :
    kept rounded ≤ kept rounded' := by
  by_cases small' : rounded' < 2 ^ (1024 : Int)
  · rw [kept_of_lt small', kept_of_lt (lt_of_le_of_lt le small')]
    exact WithTop.coe_le_coe.mpr le
  · rw [kept, kept, if_neg small']
    exact le_top

/-- What becomes of an exact result: it is rounded and stored, and an
infinity remains one. -/
inductive Becomes : WithTop Rat → WithTop Rat → Prop
  | infinite : Becomes ⊤ ⊤
  | finite {exact rounded : Rat} (rounds : Rounded exact rounded) : Becomes
    exact (kept rounded)

theorem Becomes.mono {exact exact' result result' : WithTop Rat}
    (becomes : Becomes exact result)
    (becomes' : Becomes exact' result') (le : exact ≤ exact') : result ≤ result' := by
  cases becomes' with
  | infinite => exact le_top
  | finite rounds' =>
      cases becomes with
      | infinite => exact absurd le (not_le_of_gt (WithTop.coe_lt_top _))
      | finite rounds => exact kept_mono (rounds.mono rounds' (WithTop.coe_le_coe.mp le))

theorem Becomes.unique {exact result result' : WithTop Rat}
    (becomes : Becomes exact result)
    (becomes' : Becomes exact result') : result = result' :=
  le_antisymm (becomes.mono becomes' le_rfl) (becomes'.mono becomes le_rfl)

section Stored

variable {m : Nat} {e : Int} {positive : 0 < m}

theorem magnitude_lt_of_inRange (bounded : m < 2 ^ 53) (inRange : e ≤ 971) :
    (m : Rat) * 2 ^ e < 2 ^ (1024 : Int) := by
  have bounded : (m : Rat) < 2 ^ 53 := by exact_mod_cast bounded
  calc (m : Rat) * 2 ^ e
    _ < 2 ^ 53 * 2 ^ e := mul_lt_mul_of_pos_right bounded (by positivity)
    _ ≤ 2 ^ 53 * 2 ^ (971 : Int) :=
      mul_le_mul_of_nonneg_left (zpow_le_zpow_right₀ one_le_two inRange) (by positivity)
    _ = 2 ^ (1024 : Int) := by
        rw [← zpow_natCast, ← zpow_add₀ two_ne_zero]
        rfl

theorem Fitted.le_magnitude (fitted : Fitted m e) (large : 971 < e) :
    (2 : Rat) ^ (1024 : Int) ≤ m * 2 ^ e := by
  have leading : (2 : Rat) ^ 52 ≤ m := by
    rcases fitted.leading with leading | least
    · exact_mod_cast leading
    · omega
  calc (2 : Rat) ^ (1024 : Int)
    _ = 2 ^ 52 * 2 ^ (972 : Int) := by
        rw [← zpow_natCast, ← zpow_add₀ two_ne_zero]
        rfl
    _ ≤ m * 2 ^ e :=
      mul_le_mul leading (zpow_le_zpow_right₀ one_le_two large)
        (by positivity) (by positivity)

theorem Storable.extentOf_stored {result : UnpackedFloat} (storable : Storable result) :
    extentOf (stored result) = kept (value result) := by
  rcases storable with rfl | ⟨m, e, positive, rfl, fitted⟩
  · rw [stored_zero]
    exact (kept_of_lt (by positivity)).symm
  · rcases le_or_gt e 971 with inRange | large
    · rw [fitted.stored_eq inRange]
      exact (kept_of_lt (magnitude_lt_of_inRange fitted.bounded inRange)).symm
    · rw [stored_of_large large]
      exact (if_neg (not_lt_of_ge (fitted.le_magnitude large))).symm

end Stored

theorem Canonical.becomes {m : Nat} {e : Int} (canonical : Canonical m e) :
    Becomes ((m * 2 ^ e : Rat) : WithTop Rat) ((m * 2 ^ e : Rat) : WithTop Rat) := by
  have becomes := Becomes.finite canonical.fitted.rounded
  rwa [kept_of_lt (magnitude_lt_of_inRange canonical.bounded canonical.greatest)]
    at becomes

theorem becomes_zero : Becomes 0 0 := by
  have fitted : Fitted 0 (-1074) := ⟨by norm_num, le_refl _, .inr rfl⟩
  have rounds := fitted.rounded
  rw [Nat.cast_zero, zero_mul] at rounds
  have becomes := Becomes.finite rounds
  rwa [kept_of_lt (by positivity)] at becomes

theorem compare_coe (a b : Rat) : compare (a : WithTop Rat) b = compare a b := by
  rcases lt_trichotomy a b with less | rfl | greater
  · rw [compare_lt_iff_lt.mpr less, compare_lt_iff_lt.mpr (WithTop.coe_lt_coe.mpr less)]
  · rw [compare_eq_iff_eq.mpr rfl, compare_eq_iff_eq.mpr rfl]
  · rw [compare_gt_iff_gt.mpr greater,
      compare_gt_iff_gt.mpr (WithTop.coe_lt_coe.mpr greater)]

/-- The forms of a stored number that is defined and not negative. -/
inductive Settled : UnpackedFloat → Prop
  | infinite : Settled (.infinity .positive)
  | zero (sign : Sign) : Settled (.zero sign)
  | finite {significand : Nat} {exponent : Int} (positive : 0 < significand)
      (canonical : Canonical significand exponent) :
      Settled (.finite .positive significand exponent positive)

namespace Settled

variable {a b : UnpackedFloat}

theorem infinite_or_isFinite (settled : Settled a) :
    a = .infinity .positive ∨ a.isFinite = true := by
  cases settled with
  | infinite => exact .inl rfl
  | zero sign => exact .inr rfl
  | finite positive canonical => exact .inr rfl

theorem stored (settled : Settled a) : stored a = a := by
  cases settled with
  | infinite => rfl
  | zero sign => exact stored_zero sign
  | finite positive canonical =>
      exact canonical.fitted.stored_eq canonical.greatest .positive

/-- What is stored is rounded to itself. -/
theorem becomes (settled : Settled a) : Becomes (extentOf a) (extentOf a) := by
  cases settled with
  | infinite => exact .infinite
  | zero sign => exact becomes_zero
  | finite positive canonical => exact canonical.becomes

theorem extentOf_nonneg (settled : Settled a) : 0 ≤ extentOf a := by
  cases settled with
  | infinite => exact le_top
  | zero sign => exact le_refl _
  | finite positive canonical =>
      exact WithTop.coe_nonneg.mpr (le_of_lt (magnitude_pos positive _))

theorem compare (settled : Settled a) (settled' : Settled b) :
    a.compare b = some (compare (extentOf a) (extentOf b)) := by
  cases settled with
  | infinite =>
      cases settled' with
      | infinite => exact congrArg some (compare_eq_iff_eq.mpr rfl).symm
      | zero sign' =>
          exact congrArg some (compare_gt_iff_gt.mpr (WithTop.coe_lt_top _)).symm
      | finite positive' canonical' =>
          exact congrArg some (compare_gt_iff_gt.mpr (WithTop.coe_lt_top _)).symm
  | zero sign =>
      cases settled' with
      | infinite =>
          exact congrArg some (compare_lt_iff_lt.mpr (WithTop.coe_lt_top _)).symm
      | zero sign' => exact congrArg some (compare_eq_iff_eq.mpr rfl).symm
      | finite positive' canonical' =>
          exact congrArg some
            (compare_lt_iff_lt.mpr
              (WithTop.coe_lt_coe.mpr (magnitude_pos positive' _))).symm
  | finite positive canonical =>
      cases settled' with
      | infinite =>
          exact congrArg some (compare_lt_iff_lt.mpr (WithTop.coe_lt_top _)).symm
      | zero sign' =>
          exact congrArg some
            (compare_gt_iff_gt.mpr
              (WithTop.coe_lt_coe.mpr (magnitude_pos positive _))).symm
      | finite positive' canonical' =>
          exact congrArg
            some ((compare_magnitude canonical canonical').trans (compare_coe _ _).symm)

end Settled

theorem extentOf_of_isFinite {a : UnpackedFloat} (finite : a.isFinite = true) :
    extentOf a = ((value a : Rat) : WithTop Rat) := by
  cases a with
  | infinity sign => cases finite
  | notANumber => cases finite
  | zero sign => rfl
  | finite sign m e positive => rfl

variable {x y : Float}

theorem settled_parts (nonneg : ((0 : Nat) : Float) ≤ x) : Settled (parts x) := by
  rw [nonneg_iff] at nonneg
  cases taken : parts x with
  | infinity sign =>
      rw [taken] at nonneg
      cases nonneg
      exact .infinite
  | notANumber =>
      rw [taken] at nonneg
      exact nonneg.elim
  | zero sign => exact .zero sign
  | finite sign m e positive =>
      rw [taken] at nonneg
      cases nonneg
      exact .finite positive (canonical_unpack taken)

section Order

variable (nonneg : ((0 : Nat) : Float) ≤ x) (nonneg' : ((0 : Nat) : Float) ≤ y)

include nonneg nonneg'

theorem compare_extent : (parts x).compare (parts y) =
      some (compare (extent x) (extent y)) :=
  (settled_parts nonneg).compare (settled_parts nonneg')

theorem lt_iff_extent : x < y ↔ extent x < extent y := by
  rw [lt_iff_parts, compare_extent nonneg nonneg', Option.some_inj, compare_lt_iff_lt]

theorem le_iff_extent : x ≤ y ↔ extent x ≤ extent y := by
  rw [le_iff_parts, compare_extent nonneg nonneg', Option.any_some,
    Ordering.isLE_iff_ne_gt, compare_gt_iff_gt]
  exact not_lt

end Order

end RhythmChart.Double
