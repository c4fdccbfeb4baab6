import RhythmChart.Number.Scalar

/-!
# Binary floating point

A finite double is `± significand * 2 ^ exponent` with whole numbers. This module takes
doubles apart into that form and makes them scalars. Decimals are rounded to the nearest
double; decimals whose exponent is far outside the range of doubles are settled without
computing their power of ten.
-/

namespace RhythmChart

/-- A finite double taken apart: its value is `significand * 2 ^ exponent`, with a
minus sign if `negative`. -/
structure Binary64 where
  negative : Bool
  significand : Nat
  exponent : Int

namespace Binary64

/-- The leading bit of a normal significand, which is not stored: fifty-two
stored bits follow it. -/
def hiddenBit : Nat := 0x10000000000000

/-- Takes a double apart by its bits; `none` for infinities and undefined values. -/
def ofFloat? (x : Float) : Option Binary64 :=
  let bits := x.toBits.toNat
  let biased : Nat := bits / hiddenBit % 0x800
  let fraction : Nat := bits % hiddenBit
  let negative := decide (0x8000000000000000 ≤ bits)
  if biased = 0x7FF then none
  else if biased = 0 then some ⟨negative, fraction, -1074⟩
  else some ⟨negative, hiddenBit + fraction, (biased : Int) - 1075⟩

def truncate (x : Binary64) : Int :=
  let size := match x.exponent with
    | .ofNat e => x.significand <<< e
    | .negSucc e => x.significand >>> (e + 1)
  if x.negative then -size else size

/-- The double nearest to `digits * 10 ^ exponent`, infinite when that is too
large. The first two cases are beyond the range of doubles: at least `10 ^ 400`, or
less than `10 ^ (-399)`. -/
def nearestDecimal (digits : Nat) (exponent : Int) : Float :=
  if digits = 0 then Float.ofNat 0
  else if 400 < exponent then Float.ofNat 1 / Float.ofNat 0
  else if exponent < -(400 + (digits.log2 : Int)) then Float.ofNat 0
  else Float.ofScientific digits (decide (exponent < 0)) exponent.natAbs

end Binary64

/-- Doubles as scalars. A decimal that rounds to infinity is out of range. -/
instance : Scalar Float where
  natCast := Float.ofNat
  decidableLT := inferInstance
  decidableLE := inferInstance
  isUndefined := Float.isNaN
  ofDecimal? negative digits exponent :=
    let size := Binary64.nearestDecimal digits exponent
    if size.isFinite then some (if negative then -size else size) else none
  truncate x := ((Binary64.ofFloat? x).map Binary64.truncate).getD 0

end RhythmChart
