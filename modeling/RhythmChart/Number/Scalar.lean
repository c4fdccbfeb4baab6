/-!
# Scalars

Beats, seconds, positions and rates are measured in one kind of number. The definitions of
the library are written once for every such kind: on 64-bit binary floating point they are
what runs, and on the rationals they are the exact arithmetic that laws are stated about.

A scalar is read from decimal notation, and may be undefined (not a number), which
floating point admits and the rationals do not.
-/

namespace RhythmChart

/-- Numbers with the operations that timing, scrolling and layout need.
Comparisons are decidable; `==` is the numeric comparison, under which an
undefined value differs from itself. -/
class Scalar
    (α : Type) extends Add α, Sub α, Mul α, Div α, LT α, LE α, BEq α, NatCast α where
  decidableLT : DecidableLT α
  decidableLE : DecidableLE α
  isUndefined : α → Bool
  /-- The value nearest to `± digits * 10 ^ exponent`, or `none` when
  that is out of range. -/
  ofDecimal? : (negative : Bool) → (digits : Nat) → (exponent : Int) → Option α
  /-- The whole part, cut off towards zero. -/
  truncate : α → Int

namespace Scalar

variable {α : Type} [Scalar α]

instance : DecidableLT α := Scalar.decidableLT
instance : DecidableLE α := Scalar.decidableLE

/-- Whether the value equals zero; both zeros of floating point do. -/
def isZero (x : α) : Bool :=
  x == ((0 : Nat) : α)

/-- The value nearest to a whole number, or `none` when that is out of range. -/
def ofInteger? (value : Int) : Option α :=
  ofDecimal? (decide (value < 0)) value.natAbs 0

def wholeNumber? (x : α) : Option Int :=
  let whole := truncate x
  if (ofInteger? whole).any (· == x) then some whole else none

/-- Whether a whole number is less than a value, which must not be negative. The
comparison is exact even where the scale has gaps. -/
def wholeLt (number : Int) (x : α) : Bool :=
  match wholeNumber? x with
  | some whole => decide (number < whole)
  | none => !isUndefined x && (isUndefined (x - x) || decide (number ≤ truncate x))

def ltWhole (x : α) (number : Int) : Bool :=
  !isUndefined (x - x) && decide (truncate x < number)

/-- The same value: numerically equal, or both undefined. -/
def same (x y : α) : Bool :=
  x == y || (isUndefined x && isUndefined y)

end Scalar

/-- Exact arithmetic. Every decimal is in range and nothing is undefined. -/
instance : Scalar Rat where
  decidableLT := inferInstance
  decidableLE := inferInstance
  isUndefined _ := false
  ofDecimal? negative digits exponent :=
    let size : Rat := (digits : Rat) * (10 : Rat) ^ exponent
    some (if negative then -size else size)
  truncate x := x.num.tdiv x.den

end RhythmChart
