import RhythmChart.Number.Binary64
import RhythmChart.Text.Basic

/-!
# The shortest decimal that reads back

A double is shown by the shortest decimal that rounds to it; of several with that many
digits, by the one nearest to it. The reals that round to a double form an interval around
it, whose ends belong to it exactly when the significand is even. On a grid of decimals
the interval holds a point only if it holds one of the two neighbours of the double, so
these two are all that is tried.
-/

namespace RhythmChart.Shortest

structure Decimal where
  digits : Nat
  exponent : Int

structure Ratio where
  num : Nat
  den : Nat

namespace Ratio

def scaled (count base : Nat) : Int → Ratio
  | .ofNat e => ⟨count * base.pow e, 1⟩
  | .negSucc e => ⟨count, base.pow (e + 1)⟩

def lt (a b : Ratio) : Bool :=
  decide (a.num * b.den < b.num * a.den)

def distance (a b : Ratio) : Ratio :=
  let x := a.num * b.den
  let y := b.num * a.den
  ⟨x - y + (y - x), a.den * b.den⟩

/-- The exponent of the greatest power of ten that is not greater than the ratio. -/
def magnitude (r : Ratio) : Int :=
  if r.den ≤ r.num then (Nat.toDigits 10 (r.num / r.den)).length - 1
  else
    let ceiling := (r.den + r.num - 1) / r.num
    Int.negOfNat (Nat.toDigits 10 (ceiling - 1)).length

end Ratio

/-- Whether a ratio rounds to the double `significand * 2 ^ exponent`. Below a power of
two the neighbour is only half as far away. -/
def roundsTo (significand : Nat) (exponent : Int) (r : Ratio) : Bool :=
  let low :=
    if significand = Binary64.hiddenBit ∧ -1074 < exponent then
      Ratio.scaled (4 * significand - 1) 2 (exponent - 2)
    else Ratio.scaled (2 * significand - 1) 2 (exponent - 1)
  let high := Ratio.scaled (2 * significand + 1) 2 (exponent - 1)
  if significand % 2 = 0 then !r.lt low && !high.lt r else low.lt r && r.lt high

/-- The nearest decimal with at most `count` digits that rounds to the double, if there is
one; of two equally near, the one with an even last digit. -/
def withDigits? (significand : Nat) (exponent : Int) (count : Nat) : Option Decimal :=
  let value := Ratio.scaled significand 2 exponent
  let unit := value.magnitude - count + 1
  let grid := fun digits => Ratio.scaled digits 10 unit
  let below := match unit with
    | .ofNat e => value.num / (value.den * Nat.pow 10 e)
    | .negSucc e => value.num * Nat.pow 10 (e + 1) / value.den
  let fits := fun digits => roundsTo significand exponent (grid digits)
  let nearBelow := (value.distance (grid below)).lt (value.distance (grid (below + 1)))
  let nearAbove := (value.distance (grid (below + 1))).lt (value.distance (grid below))
  match fits below, fits (below + 1) with
  | true, true =>
      if nearBelow || (!nearAbove && below % 2 == 0) then some ⟨below, unit⟩
      else some ⟨below + 1, unit⟩
  | true, false => some ⟨below, unit⟩
  | false, true => some ⟨below + 1, unit⟩
  | false, false => none

/-- The shortest decimal for a double that is not zero. Seventeen
digits always suffice. -/
def ofBinary64 (x : Binary64) : Decimal :=
  ((List.range 17).findSome? fun count =>
    withDigits? x.significand x.exponent (count + 1)).getD ⟨0, 0⟩

/-- The digits of a decimal without trailing zeros, and its exponent
in scientific notation. -/
def scientific (d : Decimal) : Text × Int :=
  let digits := Nat.toDigits 10 d.digits
  let kept := (digits.reverse.dropWhile (· = '0')).reverse
  (kept, d.exponent + digits.length - 1)

/-- Numbers with a magnitude from `10 ^ (-4)` to below `10 ^ 16` are written with a
point and at least one digit on each side of it, all others with a signed exponent
of at least two digits. -/
def layout (digits : Text) (exponent : Int) : Text :=
  if exponent < -4 ∨ 16 ≤ exponent then
    let power := Nat.toDigits 10 exponent.natAbs
    let fraction := if digits.length ≤ 1 then [] else '.' :: digits.drop 1
    digits.take 1 ++ fraction ++ ['e', if exponent < 0 then '-' else '+'] ++
      (if power.length < 2 then '0' :: power else power)
  else if exponent < 0 then
    ['0', '.'] ++ List.replicate (exponent.natAbs - 1) '0' ++ digits
  else
    let whole := exponent.toNat + 1
    let padded := digits ++ List.replicate (whole - digits.length) '0'
    let fraction := padded.drop whole
    padded.take whole ++ '.' :: (if fraction.isEmpty then ['0'] else fraction)

def text (x : Float) : Text :=
  if x.isNaN then ['n', 'a', 'n']
  else match Binary64.ofFloat? x with
    | none => if x < 0 then ['-', 'i', 'n', 'f'] else ['i', 'n', 'f']
    | some parts =>
        let size :=
          if parts.significand = 0 then ['0', '.', '0']
          else
            let (digits, exponent) := scientific (ofBinary64 parts)
            layout digits exponent
        if parts.negative then '-' :: size else size

end RhythmChart.Shortest
