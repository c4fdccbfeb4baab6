import RhythmChart.Number.Scalar
import RhythmChart.Text.Blank
import RhythmChart.Text.Digit

/-!
# Numerals

Numbers in chart sources are written in decimal notation with an optional sign, fraction
and exponent. Digits of every script count, single low lines may separate digits, and the
words for infinity and for the undefined value are numerals too. Whole numbers may also be
written in another base.

Reading happens in two steps: `plain` brings a text into ASCII, then one of the two
grammars is applied to what remains after trimming.
-/

namespace RhythmChart

/-- What a numeral denotes: a decimal `± digits * 10 ^ exponent`, an
infinity, or no number. -/
inductive Numeral where
  | decimal (negative : Bool) (digits : Nat) (exponent : Int)
  | infinite (negative : Bool)
  | undefined
  deriving DecidableEq, Repr

namespace Numeral

/-- One character of a numeral in ASCII: other white space becomes a space, other digits
the digit of the same value. No other character outside ASCII can stand in a numeral. -/
def plainChar? (c : Char) : Option Char :=
  if c.toNat < 0x80 then some c
  else if Text.isBlank c then some ' '
  else (Text.digitValue? c).map fun value => Char.ofNat (0x30 + value)

/-- The blanks that may surround a numeral in ASCII. The information separators do not. -/
def isPad (c : Char) : Bool :=
  c = ' ' || (decide (0x9 ≤ c.toNat) && decide (c.toNat ≤ 0xD))

def plain? (text : Text) : Option Text :=
  (text.mapM plainChar?).map fun ascii =>
    ((ascii.dropWhile isPad).reverse.dropWhile isPad).reverse

def splitSign : Text → Bool × Text
  | '-' :: rest => (true, rest)
  | '+' :: rest => (false, rest)
  | text => (false, text)

/-- Removes the low lines that stand between two digits; `none` if one
stands elsewhere. -/
def withoutSeparators? (isDigit : Char → Bool) : (afterDigit : Bool) → Text → Option Text
  | _, [] => some []
  | afterDigit, c :: rest =>
      if c = '_' then
        if afterDigit && (rest.head?.map isDigit).getD false then
          withoutSeparators? isDigit false rest
        else none
      else (withoutSeparators? isDigit (isDigit c) rest).map (c :: ·)

def ofDigits (digits : Text) : Nat :=
  digits.foldl (fun value c => value * 10 + (c.toNat - 0x30)) 0

/-- Reads an exponent after the digits of a decimal; an absent one is zero. -/
def exponent? : Text → Option Int
  | [] => some 0
  | e :: rest =>
      if e = 'e' ∨ e = 'E' then
        let (negative, digits) := splitSign rest
        if digits ≠ [] ∧ digits.all Char.isDigit then
          some (if negative then -(ofDigits digits : Int) else ofDigits digits)
        else none
      else none

/-- Reads an unsigned decimal: digits with at most one point among or around them, then
an optional exponent. -/
def decimal? (negative : Bool) (text : Text) : Option Numeral :=
  let whole := text.takeWhile Char.isDigit
  let rest := text.dropWhile Char.isDigit
  let (fraction, tail) := match rest with
    | '.' :: more => (more.takeWhile Char.isDigit, more.dropWhile Char.isDigit)
    | _ => ([], rest)
  if whole = [] ∧ fraction = [] then none
  else (exponent? tail).map fun exponent =>
    .decimal negative (ofDigits (whole ++ fraction)) (exponent - fraction.length)

/-- Reads a numeral that is already in ASCII, trimmed, and free of separators. -/
def ofPlain? (text : Text) : Option Numeral :=
  let (negative, unsigned) := splitSign text
  let word := unsigned.map Char.toLower
  if word = ['i', 'n', 'f'] ∨ word = ['i', 'n', 'f', 'i', 'n', 'i', 't', 'y'] then
    some (.infinite negative)
  else if word = ['n', 'a', 'n'] then some .undefined
  else decimal? negative unsigned

def read? (text : Text) : Option Numeral := do
  let ascii ← plain? text
  let digits ← withoutSeparators? Char.isDigit false ascii
  ofPlain? digits

def toScalar? {α : Type} [Scalar α] : Numeral → Option α
  | .decimal negative digits exponent => Scalar.ofDecimal? negative digits exponent
  | .infinite _ => none
  | .undefined => none

end Numeral

namespace Text

def number? {α : Type} [Scalar α] (text : Text) : Option α :=
  (Numeral.read? text).bind Numeral.toScalar?

end Text

end RhythmChart
