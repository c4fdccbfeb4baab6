import RhythmChart.Number.Numeral

/-!
# Whole numbers in a base up to thirty-six

Keysound ids are numbers in base thirty-six, and tempo changes on the plain tempo channel
are numbers in base sixteen. Both may carry a sign, surrounding blanks and single low
lines between digits; base sixteen also allows the mark `0x` in front.
-/

namespace RhythmChart.Radix

def digitValue? (c : Char) : Option Nat :=
  if c.isDigit then some (c.toNat - 0x30)
  else if c.isLower then some (c.toNat - 0x61 + 10)
  else if c.isUpper then some (c.toNat - 0x41 + 10)
  else none

def isDigit (base : Nat) (c : Char) : Bool :=
  match digitValue? c with
  | some value => decide (value < base)
  | none => false

/-- Skips the mark of base sixteen and one low line after it. -/
def skipMark (base : Nat) (text : Text) : Text :=
  match text with
  | '0' :: x :: rest =>
      if base = 16 ∧ (x = 'x' ∨ x = 'X') then
        match rest with
        | '_' :: digits => digits
        | _ => rest
      else text
  | _ => text

/-- The most digits that are read in a base that is no power of two. -/
def digitLimit : Nat := 4300

def isReadable (base count : Nat) : Bool :=
  [2, 4, 8, 16, 32].contains base || decide (count ≤ digitLimit)

/-- The number that digits of a base denote; `none` when there is no digit, another
character, or more digits than are read. -/
def ofDigits? (base : Nat) (digits : Text) : Option Nat :=
  if digits ≠ [] ∧ digits.all (isDigit base) ∧ isReadable base digits.length then
    some (digits.foldl (fun value c => value * base + (digitValue? c).getD 0) 0)
  else none

def integer? (base : Nat) (text : Text) : Option Int := do
  let ascii ← Numeral.plain? text
  let (negative, unsigned) := Numeral.splitSign ascii
  let digits ← Numeral.withoutSeparators? (isDigit base) false (skipMark base unsigned)
  let size ← ofDigits? base digits
  return if negative then -(size : Int) else size

end RhythmChart.Radix
