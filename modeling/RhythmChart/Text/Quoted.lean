import RhythmChart.Text.Basic
import RhythmChart.Text.PrintableRanges

/-!
# Quoted texts

Messages show a text between quotes, with everything that would not be
visible written as an escape.
-/

namespace RhythmChart.Text

def isPrintable (c : Char) : Bool :=
  inRanges printableRanges c.toNat

/-- A number in lower-case hexadecimal, filled up with zeros to `width` digits. -/
def hexadecimal (width value : Nat) : Text :=
  let digits := Nat.toDigits 16 value
  List.replicate (width - digits.length) '0' ++ digits

def escaped (quote c : Char) : Text :=
  if c = quote ∨ c = '\\' then ['\\', c]
  else if c = '\n' then ['\\', 'n']
  else if c = '\r' then ['\\', 'r']
  else if c = '\t' then ['\\', 't']
  else if isPrintable c then [c]
  else if c.toNat < 0x100 then '\\' :: 'x' :: hexadecimal 2 c.toNat
  else if c.toNat < 0x10000 then '\\' :: 'u' :: hexadecimal 4 c.toNat
  else '\\' :: 'U' :: hexadecimal 8 c.toNat

/-- Apostrophes enclose a text, unless it holds an apostrophe and no double quote. -/
def quoteMark (text : Text) : Char :=
  if text.contains '\'' && !text.contains '"' then '"' else '\''

def quoted (text : Text) : Text :=
  let mark := quoteMark text
  mark :: text.flatMap (escaped mark) ++ [mark]

end RhythmChart.Text
