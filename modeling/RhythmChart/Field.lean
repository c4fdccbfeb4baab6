import RhythmChart.Number.Shortest
import RhythmChart.Text.Quoted

/-!
# Fields of unchecked records

Records that come from outside, such as objects, notes and segments, may hold a value of
the wrong type in any field. A record is checked before it is used, and the message of a
failed check shows the value that was given.

Flags count as the numbers one and zero. Nothing, a zero, and whatever is empty count as
no; everything else counts as yes.
-/

namespace RhythmChart

/-- The value given for a field of an unchecked record. -/
inductive Field (α : Type) where
  | number (value : α)
  | integer (value : Int)
  | text (value : Text)
  | flag (value : Bool)
  | absent
  | list (entries : List (Field α))
  | record (entries : List (Text × Field α))

def decimalText (value : Int) : Text :=
  let digits := Nat.toDigits 10 value.natAbs
  if value < 0 then '-' :: digits else digits

namespace Field

/-- The numeric value of a field; flags count as one and zero. -/
def scalar? {α : Type} [Scalar α] : Field α → Option α
  | .number value => some value
  | .integer value => Scalar.ofInteger? value
  | .flag value => some (if value then ((1 : Nat) : α) else ((0 : Nat) : α))
  | _ => none

/-- The whole number that a field is equal to, if there is one. -/
def wholeNumber? {α : Type} [Scalar α] : Field α → Option Int
  | .number value => Scalar.wholeNumber? value
  | .integer value => some value
  | .flag value => some value.toNat
  | _ => none

def isTruthy {α : Type} [Scalar α] : Field α → Bool
  | .number value => !Scalar.isZero value
  | .integer value => value != 0
  | .text value => !value.isEmpty
  | .flag value => value
  | .absent => false
  | .list entries => !entries.isEmpty
  | .record entries => !entries.isEmpty

mutual

/-- The value as messages show it. -/
def shown : Field Float → Text
  | .number value => Shortest.text value
  | .integer value => decimalText value
  | .text value => Text.quoted value
  | .flag true => ['T', 'r', 'u', 'e']
  | .flag false => ['F', 'a', 'l', 's', 'e']
  | .absent => ['N', 'o', 'n', 'e']
  | .list [] => ['[', ']']
  | .list (entry :: rest) => '[' :: shown entry ++ shownList rest ++ [']']
  | .record [] => ['\x7b', '\x7d']
  | .record ((key, entry) :: rest) =>
      '\x7b' :: Text.quoted key ++ [':', ' '] ++ shown entry ++ shownRecord rest ++
        ['\x7d']

def shownList : List (Field Float) → Text
  | [] => []
  | entry :: rest => ',' :: ' ' :: shown entry ++ shownList rest

def shownRecord : List (Text × Field Float) → Text
  | [] => []
  | (key, entry) :: rest =>
      ',' :: ' ' :: Text.quoted key ++ [':', ' '] ++ shown entry ++ shownRecord rest

end

/-- The value as messages show it where texts stand without quotes. -/
def bare : Field Float → Text
  | .text value => value
  | other => other.shown

end Field

end RhythmChart
