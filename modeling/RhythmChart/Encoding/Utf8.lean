import RhythmChart.Text.Basic

/-!
# UTF-8

Bytes are decoded by a machine that takes one byte at a time. A run of bytes that starts
a character but is not continued by one is a single invalid place; a byte that cannot
start a character is one too.
-/

namespace RhythmChart.Utf8

/-- A character that has begun: its bits so far, how many bytes are owed, and the
range of the next one. -/
structure Pending where
  bits : Nat
  owed : Nat
  low : Nat
  high : Nat

/-- A byte between two characters: what it yields, and the character it begins. -/
def start (byte : Nat) : List (Option Char) × Option Pending :=
  if byte < 0x80 then ([some (Char.ofNat byte)], none)
  else if byte < 0xC2 then ([none], none)
  else if byte < 0xE0 then ([], some ⟨byte - 0xC0, 1, 0x80, 0xBF⟩)
  else if byte = 0xE0 then ([], some ⟨0, 2, 0xA0, 0xBF⟩)
  else if byte = 0xED then ([], some ⟨0xD, 2, 0x80, 0x9F⟩)
  else if byte < 0xF0 then ([], some ⟨byte - 0xE0, 2, 0x80, 0xBF⟩)
  else if byte = 0xF0 then ([], some ⟨0, 3, 0x90, 0xBF⟩)
  else if byte < 0xF4 then ([], some ⟨byte - 0xF0, 3, 0x80, 0xBF⟩)
  else if byte = 0xF4 then ([], some ⟨4, 3, 0x80, 0x8F⟩)
  else ([none], none)

def continued (pending : Pending) (byte : Nat) : List (Option Char) × Option Pending :=
  if pending.low ≤ byte ∧ byte ≤ pending.high then
    let bits := pending.bits * 64 + (byte - 0x80)
    if pending.owed ≤ 1 then ([some (Char.ofNat bits)], none)
    else ([], some ⟨bits, pending.owed - 1, 0x80, 0xBF⟩)
  else
    let (found, next) := start byte
    (none :: found, next)

/-- Decodes the rest of the bytes; `none` stands for an invalid place. -/
def decodeFrom : Option Pending → List Nat → List (Option Char)
  | none, [] => []
  | some _, [] => [none]
  | none, byte :: rest =>
      let (found, next) := start byte
      found ++ decodeFrom next rest
  | some pending, byte :: rest =>
      let (found, next) := continued pending byte
      found ++ decodeFrom next rest

def decode (bytes : List Nat) : List (Option Char) :=
  decodeFrom none bytes

end RhythmChart.Utf8
