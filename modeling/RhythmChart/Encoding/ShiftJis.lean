import RhythmChart.Encoding.JisBlocks

/-!
# Shift-JIS

A character takes one byte or two. A byte that starts none is a single invalid place, and
what comes after it is read anew. Code page 932 extends Shift-JIS by single bytes, by
vendor characters and by an area for private use, and reads six signs as their wide forms.
-/

namespace RhythmChart.ShiftJis

def lead? (byte : Nat) : Option Nat :=
  if 0x81 ≤ byte ∧ byte ≤ 0x9F then some (byte - 0x81)
  else if 0xE0 ≤ byte ∧ byte ≤ 0xFC then some (byte - 0xC1)
  else none

def trail? (byte : Nat) : Option Nat :=
  if 0x40 ≤ byte ∧ byte ≤ 0x7E then some (byte - 0x40)
  else if 0x80 ≤ byte ∧ byte ≤ 0xFC then some (byte - 0x41)
  else none

def cell? (first second : Nat) : Option Nat := do
  return 188 * (← lead? first) + (← trail? second)

def single? (byte : Nat) : Option Char :=
  if byte < 0x80 then some (Char.ofNat byte)
  else if 0xA1 ≤ byte ∧ byte ≤ 0xDF then some (Char.ofNat (0xFF61 + (byte - 0xA1)))
  else none

def pair? (first second : Nat) : Option Char :=
  (cell? first second).bind (CharBlock.find? jisBlocks)

/-- The bytes that code page 932 adds become control characters and
characters for private use. -/
def pageSingle? (byte : Nat) : Option Char :=
  if byte = 0x80 then some (Char.ofNat byte)
  else if byte = 0xA0 then some (Char.ofNat 0xF8F0)
  else if 0xFD ≤ byte ∧ byte ≤ 0xFF then some (Char.ofNat (0xF8F1 + (byte - 0xFD)))
  else single? byte

/-- The cells that code page 932 reads in another way than Shift-JIS. -/
def wideForms : List (Nat × Char) :=
  [(32, '～'), (33, '∥'), (60, '－'), (80, '￠'), (81, '￡'), (137, '￢')]

/-- The first cell for private use and the one after the last. -/
def privateCells : Nat × Nat := (8836, 10716)

def pageChar? (cell : Nat) : Option Char :=
  if privateCells.1 ≤ cell ∧ cell < privateCells.2 then
    some (Char.ofNat (0xE000 + (cell - privateCells.1)))
  else (wideForms.lookup cell).or (CharBlock.find? (jisBlocks ++ vendorBlocks) cell)

def pagePair? (first second : Nat) : Option Char :=
  (cell? first second).bind pageChar?

/-- Decodes bytes by what single bytes and pairs stand for; `none` stands
for an invalid place. -/
def decodeBy (single? : Nat → Option Char) (pair? : Nat → Nat → Option Char) :
    List Nat → List (Option Char)
  | [] => []
  | [byte] => [single? byte]
  | first :: second :: rest =>
      match single? first, pair? first second with
      | some c, _ => some c :: decodeBy single? pair? (second :: rest)
      | none, some c => some c :: decodeBy single? pair? rest
      | none, none => none :: decodeBy single? pair? (second :: rest)

def decode : List Nat → List (Option Char) :=
  decodeBy single? pair?

def decodePage : List Nat → List (Option Char) :=
  decodeBy pageSingle? pagePair?

end RhythmChart.ShiftJis
