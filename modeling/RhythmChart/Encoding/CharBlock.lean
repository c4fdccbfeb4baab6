import RhythmChart.Text.Basic

/-!
# Tables of characters

Large charsets number their characters by cells. A table is given in blocks, so that long
stretches without characters take no space.
-/

namespace RhythmChart

/-- The characters from the cell numbered `first` on, forty to a line. A replacement
character marks an empty cell. -/
structure CharBlock where
  first : Nat
  lines : List String

namespace CharBlock

def char? (block : CharBlock) (cell : Nat) : Option Char :=
  if cell < block.first then none
  else
    let offset := cell - block.first
    (block.lines[offset / 40]?).bind fun line =>
      (line.toList[offset % 40]?).filter (· ≠ '\ufffd')

def find? (blocks : List CharBlock) (cell : Nat) : Option Char :=
  blocks.findSome? fun block => block.char? cell

end CharBlock

end RhythmChart
