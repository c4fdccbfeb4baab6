import RhythmChart.Text.Basic

/-!
# White space

The white space of chart sources is that of Unicode together with the four
information separators `U+001C` to `U+001F`. The zero-width space and the byte order
mark are not white space.
-/

namespace RhythmChart.Text

/-- The white-space characters, as inclusive ranges of code points in ascending order. -/
def blankRanges : List (Nat × Nat) := [
  (0x9, 0xD), (0x1C, 0x20), (0x85, 0x85), (0xA0, 0xA0), (0x1680, 0x1680),
    (0x2000, 0x200A),
  (0x2028, 0x2029), (0x202F, 0x202F), (0x205F, 0x205F), (0x3000, 0x3000)]

def isBlank (c : Char) : Bool :=
  inRanges blankRanges c.toNat

def trimStart (text : Text) : Text :=
  text.dropWhile isBlank

def trimEnd (text : Text) : Text :=
  (text.reverse.dropWhile isBlank).reverse

def trim (text : Text) : Text :=
  trimEnd (trimStart text)

end RhythmChart.Text
