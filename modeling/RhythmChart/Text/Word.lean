import RhythmChart.Text.Basic
import RhythmChart.Text.WordRanges

/-!
# Word characters

Names of headers are made of word characters: letters and numbers of every
script, and the low line.
-/

namespace RhythmChart.Text

def isWord (c : Char) : Bool :=
  inRanges wordRanges c.toNat

/-- Whether a character is one of the 52 letters of the Latin alphabet without marks. -/
def isLatinLetter (c : Char) : Bool :=
  inRanges [(0x41, 0x5A), (0x61, 0x7A)] c.toNat

end RhythmChart.Text
