import RhythmChart.Text.Basic

/-!
# Lines

Chart sources end their lines with a line feed, a carriage return, or the pair of both.
The dialect detector breaks lines at a few more characters.
-/

namespace RhythmChart.Text

/-- The rest of the lines of a text, when `current` is the reverse of what the
current line holds so far. -/
def linesFrom (current : Text) : Text → List Text
  | [] => [current.reverse]
  | '\r' :: '\n' :: rest => current.reverse :: linesFrom [] rest
  | '\r' :: rest => current.reverse :: linesFrom [] rest
  | '\n' :: rest => current.reverse :: linesFrom [] rest
  | c :: rest => linesFrom (c :: current) rest

/-- The lines of a text; a line ends at `\r\n`, `\r` or `\n`, and the
last line may be empty. -/
def lines (text : Text) : List Text :=
  linesFrom [] text

def numberedLines (text : Text) : List (Nat × Text) :=
  (lines text).zipIdx 1 |>.map fun (line, number) => (number, line)

/-- Whether a character separates lines in the widest sense: line feed, vertical tab, form
feed, carriage return, the information separators but the last, next line, and the line
and paragraph separators. -/
def isLineBreak (c : Char) : Bool :=
  inRanges [(0xA, 0xD), (0x1C, 0x1E), (0x85, 0x85), (0x2028, 0x2029)] c.toNat

end RhythmChart.Text
