import RhythmChart.Text.Blank
import RhythmChart.Text.Lines
import RhythmChart.Text.Word

/-!
# Dialects

Charts are written in one of two dialects, which differ only in the punctuation after the
name of a header or channel. The dialect of a source can be guessed: one header with a
colon after its name is enough to tell.
-/

namespace RhythmChart

/-- The two dialects of chart sources. -/
inductive Dialect where
  /-- A header name is followed by white space. -/
  | bms
  /-- A header name is followed by a colon. -/
  | dtx
  deriving DecidableEq, Repr

namespace Dialect

def ofName? (name : Text) : Option Dialect :=
  if name = ['b', 'm', 's'] then some bms
  else if name = ['d', 't', 'x'] then some dtx
  else none

def isSentence (line : Text) : Bool :=
  line.head? == some '#'

/-- Whether a line starts with a header name, beginning with a Latin
letter, and a colon. -/
def hasColonHeader : Text → Bool
  | '#' :: c :: rest =>
      Text.isLatinLetter c && (rest.dropWhile Text.isWord).head? == some ':'
  | _ => false

/-- Guesses the dialect of a source; `none` when it has no sentence. -/
def detect? (source : Text) : Option Dialect :=
  let sentences := ((Text.pieces Text.isLineBreak source).map Text.trim).filter isSentence
  if sentences.any hasColonHeader then some dtx
  else if sentences.isEmpty then none
  else some bms

end Dialect

end RhythmChart
