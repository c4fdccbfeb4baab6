import RhythmChart.Encoding.EucKr
import RhythmChart.Encoding.ShiftJis
import RhythmChart.Encoding.Utf8
import RhythmChart.Text.Word

/-!
# Charsets of chart files

A chart file may name its charset in front of its suffix, as in `song.sjis.bms`. Files
that name none are read as UTF-8, and if that fails by code page 932.
-/

namespace RhythmChart

inductive Charset where
  | utf8
  | shiftJis
  | codePage932
  | eucKr
  deriving DecidableEq, Repr

namespace Charset

/-- Decodes bytes; `none` stands for an invalid place. -/
def decode : Charset → List Nat → List (Option Char)
  | utf8 => Utf8.decode
  | shiftJis => ShiftJis.decode
  | codePage932 => ShiftJis.decodePage
  | eucKr => EucKr.decode

/-- Whether a character is a letter of a mark in a file name, spelt in small letters. Case
does not matter, and a few letters have further forms. -/
def isLetter (letter c : Char) : Bool :=
  c.toLower = letter || (letter = 'i' && (c = 'İ' || c = 'ı')) ||
      (letter = 's' && c = 'ſ') || (letter = 'k' && c.toNat == 0x212A)

/-- Whether a file name ends in a point, the mark, another point and a word. -/
def isMarked (mark name : Text) : Bool :=
  let reversed := name.reverse
  let word := reversed.takeWhile Text.isWord
  let mark := '.' :: mark.reverse ++ ['.']
  let found := (reversed.dropWhile Text.isWord).take mark.length
  !word.isEmpty && found.length == mark.length &&
    (mark.zip found).all fun (letter, c) => isLetter letter c

def ofName? (name : Text) : Option Charset :=
  if isMarked ['s', 'j', 'i', 's'] name then some shiftJis
  else if isMarked ['e', 'u', 'c', '_', 'k', 'r'] name then some eucKr
  else if isMarked ['u', 't', 'f', '8'] name then some utf8
  else none

def candidates (name : Text) : Charset × List Charset :=
  match ofName? name with
  | some charset => (charset, [])
  | none => (utf8, [codePage932])

def byteOrderMark : Char := '\ufeff'

/-- Decodes bytes that are valid throughout, without byte order marks at the start. -/
def strict? (bytes : List Nat) (charset : Charset) : Option Text :=
  ((charset.decode bytes).mapM id).map (·.dropWhile (· = byteOrderMark))

/-- Decodes bytes with a replacement character for every invalid place. -/
def lenient (bytes : List Nat) (charset : Charset) : Text :=
  (charset.decode bytes).map fun c => c.getD '\ufffd'

/-- The text of a file: by the first charset in which it is valid, or else
leniently by the last. -/
def textOf (name : Text) (bytes : List Nat) : Text :=
  let (first, rest) := candidates name
  ((first :: rest).findSome? (strict? bytes)).getD (lenient bytes (rest.getLastD first))

end Charset

end RhythmChart
