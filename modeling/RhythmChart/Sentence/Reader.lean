import RhythmChart.Sentence.Basic
import RhythmChart.Sentence.Dialect
import RhythmChart.Text.Digit

/-!
# Reading sentences

A trimmed line is classified by trying the forms of sentences in a fixed order: control
sentences, measure sizes, channels, headers. Each form reads a whole line or nothing.
-/

namespace RhythmChart.Sentence

/-- Whether a character is a letter of a control word, which is spelt in capitals here.
Case does not matter; `I` is also met by the dotted capital and the dotless small letter,
and `S` by the long s. -/
def isLetter (letter c : Char) : Bool :=
  c.toUpper = letter || (letter = 'I' && (c = 'İ' || c = 'ı')) ||
    (letter = 'S' && c = 'ſ')

def afterWord? : (word : Text) → Text → Option Text
  | [], text => some text
  | _ :: _, [] => none
  | letter :: word, c :: text => if isLetter letter c then afterWord? word text else none

def afterBlanks? (text : Text) : Option Text :=
  if (text.head?.map Text.isBlank).getD false then some (Text.trimStart text) else none

/-- The number after a control word and blanks, when nothing follows it. -/
def wordNumber? (word text : Text) : Option Nat :=
  ((afterWord? word text).bind afterBlanks?).bind Text.natural?

def isWord (word text : Text) : Bool :=
  afterWord? word text == some []

def control? (text : Text) : Option Control :=
  match wordNumber? ['R', 'A', 'N', 'D', 'O', 'M'] text with
  | some bound => some (.random bound)
  | none =>
    match wordNumber? ['I', 'F'] text with
    | some value => some (.ifDrawn value)
    | none =>
      if isWord ['E', 'L', 'S', 'E'] text then some .orElse
      else if isWord ['E', 'N', 'D', 'I', 'F'] text then some .endIf
      else if isWord ['E', 'N', 'D', 'R', 'A', 'N', 'D', 'O', 'M'] text then
        some .endRandom
      else none

def measure? : Text → Option (Nat × Text)
  | a :: b :: c :: rest => (Text.natural? [a, b, c]).map fun measure => (measure, rest)
  | _ => none

/-- Reads the data after the colon of a channel or measure size: characters that are not
blank. One dialect lets blanks stand in front. -/
def data? (dialect : Dialect) (text : Text) : Option Text :=
  let data := match dialect with
    | .bms => text
    | .dtx => Text.trimStart text
  if data.all (fun c => !Text.isBlank c) then some data else none

def measureSize? (dialect : Dialect) (text : Text) : Option Content := do
  let (measure, rest) ← measure? text
  let data ← Text.after? (Code.measureSize.text ++ [':']) rest
  return .measureSize measure (← data? dialect data)

/-- Skips the mark of an extended sentence in front of a channel. -/
def skipExtension (text : Text) : Text :=
  match
    ((Text.after? ['E', 'X', 'T'] text).bind afterBlanks?).bind (Text.after? ['#']) with
  | some rest => rest
  | none => text

def channel? (dialect : Dialect) (text : Text) : Option Content := do
  let (measure, rest) ← measure? (skipExtension text)
  match rest with
  | first :: second :: ':' :: data =>
      if Text.isBlank first || Text.isBlank second then none
      else return .channel measure ⟨first, second⟩ (← data? dialect data)
  | _ => none

/-- What follows the name of a header: a colon in one dialect, nothing in the other. -/
def afterName? (dialect : Dialect) (text : Text) : Option Text :=
  match dialect with
  | .bms => some text
  | .dtx => Text.after? [':'] text

/-- Reads a header after its number sign. A value is set off by blanks. -/
def header? (dialect : Dialect) (text : Text) : Option Content := do
  let name := text.takeWhile Text.isWord
  let rest ← afterName? dialect (text.dropWhile Text.isWord)
  if name.isEmpty then none
  else if rest.isEmpty then some (.header name none)
  else
    let value ← afterBlanks? rest
    if value.isEmpty then none else some (.header name (some value))

def content? (dialect : Dialect) (text : Text) : Option Content :=
  (measureSize? dialect text).or ((channel? dialect text).or (header? dialect text))

/-- Classifies a trimmed line; a line that does not start with a
number sign is no sentence. -/
def read? (dialect : Dialect) (line : Text) : Option Sentence :=
  match line with
  | '#' :: text =>
      match control? text with
      | some sentence => some (.control sentence)
      | none =>
        match content? dialect text with
        | some sentence => some (.content sentence)
        | none => some (.malformed line)
  | _ => none

def ofText (dialect : Dialect) (source : Text) : List (Nat × Sentence) :=
  (Text.numberedLines source).filterMap fun (number, line) =>
    (read? dialect (Text.trim line)).map (number, ·)

end RhythmChart.Sentence
