import RhythmChart.Proofs.Sentence.Control
import RhythmChart.Proofs.Text.Lines

/-!
# Writing sentences

A phrase is what a sentence says before a dialect is chosen for it. The dialects write a
phrase with different punctuation, and only control phrases are the same in both.
-/

namespace RhythmChart

/-- A Latin letter and word characters, but not the mark of extended sentences. -/
structure HeaderName where
  initial : Char
  rest : Text
  isLatinLetter : Text.isLatinLetter initial = true
  areWord : ∀ c ∈ rest, Text.isWord c = true
  notExtension : initial :: rest ≠ ['E', 'X', 'T']

/-- A line that starts and ends visibly. -/
structure HeaderValue where
  initial : Char
  rest : Text
  isLine : Text.IsLine (initial :: rest)
  starts : Text.isBlank initial = false
  ends : ∀ c ∈ (initial :: rest).getLast?, Text.isBlank c = false

/-- Three digits, of any script. -/
structure MeasureNumber where
  hundreds : Char
  tens : Char
  ones : Char
  areDigits : ∀ c ∈ [hundreds, tens, ones], (Text.digitValue? c).isSome

namespace HeaderName

def text (name : HeaderName) : Text :=
  name.initial :: name.rest

theorem isWord_of_mem (name : HeaderName) : ∀ c ∈ name.text, Text.isWord c = true := by
  intro c member
  rcases List.mem_cons.mp member with rfl | later
  · exact Text.isWord_of_isLatinLetter name.isLatinLetter
  · exact name.areWord c later

end HeaderName

namespace HeaderValue

def text (value : HeaderValue) : Text :=
  value.initial :: value.rest

/-- What is written after a name: a value is set off by a space. -/
def setOff : Option HeaderValue → Text
  | none => []
  | some value => ' ' :: value.text

theorem isBlank_head?_setOff (value : Option HeaderValue) :
    ∀ c ∈ (setOff value).head?, Text.isBlank c = true := by
  cases value with
  | none => simp [setOff]
  | some value =>
      rintro c ⟨⟩
      decide

end HeaderValue

namespace MeasureNumber

def text (number : MeasureNumber) : Text :=
  [number.hundreds, number.tens, number.ones]

theorem isSome_natural? (number : MeasureNumber) : (Text.natural? number.text).isSome :=
  (Text.isSome_natural?_iff number.text).mpr ⟨List.cons_ne_nil _ _, number.areDigits⟩

def value (number : MeasureNumber) : Nat :=
  (Text.natural? number.text).get number.isSome_natural?

end MeasureNumber

/-- What a sentence says. A header is not to be taken for a control sentence. -/
inductive Phrase where
  | header (name : HeaderName) (value : Option HeaderValue)
      (notControl : Sentence.control? (name.text ++ HeaderValue.setOff value) = none)
  | channel (number : MeasureNumber) (code : Code) (data : Text)
      (visible : ∀ c ∈ code.text ++ data, Text.isBlank c = false)
  | control (text : Text) (choice : Control) (isLine : Text.IsLine text)
      (reads : Sentence.control? text = some choice)

namespace Dialect

/-- The punctuation after the name of a header. -/
def nameMark : Dialect → Text
  | bms => []
  | dtx => [':']

def dataMark : Dialect → Text
  | bms => [':']
  | dtx => [':', ' ']

end Dialect

namespace Phrase

/-- A header whose name spells no control word. -/
def ofName (name : HeaderName) (value : Option HeaderValue)
    (other : ∀ word ∈ Sentence.controlWords, Sentence.isWord word name.text = false) :
    Phrase :=
  .header name value <| Sentence.control?_eq_none_of_name name.isWord_of_mem
    (HeaderValue.isBlank_head?_setOff value) other

def body (dialect : Dialect) : Phrase → Text
  | header name value _ => name.text ++ (dialect.nameMark ++ HeaderValue.setOff value)
  | channel number code data _ => number.text ++ (code.text ++ (dialect.dataMark ++ data))
  | control text _ _ _ => text

/-- The line on which a dialect writes a phrase. -/
def line (dialect : Dialect) (phrase : Phrase) : Text :=
  '#' :: phrase.body dialect

/-- The sentence that a phrase stands for. -/
def sentence : Phrase → Sentence
  | header name value _ => .content (.header name.text (value.map HeaderValue.text))
  | channel number code data _ =>
      .content <|
        if code = Code.measureSize then .measureSize number.value data
        else .channel number.value code data
  | control _ choice _ _ => .control choice

/-- A source that holds these phrases, one on each line. -/
def source (dialect : Dialect) (phrases : List Phrase) : Text :=
  Text.joinLines (phrases.map (line dialect))

end Phrase

end RhythmChart
