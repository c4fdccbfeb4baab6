import RhythmChart.Proofs.Sentence.Phrase

/-!
# Reading phrases back

Whichever dialect a phrase is written in, reading its line gives the sentence that it
stands for. The forms of sentences are tried in a fixed order, so for every kind of phrase
the forms before its own have to be ruled out: a header never starts with a digit, and a
sentence with a colon is no control sentence.
-/

namespace RhythmChart

namespace Sentence

theorem measure?_cons_eq_none {c : Char} (noDigit : Text.digitValue? c = none)
    (rest : Text) : measure? (c :: rest) = none := by
  match rest with
  | [] => rfl
  | [_] => rfl
  | tens :: ones :: rest =>
      cases number : Text.natural? [c, tens, ones] with
      | none => simp [measure?, number]
      | some value =>
          have digits := ((Text.isSome_natural?_iff _).mp (by rw [number]; rfl)).2
          have first := digits c List.mem_cons_self
          rw [noDigit] at first
          cases first

theorem measure?_number (number : MeasureNumber) (rest : Text) :
    measure? (number.text ++ rest) = some (number.value, rest) := by
  change (Text.natural? number.text).map (fun value => (value, rest)) = _
  rw [← Option.some_get number.isSome_natural?]
  rfl

theorem skipExtension_number (number : MeasureNumber) (rest : Text) :
    skipExtension (number.text ++ rest) = number.text ++ rest := by
  have noMark : 'E' ≠ number.hundreds := by
    intro same
    have digit := number.areDigits number.hundreds List.mem_cons_self
    rw [← same] at digit
    exact absurd digit (by decide)
  simp [skipExtension, MeasureNumber.text, Text.after?, noMark]

/-- The mark of an extended sentence is a word of its own. -/
theorem skipExtension_eq_self {text : Text}
    (other : text.takeWhile Text.isWord ≠ ['E', 'X', 'T']) :
    skipExtension text = text := by
  unfold skipExtension
  split
  · rename_i rest found
    exfalso
    obtain ⟨numbered, marked, -⟩ := Option.bind_eq_some_iff.mp found
    obtain ⟨tail, extension, spaced⟩ := Option.bind_eq_some_iff.mp marked
    obtain ⟨gap, some, blank, rfl⟩ := exists_of_afterBlanks? spaced
    apply other
    rw [Text.eq_append_of_after? extension]
    apply Text.takeWhile_isWord_append (by decide)
    cases gap with
    | nil => exact absurd rfl some
    | cons c gap =>
        rintro _ ⟨⟩
        exact Text.isWord_eq_false_of_isBlank (blank c List.mem_cons_self)
  · rfl

/-! ## Channels -/

section Channels

variable {data : Text}

theorem data?_of_visible (visible : ∀ c ∈ data, Text.isBlank c = false) :
    data? .bms data = some data := by
  have all : data.all (fun c => !Text.isBlank c) = true :=
    List.all_eq_true.mpr fun c member => by rw [visible c member]; rfl
  exact if_pos all

/-- Trimming may take away the space in front of data that is empty,
but never the colon. -/
theorem exists_trimEnd_dataMark (dialect : Dialect)
    (visible : ∀ c ∈ data, Text.isBlank c = false) (before : Text) :
    ∃ shown, Text.trimEnd (before ++ (dialect.dataMark ++ data)) = before ++
        ':' :: shown ∧
      data? dialect shown = some data := by
  have ends : ∀ c ∈ data.getLast?, Text.isBlank c = false := fun c last =>
    visible c (List.mem_of_getLast? last)
  have shown := data?_of_visible visible
  cases dialect with
  | bms =>
      refine ⟨data, ?_, shown⟩
      exact (Text.trimEnd_append_cons (by decide) before data).trans (by
        rw [Text.trimEnd_eq_self ends])
  | dtx =>
      refine ⟨Text.trimEnd (' ' :: data),
        Text.trimEnd_append_cons (by decide) before _, ?_⟩
      cases data with
      | nil => rfl
      | cons c rest =>
          rw [Text.trimEnd_eq_self (by rwa [List.getLast?_cons_cons])]
          change data? .bms (Text.trimStart (' ' :: c :: rest)) = _
          rw [Text.trimStart, List.dropWhile_cons_of_pos (by decide)]
          exact (congrArg (data? .bms)
            (Text.trimStart_cons (visible c List.mem_cons_self) rest)).trans shown

theorem after?_measureSize (code : Code) (rest : Text) :
    Text.after? (Code.measureSize.text ++ [':']) (code.text ++ ':' :: rest) =
      if code = Code.measureSize then some rest else none := by
  split
  · rename_i isSize
    subst isSize
    exact Text.after?_append (Code.measureSize.text ++ [':']) rest
  · rename_i other
    cases found : Text.after? (Code.measureSize.text ++ [':'])
      (code.text ++ ':' :: rest) with
    | none => rfl
    | some rest =>
        have same := Text.eq_append_of_after? found
        obtain ⟨first, second⟩ := code
        cases same
        exact absurd rfl other

/-- Measure sizes are written as channels are, and tried before them. -/
theorem content?_channel {dialect : Dialect} (number : MeasureNumber) {code : Code}
    {shown : Text} (visible : ∀ c ∈ code.text, Text.isBlank c = false)
    (read : data? dialect shown = some data) :
    content? dialect (number.text ++ (code.text ++ ':' :: shown)) =
      some (if code = Code.measureSize then .measureSize number.value data
        else .channel number.value code data) := by
  have sized : measureSize? dialect (number.text ++ (code.text ++ ':' :: shown)) =
      if code = Code.measureSize then some (.measureSize number.value data)
      else none := by
    simp only [measureSize?, measure?_number, Option.bind_eq_bind, Option.bind_some,
      after?_measureSize]
    split <;> simp [read]
  have placed : channel? dialect (number.text ++ (code.text ++ ':' :: shown)) =
      some (.channel number.value code data) := by
    have first : Text.isBlank code.first = false :=
      visible code.first (by simp [Code.text])
    have second : Text.isBlank code.second = false :=
      visible code.second (by simp [Code.text])
    simp [channel?, skipExtension_number, measure?_number, Code.text, first, second, read]
  rw [content?, sized, placed]
  split <;> rfl

end Channels

/-! ## Headers -/

section Headers

variable (dialect : Dialect) (name : HeaderName) (value : Option HeaderValue)

theorem isWord_head?_nameMark :
    ∀ c ∈ (dialect.nameMark ++ HeaderValue.setOff value).head?,
      Text.isWord c = false := by
  cases dialect with
  | bms =>
      exact fun c first => Text.isWord_eq_false_of_isBlank
        (HeaderValue.isBlank_head?_setOff value c first)
  | dtx =>
      rintro _ ⟨⟩
      decide

theorem afterName?_nameMark (rest : Text) :
    afterName? dialect (dialect.nameMark ++ rest) = some rest := by
  cases dialect with
  | bms => rfl
  | dtx => exact Text.after?_append [':'] rest

theorem header?_written :
    header? dialect (name.text ++ (dialect.nameMark ++ HeaderValue.setOff value)) =
      some (.header name.text (value.map HeaderValue.text)) := by
  have stop := isWord_head?_nameMark dialect value
  have named : name.text.isEmpty = false := rfl
  simp only [header?, Text.takeWhile_isWord_append name.isWord_of_mem stop,
    Text.dropWhile_isWord_append name.isWord_of_mem stop, afterName?_nameMark,
    Option.bind_eq_bind, Option.bind_some, named]
  cases value with
  | none => rfl
  | some value =>
      have trimmed : Text.trimStart (' ' :: value.text) = value.text :=
        Text.trimStart_cons value.starts value.rest
      have spaced : afterBlanks? (' ' :: value.text) = some value.text :=
        congrArg some trimmed
      have given : value.text ≠ [] := List.cons_ne_nil _ _
      simp [HeaderValue.setOff, spaced, given]

theorem content?_header :
    content? dialect (name.text ++ (dialect.nameMark ++ HeaderValue.setOff value)) =
      some (.header name.text (value.map HeaderValue.text)) := by
  have noDigit := Text.digitValue?_eq_none_of_isLatinLetter name.isLatinLetter
  have noMeasure : ∀ rest, measure? (name.text ++ rest) = none := fun rest =>
    measure?_cons_eq_none noDigit (name.rest ++ rest)
  have noSize : measureSize? dialect
      (name.text ++ (dialect.nameMark ++ HeaderValue.setOff value)) = none := by
    rw [measureSize?, noMeasure]
    rfl
  have noChannel : channel? dialect
      (name.text ++ (dialect.nameMark ++ HeaderValue.setOff value)) = none := by
    have noExtension := Text.takeWhile_isWord_append name.isWord_of_mem
      (isWord_head?_nameMark dialect value)
    rw [channel?, skipExtension_eq_self
      (by rw [noExtension]; exact name.notExtension), noMeasure]
    rfl
  rw [content?, noSize, noChannel]
  exact header?_written dialect name value

end Headers

/-! ## Sentences -/

theorem read?_of_control? {dialect : Dialect} {text : Text} {control : Control}
    (read : control? text = some control) :
    read? dialect ('#' :: text) = some (.control control) := by
  rw [read?, read]

theorem read?_of_content? {dialect : Dialect} {text : Text} {content : Content}
    (noControl : control? text = none) (read : content? dialect text = some content) :
    read? dialect ('#' :: text) = some (.content content) := by
  rw [read?, noControl]
  dsimp only
  rw [read]

end Sentence

namespace Phrase

variable (dialect : Dialect)

theorem last_visible_of_header (name : HeaderName) (value : Option HeaderValue) :
    ∀ c ∈ (name.text ++ (dialect.nameMark ++ HeaderValue.setOff value)).getLast?,
      Text.isBlank c = false := by
  intro c last
  cases value with
  | none =>
      have member := List.mem_of_getLast? last
      simp only [HeaderValue.setOff, List.append_nil, List.mem_append] at member
      rcases member with inName | inMark
      · exact Text.isBlank_eq_false_of_isWord (name.isWord_of_mem c inName)
      · cases dialect with
        | bms => cases inMark
        | dtx =>
            rw [List.mem_singleton.mp inMark]
            decide
  | some value =>
      have nonempty : value.text ≠ [] := List.cons_ne_nil _ _
      have split : name.text ++ (dialect.nameMark ++ HeaderValue.setOff (some value)) =
          (name.text ++ (dialect.nameMark ++ [' '])) ++ value.text := by
        simp [HeaderValue.setOff]
      rw [split, List.getLast?_append,
        Option.or_of_isSome (List.getLast?_isSome.mpr nonempty)] at last
      exact value.ends c last

/-- What is written in either dialect is read as the sentence that was meant. -/
theorem read?_line (phrase : Phrase) :
    Sentence.read? dialect (Text.trim (phrase.line dialect)) = some phrase.sentence := by
  rw [line, Text.trim_cons (by decide)]
  cases phrase with
  | header name value notControl =>
      rw [body, Text.trimEnd_eq_self (last_visible_of_header dialect name value)]
      refine Sentence.read?_of_content? ?_ (Sentence.content?_header dialect name value)
      cases dialect with
      | bms => exact notControl
      | dtx => exact Sentence.control?_eq_none_of_colon (by simp [Dialect.nameMark])
  | channel number code data visible =>
      have codeVisible : ∀ c ∈ code.text, Text.isBlank c = false := fun c member =>
        visible c (List.mem_append_left _ member)
      have dataVisible : ∀ c ∈ data, Text.isBlank c = false := fun c member =>
        visible c (List.mem_append_right _ member)
      obtain ⟨shown, trimmed, read⟩ :=
        Sentence.exists_trimEnd_dataMark dialect dataVisible (number.text ++ code.text)
      rw [List.append_assoc, List.append_assoc] at trimmed
      rw [body, trimmed]
      exact Sentence.read?_of_content? (Sentence.control?_eq_none_of_colon (by simp))
        (Sentence.content?_channel number codeVisible read)
  | control text choice isLine reads =>
      rw [body, Text.trimEnd_eq_self (Sentence.last_visible_of_control? reads)]
      exact Sentence.read?_of_control? reads

end Phrase

end RhythmChart
