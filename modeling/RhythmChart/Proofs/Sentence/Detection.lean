import RhythmChart.Proofs.Sentence.Reading
import RhythmChart.Proofs.Text.Pieces

/-!
# Detecting the dialect of written phrases

The detector breaks lines at more characters than the reader does, so a phrase may fall
into several pieces for it. Control phrases and the values of headers may do so, but a
piece of a control phrase holds no colon, and the name of a header with its punctuation
always stays in one piece.
-/

namespace RhythmChart

namespace Dialect

theorem colon_mem_of_hasColonHeader {line : Text} (found : hasColonHeader line = true) :
    ':' ∈ line := by
  unfold hasColonHeader at found
  split at found
  · rename_i c rest
    rw [Bool.and_eq_true, beq_iff_eq] at found
    have colon := (List.dropWhile_sublist Text.isWord).subset (List.mem_of_head? found.2)
    exact List.mem_cons_of_mem _ (List.mem_cons_of_mem _ colon)
  · cases found

theorem isSentence_of_hasColonHeader {line : Text} (found : hasColonHeader line = true) :
    isSentence line = true := by
  unfold hasColonHeader at found
  split at found
  · rfl
  · cases found

theorem detect?_eq_dtx {source : Text}
    (found : ∃ piece ∈ Text.pieces Text.isLineBreak source,
      hasColonHeader (Text.trim piece) = true) :
    detect? source = some .dtx := by
  obtain ⟨piece, member, colon⟩ := found
  refine if_pos (List.any_eq_true.mpr ⟨Text.trim piece, ?_, colon⟩)
  exact List.mem_filter.mpr
    ⟨List.mem_map_of_mem member, isSentence_of_hasColonHeader colon⟩

theorem detect?_eq_bms {source : Text}
    (noColon : ∀ piece ∈ Text.pieces Text.isLineBreak source,
      hasColonHeader (Text.trim piece) = false)
    (found : ∃ piece ∈ Text.pieces Text.isLineBreak source,
      isSentence (Text.trim piece) = true) :
    detect? source = some .bms := by
  obtain ⟨piece, member, sentence⟩ := found
  have listed : Text.trim piece ∈
      ((Text.pieces Text.isLineBreak source).map Text.trim).filter isSentence :=
    List.mem_filter.mpr ⟨List.mem_map_of_mem member, sentence⟩
  unfold detect?
  dsimp only
  rw [if_neg, if_neg]
  · intro empty
    rw [List.isEmpty_iff.mp empty] at listed
    cases listed
  · intro any
    obtain ⟨line, filtered, colon⟩ := List.any_eq_true.mp any
    obtain ⟨piece, member, rfl⟩ := List.mem_map.mp (List.mem_filter.mp filtered).1
    rw [noColon piece member] at colon
    cases colon

end Dialect

namespace HeaderName

theorem unbroken (name : HeaderName) :
    ∀ c ∈ '#' :: name.text, Text.isLineBreak c = false := by
  refine List.forall_mem_cons.mpr ⟨by decide, fun c member => ?_⟩
  exact Text.isLineBreak_eq_false_of_visible
    (Text.isBlank_eq_false_of_isWord (name.isWord_of_mem c member))

/-- What follows a name decides. -/
theorem hasColonHeader_name (name : HeaderName) {tail : Text}
    (stop : ∀ c ∈ tail.head?, Text.isWord c = false) :
    Dialect.hasColonHeader ('#' :: (name.text ++ tail)) = (tail.head? == some ':') := by
  change (Text.isLatinLetter name.initial &&
    ((name.rest ++ tail).dropWhile Text.isWord).head? == some ':') = _
  rw [name.isLatinLetter, Text.dropWhile_isWord_append name.areWord stop, Bool.true_and]

end HeaderName

namespace Phrase

open Dialect

def value? : Phrase → Option HeaderValue
  | header _ value _ => value
  | _ => none

def isHeader : Phrase → Bool
  | header _ _ _ => true
  | _ => false

theorem exists_isSentence_piece (dialect : Dialect) (phrase : Phrase) :
    ∃ piece ∈ Text.pieces Text.isLineBreak (phrase.line dialect),
      isSentence (Text.trim piece) = true := by
  have mark : ∀ c ∈ ['#'], Text.isLineBreak c = false := by decide
  obtain ⟨start, others, first⟩ := Text.exists_pieces_append mark (phrase.body dialect)
  refine ⟨'#' :: start, ?_, ?_⟩
  · rw [line, ← List.singleton_append, first]
    exact List.mem_cons_self
  · rw [Text.trim_cons (by decide)]
    rfl

/-- In the dialect with colons the first piece of a header has its colon. -/
theorem exists_colon_piece {phrase : Phrase} (isHeader : phrase.isHeader = true) :
    ∃ piece ∈ Text.pieces Text.isLineBreak (phrase.line .dtx),
      hasColonHeader (Text.trim piece) = true := by
  cases phrase with
  | header name value notControl =>
      have broken : ∀ c ∈ '#' :: name.text ++ [':'], Text.isLineBreak c = false :=
        List.forall_mem_append.mpr ⟨name.unbroken, by decide⟩
      obtain ⟨start, others, first⟩ :=
        Text.exists_pieces_append broken (HeaderValue.setOff value)
      refine ⟨'#' :: name.text ++ [':'] ++ start, ?_, ?_⟩
      · have written : (header name value notControl).line .dtx =
            '#' :: name.text ++ [':'] ++ HeaderValue.setOff value := by
          simp [line, body, nameMark]
        rw [written, first]
        exact List.mem_cons_self
      · have trimmed : Text.trim ('#' :: name.text ++ [':'] ++ start) =
            '#' :: (name.text ++ ':' :: Text.trimEnd start) := by
          rw [List.append_assoc, List.cons_append, Text.trim_cons (by decide)]
          exact congrArg ('#' :: ·) (Text.trimEnd_append_cons (by decide) name.text start)
        rw [trimmed, name.hasColonHeader_name]
        · rfl
        · rintro _ ⟨⟩
          decide
  | channel _ _ _ _ => cases isHeader
  | control _ _ _ _ => cases isHeader

theorem hasColonHeader_header (name : HeaderName) {value : Option HeaderValue}
    (unbroken : ∀ given ∈ value, ∀ c ∈ given.text, Text.isLineBreak c = false) :
    ∀ piece ∈ Text.pieces Text.isLineBreak
      ('#' :: (name.text ++ HeaderValue.setOff value)),
      hasColonHeader (Text.trim piece) = false := by
  have whole :
      ∀ c ∈ '#' :: name.text ++ HeaderValue.setOff value, Text.isLineBreak c = false := by
    refine List.forall_mem_append.mpr ⟨name.unbroken, ?_⟩
    cases value with
    | none =>
        intro c member
        cases member
    | some given => exact List.forall_mem_cons.mpr ⟨by decide, unbroken given rfl⟩
  intro piece member
  rw [← List.cons_append, Text.pieces_of_unbroken whole] at member
  have blank := HeaderValue.isBlank_head?_setOff value
  have ends := Text.trimEnd_eq_self (last_visible_of_header .bms name value)
  rw [nameMark, List.nil_append] at ends
  rw [List.mem_singleton.mp member, List.cons_append, Text.trim_cons (by decide), ends,
    name.hasColonHeader_name fun c first =>
      Text.isWord_eq_false_of_isBlank (blank c first),
    beq_eq_false_iff_ne]
  intro colon
  exact absurd (blank ':' colon) (by decide)

theorem hasColonHeader_channel (number : MeasureNumber) {code : Code} {data : Text}
    (visible : ∀ c ∈ code.text ++ data, Text.isBlank c = false) :
    ∀ piece ∈ Text.pieces Text.isLineBreak
      ('#' :: (number.text ++ (code.text ++ ':' :: data))),
      hasColonHeader (Text.trim piece) = false := by
  have shown :
      ∀ c ∈ '#' :: (number.text ++ (code.text ++ ':' :: data)),
        Text.isBlank c = false := by
    obtain ⟨codeVisible, dataVisible⟩ := List.forall_mem_append.mp visible
    refine List.forall_mem_cons.mpr ⟨by decide, List.forall_mem_append.mpr ⟨?_, ?_⟩⟩
    · exact fun c digit => Text.isBlank_eq_false_of_digit (number.areDigits c digit)
    · exact List.forall_mem_append.mpr
        ⟨codeVisible, List.forall_mem_cons.mpr ⟨by decide, dataVisible⟩⟩
  intro piece member
  rw [Text.pieces_of_unbroken fun c inLine =>
    Text.isLineBreak_eq_false_of_visible (shown c inLine)] at member
  have digit := number.areDigits number.hundreds List.mem_cons_self
  have noLetter : Text.isLatinLetter number.hundreds = false := by
    cases letter : Text.isLatinLetter number.hundreds with
    | false => rfl
    | true =>
        rw [Text.digitValue?_eq_none_of_isLatinLetter letter] at digit
        cases digit
  have ends :
      ∀ c ∈ (number.text ++ (code.text ++ ':' :: data)).getLast?,
        Text.isBlank c = false :=
    fun c last => shown c (List.mem_cons_of_mem _ (List.mem_of_getLast? last))
  rw [List.mem_singleton.mp member, Text.trim_cons (by decide), Text.trimEnd_eq_self ends]
  change (Text.isLatinLetter number.hundreds && _) = false
  rw [noLetter, Bool.false_and]

theorem hasColonHeader_control {text : Text} {control : Control}
    (reads : Sentence.control? text = some control) :
    ∀ piece ∈ Text.pieces Text.isLineBreak ('#' :: text),
      hasColonHeader (Text.trim piece) = false := by
  intro piece member
  cases found : hasColonHeader (Text.trim piece) with
  | false => rfl
  | true =>
      have inLine := Text.subset_of_mem_pieces member
        (Text.trim_subset piece (colon_mem_of_hasColonHeader found))
      rcases List.mem_cons.mp inLine with first | later
      · cases first
      · exact absurd later (Sentence.colon_not_mem_of_control? reads)

/-- In the other dialect no piece of a phrase looks like a header with a colon. -/
theorem hasColonHeader_pieces {phrase : Phrase}
    (unbroken : ∀ value ∈ phrase.value?, ∀ c ∈ value.text, Text.isLineBreak c = false) :
    ∀ piece ∈ Text.pieces Text.isLineBreak (phrase.line .bms),
      hasColonHeader (Text.trim piece) = false := by
  cases phrase with
  | header name value _ => exact hasColonHeader_header name unbroken
  | channel number _ _ visible => exact hasColonHeader_channel number visible
  | control _ _ _ reads => exact hasColonHeader_control reads

theorem pieces_source (dialect : Dialect) {phrases : List Phrase}
    (nonempty : phrases ≠ []) :
    Text.pieces Text.isLineBreak (source dialect phrases) =
      phrases.flatMap fun phrase =>
        Text.pieces Text.isLineBreak (phrase.line dialect) := by
  rw [source, Text.pieces_joinLines
    (by decide) (by simpa using nonempty), List.flatMap_map]

theorem detect?_source_bms {phrases : List Phrase} (nonempty : phrases ≠ [])
    (unbroken : ∀ phrase ∈ phrases, ∀ value ∈ phrase.value?, ∀ c ∈ value.text,
      Text.isLineBreak c = false) :
    detect? (source .bms phrases) = some .bms := by
  apply detect?_eq_bms
  · rw [pieces_source .bms nonempty]
    intro piece member
    obtain ⟨phrase, listed, inLine⟩ := List.mem_flatMap.mp member
    exact hasColonHeader_pieces (unbroken phrase listed) piece inLine
  · rw [pieces_source .bms nonempty]
    obtain ⟨phrase, others, rfl⟩ := List.exists_cons_of_ne_nil nonempty
    obtain ⟨piece, inLine, sentence⟩ := exists_isSentence_piece .bms phrase
    exact ⟨piece, List.mem_flatMap.mpr ⟨phrase, List.mem_cons_self, inLine⟩, sentence⟩

theorem detect?_source_dtx {phrases : List Phrase}
    (header : ∃ phrase ∈ phrases, phrase.isHeader = true) :
    detect? (source .dtx phrases) = some .dtx := by
  obtain ⟨phrase, listed, isHeader⟩ := header
  obtain ⟨piece, inLine, colon⟩ := exists_colon_piece isHeader
  apply detect?_eq_dtx
  rw [pieces_source .dtx (List.ne_nil_of_mem listed)]
  exact ⟨piece, List.mem_flatMap.mpr ⟨phrase, listed, inLine⟩, colon⟩

end Phrase

end RhythmChart
