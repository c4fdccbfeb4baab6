import RhythmChart.Proofs.Compilation.Accounting
import RhythmChart.Proofs.Sentence.Detection
import RhythmChart.Proofs.Text.Breaks

/-!
# Headers with a colon

One header with a colon after its name decides the dialect of a source. The detector does
not look behind the colon, but the reader does: a value counts only when blanks set it
off, and a header whose value follows the colon at once is malformed.
-/

namespace RhythmChart

/-- A line in its parts: a name that starts with a Latin letter, a colon, and the rest. -/
structure ColonHeader (line name rest : Text) : Prop where
  written : line = '#' :: (name ++ ':' :: rest)
  starts : ∃ c ∈ name.head?, Text.isLatinLetter c = true
  areWord : ∀ c ∈ name, Text.isWord c = true

/-- Nothing follows, or a blank does. -/
def Text.IsSetOff (rest : Text) : Prop :=
  ∀ c ∈ rest.head?, Text.isBlank c = true

instance (rest : Text) : Decidable (Text.IsSetOff rest) :=
  inferInstanceAs (Decidable (∀ c ∈ rest.head?, Text.isBlank c = true))

namespace Dialect

theorem hasColonHeader_iff {line : Text} :
    hasColonHeader line = true ↔ ∃ name rest, ColonHeader line name rest := by
  constructor
  · intro found
    unfold hasColonHeader at found
    split at found
    · rename_i c tail
      obtain ⟨letter, colon⟩ := Bool.and_eq_true_iff.mp found
      obtain ⟨rest, stops⟩ := List.head?_eq_some_iff.mp (beq_iff_eq.mp colon)
      refine ⟨c :: tail.takeWhile Text.isWord, rest, ?_, ⟨c, rfl, letter⟩, ?_⟩
      · rw [← stops, List.cons_append, List.takeWhile_append_dropWhile]
      · exact List.forall_mem_cons.mpr
          ⟨Text.isWord_of_isLatinLetter letter, List.all_eq_true.mp List.all_takeWhile⟩
    · cases found
  · rintro ⟨name, rest, rfl, ⟨c, first, letter⟩, areWord⟩
    obtain ⟨tail, rfl⟩ := List.head?_eq_some_iff.mp first
    have stop : ∀ c ∈ (':' :: rest).head?, Text.isWord c = false := by
      rintro _ ⟨⟩
      decide
    have remains := Text.dropWhile_isWord_append (List.forall_mem_cons.mp areWord).2 stop
    simp [hasColonHeader, letter, remains]

theorem detect?_eq_dtx_iff {source : Text} :
    detect? source = some .dtx ↔
      ∃ piece ∈ Text.pieces Text.isLineBreak source,
        hasColonHeader (Text.trim piece) = true := by
  constructor
  · intro detected
    unfold detect? at detected
    dsimp only at detected
    split at detected
    · rename_i any
      obtain ⟨line, filtered, colon⟩ := List.any_eq_true.mp any
      obtain ⟨piece, member, rfl⟩ := List.mem_map.mp (List.mem_filter.mp filtered).1
      exact ⟨piece, member, colon⟩
    · split at detected <;> cases detected
  · exact detect?_eq_dtx

end Dialect

namespace ColonHeader

open Sentence

variable {line name rest : Text} (header : ColonHeader line name rest)

include header

theorem measure?_eq_none : measure? (name ++ ':' :: rest) = none := by
  obtain ⟨c, first, letter⟩ := header.starts
  obtain ⟨tail, rfl⟩ := List.head?_eq_some_iff.mp first
  exact measure?_cons_eq_none (Text.digitValue?_eq_none_of_isLatinLetter letter) _

theorem takeWhile_isWord : (name ++ ':' :: rest).takeWhile Text.isWord = name := by
  apply Text.takeWhile_isWord_append header.areWord
  rintro _ ⟨⟩
  decide

theorem dropWhile_isWord : (name ++ ':' :: rest).dropWhile Text.isWord = ':' :: rest := by
  apply Text.dropWhile_isWord_append header.areWord
  rintro _ ⟨⟩
  decide

/-- The mark of extended sentences is followed by a blank and not by a colon. -/
theorem skipExtension_eq_self :
    skipExtension (name ++ ':' :: rest) = name ++ ':' :: rest := by
  by_cases mark : name = ['E', 'X', 'T']
  · have visible : Text.isBlank ':' = false := by decide
    subst mark
    simp [skipExtension, Text.after?, afterBlanks?, visible]
  · apply Sentence.skipExtension_eq_self
    rwa [header.takeWhile_isWord]

theorem content?_eq_header? :
    content? .dtx (name ++ ':' :: rest) = header? .dtx (name ++ ':' :: rest) := by
  simp [content?, measureSize?, channel?, header.skipExtension_eq_self,
    header.measure?_eq_none]

theorem header?_dtx (ends : rest ≠ [] → Text.EndsVisibly rest) :
    header? .dtx (name ++ ':' :: rest) =
      if rest.IsSetOff then
        some (.header name (if rest = [] then none else some (Text.trimStart rest)))
      else none := by
  obtain ⟨initial, first, -⟩ := header.starts
  have named : name.isEmpty = false := by
    obtain ⟨tail, rfl⟩ := List.head?_eq_some_iff.mp first
    rfl
  simp only [header?, header.takeWhile_isWord, header.dropWhile_isWord, named, afterName?]
  cases rest with
  | nil => simp [Text.after?, Text.IsSetOff]
  | cons c rest =>
      have given := Text.trimStart_ne_nil (ends (List.cons_ne_nil c rest))
      cases blank : Text.isBlank c with
      | true => simp [Text.after?, Text.IsSetOff, afterBlanks?, blank, given]
      | false => simp [Text.after?, Text.IsSetOff, afterBlanks?, blank]

/-- What follows the colon decides whether the line is a header at all. -/
theorem read?_dtx (ends : Text.EndsVisibly line) :
    read? .dtx line = some (if rest.IsSetOff then
      .content (.header name (if rest = [] then none else some (Text.trimStart rest)))
      else .malformed line) := by
  have written := header.written
  have noControl : control? (name ++ ':' :: rest) = none :=
    control?_eq_none_of_colon (by simp)
  have restEnds : rest ≠ [] → Text.EndsVisibly rest := by
    intro nonempty
    obtain ⟨c, last, visible⟩ := ends
    refine ⟨c, ?_, visible⟩
    have split : line = ('#' :: name ++ [':']) ++ rest := by simp [written]
    rwa [split, List.getLast?_append_of_ne_nil _ nonempty] at last
  subst written
  simp only [read?, noControl, header.content?_eq_header?, header.header?_dtx restEnds]
  by_cases setOff : rest.IsSetOff
  · simp [setOff]
  · simp [setOff]

end ColonHeader

namespace Sentence

def countLines (dialect : Dialect) (kind : Sentence → Bool) (source : Text) : Nat :=
  (Text.lines source).countP fun line => (read? dialect (Text.trim line)).any kind

theorem countP_ofText (dialect : Dialect) (kind : Sentence → Bool) (source : Text) :
    (ofText dialect source).countP
    (fun entry => kind entry.2) = countLines dialect kind source := by
  rw [ofText, List.countP_filterMap, countLines, ← Text.map_snd_numberedLines source,
    List.countP_map]
  apply List.countP_congr
  rintro ⟨number, line⟩ -
  dsimp only [Function.comp_apply]
  cases read? dialect (Text.trim line) <;> rfl

end Sentence

namespace Compilation

variable {α : Type} [Scalar α]

theorem header_ofText (dialect : Dialect) (draws : List Int) (source : Text) :
    (ofText dialect draws source : Compilation α).counts.header =
      Sentence.countLines dialect Sentence.isHeader source := by
  simp [ofText, counts_ofSentences, Sentence.countP_ofText]

theorem malformed_ofText (dialect : Dialect) (draws : List Int) (source : Text) :
    (ofText dialect draws source : Compilation α).counts.malformed =
      Sentence.countLines dialect Sentence.isMalformed source := by
  simp [ofText, counts_ofSentences, Sentence.countP_ofText]

/-- A line with a colon header decides the dialect wherever it stands. It is counted as a
header when its value is set off, and as malformed otherwise. -/
theorem colonHeaders_counted (draws : List Int) {source : Text}
    (plain : source.OnlyLineEnds) :
    (ofText .dtx draws source : Compilation α).counts.header =
        Sentence.countLines .dtx Sentence.isHeader source ∧
      (ofText .dtx draws source : Compilation α).counts.malformed =
        Sentence.countLines .dtx Sentence.isMalformed source ∧
      (Dialect.detect? source = some .dtx ↔
        ∃ line ∈ Text.lines source, Dialect.hasColonHeader (Text.trim line) = true) ∧
      ∀ piece ∈ Text.pieces Text.isLineBreak source,
        Dialect.hasColonHeader (Text.trim piece) = true →
          piece ∈ Text.lines source ∧ ∃ name rest, ColonHeader
            (Text.trim piece) name rest ∧
            Sentence.read? .dtx (Text.trim piece) = some (if rest.IsSetOff then
              .content (.header name
                (if rest = [] then none else some (Text.trimStart rest)))
              else .malformed (Text.trim piece)) := by
  have isLine : ∀ piece, Dialect.hasColonHeader (Text.trim piece) = true →
      (piece ∈ Text.pieces Text.isLineBreak source ↔ piece ∈ Text.lines source) := by
    intro piece colon
    apply Text.mem_pieces_iff_mem_lines plain
    rintro rfl
    cases colon
  refine ⟨header_ofText _ draws source, malformed_ofText _ draws source, ?_, ?_⟩
  · rw [Dialect.detect?_eq_dtx_iff]
    constructor
    · rintro ⟨piece, member, colon⟩
      exact ⟨piece, (isLine piece colon).mp member, colon⟩
    · rintro ⟨line, listed, colon⟩
      exact ⟨line, (isLine line colon).mpr listed, colon⟩
  · intro piece member colon
    obtain ⟨name, rest, header⟩ := Dialect.hasColonHeader_iff.mp colon
    have ends : Text.EndsVisibly (Text.trim piece) := by
      apply Text.endsVisibly_trimEnd
      exact fun empty => List.cons_ne_nil _ _ (header.written.symm.trans empty)
    exact ⟨(isLine piece colon).mp member, name, rest, header, header.read?_dtx ends⟩

/-- Three headers with a colon, and the value of the second one is not set off. -/
def closeValue : Text := "#TITLE: a\r\n#ARTIST:b\n#00111:01\r #GENRE:".toList

theorem colonHeaders_counted_closeValue :
    closeValue.OnlyLineEnds ∧ Dialect.detect? closeValue = some .dtx ∧
      (ofText .dtx [] closeValue : Compilation Float).counts.header = 2 ∧
      (ofText .dtx [] closeValue : Compilation Float).counts.malformed = 1 := by
  have plain : closeValue.OnlyLineEnds := by decide
  obtain ⟨headers, malformed, detected, -⟩ := colonHeaders_counted (α := Float) [] plain
  refine ⟨plain, detected.mpr (by decide), ?_, ?_⟩
  · rw [headers]
    decide
  · rw [malformed]
    decide

/-- A title that decides the dialect but is malformed in it. -/
def closeTitle : Text := "#TITLE:foo".toList

theorem not_counted_closeTitle :
    Dialect.detect? closeTitle = some .dtx ∧
      ∀ draws, (ofText .dtx draws closeTitle : Compilation Float).counts.header = 0 ∧
        (ofText .dtx draws closeTitle : Compilation Float).counts.malformed = 1 := by
  refine ⟨by decide, fun draws => ?_⟩
  rw [header_ofText, malformed_ofText]
  decide

end Compilation

end RhythmChart
