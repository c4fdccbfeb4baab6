import RhythmChart.Proofs.Compilation.Accounting
import RhythmChart.Proofs.Sentence.Detection
import RhythmChart.Proofs.Text.Breaks

/-!
# Detection and compilation

The detector breaks a source at more characters than the compiler does, so they do not
look at the same lines. Every sentence that is compiled is seen by the detector. But the
detector also sees sentences in the middle of a line, behind a break that is no line end,
and those are not compiled.
-/

namespace RhythmChart

namespace Dialect

/-- Within a line, behind a break that is no line end, there is a sentence. -/
def HidesSentence (line : Text) : Prop :=
  ∃ before c after, line = before ++ c :: after ∧ Text.isLineBreak c = true ∧
    isSentence (Text.trim after) = true

theorem isSentence_iff {line : Text} : isSentence line = true ↔ line.head? = some '#' :=
  beq_iff_eq

theorem detect?_eq_none_iff_pieces {source : Text} :
    detect? source = none ↔
      ¬∃ piece ∈ Text.pieces Text.isLineBreak source,
        isSentence (Text.trim piece) = true := by
  constructor
  · rintro undetected ⟨piece, member, sentence⟩
    by_cases colon : ∃ piece ∈ Text.pieces Text.isLineBreak source,
        hasColonHeader (Text.trim piece) = true
    · rw [detect?_eq_dtx colon] at undetected
      cases undetected
    · have noColon : ∀ piece ∈ Text.pieces Text.isLineBreak source,
          hasColonHeader (Text.trim piece) = false := by simpa using colon
      rw [detect?_eq_bms noColon ⟨piece, member, sentence⟩] at undetected
      cases undetected
  · intro silent
    have none :
        ((Text.pieces Text.isLineBreak source).map Text.trim).filter isSentence = [] := by
      simpa [List.filter_eq_nil_iff] using silent
    simp [detect?, none]

theorem exists_sentence_piece_iff {source : Text} :
    (∃ piece ∈ Text.pieces Text.isLineBreak source, isSentence (Text.trim piece) = true) ↔
      ∃ line ∈ Text.lines source, isSentence (Text.trim line) = true ∨
        HidesSentence line := by
  have within : ∀ line, (∃ piece ∈ Text.pieces Text.isLineBreak line,
      isSentence (Text.trim piece) = true) ↔ isSentence (Text.trim line) = true ∨
        HidesSentence line := by
    intro line
    simp only [HidesSentence, isSentence_iff]
    exact Text.exists_piece_starting_iff (by decide) (by decide)
  simp only [← within]
  constructor
  · rintro ⟨piece, member, sentence⟩
    have nonempty : piece ≠ [] := by
      rintro rfl
      cases sentence
    obtain ⟨line, listed, inLine⟩ :=
      (Text.mem_pieces_iff_lines (by decide) (by decide) nonempty).mp member
    exact ⟨line, listed, piece, inLine, sentence⟩
  · rintro ⟨line, listed, piece, inLine, sentence⟩
    have nonempty : piece ≠ [] := by
      rintro rfl
      cases sentence
    exact ⟨piece, (Text.mem_pieces_iff_lines (by decide) (by decide) nonempty).mpr
      ⟨line, listed, inLine⟩, sentence⟩

/-- Nothing is hidden where lines end in the usual ways. -/
theorem not_hidesSentence {source line : Text} (plain : source.OnlyLineEnds)
    (listed : line ∈ Text.lines source) : ¬HidesSentence line := by
  rintro ⟨before, c, after, rfl, isBreak, -⟩
  have piece := (Text.mem_pieces_iff_mem_lines plain (by simp)).mpr listed
  have unbroken := Text.unbroken_of_mem_pieces piece c (by simp)
  rw [isBreak] at unbroken
  cases unbroken

end Dialect

def Counts.IsEmpty (counts : Counts) : Prop :=
  counts.header = 0 ∧ counts.channel = 0 ∧ counts.control = 0 ∧ counts.malformed = 0

namespace Compilation

variable {α : Type} [Scalar α]

theorem isEmpty_counts_iff (dialect : Dialect) (draws : List Int) (source : Text) :
    (ofText dialect draws source : Compilation α).counts.IsEmpty ↔
      ¬∃ line ∈ Text.lines source, Dialect.isSentence (Text.trim line) = true := by
  have kinds := Sentence.countP_kinds (Sentence.ofText dialect source)
  have empty : (ofText dialect draws source : Compilation α).counts.IsEmpty ↔
      (Sentence.ofText dialect source).length = 0 := by
    simp only [ofText, counts_ofSentences, Counts.IsEmpty]
    omega
  rw [empty, Sentence.length_ofText, List.countP_eq_zero,
    ← Text.map_snd_numberedLines source]
  simp only [List.mem_map, not_exists, not_and]
  constructor
  · rintro silent line ⟨entry, listed, rfl⟩
    exact silent entry listed
  · intro silent entry listed
    exact silent entry.2 ⟨entry, listed, rfl⟩

theorem detect?_eq_none_iff_unhidden (dialect : Dialect) (draws : List Int)
    (source : Text) :
    Dialect.detect? source = none ↔
      (ofText dialect draws source : Compilation α).counts.IsEmpty ∧
        ∀ line ∈ Text.lines source, ¬Dialect.HidesSentence line := by
  rw [Dialect.detect?_eq_none_iff_pieces, Dialect.exists_sentence_piece_iff,
    isEmpty_counts_iff]
  constructor
  · intro silent
    constructor
    · rintro ⟨line, listed, sentence⟩
      exact silent ⟨line, listed, .inl sentence⟩
    · intro line listed hidden
      exact silent ⟨line, listed, .inr hidden⟩
  · rintro ⟨silent, unhidden⟩ ⟨line, listed, sentence | hidden⟩
    · exact silent ⟨line, listed, sentence⟩
    · exact unhidden line listed hidden

/-- The detector finds no dialect if and only if no sentence is counted and none is hidden
within a line. Where lines end in the usual ways none is hidden, so it finds none if and
only if none is counted. -/
theorem detect?_eq_none_iff_isEmpty_counts (dialect : Dialect) (draws : List Int)
    (source : Text) :
    (Dialect.detect? source = none ↔
      (ofText dialect draws source : Compilation α).counts.IsEmpty ∧
        ∀ line ∈ Text.lines source, ¬Dialect.HidesSentence line) ∧
    (source.OnlyLineEnds →
      (Dialect.detect? source = none ↔
        (ofText dialect draws source : Compilation α).counts.IsEmpty)) := by
  refine ⟨detect?_eq_none_iff_unhidden dialect draws source, fun plain => ?_⟩
  rw [detect?_eq_none_iff_unhidden (α := α) dialect draws source]
  exact and_iff_left fun line listed => Dialect.not_hidesSentence plain listed

/-- A vertical tab ends no line, but the detector starts anew behind it. -/
def tabbedTitle : Text := "a\x0b#TITLE b".toList

/-- A dialect is detected although neither dialect has a sentence to count. -/
theorem isEmpty_counts_tabbedTitle :
    Dialect.detect? tabbedTitle = some .bms ∧
      ∀ (dialect : Dialect) (draws : List Int),
        (ofText dialect draws tabbedTitle : Compilation Float).counts.IsEmpty := by
  refine ⟨by decide, ?_⟩
  intro dialect draws
  rw [isEmpty_counts_iff]
  decide

end Compilation

end RhythmChart
