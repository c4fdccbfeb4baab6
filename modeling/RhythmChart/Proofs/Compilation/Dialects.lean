import RhythmChart.Compilation.Basic
import RhythmChart.Proofs.Sentence.Detection

/-!
# One chart in two dialects

A list of phrases can be written in either dialect. Read in the dialect it was written in,
it gives the same numbered sentences, so everything that compilation makes of it is the
same, and the detector tells the dialects apart.
-/

namespace RhythmChart

namespace Phrase

theorem isLine_line (dialect : Dialect) (phrase : Phrase) :
    Text.IsLine (phrase.line dialect) := by
  refine List.forall_mem_cons.mpr ⟨by decide, ?_⟩
  cases phrase with
  | header name value _ =>
      refine List.forall_mem_append.mpr
        ⟨fun c member => ?_, List.forall_mem_append.mpr ⟨?_, ?_⟩⟩
      · exact Text.ne_lineEnd_of_not_isBlank
          (Text.isBlank_eq_false_of_isWord (name.isWord_of_mem c member))
      · cases dialect <;> decide
      · cases value with
        | none => exact Text.isLine_nil
        | some value => exact List.forall_mem_cons.mpr ⟨by decide, value.isLine⟩
  | channel number code data visible =>
      obtain ⟨codeVisible, dataVisible⟩ := List.forall_mem_append.mp visible
      refine List.forall_mem_append.mpr ⟨fun c member => ?_, List.forall_mem_append.mpr
        ⟨fun c member => ?_, List.forall_mem_append.mpr ⟨?_, fun c member => ?_⟩⟩⟩
      · exact Text.ne_lineEnd_of_not_isBlank
          (Text.isBlank_eq_false_of_digit (number.areDigits c member))
      · exact Text.ne_lineEnd_of_not_isBlank (codeVisible c member)
      · cases dialect <;> decide
      · exact Text.ne_lineEnd_of_not_isBlank (dataVisible c member)
  | control text _ isLine _ => exact isLine

/-- The sentences of a written source are those that were meant, whatever the dialect. -/
theorem ofText_source (dialect : Dialect) (phrases : List Phrase) :
    Sentence.ofText dialect (source dialect phrases) =
      (phrases.zipIdx 1).map fun (phrase, number) => (number, phrase.sentence) := by
  cases phrases with
  | nil => rfl
  | cons phrase others =>
      have lines : Text.lines (source dialect (phrase :: others)) =
          (phrase :: others).map (line dialect) := by
        refine Text.lines_joinLines (List.cons_ne_nil _ _) fun written member => ?_
        obtain ⟨phrase, -, rfl⟩ := List.mem_map.mp member
        exact phrase.isLine_line dialect
      have each : ∀ entry : Phrase × Nat,
          (Sentence.read? dialect (Text.trim (entry.1.line dialect))).map (entry.2, ·) =
            some (entry.2, entry.1.sentence) := by
        intro entry
        rw [read?_line]
        rfl
      rw [Sentence.ofText, Text.numberedLines, lines, List.zipIdx_map, List.map_map,
        List.filterMap_map, ← List.filterMap_eq_map]
      exact congrArg (List.filterMap · _) (funext each)

/-- Sources of the same phrases compile alike in the dialects they are written in, because
each is read as the sentences that were meant. The detector finds the dialect with colons
as soon as there is a header, and the other one unless it breaks a value. -/
theorem dialects_agree {α : Type} [Scalar α] (phrases : List Phrase) :
    (∀ draws, (Compilation.ofText .bms draws (source .bms phrases) : Compilation α) =
      Compilation.ofText .dtx draws (source .dtx phrases)) ∧
    (∀ dialect, Sentence.ofText dialect (source dialect phrases) =
      (phrases.zipIdx 1).map fun (phrase, number) => (number, phrase.sentence)) ∧
    ((∀ phrase ∈ phrases, ∀ value ∈ phrase.value?, ∀ c ∈ value.text, Text.isLineBreak c =
      false) →
      phrases ≠ [] → Dialect.detect? (source .bms phrases) = some .bms) ∧
    ((∃ phrase ∈ phrases, phrase.isHeader = true) →
      Dialect.detect? (source .dtx phrases) = some .dtx) := by
  refine ⟨fun draws => ?_, fun dialect => ofText_source dialect phrases,
    fun unbroken nonempty => detect?_source_bms nonempty unbroken, detect?_source_dtx⟩
  rw [Compilation.ofText, Compilation.ofText, ofText_source, ofText_source]

/-- A title, a draw and a channel. -/
def titledDraw : List Phrase := [
  .ofName ⟨'T', ['I', 'T', 'L', 'E'], by decide, by decide, by decide⟩
    (some ⟨'a', [' ', ':'], by decide, by decide, by rintro _ ⟨⟩; decide⟩) (by decide),
  .control ['r', 'a', 'n', 'd', 'o', 'm', ' ', '2'] (.random 2) (by decide) (by decide),
  .channel ⟨'0', '0', '1', by decide⟩ ⟨'1', ':'⟩ ['0', '2'] (by decide)]

theorem dialects_agree_titledDraw :
    source .bms titledDraw = "#TITLE a :\n#random 2\n#0011::02".toList ∧
    source .dtx titledDraw = "#TITLE: a :\n#random 2\n#0011:: 02".toList ∧
    (∀ draws, (Compilation.ofText .bms draws (source .bms titledDraw) : Compilation Rat) =
      Compilation.ofText .dtx draws (source .dtx titledDraw)) ∧
    Sentence.ofText .dtx (source .dtx titledDraw) =
      [(1, .content (.header "TITLE".toList (some "a :".toList))),
        (2, .control (.random 2)), (3, .content (.channel 1 ⟨'1', ':'⟩ "02".toList))] ∧
    Dialect.detect? (source .bms titledDraw) = some .bms ∧
    Dialect.detect? (source .dtx titledDraw) = some .dtx := by
  obtain ⟨compiled, read, detectsBms, detectsDtx⟩ := dialects_agree (α := Rat) titledDraw
  refine ⟨by decide, by decide, compiled, (read .dtx).trans (by decide),
    detectsBms ?_ (by decide), detectsDtx ?_⟩
  · decide
  · exact ⟨_, List.mem_cons_self, rfl⟩

end Phrase

end RhythmChart
