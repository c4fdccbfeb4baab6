import RhythmChart.Proofs.Compilation.Accounting
import RhythmChart.Proofs.Compilation.Resolution
import RhythmChart.Proofs.Text.LineEnds

/-!
# The layout of a source

Nothing about the layout of a source matters but the number of its lines. However lines
end, whatever blanks stand around them, and whatever is written on lines that hold no
sentence, a source compiles like the tidy one, in which line feeds stand between trimmed
sentences and empty lines.
-/

namespace RhythmChart

namespace Compilation

/-- A line with its sentence trimmed, or nothing where there is none. -/
def tidyLine (line : Text) : Text :=
  if Dialect.isSentence (Text.trim line) then Text.trim line else []

theorem isLine_tidyLine {line : Text} (isLine : Text.IsLine line) :
    Text.IsLine (tidyLine line) := by
  unfold tidyLine
  split
  · exact Text.isLine_trim isLine
  · exact Text.isLine_nil

/-- The same sentence is read off a line and off what is left of it. -/
theorem read?_tidyLine (dialect : Dialect) (line : Text) :
    Sentence.read? dialect (Text.trim (tidyLine line)) =
      Sentence.read? dialect (Text.trim line) := by
  unfold tidyLine
  split
  · rw [Text.trim_trim]
  · rename_i noSentence
    rw [← Sentence.isSome_read? dialect, Option.not_isSome_iff_eq_none] at noSentence
    rw [noSentence]
    rfl

/-- Lines may be edited as long as the same sentences are read off them. -/
theorem sentencesFrom_map {dialect : Dialect} {edit : Text → Text}
    (same : ∀ line, Sentence.read? dialect (Text.trim (edit line)) =
      Sentence.read? dialect (Text.trim line)) (number : Nat) (lines : List Text) :
    sentencesFrom dialect number (lines.map edit) =
      sentencesFrom dialect number lines := by
  induction lines generalizing number with
  | nil => rfl
  | cons line rest ih => simp [sentencesFrom, sentenceOn, same, ih]

theorem ofText_joinLines_tidyLine (dialect : Dialect) (source : Text) :
    Sentence.ofText dialect (Text.joinLines ((Text.lines source).map tidyLine)) =
      Sentence.ofText dialect source := by
  have lines : Text.lines (Text.joinLines ((Text.lines source).map tidyLine)) =
      (Text.lines source).map tidyLine := by
    apply Text.lines_joinLines
    · simp [Text.lines_ne_nil]
    · intro line member
      obtain ⟨original, listed, rfl⟩ := List.mem_map.mp member
      exact isLine_tidyLine (Text.isLine_of_mem_lines listed)
  rw [ofText_eq_sentencesFrom, ofText_eq_sentencesFrom, lines]
  exact sentencesFrom_map (read?_tidyLine dialect) 1 _

/-- A source breaks into lines in one way, and when these are tidied and joined again, the
same chart with the same counts, warnings and random choices is compiled. -/
theorem ofText_tidied {α : Type} [Scalar α] (dialect : Dialect) (draws : List Int)
    (source : Text) :
    ∃ lines, (∀ found, source.BreaksInto found ↔ found = lines) ∧
      (ofText dialect draws (Text.joinLines (lines.map tidyLine)) : Compilation α) =
        ofText dialect draws source := by
  refine ⟨Text.lines source, fun found => Text.breaksInto_iff, ?_⟩
  rw [ofText, ofText, ofText_joinLines_tidyLine]

/-- Ends of every kind next to each other, a separator that is blank but ends
no line, and a comment. -/
example :
    Text.joinLines
      ((Text.lines "\x1c#IF 1 \r\r\n#TITLE a\x85\n\r //\u2028#b\n#ENDIF".toList).map
      tidyLine) = "#IF 1\n\n#TITLE a\n\n\n#ENDIF".toList := by
  decide +kernel

end Compilation

end RhythmChart
