import RhythmChart.Proofs.Text.Lines
import RhythmChart.Proofs.Text.Margins

/-!
# Line ends

A text is broken into lines by ends of three kinds, and a carriage return belongs together
with a line feed behind it. `BreaksInto` says this without a scan of the text. Every text
breaks into its `lines`, and into no others.
-/

namespace RhythmChart.Text

/-- A text consists of some lines with an end behind each of them but the last. -/
inductive BreaksInto : Text → List Text → Prop where
  | last {line : Text} : IsLine line → BreaksInto line [line]
  | feed {line rest : Text} {others : List Text} :
      IsLine line → BreaksInto rest others →
      BreaksInto (line ++ '\n' :: rest) (line :: others)
  | carriage {line rest : Text} {others : List Text} :
      IsLine line → rest.head? ≠ some '\n' → BreaksInto rest others →
      BreaksInto (line ++ '\r' :: rest) (line :: others)
  | pair {line rest : Text} {others : List Text} :
      IsLine line → BreaksInto rest others →
      BreaksInto (line ++ '\r' :: '\n' :: rest) (line :: others)

theorem linesFrom_carriage {rest : Text} (alone : rest.head? ≠ some '\n')
    (current : Text) :
    linesFrom current ('\r' :: rest) = current.reverse :: linesFrom [] rest := by
  rw [linesFrom]
  rintro others rfl
  exact alone rfl

theorem BreaksInto.lines_eq {text : Text} {found : List Text}
    (breaks : BreaksInto text found) : lines text = found := by
  unfold lines
  induction breaks with
  | last isLine => simpa [linesFrom] using linesFrom_append isLine [] []
  | feed isLine _ ih => simp [linesFrom_append isLine, linesFrom, ih]
  | carriage isLine alone _ ih =>
      simp [linesFrom_append isLine, linesFrom_carriage alone, ih]
  | pair isLine _ ih => simp [linesFrom_append isLine, linesFrom, ih]

theorem breaksInto_linesFrom {current : Text} (isLine : IsLine current) (text : Text) :
    BreaksInto (current.reverse ++ text) (linesFrom current text) := by
  fun_induction linesFrom current text with
  | case1 current => simpa using BreaksInto.last isLine.reverse
  | case2 current rest ih => exact .pair isLine.reverse (ih isLine_nil)
  | case3 current rest notPair ih =>
      apply BreaksInto.carriage isLine.reverse _ (ih isLine_nil)
      intro starts
      obtain ⟨others, rfl⟩ := List.head?_eq_some_iff.mp starts
      exact notPair others rfl
  | case4 current rest ih => exact .feed isLine.reverse (ih isLine_nil)
  | case5 current c rest _ notReturn notFeed ih =>
      have extended : IsLine (c :: current) :=
        List.forall_mem_cons.mpr ⟨⟨notReturn, notFeed⟩, isLine⟩
      simpa using ih extended

theorem breaksInto_iff {text : Text} {found : List Text} :
    BreaksInto text found ↔ found = lines text := by
  constructor
  · intro breaks
    exact breaks.lines_eq.symm
  · rintro rfl
    exact breaksInto_linesFrom isLine_nil text

/-! ## Trimmed lines -/

theorem trimEnd_trimEnd (text : Text) : trimEnd (trimEnd text) = trimEnd text :=
  List.rdropWhile_idempotent isBlank text

theorem trim_trim (text : Text) : trim (trim text) = trim text := by
  induction text with
  | nil => rfl
  | cons c text ih =>
      cases blank : isBlank c with
      | true => rw [trim_cons_of_blank blank, ih]
      | false => rw [trim_cons blank, trim_cons blank, trimEnd_trimEnd]

theorem isLine_trim {line : Text} (isLine : IsLine line) : IsLine (trim line) := by
  intro c member
  exact isLine c (trim_subset line member)

end RhythmChart.Text
