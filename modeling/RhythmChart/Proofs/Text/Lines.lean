import RhythmChart.Text.Lines

/-!
# Joining lines

Lines without line ends, joined with line feeds, are found again when the text is broken
into lines. Whatever ends the lines of a text, its lines hold no line end, so every edit
of single lines that adds none can be carried out on the text itself.
-/

namespace RhythmChart.Text

/-- A line holds no character that ends a line. -/
def IsLine (line : Text) : Prop :=
  ∀ c ∈ line, c ≠ '\r' ∧ c ≠ '\n'

instance (line : Text) : Decidable (IsLine line) :=
  inferInstanceAs (Decidable (∀ c ∈ line, c ≠ '\r' ∧ c ≠ '\n'))

def joinLines (lines : List Text) : Text :=
  ['\n'].intercalate lines

theorem joinLines_cons_cons (line next : Text) (rest : List Text) :
    joinLines (line :: next :: rest) = line ++ '\n' :: joinLines (next :: rest) := by
  simp [joinLines, List.intercalate]

theorem isLine_nil : IsLine [] := by
  intro c member
  cases member

theorem IsLine.reverse {line : Text} (isLine : IsLine line) : IsLine line.reverse := by
  intro c member
  exact isLine c (List.mem_reverse.mp member)

theorem linesFrom_cons_of_ne {c : Char} (plain : c ≠ '\r' ∧ c ≠ '\n')
    (current rest : Text) :
    linesFrom current (c :: rest) = linesFrom (c :: current) rest := by
  obtain ⟨notReturn, notFeed⟩ := plain
  rw [linesFrom]
  · intro _ same
    exact absurd same notReturn
  · exact notReturn
  · exact notFeed

theorem linesFrom_append {line : Text} (isLine : IsLine line) (current rest : Text) :
    linesFrom current (line ++ rest) = linesFrom (line.reverse ++ current) rest := by
  induction line generalizing current with
  | nil => rfl
  | cons c line ih =>
      have plain := isLine c List.mem_cons_self
      have tail : IsLine line := fun d member => isLine d (List.mem_cons_of_mem c member)
      rw [List.cons_append, linesFrom_cons_of_ne plain, ih tail]
      simp

theorem isLine_of_mem_linesFrom {current text : Text} (isLine : IsLine current) :
    ∀ line ∈ linesFrom current text, IsLine line := by
  fun_induction linesFrom current text with
  | case1 current =>
      intro line member
      rw [List.mem_singleton.mp member]
      exact isLine.reverse
  | case2 current rest ih | case3 current rest _ ih | case4 current rest ih =>
      intro line member
      rcases List.mem_cons.mp member with first | later
      · rw [first]
        exact isLine.reverse
      · exact ih isLine_nil line later
  | case5 current c rest _ notReturn notFeed ih =>
      apply ih
      intro d member
      rcases List.mem_cons.mp member with first | later
      · rw [first]
        exact ⟨notReturn, notFeed⟩
      · exact isLine d later

theorem isLine_of_mem_lines {line text : Text} (member : line ∈ lines text) :
    IsLine line :=
  isLine_of_mem_linesFrom isLine_nil line member

theorem lines_ne_nil (text : Text) : lines text ≠ [] := by
  unfold lines
  fun_induction linesFrom [] text <;> simp_all

/-- Joined lines are the lines of the joined text. -/
theorem lines_joinLines {lines : List Text} (nonempty : lines ≠ [])
    (areLines : ∀ line ∈ lines, IsLine line) :
    Text.lines (joinLines lines) = lines := by
  induction lines with
  | nil => exact absurd rfl nonempty
  | cons line rest ih =>
      have first := areLines line List.mem_cons_self
      have others : ∀ other ∈ rest, IsLine other := fun other member =>
        areLines other (List.mem_cons_of_mem line member)
      cases rest with
      | nil =>
          have whole := linesFrom_append first [] []
          simpa [Text.lines, joinLines, linesFrom] using whole
      | cons next rest =>
          have tail := ih (List.cons_ne_nil next rest) others
          rw [joinLines_cons_cons, Text.lines, linesFrom_append first, linesFrom]
          simpa [Text.lines] using tail

theorem map_fst_numberedLines (text : Text) :
    (numberedLines text).map Prod.fst = List.range' 1 (lines text).length := by
  rw [numberedLines, List.map_map]
  exact List.zipIdx_map_snd 1 (lines text)

theorem map_snd_numberedLines (text : Text) :
    (numberedLines text).map Prod.snd = lines text := by
  rw [numberedLines, List.map_map]
  exact List.zipIdx_map_fst 1 (lines text)

/-- Lines are numbered upwards. -/
theorem pairwise_numberedLines (text : Text) :
    (numberedLines text).Pairwise fun a b => a.1 < b.1 := by
  rw [← List.pairwise_map (f := Prod.fst), map_fst_numberedLines]
  exact List.pairwise_lt_range'

end RhythmChart.Text
