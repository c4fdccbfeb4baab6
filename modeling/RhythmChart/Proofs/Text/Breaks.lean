import RhythmChart.Proofs.Text.Margins
import RhythmChart.Proofs.Text.Pieces

/-!
# Breaking lines further

Where both line ends are breaks, the pieces of a text are those of its lines,
apart from the empty ones that the pair of both line ends leaves. Other breaks
take lines apart. A piece that starts visibly with some character does so where
the line does, or behind a break within the line. A text that holds no other
breaks has the same lines in either sense.
-/

namespace RhythmChart.Text

variable {breaks : Char → Bool} {text piece : Text}

theorem pieces_append_cons {c : Char} (isBreak : breaks c = true) (before after : Text) :
    pieces breaks (before ++ c :: after) = pieces breaks before ++ pieces breaks after :=
  piecesFrom_append_cons isBreak [] before after

theorem pieces_cons_of_break {c : Char} (isBreak : breaks c = true) (text : Text) :
    pieces breaks (c :: text) = [] :: pieces breaks text :=
  pieces_append_cons isBreak [] text

section Lines

variable (carriage : breaks '\r' = true) (feed : breaks '\n' = true)
  (nonempty : piece ≠ [])

include carriage feed nonempty

theorem mem_pieces_iff_linesFrom (current text : Text) :
    piece ∈ pieces breaks (current.reverse ++ text) ↔
      ∃ line ∈ linesFrom current text, piece ∈ pieces breaks line := by
  fun_induction linesFrom current text with
  | case1 current => simp
  | case2 current rest ih =>
      rw [List.reverse_nil, List.nil_append] at ih
      simp [pieces_append_cons carriage, pieces_cons_of_break feed, nonempty, ih]
  | case3 current rest _ ih =>
      rw [List.reverse_nil, List.nil_append] at ih
      simp [pieces_append_cons carriage, ih]
  | case4 current rest ih =>
      rw [List.reverse_nil, List.nil_append] at ih
      simp [pieces_append_cons feed, ih]
  | case5 current c rest _ _ _ ih => simpa using ih

theorem mem_pieces_iff_lines :
    piece ∈ pieces breaks text ↔ ∃ line ∈ lines text, piece ∈ pieces breaks line :=
  mem_pieces_iff_linesFrom carriage feed nonempty [] text

end Lines

theorem exists_piecesFrom_starting {mark : Char} (visible : isBlank mark = false)
    (unbroken : breaks mark = false) {current gap : Text}
    (passed : ∀ c ∈ current, isBlank c = true) (blank : ∀ c ∈ gap, isBlank c = true)
    (rest : Text) :
    ∃ piece ∈ piecesFrom breaks current (gap ++ mark :: rest),
      (trim piece).head? = some mark := by
  induction gap generalizing current with
  | nil =>
      obtain ⟨start, others, first⟩ :
          ∃ start others, piecesFrom breaks (mark :: current) rest =
          ((mark :: current).reverse ++ start) :: others := exists_piecesFrom_eq_cons _ _
      refine ⟨current.reverse ++ mark :: start, ?_, ?_⟩
      · simp [piecesFrom, unbroken, first]
      · apply head?_trim_append _ visible
        intro c member
        exact passed c (List.mem_reverse.mp member)
  | cons c gap ih =>
      obtain ⟨first, others⟩ := List.forall_mem_cons.mp blank
      rw [List.cons_append, piecesFrom]
      split
      · obtain ⟨piece, member, starts⟩ := ih (List.forall_mem_nil _) others
        exact ⟨piece, List.mem_cons_of_mem _ member, starts⟩
      · exact ih (List.forall_mem_cons.mpr ⟨first, passed⟩) others

theorem exists_piece_starting {mark : Char} (visible : isBlank mark = false)
    (unbroken : breaks mark = false) (starts : (trim text).head? = some mark) :
    ∃ piece ∈ pieces breaks text, (trim piece).head? = some mark := by
  obtain ⟨gap, rest, blank, rfl⟩ := exists_gap_of_head?_trim starts
  exact exists_piecesFrom_starting visible unbroken (List.forall_mem_nil _) blank rest

/-- A piece stands at the start of the text, or behind a break. -/
theorem exists_of_mem_piecesFrom {current : Text}
    (member : piece ∈ piecesFrom breaks current text) :
    (∃ after, current.reverse ++ text = piece ++ after) ∨
      ∃ before c after, breaks c = true ∧
        current.reverse ++ text = before ++ c :: (piece ++ after) := by
  induction text generalizing current with
  | nil =>
      obtain rfl := List.mem_singleton.mp member
      exact .inl ⟨[], rfl⟩
  | cons c rest ih =>
      rw [piecesFrom] at member
      split at member
      · rename_i isBreak
        rcases List.mem_cons.mp member with rfl | later
        · exact .inl ⟨c :: rest, rfl⟩
        · right
          rcases ih later with ⟨after, starts⟩ | ⟨before, d, after, isBreak', within⟩
          · exact ⟨current.reverse, c, after, isBreak, by simpa using starts⟩
          · refine ⟨current.reverse ++ c :: before, d, after, isBreak', ?_⟩
            simpa using within
      · simpa using ih member

/-- Which first characters the pieces of a text have. -/
theorem exists_piece_starting_iff {mark : Char} (visible : isBlank mark = false)
    (unbroken : breaks mark = false) :
    (∃ piece ∈ pieces breaks text, (trim piece).head? = some mark) ↔
      (trim text).head? = some mark ∨
        ∃ before c after, text = before ++ c :: after ∧ breaks c = true ∧
          (trim after).head? = some mark := by
  constructor
  · rintro ⟨piece, member, starts⟩
    obtain ⟨gap, rest, blank, rfl⟩ := exists_gap_of_head?_trim starts
    rcases exists_of_mem_piecesFrom member with ⟨after, split⟩
      | ⟨before, c, after, isBreak, split⟩
    · left
      rw [List.reverse_nil, List.nil_append] at split
      simpa [split] using head?_trim_append blank visible (rest ++ after)
    · right
      refine ⟨before, c, _, split, isBreak, ?_⟩
      simpa using head?_trim_append blank visible (rest ++ after)
  · rintro (starts | ⟨before, c, after, rfl, isBreak, starts⟩)
    · exact exists_piece_starting visible unbroken starts
    · obtain ⟨piece, member, found⟩ := exists_piece_starting visible unbroken starts
      rw [pieces_append_cons isBreak]
      exact ⟨piece, List.mem_append_right _ member, found⟩

theorem unbroken_of_mem_piecesFrom {current : Text}
    (unbroken : ∀ c ∈ current, breaks c = false)
    (member : piece ∈ piecesFrom breaks current text) :
    ∀ c ∈ piece, breaks c = false := by
  induction text generalizing current with
  | nil =>
      intro c inside
      rw [List.mem_singleton.mp member] at inside
      exact unbroken c (List.mem_reverse.mp inside)
  | cons d rest ih =>
      rw [piecesFrom] at member
      split at member
      · rcases List.mem_cons.mp member with rfl | later
        · exact fun c inside => unbroken c (List.mem_reverse.mp inside)
        · exact ih (List.forall_mem_nil _) later
      · rename_i notBreak
        refine ih (List.forall_mem_cons.mpr ⟨?_, unbroken⟩) member
        exact Bool.eq_false_iff.mpr notBreak

theorem unbroken_of_mem_pieces (member : piece ∈ pieces breaks text) :
    ∀ c ∈ piece, breaks c = false :=
  unbroken_of_mem_piecesFrom (List.forall_mem_nil _) member

/-! ## Texts without further breaks -/

/-- Nothing but the line ends breaks the text. -/
def OnlyLineEnds (text : Text) : Prop :=
  ∀ c ∈ text, isLineBreak c = true → c = '\r' ∨ c = '\n'

instance (text : Text) : Decidable (OnlyLineEnds text) :=
  inferInstanceAs (Decidable (∀ c ∈ text, isLineBreak c = true → c = '\r' ∨ c = '\n'))

theorem piecesFrom_congr {others : Char → Bool} (same : ∀ c ∈ text, breaks c = others c)
    (current : Text) : piecesFrom breaks current text =
      piecesFrom others current text := by
  induction text generalizing current with
  | nil => rfl
  | cons c rest ih =>
      obtain ⟨first, later⟩ := List.forall_mem_cons.mp same
      simp only [piecesFrom, first, ih later]

/-- The pair of both line ends leaves an empty piece that is no line. -/
theorem mem_pieces_iff_mem_lines (plain : OnlyLineEnds text) (nonempty : piece ≠ []) :
    piece ∈ pieces isLineBreak text ↔ piece ∈ lines text := by
  let endsLine : Char → Bool := fun c => c == '\r' || c == '\n'
  have same : ∀ c ∈ text, isLineBreak c = endsLine c := by
    intro c member
    rw [Bool.eq_iff_iff]
    constructor
    · intro isBreak
      simpa [endsLine] using plain c member isBreak
    · intro ends
      have either : c = '\r' ∨ c = '\n' := by simpa [endsLine] using ends
      rcases either with rfl | rfl <;> decide
  have whole : ∀ line ∈ lines text, pieces endsLine line = [line] := by
    intro line listed
    apply pieces_of_unbroken
    intro c member
    simpa [endsLine] using isLine_of_mem_lines listed c member
  rw [pieces, piecesFrom_congr same]
  apply (mem_pieces_iff_lines (by decide) (by decide) nonempty).trans
  constructor
  · rintro ⟨line, listed, inLine⟩
    rw [whole line listed, List.mem_singleton] at inLine
    exact inLine ▸ listed
  · intro listed
    exact ⟨piece, listed, by simp [whole piece listed]⟩

end RhythmChart.Text
