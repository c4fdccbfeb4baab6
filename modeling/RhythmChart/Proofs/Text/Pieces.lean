import RhythmChart.Proofs.Text.Lines

/-!
# Pieces of joined lines

A text is broken at every character of some kind, and each break separates what stands
before it from what stands after it. So wherever line feeds are breaks, the pieces of
joined lines are those of each line.
-/

namespace RhythmChart.Text

variable {breaks : Char → Bool}

theorem piecesFrom_append_cons {c : Char} (isBreak : breaks c = true)
    (current before after : Text) :
    piecesFrom breaks current (before ++ c :: after) =
      piecesFrom breaks current before ++ pieces breaks after := by
  induction before generalizing current with
  | nil =>
      rw [List.nil_append, piecesFrom.eq_2, if_pos isBreak]
      rfl
  | cons d before ih =>
      rw [List.cons_append, piecesFrom, piecesFrom]
      split
      · rw [ih, List.cons_append]
      · exact ih (d :: current)

theorem pieces_joinLines (feed : breaks '\n' = true) {lines : List Text}
    (nonempty : lines ≠ []) :
    pieces breaks (joinLines lines) = lines.flatMap (pieces breaks) := by
  induction lines with
  | nil => exact absurd rfl nonempty
  | cons line rest ih =>
      cases rest with
      | nil => simp [joinLines]
      | cons next rest =>
          rw [joinLines_cons_cons, pieces, piecesFrom_append_cons feed,
            ih (List.cons_ne_nil next rest)]
          rfl

theorem piecesFrom_append_of_unbroken {before : Text}
    (unbroken : ∀ c ∈ before, breaks c = false) (current after : Text) :
    piecesFrom breaks current (before ++ after) =
      piecesFrom breaks (before.reverse ++ current) after := by
  induction before generalizing current with
  | nil => rfl
  | cons c before ih =>
      obtain ⟨first, others⟩ := List.forall_mem_cons.mp unbroken
      rw [List.cons_append, piecesFrom, if_neg (by rw [first]; decide), ih others]
      simp

theorem pieces_of_unbroken {text : Text} (unbroken : ∀ c ∈ text, breaks c = false) :
    pieces breaks text = [text] := by
  have whole := piecesFrom_append_of_unbroken unbroken [] []
  simpa [pieces, piecesFrom] using whole

/-- The first piece starts with what was read before. -/
theorem exists_piecesFrom_eq_cons (current text : Text) :
    ∃ start others, piecesFrom breaks current text = (current.reverse ++ start) ::
      others := by
  induction text generalizing current with
  | nil => exact ⟨[], [], by simp [piecesFrom]⟩
  | cons c rest ih =>
      rw [piecesFrom]
      split
      · exact ⟨[], piecesFrom breaks [] rest, by simp⟩
      · obtain ⟨start, others, first⟩ := ih (c :: current)
        refine ⟨c :: start, others, first.trans ?_⟩
        simp

theorem exists_pieces_append {before : Text} (unbroken : ∀ c ∈ before, breaks c = false)
    (after : Text) :
    ∃ start others, pieces breaks (before ++ after) = (before ++ start) :: others := by
  obtain ⟨start, others, first⟩ :=
    exists_piecesFrom_eq_cons before.reverse after
  refine ⟨start, others, ?_⟩
  rw [pieces, piecesFrom_append_of_unbroken unbroken, List.append_nil, first,
    List.reverse_reverse]

theorem subset_of_mem_piecesFrom {current text piece : Text}
    (member : piece ∈ piecesFrom breaks current text) : piece ⊆ current ++ text := by
  induction text generalizing current with
  | nil =>
      rw [List.mem_singleton.mp member, List.append_nil]
      exact fun d inside => List.mem_reverse.mp inside
  | cons c rest ih =>
      rw [piecesFrom] at member
      split at member
      · rcases List.mem_cons.mp member with rfl | later
        · exact fun d inside => List.mem_append_left _ (List.mem_reverse.mp inside)
        · exact fun d inside =>
            List.mem_append_right _ (List.mem_cons_of_mem c (ih later inside))
      · intro d inside
        have found := ih member inside
        simp only [List.mem_append, List.mem_cons] at found ⊢
        rcases found with (same | before) | after
        · exact .inr (.inl same)
        · exact .inl before
        · exact .inr (.inr after)

theorem subset_of_mem_pieces {text piece : Text} (member : piece ∈ pieces breaks text) :
    piece ⊆ text :=
  subset_of_mem_piecesFrom member

end RhythmChart.Text
