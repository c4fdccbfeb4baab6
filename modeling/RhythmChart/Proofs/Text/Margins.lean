import Mathlib.Data.List.DropRight
import RhythmChart.Proofs.Text.Characters

/-!
# Margins

What trimming takes away is blank, and what it leaves ends visibly. So a text is its
trimmed part and a margin, and there is only one way to take it apart like this.
-/

namespace RhythmChart.Text

/-- The last character is not blank. A text without characters does not end visibly. -/
def EndsVisibly (text : Text) : Prop :=
  ∃ c ∈ text.getLast?, isBlank c = false

variable {text gap : Text}

theorem EndsVisibly.ne_nil (ends : EndsVisibly text) : text ≠ [] := by
  rintro rfl
  obtain ⟨c, last, -⟩ := ends
  cases last

theorem trimEnd_append_gap (ends : EndsVisibly text)
    (blank : ∀ c ∈ gap, isBlank c = true) : trimEnd (text ++ gap) = text := by
  obtain ⟨c, last, visible⟩ := ends
  obtain ⟨before, rfl⟩ := List.getLast?_eq_some_iff.mp last
  have nothing : trimEnd gap = [] := List.rdropWhile_eq_nil_iff.mpr blank
  simpa [nothing] using trimEnd_append_cons visible before gap

theorem exists_margin (text : Text) :
    ∃ gap, (∀ c ∈ gap, isBlank c = true) ∧ text = trimEnd text ++ gap := by
  refine ⟨text.rtakeWhile isBlank, ?_, List.rdropWhile_append_rtakeWhile.symm⟩
  intro c member
  exact List.mem_rtakeWhile_imp member

theorem endsVisibly_trimEnd (nonempty : trimEnd text ≠ []) :
    EndsVisibly (trimEnd text) := by
  refine ⟨(trimEnd text).getLast nonempty, List.getLast?_eq_some_getLast nonempty, ?_⟩
  have visible := List.rdropWhile_last_not isBlank text nonempty
  exact Bool.eq_false_iff.mpr visible

theorem trimEnd_subset (text : Text) : trimEnd text ⊆ text :=
  (List.rdropWhile_prefix isBlank text).subset

theorem length_trimEnd_le (text : Text) : (trimEnd text).length ≤ text.length :=
  (List.rdropWhile_prefix isBlank text).length_le

/-- Trimming stops at a visible character, and then more is left than
there was before it. -/
theorem length_trimEnd_lt {c : Char} (visible : isBlank c = false) (before after : Text) :
    (trimEnd before).length < (trimEnd (before ++ c :: after)).length := by
  have atMost := length_trimEnd_le before
  rw [trimEnd_append_cons visible]
  simp only [List.length_append, List.length_cons]
  omega

theorem trimStart_ne_nil (ends : EndsVisibly text) : trimStart text ≠ [] := by
  obtain ⟨c, last, visible⟩ := ends
  intro nothing
  have blank := List.dropWhile_eq_nil_iff.mp nothing c (List.mem_of_getLast? last)
  rw [visible] at blank
  cases blank

/-! ## The first visible character -/

theorem trim_cons_of_blank {c : Char} (blank : isBlank c = true) (text : Text) :
    trim (c :: text) = trim text := by
  simp [trim, trimStart, blank]

theorem head?_trim_append {mark : Char} (blank : ∀ c ∈ gap, isBlank c = true)
    (visible : isBlank mark = false) (rest : Text) :
    (trim (gap ++ mark :: rest)).head? = some mark := by
  induction gap with
  | nil => simp [trim_cons visible]
  | cons c gap ih =>
      obtain ⟨first, others⟩ := List.forall_mem_cons.mp blank
      simpa [trim_cons_of_blank first] using ih others

/-- A trimmed text starts with the first visible character. -/
theorem exists_gap_of_head?_trim {mark : Char} (starts : (trim text).head? = some mark) :
    ∃ gap rest, (∀ c ∈ gap, isBlank c = true) ∧ text = gap ++ mark :: rest := by
  induction text with
  | nil => cases starts
  | cons c text ih =>
      cases blank : isBlank c with
      | true =>
          rw [trim_cons_of_blank blank] at starts
          obtain ⟨gap, rest, areBlank, rfl⟩ := ih starts
          exact ⟨c :: gap, rest, List.forall_mem_cons.mpr ⟨blank, areBlank⟩, rfl⟩
      | false =>
          rw [trim_cons blank] at starts
          obtain rfl : c = mark := Option.some.inj starts
          exact ⟨[], text, List.forall_mem_nil _, rfl⟩

end RhythmChart.Text
