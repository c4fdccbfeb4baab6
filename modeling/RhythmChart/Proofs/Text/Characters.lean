import RhythmChart.Text.Blank
import RhythmChart.Text.Digit
import RhythmChart.Text.Lines
import RhythmChart.Text.Word

/-!
# Kinds of characters

Blanks, word characters, digits and line breaks are looked up in separate tables. How the
tables relate decides where a name ends and what trimming takes away. The tables of
blanks, Latin letters and line breaks are short, so their characters can be listed and
compared with the other tables one by one.
-/

namespace RhythmChart.Text

def listed (ranges : List (Nat × Nat)) : List Char :=
  ranges.flatMap fun (first, last) =>
    (List.range' first (last + 1 - first)).map Char.ofNat

theorem mem_listed {ranges : List (Nat × Nat)} {c : Char}
    (inside : inRanges ranges c.toNat = true) : c ∈ listed ranges := by
  induction ranges with
  | nil => cases inside
  | cons range rest ih =>
      obtain ⟨first, last⟩ := range
      rw [listed, List.flatMap_cons, List.mem_append]
      unfold inRanges at inside
      split at inside
      · cases inside
      · rw [Bool.or_eq_true, decide_eq_true_eq] at inside
        rcases inside with here | later
        · refine .inl (List.mem_map.mpr ⟨c.toNat, ?_, Char.ofNat_toNat c⟩)
          rw [List.mem_range'_1]
          omega
        · exact .inr (ih later)

section Kinds

variable {c : Char}

theorem isWord_eq_false_of_isBlank (blank : isBlank c = true) : isWord c = false := by
  have table : ∀ d ∈ listed blankRanges, isWord d = false := by decide +kernel
  exact table c (mem_listed blank)

theorem isBlank_eq_false_of_isWord (word : isWord c = true) : isBlank c = false := by
  cases blank : isBlank c with
  | false => rfl
  | true =>
      rw [isWord_eq_false_of_isBlank blank] at word
      cases word

theorem digitValue?_eq_none_of_isBlank (blank : isBlank c = true) :
    digitValue? c = none := by
  have table : ∀ d ∈ listed blankRanges, digitValue? d = none := by decide +kernel
  exact table c (mem_listed blank)

theorem isBlank_eq_false_of_digit (digit : (digitValue? c).isSome) :
    isBlank c = false := by
  cases blank : isBlank c with
  | false => rfl
  | true =>
      rw [digitValue?_eq_none_of_isBlank blank] at digit
      cases digit

theorem isLineBreak_eq_false_of_visible (visible : isBlank c = false) :
    isLineBreak c = false := by
  have table : ∀ d ∈ listed [(0xA, 0xD), (0x1C, 0x1E), (0x85, 0x85), (0x2028, 0x2029)],
      isBlank d = true := by decide +kernel
  cases lineBreak : isLineBreak c with
  | false => rfl
  | true =>
      rw [table c (mem_listed lineBreak)] at visible
      cases visible

theorem isWord_of_isLatinLetter (letter : isLatinLetter c = true) : isWord c = true := by
  have table : ∀ d ∈ listed [(0x41, 0x5A), (0x61, 0x7A)], isWord d = true := by
    decide +kernel
  exact table c (mem_listed letter)

theorem digitValue?_eq_none_of_isLatinLetter (letter : isLatinLetter c = true) :
    digitValue? c = none := by
  have table : ∀ d ∈ listed [(0x41, 0x5A), (0x61, 0x7A)], digitValue? d = none := by
    decide +kernel
  exact table c (mem_listed letter)

end Kinds

/-- What ends a line is blank, so visible characters make up a line. -/
theorem ne_lineEnd_of_not_isBlank {c : Char} (visible : isBlank c = false) :
    c ≠ '\r' ∧ c ≠ '\n' := by
  constructor
  · rintro rfl
    exact absurd visible (by decide)
  · rintro rfl
    exact absurd visible (by decide)

/-! ## Words -/

section Words

variable {name tail : Text}

/-- A name is read up to the first character that cannot stand in a word. -/
theorem takeWhile_isWord_append (areWord : ∀ c ∈ name, isWord c = true)
    (stop : ∀ c ∈ tail.head?, isWord c = false) :
    (name ++ tail).takeWhile isWord = name := by
  rw [List.takeWhile_append_of_pos areWord]
  cases tail with
  | nil => simp
  | cons c tail => rw [List.takeWhile_cons_of_neg (by simp [stop c rfl]), List.append_nil]

theorem dropWhile_isWord_append (areWord : ∀ c ∈ name, isWord c = true)
    (stop : ∀ c ∈ tail.head?, isWord c = false) :
    (name ++ tail).dropWhile isWord = tail := by
  rw [List.dropWhile_append_of_pos areWord]
  cases tail with
  | nil => rfl
  | cons c tail => rw [List.dropWhile_cons_of_neg (by simp [stop c rfl])]

end Words

/-! ## Numbers -/

private theorem isSome_foldlM_digits (start : Nat) (text : Text) :
    (text.foldlM (fun value c => (digitValue? c).map (value * 10 + ·)) start).isSome ↔
      ∀ c ∈ text, (digitValue? c).isSome := by
  induction text generalizing start with
  | nil => simp
  | cons c rest ih =>
      rw [List.foldlM_cons, List.forall_mem_cons]
      cases value : digitValue? c with
      | none => simp
      | some digit =>
          refine (ih (start * 10 + digit)).trans ?_
          simp

/-- Exactly the nonempty texts of digits denote a number. -/
theorem isSome_natural?_iff (text : Text) :
    (natural? text).isSome ↔ text ≠ [] ∧ ∀ c ∈ text, (digitValue? c).isSome := by
  cases text with
  | nil => simp [natural?]
  | cons c rest =>
      rw [natural?, if_neg (by simp), isSome_foldlM_digits]
      simp

/-! ## Trimming -/

theorem trimStart_cons {c : Char} (visible : isBlank c = false) (text : Text) :
    trimStart (c :: text) = c :: text :=
  List.dropWhile_cons_of_neg (by rw [visible]; decide)

/-- Nothing in front of a visible character is trimmed away at the end. -/
theorem trimEnd_append_cons {c : Char} (visible : isBlank c = false)
    (before after : Text) :
    trimEnd (before ++ c :: after) = before ++ c :: trimEnd after := by
  unfold trimEnd
  rw [List.reverse_append, List.reverse_cons, List.append_assoc, List.dropWhile_append]
  split
  · rename_i blank
    rw [List.isEmpty_iff.mp blank, List.singleton_append,
      List.dropWhile_cons_of_neg (by rw [visible]; decide)]
    simp
  · simp

theorem trimEnd_eq_self {text : Text} (ends : ∀ c ∈ text.getLast?, isBlank c = false) :
    trimEnd text = text := by
  cases last : text.getLast? with
  | none =>
      rw [List.getLast?_eq_none_iff.mp last]
      rfl
  | some c =>
      obtain ⟨before, rfl⟩ := List.getLast?_eq_some_iff.mp last
      exact trimEnd_append_cons (ends c last) before []

/-- Trimming a text that starts visibly happens at its end. -/
theorem trim_cons {c : Char} (visible : isBlank c = false) (text : Text) :
    trim (c :: text) = c :: trimEnd text := by
  rw [trim, trimStart_cons visible]
  exact trimEnd_append_cons visible [] text

theorem trim_subset (text : Text) : trim text ⊆ text := by
  intro c member
  have inEnd := (List.dropWhile_sublist isBlank).subset (List.mem_reverse.mp member)
  exact (List.dropWhile_sublist isBlank).subset (List.mem_reverse.mp inEnd)

end RhythmChart.Text
