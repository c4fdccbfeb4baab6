import RhythmChart.Proofs.Text.Characters
import RhythmChart.Sentence.Reader

/-!
# The text of control sentences

A control sentence is a spelling of a control word, alone or followed by blanks and
digits. So it holds no colon, it ends visibly, and its control word is all that
stands in front of a blank.
-/

namespace RhythmChart.Sentence

def controlWords : List Text := [
  ['R', 'A', 'N', 'D', 'O', 'M'], ['I', 'F'], ['E', 'L', 'S', 'E'],
    ['E', 'N', 'D', 'I', 'F'],
  ['E', 'N', 'D', 'R', 'A', 'N', 'D', 'O', 'M']]

/-- The second text spells the control word. -/
inductive Spells : Text → Text → Prop where
  | nil : Spells [] []
  | cons {letter c : Char} {word spelling : Text} :
      isLetter letter c = true → Spells word spelling →
        Spells (letter :: word) (c :: spelling)

theorem afterWord?_eq_some_iff {word text rest : Text} :
    afterWord? word text = some rest ↔ ∃ spelling, Spells word spelling ∧
      text = spelling ++ rest := by
  induction word generalizing text with
  | nil =>
      constructor
      · intro found
        exact ⟨[], .nil, Option.some.inj found⟩
      · rintro ⟨spelling, spells, rfl⟩
        cases spells
        rfl
  | cons letter word ih =>
      constructor
      · intro found
        cases text with
        | nil => cases found
        | cons c text =>
            rw [afterWord?] at found
            split at found
            · rename_i isLetter
              obtain ⟨spelling, spells, rfl⟩ := ih.mp found
              exact ⟨c :: spelling, .cons isLetter spells, rfl⟩
            · cases found
      · rintro ⟨spelling, spells, rfl⟩
        cases spells with
        | cons isLetter spells =>
            rw [List.cons_append, afterWord?, if_pos isLetter]
            exact ih.mpr ⟨_, spells, rfl⟩

theorem isWord_iff_spells {word text : Text} : isWord word text = true ↔
      Spells word text := by
  rw [isWord, beq_iff_eq, afterWord?_eq_some_iff]
  constructor
  · rintro ⟨spelling, spells, rfl⟩
    rwa [List.append_nil]
  · intro spells
    exact ⟨text, spells, (List.append_nil text).symm⟩

theorem Spells.exists_letter {word spelling : Text} (spells : Spells word spelling) :
    ∀ c ∈ spelling, ∃ letter ∈ word, isLetter letter c = true := by
  induction spells with
  | nil =>
      intro c member
      cases member
  | cons isLetter _ ih =>
      intro c member
      rcases List.mem_cons.mp member with rfl | later
      · exact ⟨_, List.mem_cons_self, isLetter⟩
      · obtain ⟨letter, listed, isLetter⟩ := ih c later
        exact ⟨letter, List.mem_cons_of_mem _ listed, isLetter⟩

section Letters

variable {word spelling : Text}

theorem Spells.visible (isControl : word ∈ controlWords) (spells : Spells word spelling) :
    ∀ c ∈ spelling, Text.isBlank c = false := by
  have table : ∀ word ∈ controlWords, ∀ letter ∈ word, ∀ c ∈ Text.listed Text.blankRanges,
      isLetter letter c = false := by decide +kernel
  intro c member
  obtain ⟨letter, listed, isLetter⟩ := spells.exists_letter c member
  cases blank : Text.isBlank c with
  | false => rfl
  | true =>
      rw [table word isControl letter listed c (Text.mem_listed blank)] at isLetter
      cases isLetter

theorem Spells.colon_not_mem (isControl : word ∈ controlWords)
    (spells : Spells word spelling) : ':' ∉ spelling := by
  have table : ∀ word ∈ controlWords, ∀ letter ∈ word, isLetter letter ':' = false := by
    decide
  intro member
  obtain ⟨letter, listed, isLetter⟩ := spells.exists_letter ':' member
  rw [table word isControl letter listed] at isLetter
  cases isLetter

end Letters

/-- The text of a control sentence in its parts. -/
structure ControlParts (word spelling gap digits : Text) : Prop where
  isControl : word ∈ controlWords
  spells : Spells word spelling
  blank : ∀ c ∈ gap, Text.isBlank c = true
  digit : ∀ c ∈ digits, (Text.digitValue? c).isSome
  together : gap = [] ↔ digits = []

theorem exists_of_afterBlanks? {text rest : Text}
    (found : afterBlanks? text = some rest) :
    ∃ gap, gap ≠ [] ∧ (∀ c ∈ gap, Text.isBlank c = true) ∧ text = gap ++ rest := by
  cases text with
  | nil => cases found
  | cons c text =>
      unfold afterBlanks? at found
      split at found
      · rename_i blank
        have trimmed := Option.some.inj found
        refine ⟨(c :: text).takeWhile Text.isBlank, ?_,
          List.all_eq_true.mp List.all_takeWhile, ?_⟩
        · rw [List.takeWhile_cons_of_pos (by simpa using blank)]
          exact List.cons_ne_nil _ _
        · rw [← trimmed]
          exact List.takeWhile_append_dropWhile.symm
      · cases found

theorem parts_of_wordNumber? {word text : Text} {number : Nat}
    (isControl : word ∈ controlWords) (found : wordNumber? word text = some number) :
    ∃ spelling gap digits, ControlParts word spelling gap digits ∧
      text = spelling ++ (gap ++ digits) := by
  obtain ⟨digits, set, number⟩ := Option.bind_eq_some_iff.mp found
  obtain ⟨rest, spelt, spaced⟩ := Option.bind_eq_some_iff.mp set
  obtain ⟨spelling, spells, rfl⟩ := afterWord?_eq_some_iff.mp spelt
  obtain ⟨gap, some, blank, rfl⟩ := exists_of_afterBlanks? spaced
  obtain ⟨nonempty, digit⟩ := (Text.isSome_natural?_iff digits).mp (by rw [number]; rfl)
  exact ⟨spelling, gap, digits, ⟨isControl, spells, blank, digit,
    iff_of_false some nonempty⟩, rfl⟩

theorem parts_of_isWord {word text : Text} (isControl : word ∈ controlWords)
    (found : isWord word text = true) :
    ∃ spelling gap digits, ControlParts word spelling gap digits ∧
      text = spelling ++ (gap ++ digits) := by
  refine ⟨text, [], [], ⟨isControl, isWord_iff_spells.mp found, ?_, ?_, Iff.rfl⟩, by simp⟩
  · intro c member
    cases member
  · intro c member
    cases member

theorem parts_of_control? {text : Text} {control : Control}
    (found : control? text = some control) :
    ∃ word spelling gap digits, ControlParts word spelling gap digits ∧
      text = spelling ++ (gap ++ digits) := by
  unfold control? at found
  split at found
  · rename_i random
    exact ⟨_, parts_of_wordNumber? (by simp [controlWords]) random⟩
  · split at found
    · rename_i ifDrawn
      exact ⟨_, parts_of_wordNumber? (by simp [controlWords]) ifDrawn⟩
    · split at found
      · rename_i orElse
        exact ⟨_, parts_of_isWord (by simp [controlWords]) orElse⟩
      · split at found
        · rename_i endIf
          exact ⟨_, parts_of_isWord (by simp [controlWords]) endIf⟩
        · split at found
          · rename_i endRandom
            exact ⟨_, parts_of_isWord (by simp [controlWords]) endRandom⟩
          · cases found

/-! ## What control sentences cannot hold -/

theorem colon_not_mem_of_control? {text : Text} {control : Control}
    (found : control? text = some control) : ':' ∉ text := by
  obtain ⟨word, spelling, gap, digits, parts, rfl⟩ := parts_of_control? found
  intro member
  rw [List.mem_append, List.mem_append] at member
  rcases member with inWord | inGap | inDigits
  · exact parts.spells.colon_not_mem parts.isControl inWord
  · exact absurd (parts.blank ':' inGap) (by decide)
  · exact absurd (parts.digit ':' inDigits) (by decide)

/-- A sentence with a colon is no control sentence. -/
theorem control?_eq_none_of_colon {text : Text} (colon : ':' ∈ text) :
    control? text = none := by
  cases found : control? text with
  | none => rfl
  | some control => exact absurd colon (colon_not_mem_of_control? found)

theorem last_visible_of_control? {text : Text} {control : Control}
    (found : control? text = some control) :
    ∀ c ∈ text.getLast?, Text.isBlank c = false := by
  obtain ⟨word, spelling, gap, digits, parts, rfl⟩ := parts_of_control? found
  intro c last
  by_cases alone : digits = []
  · rw [alone, parts.together.mpr alone, List.append_nil, List.append_nil] at last
    exact parts.spells.visible parts.isControl c (List.mem_of_getLast? last)
  · rw [← List.append_assoc, List.getLast?_append,
      Option.or_of_isSome (List.getLast?_isSome.mpr alone)] at last
    exact Text.isBlank_eq_false_of_digit (parts.digit c (List.mem_of_getLast? last))

/-- A name that spells no control word starts no control sentence,
whatever blanks set off. -/
theorem control?_eq_none_of_name {name tail : Text}
    (areWord : ∀ c ∈ name, Text.isWord c = true)
    (setOff : ∀ c ∈ tail.head?, Text.isBlank c = true)
    (other : ∀ word ∈ controlWords, isWord word name = false) :
    control? (name ++ tail) = none := by
  cases found : control? (name ++ tail) with
  | none => rfl
  | some control =>
      obtain ⟨word, spelling, gap, digits, parts, same⟩ := parts_of_control? found
      have different : spelling ≠ name := by
        rintro rfl
        have spelt := isWord_iff_spells.mpr parts.spells
        rw [other word parts.isControl] at spelt
        cases spelt
      rcases List.append_eq_append_iff.mp same with
        ⟨more, longer, rest⟩ | ⟨more, shorter, rest⟩
      · cases more with
        | nil => exact absurd (longer.trans (List.append_nil name)) different
        | cons c more =>
            have blank := setOff c (by rw [rest]; rfl)
            have inWord : c ∈ spelling := by simp [longer]
            rw [parts.spells.visible parts.isControl c inWord] at blank
            cases blank
      · cases more with
        | nil => exact absurd (shorter.trans (List.append_nil spelling)).symm different
        | cons c more =>
            have inName : c ∈ name := by simp [shorter]
            have visible := Text.isBlank_eq_false_of_isWord (areWord c inName)
            cases gap with
            | nil =>
                rw [parts.together.mp rfl] at rest
                cases rest
            | cons d gap =>
                have blank := parts.blank d List.mem_cons_self
                rw [(List.cons.inj rest).1, visible] at blank
                cases blank

end RhythmChart.Sentence
