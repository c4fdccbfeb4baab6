import RhythmChart.Compilation.Source
import RhythmChart.Proofs.Compilation.Accounting

/-!
# Which sources are compiled

A source is compiled unless something in it hinders that: the number of a control sentence
may be too long, and the generator may refuse the bound of a random choice. Where the
draws are given, only the former can happen.
-/

namespace RhythmChart

variable {α : Type}

namespace Sentence

/-- Some line is a control sentence whose number is too long to be read. -/
def HasUnreadable (source : Text) : Prop :=
  ∃ entry ∈ Text.numberedLines source, isUnreadable (Text.trim entry.2) = true

instance (source : Text) : Decidable (HasUnreadable source) :=
  inferInstanceAs (Decidable (∃ entry ∈ Text.numberedLines source, _))

variable {generator : Generator α} {line : Text}

theorem control?_eq_random_iff {text : Text} {bound : Nat} :
    control? text = some (.random bound) ↔
      wordNumber? ['R', 'A', 'N', 'D', 'O', 'M'] text = some bound := by
  unfold control?
  cases wordNumber? ['R', 'A', 'N', 'D', 'O', 'M'] text with
  | some other => simp
  | none =>
      refine iff_of_false (fun found => ?_) (fun found => nomatch found)
      dsimp only at found
      repeat' split at found
      all_goals cases found

theorem read?_eq_control_iff {dialect : Dialect} {control : Control} :
    read? dialect line = some (.control control) ↔
      ∃ text, line = '#' :: text ∧ control? text = some control := by
  unfold read?
  split
  · rename_i text
    cases found : control? text with
    | some other => simp [found]
    | none => cases content? dialect text <;> simp [found]
  · rename_i unmarked
    refine iff_of_false (fun read => nomatch read) ?_
    rintro ⟨text, rfl, -⟩
    exact unmarked text rfl

theorem bound?_eq_some_iff (dialect : Dialect) {bound : Nat} :
    bound? line = some bound ↔ read? dialect line = some (.control (.random bound)) := by
  rw [read?_eq_control_iff]
  unfold bound?
  split
  · rename_i text
    simp [control?_eq_random_iff]
  · rename_i unmarked
    refine iff_of_false (fun found => nomatch found) ?_
    rintro ⟨text, rfl, -⟩
    exact unmarked text rfl

/-- A line is refused for its number, or for the bound that it asks for. -/
theorem refusal?_eq_some_iff (dialect : Dialect) {fault : Fault α} :
    refusal? generator line = some fault ↔
      isUnreadable line = true ∧ fault = .notANumeral ∨
      isUnreadable line = false ∧ ∃ bound,
        read? dialect line = some (.control (.random bound)) ∧
          generator.refusal? bound = some fault := by
  simp only [← bound?_eq_some_iff dialect]
  cases unreadable : isUnreadable line with
  | true => simp [refusal?, unreadable, eq_comm]
  | false => simp [refusal?, unreadable, Option.bind_eq_some_iff]

end Sentence

namespace Compilation

/-- What hinders the compilation of a source. -/
inductive Hinders (dialect : Dialect) (generator : Generator α) (source : Text) :
    Fault α → Prop where
  | unreadable : Sentence.HasUnreadable source →
    Hinders dialect generator source .notANumeral
  | refused {number bound : Nat} {fault : Fault α} :
      (number, .control (.random bound)) ∈ Sentence.ofText dialect source →
      generator.refusal? bound = some fault → Hinders dialect generator source fault

section Refusals

variable {dialect : Dialect} {generator : Generator α} {source : Text} {fault : Fault α}

theorem hinders_of_refusal? (refused : refusal? generator source = some fault) :
    Hinders dialect generator source fault := by
  obtain ⟨⟨number, line⟩, listed, found⟩ := List.exists_of_findSome?_eq_some refused
  rcases (Sentence.refusal?_eq_some_iff dialect).mp found with
    ⟨unreadable, rfl⟩ | ⟨-, bound, read, refuses⟩
  · exact .unreadable ⟨_, listed, unreadable⟩
  · exact .refused (Sentence.mem_ofText_iff.mpr ⟨line, listed, read⟩) refuses

theorem not_hinders_of_refusal? (accepted : refusal? generator source = none) :
    ¬Hinders dialect generator source fault := by
  have everywhere : ∀ entry ∈ Text.numberedLines source, ∀ fault,
      ¬Sentence.refusal? generator (Text.trim entry.2) = some fault := by
    intro entry listed fault refused
    rw [List.findSome?_eq_none_iff.mp accepted entry listed] at refused
    cases refused
  have readable : ¬Sentence.HasUnreadable source := by
    rintro ⟨entry, listed, unreadable⟩
    exact everywhere entry listed _
      ((Sentence.refusal?_eq_some_iff dialect).mpr (.inl ⟨unreadable, rfl⟩))
  rintro (unreadable | ⟨member, refuses⟩)
  · exact readable unreadable
  · obtain ⟨line, listed, read⟩ := Sentence.mem_ofText_iff.mp member
    have readableLine : Sentence.isUnreadable (Text.trim line) = false :=
      Bool.eq_false_iff.mpr fun unreadable => readable ⟨_, listed, unreadable⟩
    exact everywhere _ listed _
      ((Sentence.refusal?_eq_some_iff dialect).mpr
        (.inr ⟨readableLine, _, read, refuses⟩))

theorem hinders_given_iff {draws : List Int} :
    Hinders dialect (.given draws) source fault ↔
      fault = .notANumeral ∧ Sentence.HasUnreadable source := by
  constructor
  · rintro (unreadable | ⟨-, refuses⟩)
    · exact ⟨rfl, unreadable⟩
    · cases refuses
  · rintro ⟨rfl, unreadable⟩
    exact .unreadable unreadable

end Refusals

variable [Scalar α]

/-- A source is refused for something that hinders its compilation, or nothing
does and it is compiled. -/
theorem ofSource_cases (dialect : Dialect) (generator : Generator α) (source : Text) :
    (∃ fault, Hinders dialect generator source fault ∧
      ofSource dialect generator source = .error fault) ∨
    (∀ fault, ¬Hinders dialect generator source fault) ∧
      ofSource dialect generator source =
        .ok (ofText dialect generator.draws source) := by
  unfold ofSource
  cases refusal : refusal? generator source with
  | some fault => exact .inl ⟨fault, hinders_of_refusal? refusal, rfl⟩
  | none => exact .inr ⟨fun _ => not_hinders_of_refusal? refusal, rfl⟩

/-- With draws that are given, only a number that is too long is refused. -/
theorem ofSource_given (dialect : Dialect) (draws : List Int) (source : Text) :
    (ofSource dialect (.given draws) source : Except (Fault α) _) =
      if Sentence.HasUnreadable source then .error .notANumeral
      else .ok (ofText dialect draws source) := by
  rcases ofSource_cases dialect (.given draws : Generator α) source with
    ⟨fault, hinders, refused⟩ | ⟨unhindered, compiled⟩
  · obtain ⟨rfl, unreadable⟩ := hinders_given_iff.mp hinders
    rw [refused, if_pos unreadable]
  · have readable : ¬Sentence.HasUnreadable source := fun unreadable =>
      unhindered _ (.unreadable unreadable)
    rw [compiled, if_neg readable]
    rfl

end Compilation

end RhythmChart
