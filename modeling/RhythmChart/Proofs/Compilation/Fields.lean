import RhythmChart.Proofs.Chart.HeaderTable
import RhythmChart.Proofs.Chart.Topics
import RhythmChart.Proofs.Compilation.Accounting
import RhythmChart.Proofs.Compilation.Validity

/-!
# Fields of compiled charts

Every field of a compiled chart was set by a header sentence, so its name was
written with word characters.
-/

namespace RhythmChart

namespace Sentence

theorem isWord_of_header? {dialect : Dialect} {text name : Text} {value : Option Text}
    (read : header? dialect text = some (.header name value)) :
    ∀ c ∈ name, Text.isWord c = true := by
  have taken : name = text.takeWhile Text.isWord := by
    unfold header? at read
    simp only [Option.bind_eq_bind, Option.bind_eq_some_iff] at read
    obtain ⟨rest, -, read⟩ := read
    split at read
    · cases read
    · split at read
      · cases read
        rfl
      · obtain ⟨value, -, read⟩ := Option.bind_eq_some_iff.mp read
        split at read
        · cases read
        · cases read
          rfl
  intro c member
  rw [taken] at member
  exact List.all_eq_true.mp List.all_takeWhile c member

theorem isWord_of_content? {dialect : Dialect} {text name : Text} {value : Option Text}
    (read : content? dialect text = some (.header name value)) :
    ∀ c ∈ name, Text.isWord c = true := by
  unfold content? at read
  rcases Option.or_eq_some_iff.mp read with size | ⟨-, read⟩
  · simp only [measureSize?, Option.bind_eq_bind, Option.bind_eq_some_iff] at size
    obtain ⟨_, -, _, -, _, -, size⟩ := size
    cases size
  · rcases Option.or_eq_some_iff.mp read with channel | ⟨-, read⟩
    · simp only [channel?, Option.bind_eq_bind, Option.bind_eq_some_iff] at channel
      obtain ⟨_, -, channel⟩ := channel
      split at channel
      · split at channel
        · cases channel
        · obtain ⟨_, -, channel⟩ := Option.bind_eq_some_iff.mp channel
          cases channel
      · cases channel
    · exact isWord_of_header? read

theorem isWord_of_mem_ofText {dialect : Dialect} {source name : Text} {line : Nat}
    {value : Option Text}
    (member : (line, .content (.header name value)) ∈ ofText dialect source) :
    ∀ c ∈ name, Text.isWord c = true := by
  obtain ⟨text, -, read⟩ := mem_ofText_iff.mp member
  unfold read? at read
  split at read
  · split at read
    · cases read
    · split at read
      · rename_i found
        cases read
        exact isWord_of_content? found
      · cases read
  · cases read

end Sentence

namespace Compilation

variable {α : Type} [Scalar α]

/-- The headers are a table of some of the header sentences. -/
theorem exists_settings (draws : List Int) (sentences : List (Nat × Sentence)) :
    ∃ settings, (chartAfter α draws sentences).headers = .ofSettings settings ∧
      ∀ setting ∈ settings, ∃ line, (line, .content (.header setting.1 setting.2)) ∈
        sentences := by
  apply chartAfter_induction (P := fun chart => ∃ settings,
    chart.headers = .ofSettings settings ∧
      ∀ setting ∈ settings, ∃ line, (line, .content (.header setting.1 setting.2)) ∈
        sentences)
  · exact ⟨[], rfl, fun _ member => nomatch member⟩
  · rintro chart line content listed ⟨settings, headers, members⟩
    cases content with
    | measureSize measure text =>
        refine ⟨settings, ?_, members⟩
        rw [Content.apply]
        cases (Content.size? text : Option α) with
        | none => exact headers
        | some size => exact headers
    | channel measure code data =>
        refine ⟨settings, ?_, members⟩
        exact (Chart.headers_foldl_addObject chart _).trans headers
    | header name value =>
        refine ⟨settings ++ [(name, value)], ?_, ?_⟩
        · change chart.headers.set name value = _
          rw [headers, Headers.ofSettings, Headers.ofSettings, List.foldl_append]
          rfl
        · intro setting member
          rcases List.mem_append.mp member with earlier | last
          · exact members setting earlier
          · rw [List.mem_singleton.mp last]
            exact ⟨line, listed⟩

theorem exists_settings_ofText (dialect : Dialect) (draws : List Int) (source : Text) :
    ∃ settings, (ofText dialect draws source : Compilation α).chart.headers =
        .ofSettings settings ∧
      ∀ setting ∈ settings, ∀ c ∈ setting.1, Text.isWord c = true := by
  obtain ⟨settings, headers, members⟩ :=
    exists_settings (α := α) draws (Sentence.ofText dialect source)
  refine ⟨settings, headers, fun setting member => ?_⟩
  obtain ⟨line, listed⟩ := members setting member
  exact Sentence.isWord_of_mem_ofText listed

end Compilation

end RhythmChart
