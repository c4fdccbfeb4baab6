import RhythmChart.Proofs.Compilation.Reports
import RhythmChart.Proofs.Compilation.Slots
import RhythmChart.Proofs.Text.Lines

/-!
# Accounting for sentences

No sentence vanishes in silence. Every line that starts with a number sign is a sentence
and is counted once. It chooses between variants, or is skipped, or there is a warning
with its number, or the chart holds all that it asks for.
-/

namespace RhythmChart

namespace Sentence

theorem isSome_read? (dialect : Dialect) (line : Text) :
    (read? dialect line).isSome = Dialect.isSentence line := by
  unfold read?
  split
  · rename_i text
    cases control? text with
    | some control => rfl
    | none => cases content? dialect text <;> rfl
  · rename_i unmarked
    cases line with
    | nil => rfl
    | cons c text =>
        refine (beq_eq_false_iff_ne.mpr fun same => ?_).symm
        cases same
        exact unmarked text rfl

theorem length_ofText (dialect : Dialect) (source : Text) :
    (ofText dialect source).length =
      (Text.numberedLines source).countP fun (_, line) => Dialect.isSentence
    (Text.trim line) := by
  rw [ofText, List.length_filterMap_eq_countP]
  refine List.countP_congr fun entry _ => ?_
  rw [Option.isSome_map, isSome_read?]

theorem mem_ofText_iff {dialect : Dialect} {source : Text} {number : Nat}
    {sentence : Sentence} :
    (number, sentence) ∈ ofText dialect source ↔
      ∃ line, (number, line) ∈ Text.numberedLines source ∧
        read? dialect (Text.trim line) = some sentence := by
  rw [ofText, List.mem_filterMap]
  constructor
  · rintro ⟨⟨number, line⟩, member, read⟩
    obtain ⟨sentence, found, same⟩ := Option.map_eq_some_iff.mp read
    cases same
    exact ⟨line, member, found⟩
  · rintro ⟨line, member, found⟩
    exact ⟨(number, line), member, Option.map_eq_some_iff.mpr ⟨sentence, found, rfl⟩⟩

theorem pairwise_ofText (dialect : Dialect) (source : Text) :
    (ofText dialect source).Pairwise fun a b => a.1 < b.1 := by
  rw [ofText, List.pairwise_filterMap]
  refine (Text.pairwise_numberedLines source).imp fun {a b} below => ?_
  intro left read right read'
  obtain ⟨_, -, rfl⟩ := Option.map_eq_some_iff.mp read
  obtain ⟨_, -, rfl⟩ := Option.map_eq_some_iff.mp read'
  exact below

end Sentence

namespace Compilation

variable {α : Type} [Scalar α]

/-- The chart behind a content sentence is the one in front of it with all that the
sentence asks for: a header value, a measure size, or an object for each filled slot when
no character is left over. -/
def TakesEffect (α : Type) [Scalar α] (draws : List Int) (before : List (Nat × Sentence))
    (line : Nat) (content : Content) : Prop :=
  let chart := chartAfter α draws before
  let next := chartAfter α draws (before ++ [(line, .content content)])
  match content with
  | .header name value => next = chart.setHeader name value
  | .measureSize measure text =>
      ∃ size, Text.number? text = some size ∧ ((0 : Nat) : α) < size ∧
        next = chart.setSize measure size
  | .channel measure code data =>
      data.length % 2 = 0 ∧
        next = (Content.filledSlots α line measure code data).foldl Chart.addObject chart

/-- A content sentence that is applied without an issue takes effect in full. -/
theorem takesEffect_of_applied {draws : List Int} {before : List (Nat × Sentence)}
    {line : Nat} {content : Content}
    (applied : Control.openBlock? draws 0 (Sentence.history before) ≠ some false)
    (sound : content.issue? α = none) : TakesEffect α draws before line content := by
  have chart := chartAfter_content (α := α) draws before line content
  rw [if_neg applied] at chart
  cases content with
  | header name value => exact chart
  | measureSize measure text =>
      cases found : (Content.size? text : Option α) with
      | none => simp [Content.issue?, found] at sound
      | some size =>
          obtain ⟨read, positive⟩ := Option.filter_eq_some_iff.mp found
          rw [Content.apply, found] at chart
          exact ⟨size, read, of_decide_eq_true positive, chart⟩
  | channel measure code data =>
      rw [Content.apply, Content.objects_eq] at chart
      refine ⟨?_, chart⟩
      by_contra odd
      rw [Content.issue?, if_neg odd] at sound
      cases sound

/-- The account of a source that was compiled. -/
structure Accounts (dialect : Dialect) (draws : List Int) (source : Text)
    (compilation : Compilation α) : Prop where
  chart : compilation.chart = chartAfter α draws (Sentence.ofText dialect source)
  counted :
    compilation.counts.header + compilation.counts.channel + compilation.counts.control +
        compilation.counts.malformed =
      (Text.numberedLines source).countP fun (_, line) =>
        Dialect.isSentence (Text.trim line)
  skipped :
    compilation.counts.skipped =
      (Sentence.meetings [] (Sentence.ofText dialect source)).countP
        (Meeting.isSkipped draws)
  skipped_le :
    compilation.counts.skipped ≤ compilation.counts.header + compilation.counts.channel
  ascending : compilation.warnings.Pairwise fun a b => a.line < b.line
  located : ∀ warning ∈ compilation.warnings, ∃ line,
    (warning.line, line) ∈ Text.numberedLines source ∧
      Dialect.isSentence (Text.trim line) = true
  caused :
    compilation.warnings.length =
      compilation.counts.malformed +
        (Sentence.meetings [] (Sentence.ofText dialect source)).countP
          (Meeting.isBadSize α draws) +
        (Sentence.meetings [] (Sentence.ofText dialect source)).countP
          (Meeting.isOddData draws) +
        (Sentence.meetings [] (Sentence.ofText dialect source)).countP Meeting.isUnmatched
  handled : ∀ number line, (number, line) ∈ Text.numberedLines source →
    Dialect.isSentence (Text.trim line) = true →
    ∃ before sentence after,
      Sentence.ofText dialect source = before ++ (number, sentence) :: after ∧
      Sentence.read? dialect (Text.trim line) = some sentence ∧
      (sentence.isControl = true ∨
        Meeting.isSkipped draws ⟨Sentence.history before, number, sentence⟩ = true ∨
        (∃ warning ∈ compilation.warnings, warning.line = number) ∨
        ∃ content, sentence = .content content ∧
          TakesEffect α draws before number content)

theorem mem_warnings_of_issue? {draws : List Int} {before after : List (Nat × Sentence)}
    {line : Nat} {sentence : Sentence} {issue : Issue}
    (reported : Meeting.issue? α draws ⟨Sentence.history before, line, sentence⟩ =
      some issue) :
    ⟨line, issue⟩ ∈
      (ofSentences draws (before ++ (line, sentence) ::
        after) : Compilation α).warnings := by
  rw [warnings_ofSentences, List.mem_filterMap]
  refine ⟨⟨Sentence.history before, line, sentence⟩, ?_, by rw [reported]; rfl⟩
  rw [Sentence.meetings_append, List.append_nil]
  exact List.mem_append_right _ List.mem_cons_self

/-- What is not a control sentence is skipped, reported or takes effect. -/
theorem handled_ofSentences (draws : List Int) (before after : List (Nat × Sentence))
    (line : Nat) (sentence : Sentence) :
    sentence.isControl = true ∨
      Meeting.isSkipped draws ⟨Sentence.history before, line, sentence⟩ = true ∨
      (∃ warning ∈ (ofSentences draws (before ++ (line, sentence) :: after) :
        Compilation α).warnings, warning.line = line) ∨
      ∃ content, sentence = .content content ∧
        TakesEffect α draws before line content := by
  cases sentence with
  | control control => exact .inl rfl
  | malformed text => exact .inr (.inr (.inl ⟨_, mem_warnings_of_issue? rfl, rfl⟩))
  | content content =>
      cases applied : Meeting.applies draws
        ⟨Sentence.history before, line, .content content⟩ with
      | false =>
          refine .inr (.inl ?_)
          rw [Meeting.isSkipped, applied]
          rfl
      | true =>
          cases reported : content.issue? α with
          | some issue =>
              refine .inr (.inr (.inl ⟨⟨line, issue⟩, mem_warnings_of_issue? ?_, rfl⟩))
              rw [Meeting.issue?, applied]
              exact reported
          | none =>
              exact .inr (.inr (.inr ⟨content, rfl,
                takesEffect_of_applied (bne_iff_ne.mp applied) reported⟩))

/-- Every source is accounted for. -/
theorem accounts_ofText (dialect : Dialect) (draws : List Int) (source : Text) :
    Accounts dialect draws source (ofText dialect draws source : Compilation α) := by
  have counts := counts_ofSentences (α := α) draws (Sentence.ofText dialect source)
  have warnings := warnings_ofSentences (α := α) draws (Sentence.ofText dialect source)
  rw [← ofText] at counts warnings
  constructor
  · rfl
  · rw [counts, ← Sentence.length_ofText dialect]
    exact Sentence.countP_kinds _
  · rw [counts]
  · rw [counts]
    exact Meeting.countP_isSkipped_le draws [] _
  · have ascending := Sentence.pairwise_ofText dialect source
    rw [← Sentence.map_meetings [] (Sentence.ofText dialect source), List.pairwise_map]
      at ascending
    rw [warnings, List.pairwise_filterMap]
    refine ascending.imp fun {a b} below => ?_
    intro first reported second reported'
    obtain ⟨_, -, rfl⟩ := Option.map_eq_some_iff.mp reported
    obtain ⟨_, -, rfl⟩ := Option.map_eq_some_iff.mp reported'
    exact below
  · intro warning member
    rw [warnings, List.mem_filterMap] at member
    obtain ⟨met, member, reported⟩ := member
    obtain ⟨issue, -, rfl⟩ := Option.map_eq_some_iff.mp reported
    obtain ⟨line, numbered, read⟩ :=
      Sentence.mem_ofText_iff.mp (Sentence.mem_of_mem_meetings member)
    refine ⟨line, numbered, ?_⟩
    rw [← Sentence.isSome_read? dialect, read]
    rfl
  · rw [warnings, counts, Meeting.length_filterMap_issue?, Meeting.countP_isMalformed]
  · intro number line numbered marked
    rw [← Sentence.isSome_read? dialect] at marked
    obtain ⟨sentence, read⟩ := Option.isSome_iff_exists.mp marked
    obtain ⟨before, after, split⟩ :=
      List.append_of_mem (Sentence.mem_ofText_iff.mpr ⟨line, numbered, read⟩)
    refine ⟨before, sentence, after, split, read, ?_⟩
    rw [ofText, split]
    exact handled_ofSentences draws before after number sentence

/-- A header that is skipped, data that is too long, a size that is none,
and a block too many. -/
example :
    (ofText .bms [] "#IF 1\n#TITLE a\n#ENDIF\n#00111:0A0\n#00102:-1\n#ENDIF".toList :
      Compilation Rat).counts = ⟨1, 2, 3, 1, 0⟩ ∧
    (ofText .bms [] "#IF 1\n#TITLE a\n#ENDIF\n#00111:0A0\n#00102:-1\n#ENDIF".toList :
      Compilation Rat).warnings =
        [⟨4, .oddData "0A0".toList⟩, ⟨5, .invalidSize "-1".toList⟩,
          ⟨6, .unmatchedEndIf⟩] := by
  decide +kernel

end Compilation

end RhythmChart
