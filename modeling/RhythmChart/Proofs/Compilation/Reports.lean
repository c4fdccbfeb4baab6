import Mathlib.Data.List.Induction
import RhythmChart.Proofs.Compilation.Steps

/-!
# Counts and warnings

What a compilation counts and reports about a sentence depends on that sentence and on the
control sentences before it, not on the chart. So the counts and the warnings of a whole
compilation are read off the sentences as it meets them.
-/

namespace RhythmChart

/-- A sentence as a compilation meets it. -/
structure Meeting where
  /-- The control sentences before it, the latest first. -/
  earlier : List Control
  line : Nat
  sentence : Sentence

namespace Sentence

def isHeader : Sentence → Bool
  | .content (.header _ _) => true
  | _ => false

/-- A measure size counts as a channel sentence. -/
def isChannel : Sentence → Bool
  | .content (.measureSize _ _) => true
  | .content (.channel _ _ _) => true
  | _ => false

def isControl : Sentence → Bool
  | .control _ => true
  | _ => false

def isMalformed : Sentence → Bool
  | .malformed _ => true
  | _ => false

/-- The sentences, each with the control sentences before it. -/
def meetings : (earlier : List Control) → List (Nat × Sentence) → List Meeting
  | _, [] => []
  | earlier, (line, sentence) :: rest =>
      ⟨earlier, line, sentence⟩ :: meetings (sentence.asControl?.toList ++ earlier) rest

theorem history_cons (line : Nat) (sentence : Sentence) (rest : List (Nat × Sentence)) :
    history ((line, sentence) :: rest) = history rest ++ sentence.asControl?.toList := by
  unfold history
  cases found : sentence.asControl? <;> simp [found]

theorem meetings_append (earlier : List Control) (before after : List (Nat × Sentence)) :
    meetings earlier (before ++ after) =
      meetings earlier before ++ meetings (history before ++ earlier) after := by
  induction before generalizing earlier with
  | nil => rfl
  | cons entry rest ih =>
      rw [List.cons_append, meetings, ih, meetings, history_cons, List.append_assoc,
        List.cons_append]

theorem map_meetings (earlier : List Control) (sentences : List (Nat × Sentence)) :
    (meetings earlier sentences).map (fun met => (met.line, met.sentence)) =
      sentences := by
  induction sentences generalizing earlier with
  | nil => rfl
  | cons entry rest ih => rw [meetings, List.map_cons, ih]

theorem mem_of_mem_meetings {earlier : List Control} {sentences : List (Nat × Sentence)}
    {met : Meeting} (member : met ∈ meetings earlier sentences) :
    (met.line, met.sentence) ∈ sentences := by
  rw [← map_meetings earlier sentences]
  exact List.mem_map_of_mem member

/-- Every sentence is of one kind. -/
theorem countP_kinds (sentences : List (Nat × Sentence)) :
    (sentences.countP fun entry => entry.2.isHeader) +
        (sentences.countP fun entry => entry.2.isChannel) +
        (sentences.countP fun entry => entry.2.isControl) +
        (sentences.countP fun entry => entry.2.isMalformed) = sentences.length := by
  induction sentences with
  | nil => rfl
  | cons entry rest ih =>
      obtain ⟨line, sentence⟩ := entry
      have one :
          (if sentence.isHeader then 1 else 0) + (if sentence.isChannel then 1 else 0) +
          (if sentence.isControl then 1 else 0) +
            (if sentence.isMalformed then 1 else 0) = 1 := by
        match sentence with
        | .control _ => rfl
        | .malformed _ => rfl
        | .content built => cases built <;> rfl
      simp only [List.countP_cons, List.length_cons]
      omega

end Sentence

namespace Meeting

/-- The innermost open block is in its taken branch, or no block is open. -/
def applies (draws : List Int) (met : Meeting) : Bool :=
  Control.openBlock? draws 0 met.earlier != some false

def isSkipped (draws : List Int) (met : Meeting) : Bool :=
  match met.sentence with
  | .content _ => !met.applies draws
  | _ => false

/-- A measure size that is applied although it is not a finite positive number. -/
def isBadSize (α : Type) [Scalar α] (draws : List Int) (met : Meeting) : Bool :=
  match met.sentence with
  | .content (.measureSize _ text) =>
      met.applies draws &&
        !(Text.number? text : Option α).any fun size => decide (((0 : Nat) : α) < size)
  | _ => false

/-- Channel data that is applied although its last character has no partner. -/
def isOddData (draws : List Int) (met : Meeting) : Bool :=
  match met.sentence with
  | .content (.channel _ _ data) => met.applies draws && data.length % 2 == 1
  | _ => false

def isUnmatched (met : Meeting) : Bool :=
  match met.sentence with
  | .control .orElse => (Control.openBlock? [] 0 met.earlier).isNone
  | .control .endIf => (Control.openBlock? [] 0 met.earlier).isNone
  | _ => false

def issue? (α : Type) [Scalar α] (draws : List Int) (met : Meeting) : Option Issue :=
  match met.sentence with
  | .control control => if met.isUnmatched then Issue.ofUnmatched? control else none
  | .malformed text => some (.malformed text)
  | .content content => if met.applies draws then content.issue? α else none

theorem skips_after_earlier (draws : List Int) (met : Meeting) :
    (Gate.after draws met.earlier).skips = !met.applies draws := by
  rw [Gate.skips_after, applies, bne, Bool.not_not]

/-- Only an unmatched sentence has an issue with the blocks around it. -/
theorem issue?_control (α : Type) [Scalar α] (draws : List Int) (earlier : List Control)
    (line : Nat) (control : Control) :
    (if (Gate.after draws earlier).isUnmatched control then Issue.ofUnmatched? control
      else none) = issue? α draws ⟨earlier, line, .control control⟩ := by
  have blocks : (Gate.after draws earlier).blocks.isEmpty =
      (Control.openBlock? [] 0 earlier).isNone := by
    have innermost := Gate.blocks_after draws 0 earlier
    have same := Control.isSome_openBlock? draws [] 0 earlier
    rw [← Option.not_isSome, ← same, ← Option.isSome_map, ← innermost]
    cases (Gate.after draws earlier).blocks <;> rfl
  cases control with
  | orElse => rw [Gate.isUnmatched, blocks, issue?, isUnmatched]
  | endIf => rw [Gate.isUnmatched, blocks, issue?, isUnmatched]
  | random bound => rfl
  | ifDrawn value => rfl
  | endRandom => rfl

/-- Every issue has one cause. -/
theorem length_issue? (α : Type) [Scalar α] (draws : List Int) (met : Meeting) :
    (met.issue? α draws).toList.length =
      (if met.sentence.isMalformed then 1 else 0) +
        (if met.isBadSize α draws then 1 else 0) +
        (if met.isOddData draws then 1 else 0) + (if met.isUnmatched then 1 else 0) := by
  obtain ⟨earlier, line, sentence⟩ := met
  match sentence with
  | .malformed text => rfl
  | .control (.random bound) => rfl
  | .control (.ifDrawn value) => rfl
  | .control .endRandom => rfl
  | .control .orElse =>
      cases unmatched : isUnmatched ⟨earlier, line, .control .orElse⟩ <;>
        simp only [issue?, unmatched] <;> rfl
  | .control .endIf =>
      cases unmatched : isUnmatched ⟨earlier, line, .control .endIf⟩ <;>
        simp only [issue?, unmatched] <;> rfl
  | .content (.header name value) =>
      simp only [issue?]
      split <;> rfl
  | .content (.measureSize measure text) =>
      cases applied : applies draws ⟨earlier, line,
        .content (.measureSize measure text)⟩ with
      | false => simp only [issue?, isBadSize, applied]; rfl
      | true =>
          simp only [issue?, isBadSize, applied, Content.issue?, Content.size?,
            Option.isSome_filter]
          cases Option.any _ (Text.number? text : Option α) <;> rfl
  | .content (.channel measure code data) =>
      cases applied : applies draws ⟨earlier, line,
        .content (.channel measure code data)⟩ with
      | false => simp only [issue?, isOddData, applied]; rfl
      | true =>
          simp only [issue?, isOddData, applied, Content.issue?]
          rcases Nat.mod_two_eq_zero_or_one data.length with even | odd
          · rw [even]; rfl
          · rw [odd]; rfl

/-- Only headers and channel sentences are skipped. -/
theorem countP_isSkipped_le (draws : List Int) (earlier : List Control)
    (sentences : List (Nat × Sentence)) :
    (Sentence.meetings earlier sentences).countP (isSkipped draws) ≤
      (sentences.countP fun entry => entry.2.isHeader) +
        sentences.countP fun entry => entry.2.isChannel := by
  induction sentences generalizing earlier with
  | nil => exact Nat.le_refl 0
  | cons entry rest ih =>
      obtain ⟨line, sentence⟩ := entry
      have here : (if isSkipped draws ⟨earlier, line, sentence⟩ then 1 else 0) ≤
          (if sentence.isHeader then 1 else 0) +
            (if sentence.isChannel then 1 else 0) := by
        match sentence with
        | .control _ => exact Nat.le_refl 0
        | .malformed _ => exact Nat.le_refl 0
        | .content content =>
            have kind : (if (Sentence.content content).isHeader then 1 else 0) +
                (if (Sentence.content content).isChannel then 1 else 0) = 1 := by
              cases content <;> rfl
            split <;> omega
      have later := ih (sentence.asControl?.toList ++ earlier)
      simp only [Sentence.meetings, List.countP_cons]
      omega

theorem countP_isMalformed (earlier : List Control) (sentences : List (Nat × Sentence)) :
    ((Sentence.meetings earlier sentences).countP fun met => met.sentence.isMalformed) =
      sentences.countP fun entry => entry.2.isMalformed := by
  conv_rhs => rw [← Sentence.map_meetings earlier sentences, List.countP_map]
  rfl

/-- Warnings are counted by their causes. -/
theorem length_filterMap_issue? (α : Type) [Scalar α] (draws : List Int)
    (mets : List Meeting) :
    (mets.filterMap fun met => (met.issue? α draws).map (Warning.mk met.line)).length =
      (mets.countP fun met => met.sentence.isMalformed) + mets.countP
        (isBadSize α draws) +
        mets.countP (isOddData draws) + mets.countP isUnmatched := by
  induction mets with
  | nil => rfl
  | cons met rest ih =>
      have here := length_issue? α draws met
      simp only [List.countP_cons]
      cases reported : met.issue? α draws with
      | none =>
          rw [reported, Option.toList_none, List.length_nil] at here
          rw [List.filterMap_cons_none (by rw [reported, Option.map_none])]
          omega
      | some issue =>
          rw [reported, Option.toList_some, List.length_singleton] at here
          rw [List.filterMap_cons_some (by
            rw [reported, Option.map_some]), List.length_cons]
          omega

end Meeting

namespace Compilation

variable {α : Type} [Scalar α]

theorem counts_step_content (state : State α) (line : Nat) (content : Content) :
    (step state (line, .content content)).result.counts =
      if state.gate.skips then (state.result.counts.add (.content content)).addSkipped
      else state.result.counts.add (.content content) := by
  unfold step
  dsimp only
  split <;> rfl

theorem warnings_step_content (state : State α) (line : Nat) (content : Content) :
    (step state (line, .content content)).result.warnings =
      state.result.warnings ++
        ((if state.gate.skips then none else content.issue? α).map
          (Warning.mk line)).toList := by
  unfold step
  dsimp only
  split
  · exact (List.append_nil _).symm
  · rfl

theorem counts_append_singleton (draws : List Int) (before : List (Nat × Sentence))
    (line : Nat) (sentence : Sentence) :
    (ofSentences draws (before ++ [(line, sentence)]) : Compilation α).counts =
      if Meeting.isSkipped draws ⟨Sentence.history before, line, sentence⟩ then
        ((ofSentences draws before : Compilation α).counts.add sentence).addSkipped
      else (ofSentences draws before : Compilation α).counts.add sentence := by
  rw [ofSentences_append_singleton]
  cases sentence with
  | control control => rfl
  | malformed text => rfl
  | content content =>
      rw [counts_step_content, gate_after_history,
        Meeting.skips_after_earlier draws ⟨_, line, .content content⟩]
      rfl

theorem warnings_append_singleton (draws : List Int) (before : List (Nat × Sentence))
    (line : Nat) (sentence : Sentence) :
    (ofSentences draws (before ++ [(line, sentence)]) : Compilation α).warnings =
      (ofSentences draws before : Compilation α).warnings ++
        ((Meeting.issue? α draws ⟨Sentence.history before, line, sentence⟩).map
          (Warning.mk line)).toList := by
  rw [ofSentences_append_singleton]
  cases sentence with
  | control control =>
      rw [← Meeting.issue?_control, ← gate_after_history (α := α) draws before]
      rfl
  | malformed text => rfl
  | content content =>
      rw [warnings_step_content, gate_after_history,
        Meeting.skips_after_earlier draws ⟨_, line, .content content⟩, Meeting.issue?]
      cases Meeting.applies draws ⟨Sentence.history before, line, .content content⟩ <;>
        rfl

/-- The counts of a compilation, read off the sentences. -/
theorem counts_ofSentences (draws : List Int) (sentences : List (Nat × Sentence)) :
    (ofSentences draws sentences : Compilation α).counts =
      { header := sentences.countP fun entry => entry.2.isHeader
        channel := sentences.countP fun entry => entry.2.isChannel
        control := sentences.countP fun entry => entry.2.isControl
        skipped := (Sentence.meetings [] sentences).countP (Meeting.isSkipped draws)
        malformed := sentences.countP fun entry => entry.2.isMalformed } := by
  induction sentences using List.reverseRecOn with
  | nil => rfl
  | append_singleton before entry ih =>
      obtain ⟨line, sentence⟩ := entry
      rw [counts_append_singleton, ih, Sentence.meetings_append, List.append_nil,
        Sentence.meetings, Sentence.meetings]
      simp only [List.countP_append, List.countP_singleton]
      match sentence with
      | .control _ => rfl
      | .malformed _ => rfl
      | .content content => split <;> cases content <;> rfl

theorem warnings_ofSentences (draws : List Int) (sentences : List (Nat × Sentence)) :
    (ofSentences draws sentences : Compilation α).warnings =
      (Sentence.meetings [] sentences).filterMap fun met =>
        (met.issue? α draws).map (Warning.mk met.line) := by
  induction sentences using List.reverseRecOn with
  | nil => rfl
  | append_singleton before entry ih =>
      obtain ⟨line, sentence⟩ := entry
      rw [warnings_append_singleton, ih, Sentence.meetings_append, List.append_nil,
        Sentence.meetings, Sentence.meetings, List.filterMap_append]
      congr 1

end Compilation

end RhythmChart
