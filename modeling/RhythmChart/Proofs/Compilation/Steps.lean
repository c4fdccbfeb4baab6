import RhythmChart.Compilation.Basic
import RhythmChart.Proofs.Compilation.Blocks

/-!
# Steps of a compilation

What one sentence does to the gate and to the chart, apart from what is counted and
reported. The gate follows control sentences only, so after any sentences it is the gate
of their history; the chart follows content sentences only, and only those that the
innermost open block lets through.
-/

namespace RhythmChart

namespace Sentence

def asControl? : Sentence → Option Control
  | .control choice => some choice
  | _ => none

/-- The control sentences among sentences, the latest first. -/
def history (sentences : List (Nat × Sentence)) : List Control :=
  (sentences.filterMap fun entry => entry.2.asControl?).reverse

end Sentence

namespace Compilation

variable {α : Type} [Scalar α]

def start (α : Type) (draws : List Int) : State α :=
  ⟨.start draws, empty⟩

def chartAfter (α : Type) [Scalar α] (draws : List Int)
    (sentences : List (Nat × Sentence)) : Chart α :=
  (ofSentences draws sentences).chart

theorem gate_step (state : State α) (line : Nat) (sentence : Sentence) :
    (step state (line, sentence)).gate =
      sentence.asControl?.toList.foldl Gate.step state.gate := by
  cases sentence with
  | control control => rfl
  | content content =>
      unfold step
      dsimp only
      split <;> rfl
  | malformed text => rfl

theorem gate_foldl_step (state : State α) (sentences : List (Nat × Sentence)) :
    (sentences.foldl step state).gate =
      (sentences.filterMap fun entry => entry.2.asControl?).foldl Gate.step
        state.gate := by
  induction sentences generalizing state with
  | nil => rfl
  | cons entry rest ih =>
      obtain ⟨line, sentence⟩ := entry
      rw [List.foldl_cons, ih, gate_step]
      cases sentence <;> rfl

/-- After any sentences the gate is the one of their history. -/
theorem gate_after_history (draws : List Int) (sentences : List (Nat × Sentence)) :
    (sentences.foldl step (start α draws)).gate =
      Gate.after draws (Sentence.history sentences) := by
  rw [gate_foldl_step, Gate.after, Sentence.history, List.foldr_reverse]
  rfl

theorem chart_step_content (state : State α) (line : Nat) (content : Content) :
    (step state (line, .content content)).result.chart =
      if state.gate.skips then state.result.chart
      else content.apply line state.result.chart := by
  unfold step
  dsimp only
  split <;> rfl

theorem ofSentences_append_singleton (draws : List Int) (before : List (Nat × Sentence))
    (entry : Nat × Sentence) :
    (ofSentences draws (before ++ [entry]) : Compilation α) =
      (step (before.foldl step (start α draws)) entry).result := by
  rw [ofSentences, List.foldl_append]
  rfl

/-- A content sentence is applied unless the innermost open block is
in its other branch. -/
theorem chartAfter_content (draws : List Int) (before : List (Nat × Sentence))
    (line : Nat) (content : Content) :
    chartAfter α draws (before ++ [(line, .content content)]) =
      if Control.openBlock? draws 0 (Sentence.history before) = some false then
        chartAfter α draws before
      else content.apply line (chartAfter α draws before) := by
  rw [chartAfter, ofSentences_append_singleton, chart_step_content, gate_after_history,
    Gate.skips_after]
  simp only [beq_iff_eq]
  rfl

theorem chartAfter_control (draws : List Int) (before : List (Nat × Sentence))
    (line : Nat) (control : Control) :
    chartAfter α draws (before ++ [(line, .control control)]) =
      chartAfter α draws before := by
  rw [chartAfter, ofSentences_append_singleton]
  rfl

theorem chartAfter_malformed (draws : List Int) (before : List (Nat × Sentence))
    (line : Nat) (text : Text) :
    chartAfter α draws (before ++ [(line, .malformed text)]) =
      chartAfter α draws before := by
  rw [chartAfter, ofSentences_append_singleton]
  rfl

end Compilation

end RhythmChart
