import Mathlib.Data.List.Basic
import RhythmChart.Proofs.Compilation.Reports

/-!
# What draws decide

Two compilations of one source that draw different numbers meet the same sentences with
the same blocks open. They differ only in which branches of these blocks are taken, and so
in what becomes of the content sentences inside them. The bounds of the random choices,
the counts of each kind, the warnings about the form of the source and all that sentences
outside every block do are the same.
-/

namespace RhythmChart

def Sentence.bounds (sentence : Sentence) : List Nat :=
  sentence.asControl?.toList.flatMap Compilation.boundOf

namespace Meeting

/-- What a sentence brings into the chart: a content sentence that is
applied, with its line. -/
def contribution? (draws : List Int) (met : Meeting) : Option (Nat × Content) :=
  match met.sentence with
  | .content content => if met.applies draws then some (met.line, content) else none
  | _ => none

end Meeting

namespace Compilation

variable {α : Type} [Scalar α]

/-- The content sentences that are applied, in order. -/
def contributions (draws : List Int) (sentences : List (Nat × Sentence)) :
    List (Nat × Content) :=
  (Sentence.meetings [] sentences).filterMap (Meeting.contribution? draws)

theorem contributions_append_singleton (draws : List Int) (before : List (Nat × Sentence))
    (line : Nat) (sentence : Sentence) :
    contributions draws (before ++ [(line, sentence)]) =
      contributions draws before ++
        (Meeting.contribution? draws ⟨Sentence.history before, line,
          sentence⟩).toList := by
  unfold contributions
  rw [Sentence.meetings_append, List.append_nil, List.filterMap_append, Sentence.meetings,
    Sentence.meetings, List.filterMap_cons]
  cases Meeting.contribution? draws ⟨Sentence.history before, line, sentence⟩ <;> rfl

/-- The chart of a compilation, read off the sentences. -/
theorem chart_ofSentences (draws : List Int) (sentences : List (Nat × Sentence)) :
    (ofSentences draws sentences : Compilation α).chart =
      (contributions draws sentences).foldl
        (fun chart entry => entry.2.apply entry.1 chart) .empty := by
  induction sentences using List.reverseRecOn with
  | nil => rfl
  | append_singleton before entry ih =>
      obtain ⟨line, sentence⟩ := entry
      rw [contributions_append_singleton, List.foldl_append, ← ih]
      cases sentence with
      | control control => exact chartAfter_control draws before line control
      | malformed text => exact chartAfter_malformed draws before line text
      | content content =>
          refine (chartAfter_content draws before line content).trans ?_
          unfold Meeting.contribution? Meeting.applies
          dsimp only
          split
          · rename_i skipped
            rw [skipped]
            rfl
          · rename_i taken
            rw [if_pos (bne_iff_ne.mpr taken)]
            rfl

end Compilation

end RhythmChart
