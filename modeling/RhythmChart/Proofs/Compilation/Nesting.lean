import RhythmChart.Proofs.Compilation.Steps

/-!
# Nested blocks

Of the blocks around a content sentence only the innermost one is asked. Where its branch
is not taken, the sentence leaves no trace in the chart; otherwise it is applied, also
when a block further out is in its other branch. A block that is taken inside one that is
not therefore lets its content through.
-/

namespace RhythmChart

namespace Compilation

variable {α : Type} [Scalar α]

/-- What becomes of the chart depends on the gate and on the chart so
far, and on nothing else. -/
theorem chart_foldl_step_congr {left right : State α} (gates : left.gate = right.gate)
    (charts : left.result.chart = right.result.chart)
    (sentences : List (Nat × Sentence)) :
    (sentences.foldl step left).result.chart =
      (sentences.foldl step right).result.chart := by
  induction sentences generalizing left right with
  | nil => exact charts
  | cons entry rest ih =>
      obtain ⟨line, sentence⟩ := entry
      apply ih
      · rw [gate_step, gate_step, gates]
      · cases sentence with
        | control control => exact charts
        | content content => rw [chart_step_content, chart_step_content, gates, charts]
        | malformed text => exact charts

/-- A content sentence that its innermost block skips can be taken out of the source. -/
theorem chartAfter_eq_of_skipped {draws : List Int} {before : List (Nat × Sentence)}
    (skipped : Control.openBlock? draws 0 (Sentence.history before) = some false)
    (line : Nat) (content : Content) (after : List (Nat × Sentence)) :
    chartAfter α draws (before ++ (line, .content content) :: after) =
      chartAfter α draws (before ++ after) := by
  have gate := gate_after_history (α := α) draws before
  unfold chartAfter ofSentences
  rw [List.foldl_append, List.foldl_append, List.foldl_cons]
  apply chart_foldl_step_congr
  · exact gate_step _ line (.content content)
  · rw [chart_step_content]
    change (if (before.foldl step (start α draws)).gate.skips then _ else _) = _
    rw [gate, Gate.skips_after, skipped]
    rfl

/-- A content sentence changes the chart only if the innermost block around it is
in its taken branch or no block is open, and then it does whatever the blocks
further out are like. -/
theorem chart_follows_innermost_block {dialect : Dialect} {draws : List Int}
    {source : Text}
    {before after : List (Nat × Sentence)} {line : Nat} {content : Content}
    (split : Sentence.ofText dialect source = before ++ (line, .content content) ::
      after) :
    (Control.openBlock? draws 0 (Sentence.history before) = some false →
      chartAfter α draws (before ++ [(line, .content content)]) =
          chartAfter α draws before ∧
        (ofText dialect draws source).chart = chartAfter α draws (before ++ after)) ∧
    (Control.openBlock? draws 0 (Sentence.history before) ≠ some false →
      chartAfter α draws (before ++ [(line, .content content)]) =
        content.apply line (chartAfter α draws before)) := by
  constructor
  · intro skipped
    constructor
    · rw [chartAfter_content, if_pos skipped]
    · unfold ofText
      rw [split]
      exact chartAfter_eq_of_skipped skipped line content after
  · intro taken
    rw [chartAfter_content, if_neg taken]

/-- A title in a block inside another block; both ask for the same draw. -/
def nestedSource : Text :=
  "#RANDOM 2\n#IF 2\n#IF 1\n#TITLE inner\n#ENDIF\n#ENDIF".toList

def nestedBefore : List (Nat × Sentence) :=
  [(1, .control (.random 2)), (2, .control (.ifDrawn 2)), (3, .control (.ifDrawn 1))]

def nestedTitle : Content :=
  .header "TITLE".toList (some "inner".toList)

def nestedAfter : List (Nat × Sentence) :=
  [(5, .control .endIf), (6, .control .endIf)]

theorem ofText_nestedSource :
    Sentence.ofText .bms nestedSource =
      nestedBefore ++ (4, .content nestedTitle) :: nestedAfter := by
  decide +kernel

/-- On the nested source, a two draws the outer block open and skips the title,
and a one draws the inner block open, so that the title is applied inside a
block that is not taken. -/
theorem nestedSource_follows_innermost_block :
    (ofText .bms [2] nestedSource : Compilation Rat).chart =
        chartAfter Rat [2] (nestedBefore ++ nestedAfter) ∧
      Control.openBlock? [1] 1 (Sentence.history nestedBefore) = some false ∧
      chartAfter Rat [1] (nestedBefore ++ [(4, .content nestedTitle)]) =
        nestedTitle.apply 4 (chartAfter Rat [1] nestedBefore) :=
  ⟨((chart_follows_innermost_block ofText_nestedSource).1 (by decide)).2, by decide,
    (chart_follows_innermost_block ofText_nestedSource).2 (by decide)⟩

/-- It is not so that content reaches the chart only if every block around it is taken. -/
theorem not_forall_enclosing_blocks_taken :
    ¬ ∀ (dialect : Dialect) (draws : List Int) (source : Text)
        (before after : List (Nat × Sentence)) (line : Nat) (content : Content),
      Sentence.ofText dialect source = before ++ (line, .content content) :: after →
      chartAfter Rat draws (before ++ [(line, .content content)]) ≠
        chartAfter Rat draws before →
      ∀ depth taken,
        Control.openBlock? draws depth (Sentence.history before) = some taken →
          taken = true := by
  intro claim
  have changed : chartAfter Rat [1] (nestedBefore ++ [(4, .content nestedTitle)]) ≠
      chartAfter Rat [1] nestedBefore := by
    intro same
    have headers := congrArg Chart.headers same
    revert headers
    decide +kernel
  have taken := claim .bms [1] nestedSource nestedBefore nestedAfter 4 nestedTitle
    ofText_nestedSource changed 1 false (by decide)
  cases taken

end Compilation

end RhythmChart
