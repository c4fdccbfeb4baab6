import RhythmChart.Proofs.Compilation.Steps
import RhythmChart.Proofs.Text.Lines

/-!
# Resolved sources

Once the draws are known a source can be resolved: every control sentence is blanked out,
and so is every sentence whose innermost open block is in the branch that is not taken.
The other lines stay where they are. The resolved source has no variants left, and it
compiles to the same chart.
-/

namespace RhythmChart

namespace Compilation

/-- What is left of a line after a history. -/
def resolveLine (dialect : Dialect) (draws : List Int) (history : List Control)
    (line : Text) : Text :=
  match Sentence.read? dialect (Text.trim line) with
  | none => line
  | some (.control _) => []
  | some _ => if Control.openBlock? draws 0 history = some false then [] else line

def historyAfter (dialect : Dialect) (history : List Control) (line : Text) :
    List Control :=
  match Sentence.read? dialect (Text.trim line) with
  | some (.control control) => control :: history
  | _ => history

def resolveLines (dialect : Dialect) (draws : List Int) (history : List Control) :
    List Text → List Text
  | [] => []
  | line :: rest =>
      resolveLine dialect draws history line ::
        resolveLines dialect draws (historyAfter dialect history line) rest

/-- The source that some draws make of a source. -/
def resolve (dialect : Dialect) (draws : List Int) (source : Text) : Text :=
  Text.joinLines (resolveLines dialect draws [] (Text.lines source))

def sentenceOn (dialect : Dialect) (number : Nat) (line : Text) : List (Nat × Sentence) :=
  ((Sentence.read? dialect (Text.trim line)).map (number, ·)).toList

/-- The sentences of lines that are numbered from some number on. -/
def sentencesFrom (dialect : Dialect) (number : Nat) : List Text → List (Nat × Sentence)
  | [] => []
  | line :: rest =>
      sentenceOn dialect number line ++ sentencesFrom dialect (number + 1) rest

theorem ofText_eq_sentencesFrom (dialect : Dialect) (source : Text) :
    Sentence.ofText dialect source = sentencesFrom dialect 1 (Text.lines source) := by
  unfold Sentence.ofText Text.numberedLines
  generalize Text.lines source = lines
  generalize 1 = number
  induction lines generalizing number with
  | nil => rfl
  | cons line rest ih =>
      rw [sentencesFrom, ← ih, List.zipIdx_cons, List.map_cons, List.filterMap_cons]
      cases found : Sentence.read? dialect (Text.trim line) with
      | none => simp [sentenceOn, found]
      | some sentence => simp [sentenceOn, found]

/-- What is read off sentences is read off lines. -/
theorem filterMap_sentencesFrom {τ : Type} (dialect : Dialect)
    (read : Sentence → Option τ) (number : Nat) (lines : List Text) :
    ((sentencesFrom dialect number lines).filterMap fun entry => read entry.2) =
      lines.filterMap fun line =>
        (Sentence.read? dialect (Text.trim line)).bind read := by
  induction lines generalizing number with
  | nil => rfl
  | cons line rest ih =>
      rw [sentencesFrom, List.filterMap_append, ih, List.filterMap_cons, sentenceOn]
      cases Sentence.read? dialect (Text.trim line) with
      | none => rfl
      | some sentence =>
          rw [Option.bind_some]
          cases found : read sentence <;> simp [found]

theorem sentenceOn_nil (dialect : Dialect) (number : Nat) :
    sentenceOn dialect number [] = [] :=
  rfl

section Lines

variable {dialect : Dialect} {draws : List Int}

theorem isLine_resolveLine {line : Text} (isLine : Text.IsLine line)
    (history : List Control) : Text.IsLine (resolveLine dialect draws history line) := by
  unfold resolveLine
  split
  · exact isLine
  · exact Text.isLine_nil
  · split
    · exact Text.isLine_nil
    · exact isLine

theorem isLine_of_mem_resolveLines {lines : List Text}
    (areLines : ∀ line ∈ lines, Text.IsLine line) (history : List Control) :
    ∀ line ∈ resolveLines dialect draws history lines, Text.IsLine line := by
  induction lines generalizing history with
  | nil =>
      intro line member
      cases member
  | cons first rest ih =>
      intro line member
      rcases List.mem_cons.mp member with here | later
      · rw [here]
        exact isLine_resolveLine (areLines first List.mem_cons_self) history
      · exact ih (fun other member => areLines other (List.mem_cons_of_mem first member))
          _ line later

theorem lines_resolve (dialect : Dialect) (draws : List Int) (source : Text) :
    Text.lines (resolve dialect draws source) =
      resolveLines dialect draws [] (Text.lines source) := by
  apply Text.lines_joinLines
  · have nonempty := Text.lines_ne_nil source
    cases found : Text.lines source with
    | nil => exact absurd found nonempty
    | cons line rest => simp [resolveLines]
  · exact isLine_of_mem_resolveLines (fun line => Text.isLine_of_mem_lines) []

end Lines

variable {α : Type} [Scalar α]

/-- A compilation of a source and one of what its draws make of it,
after the same lines. -/
structure Resolves (draws : List Int) (history : List Control)
    (whole resolved : State α) : Prop where
  gate : whole.gate = Gate.after draws history
  noBlock : resolved.gate.blocks = []
  chart : resolved.result.chart = whole.result.chart
  noControl : resolved.result.counts.control = 0
  noneSkipped : resolved.result.counts.skipped = 0

namespace Resolves

variable {dialect : Dialect} {draws : List Int} {history : List Control}
variable {whole resolved : State α}

omit [Scalar α] in
theorem start (draws later : List Int) :
    Resolves draws [] (Compilation.start α draws) (Compilation.start α later) :=
  ⟨rfl, rfl, rfl, rfl, rfl⟩

/-- A control sentence moves the one gate and leaves no trace in the resolved source. -/
theorem control (related : Resolves draws history whole resolved) (line : Nat)
    (control : Control) :
    Resolves draws (control :: history) (step whole (line, .control control))
      resolved where
  gate := congrArg (Gate.step · control) related.gate
  noBlock := related.noBlock
  chart := related.chart
  noControl := related.noControl
  noneSkipped := related.noneSkipped

/-- Content that is let through is applied on both sides; other content is blanked out. -/
theorem content (related : Resolves draws history whole resolved) (line : Nat)
    (content : Content) :
    if Control.openBlock? draws 0 history = some false then
      Resolves draws history (step whole (line, .content content)) resolved
    else
      Resolves draws history (step whole (line, .content content))
        (step resolved (line, .content content)) := by
  have skips := Gate.skips_after draws history
  rw [← related.gate] at skips
  have passes : resolved.gate.skips = false := by
    simp [Gate.skips, related.noBlock]
  have gate : (step whole (line, .content content)).gate = Gate.after draws history := by
    rw [gate_step]
    exact related.gate
  split
  · rename_i closed
    refine ⟨gate, related.noBlock, ?_, related.noControl, related.noneSkipped⟩
    rw [chart_step_content, skips, closed]
    exact related.chart
  · rename_i isOpen
    have lets : whole.gate.skips = false := by
      rw [skips]
      exact beq_eq_false_iff_ne.mpr isOpen
    have counts : (step resolved (line, .content content)).result.counts =
        resolved.result.counts.add (.content content) := by
      unfold step
      dsimp only
      rw [passes]
      rfl
    refine ⟨gate, ?_, ?_, ?_, ?_⟩
    · rw [gate_step]
      exact related.noBlock
    · rw [chart_step_content, chart_step_content, lets, passes, related.chart]
    · rw [counts]
      cases content <;> exact related.noControl
    · rw [counts]
      cases content <;> exact related.noneSkipped

theorem malformed (related : Resolves draws history whole resolved) (line : Nat)
    (text : Text) :
    Resolves draws history (step whole (line, .malformed text)) resolved ∧
      Resolves draws history (step whole (line, .malformed text))
        (step resolved (line, .malformed text)) :=
  ⟨⟨related.gate, related.noBlock, related.chart, related.noControl, related.noneSkipped⟩,
    ⟨related.gate, related.noBlock, related.chart, related.noControl,
      related.noneSkipped⟩⟩

theorem line (related : Resolves draws history whole resolved) (number : Nat)
    (line : Text) :
    Resolves draws (historyAfter dialect history line)
      ((sentenceOn dialect number line).foldl step whole)
      ((sentenceOn dialect number (resolveLine dialect draws history line)).foldl step
        resolved) := by
  cases found : Sentence.read? dialect (Text.trim line) with
  | none => simpa [sentenceOn, resolveLine, historyAfter, found] using related
  | some sentence =>
      have read : sentenceOn dialect number line = [(number, sentence)] := by
        simp [sentenceOn, found]
      cases sentence with
      | control control =>
          simpa [resolveLine, historyAfter, found, read, sentenceOn_nil] using
            related.control number control
      | content content =>
          have next := related.content number content
          by_cases closed : Control.openBlock? draws 0 history = some false
          · simpa [resolveLine, historyAfter, found, read, sentenceOn_nil, closed]
              using next
          · simpa [resolveLine, historyAfter, found, read, closed] using next
      | malformed text =>
          have next := related.malformed number text
          by_cases closed : Control.openBlock? draws 0 history = some false
          · simpa [resolveLine, historyAfter, found, read, sentenceOn_nil, closed]
              using next.1
          · simpa [resolveLine, historyAfter, found, read, closed] using next.2

/-- The two compilations stay together over a whole source. -/
theorem lines (dialect : Dialect) (related : Resolves draws history whole resolved)
    (number : Nat) (lines : List Text) :
    ∃ later, Resolves draws later ((sentencesFrom dialect number lines).foldl step whole)
      ((sentencesFrom dialect number (resolveLines dialect draws history lines)).foldl
        step resolved) := by
  induction lines generalizing number history whole resolved with
  | nil => exact ⟨history, related⟩
  | cons line rest ih =>
      rw [resolveLines, sentencesFrom, sentencesFrom, List.foldl_append,
        List.foldl_append]
      exact ih (related.line number line) (number + 1)

end Resolves

/-- Compiling a source comes to compiling what its draws make of it: the chart is the same
whatever is drawn then, nothing is left to choose or to skip, and content outside every
block is applied under all draws. -/
theorem chart_ofText_resolve (dialect : Dialect) (draws later : List Int)
    (source : Text) :
    (ofText dialect later (resolve dialect draws source) : Compilation α).chart =
        (ofText dialect draws source).chart ∧
      (ofText dialect later
        (resolve dialect draws source) : Compilation α).counts.control = 0 ∧
      (ofText dialect later
        (resolve dialect draws source) : Compilation α).counts.skipped = 0 ∧
      (∀ others, (ofText dialect others source).chart =
        chartAfter α others (Sentence.ofText dialect source)) ∧
      ∀ before line content after,
        Sentence.ofText dialect source = before ++ (line, .content content) :: after →
        Control.openBlock? draws 0 (Sentence.history before) = none →
        ∀ others, chartAfter α others (before ++ [(line, .content content)]) =
          content.apply line (chartAfter α others before) := by
  have related :=
    (Resolves.start (α := α) draws later).lines dialect 1 (Text.lines source)
  rw [← lines_resolve, ← ofText_eq_sentencesFrom, ← ofText_eq_sentencesFrom] at related
  obtain ⟨history, related⟩ := related
  refine ⟨related.chart, related.noControl, related.noneSkipped, fun _ => rfl, ?_⟩
  intro before line content after _ outside others
  have outsideToo : Control.openBlock? others 0 (Sentence.history before) = none := by
    have same := Control.isSome_openBlock? others draws 0 (Sentence.history before)
    rw [outside] at same
    exact Option.isNone_iff_eq_none.mp (by simpa using same)
  rw [chartAfter_content, outsideToo, if_neg (by simp)]

/-- Two titles in a block and a genre behind it. -/
def branchingSource : Text :=
  "#RANDOM 2\n#IF 2\n#TITLE two\n#ELSE\n#TITLE one\n#ENDIF\n#GENRE all".toList

/-- Where a one is drawn, the other branch and what stands behind the block are left over,
and the genre is applied for every draw. -/
theorem chart_ofText_resolve_other_branch :
    resolve .bms [1] branchingSource = "\n\n\n\n#TITLE one\n\n#GENRE all".toList ∧
      (ofText .bms [] "\n\n\n\n#TITLE one\n\n#GENRE all".toList : Compilation Rat).chart =
        (ofText .bms [1] branchingSource).chart ∧
      ∃ before, ∀ others,
        chartAfter Rat others
          (before ++ [(7, .content (.header "GENRE".toList "all".toList))]) =
          (Content.header "GENRE".toList "all".toList).apply 7
    (chartAfter Rat others before) := by
  have resolved : resolve .bms [1] branchingSource =
      "\n\n\n\n#TITLE one\n\n#GENRE all".toList := by decide +kernel
  obtain ⟨charts, _, _, _, outside⟩ :=
    chart_ofText_resolve (α := Rat) .bms [1] [] branchingSource
  rw [resolved] at charts
  refine ⟨resolved, charts, (Sentence.ofText .bms branchingSource).take 6, ?_⟩
  apply outside _ 7 _ []
  · decide +kernel
  · decide +kernel

end Compilation

end RhythmChart
