import Mathlib.Data.List.Basic
import RhythmChart.Proofs.Compilation.Resolution

/-!
# Balanced control sentences

Lines that close every block and every random choice they open, and refer to no other,
leave the two stacks of a gate as they found them. Blocks and random choices need not
nest in each other. All that such lines use up are the numbers they draw, so what
stands behind them is applied or skipped as if they were empty, provided that the other
lines draw the same numbers.
-/

namespace RhythmChart

namespace Control

/-- The number of open blocks after a control sentence; none if it refers to a block
although none is open. -/
def blockDepth? (depth : Nat) : Control → Option Nat
  | .ifDrawn _ => some (depth + 1)
  | .orElse => if depth = 0 then none else some depth
  | .endIf => if depth = 0 then none else some (depth - 1)
  | .random _ => some depth
  | .endRandom => some depth

/-- The number of open random choices after a control sentence; none if it ends a choice
although none is open. -/
def choiceDepth? (depth : Nat) : Control → Option Nat
  | .random _ => some (depth + 1)
  | .endRandom => if depth = 0 then none else some (depth - 1)
  | .ifDrawn _ => some depth
  | .orElse => some depth
  | .endIf => some depth

/-- The control sentences refer only to blocks and random choices that they open, and
leave none of these open. -/
structure Balanced (controls : List Control) : Prop where
  blocks : controls.foldlM blockDepth? 0 = some 0
  choices : controls.foldlM choiceDepth? 0 = some 0

end Control

namespace Gate

theorem blocks_step_append {gate : Gate} {inner outer : List Bool} {depth : Nat}
    {control : Control} (stacked : gate.blocks = inner ++ outer)
    (within : Control.blockDepth? inner.length control = some depth) :
    ∃ inner', (gate.step control).blocks = inner' ++ outer ∧ inner'.length = depth := by
  cases control with
  | random bound => exact ⟨inner, stacked, Option.some.inj within⟩
  | endRandom => exact ⟨inner, stacked, Option.some.inj within⟩
  | ifDrawn value =>
      exact ⟨_ :: inner, congrArg (_ :: ·) stacked, Option.some.inj within⟩
  | orElse =>
      cases inner with
      | nil => cases within
      | cons skipped rest =>
          refine ⟨(!skipped) :: rest, ?_, Option.some.inj within⟩
          simp [step, swapBranch, stacked]
  | endIf =>
      cases inner with
      | nil => cases within
      | cons skipped rest =>
          refine ⟨rest, ?_, Option.some.inj within⟩
          simp [step, stacked]

theorem drawn_step_append {gate : Gate} {inner outer : List Int} {depth : Nat}
    {control : Control} (stacked : gate.drawn = inner ++ outer)
    (within : Control.choiceDepth? inner.length control = some depth) :
    ∃ inner', (gate.step control).drawn = inner' ++ outer ∧ inner'.length = depth := by
  cases control with
  | random bound =>
      exact ⟨_ :: inner, congrArg (_ :: ·) stacked, Option.some.inj within⟩
  | ifDrawn value => exact ⟨inner, stacked, Option.some.inj within⟩
  | orElse => exact ⟨inner, stacked, Option.some.inj within⟩
  | endIf => exact ⟨inner, stacked, Option.some.inj within⟩
  | endRandom =>
      cases inner with
      | nil => cases within
      | cons number rest =>
          refine ⟨rest, ?_, Option.some.inj within⟩
          simp [step, stacked]

/-- What is below the open blocks of a run stays where it is. -/
theorem blocks_foldl_append {gate : Gate} {inner outer : List Bool} {depth : Nat}
    {controls : List Control} (stacked : gate.blocks = inner ++ outer)
    (within : controls.foldlM Control.blockDepth? inner.length = some depth) :
    ∃ inner', (controls.foldl step gate).blocks = inner' ++ outer ∧
      inner'.length = depth := by
  induction controls generalizing gate inner with
  | nil => exact ⟨inner, stacked, Option.some.inj within⟩
  | cons control rest ih =>
      obtain ⟨next, here, later⟩ := Option.bind_eq_some_iff.mp within
      obtain ⟨inner', stacked', rfl⟩ := blocks_step_append stacked here
      exact ih stacked' later

theorem drawn_foldl_append {gate : Gate} {inner outer : List Int} {depth : Nat}
    {controls : List Control} (stacked : gate.drawn = inner ++ outer)
    (within : controls.foldlM Control.choiceDepth? inner.length = some depth) :
    ∃ inner', (controls.foldl step gate).drawn = inner' ++ outer ∧
      inner'.length = depth := by
  induction controls generalizing gate inner with
  | nil => exact ⟨inner, stacked, Option.some.inj within⟩
  | cons control rest ih =>
      obtain ⟨next, here, later⟩ := Option.bind_eq_some_iff.mp within
      obtain ⟨inner', stacked', rfl⟩ := drawn_step_append stacked here
      exact ih stacked' later

theorem draws_foldl_step (gate : Gate) (controls : List Control) :
    (controls.foldl step gate).draws = gate.draws.drop
    (controls.countP Control.isRandom) := by
  induction controls generalizing gate with
  | nil => rfl
  | cons control rest ih =>
      rw [List.foldl_cons, ih]
      cases control <;> simp [step, Control.isRandom, List.countP_cons]

/-- Balanced control sentences use up draws and change nothing else. -/
theorem foldl_step_of_balanced {controls : List Control}
    (balanced : Control.Balanced controls) (gate : Gate) :
    controls.foldl step gate =
      { gate with draws := gate.draws.drop (controls.countP Control.isRandom) } := by
  obtain ⟨blocks, stacked, empty⟩ :=
    blocks_foldl_append (List.nil_append gate.blocks).symm balanced.blocks
  obtain ⟨drawn, stacked', empty'⟩ :=
    drawn_foldl_append (List.nil_append gate.drawn).symm balanced.choices
  rw [List.length_eq_zero_iff.mp empty, List.nil_append] at stacked
  rw [List.length_eq_zero_iff.mp empty', List.nil_append] at stacked'
  have draws := draws_foldl_step gate controls
  cases result : controls.foldl step gate
  rw [result] at stacked stacked' draws
  simp only at stacked stacked' draws
  rw [stacked, stacked', draws]

/-- Two gates with the same stacks that will draw the same numbers for a while. -/
structure Agrees (count : Nat) (left right : Gate) : Prop where
  drawn : left.drawn = right.drawn
  blocks : left.blocks = right.blocks
  draws : ∀ i < count, left.draws.getD i 1 = right.draws.getD i 1

namespace Agrees

variable {count : Nat} {left right : Gate}

theorem mono {less : Nat} (agrees : Agrees count left right) (le : less ≤ count) :
    Agrees less left right :=
  ⟨agrees.drawn, agrees.blocks, fun i below =>
    agrees.draws i (Nat.lt_of_lt_of_le below le)⟩

theorem step {control : Control}
    (agrees : Agrees (count + if control.isRandom then 1 else 0) left right) :
    Agrees count (left.step control) (right.step control) := by
  obtain ⟨drawn, blocks, draws⟩ := agrees
  cases control with
  | random bound =>
      have first : left.draws.headD 1 = right.draws.headD 1 := by
        have zeroth := draws 0 (Nat.succ_pos count)
        rwa [List.getD_eq_getElem?_getD, List.getD_eq_getElem?_getD,
          ← List.head?_eq_getElem?, ← List.head?_eq_getElem?,
          ← List.headD_eq_head?_getD, ← List.headD_eq_head?_getD] at zeroth
      refine ⟨?_, blocks, fun i below => ?_⟩
      · change left.draws.headD 1 :: left.drawn = right.draws.headD 1 :: right.drawn
        rw [first, drawn]
      · have next := draws (i + 1) (Nat.succ_lt_succ below)
        simpa [Gate.step, List.getD_eq_getElem?_getD] using next
  | ifDrawn value => exact ⟨drawn, by simp [Gate.step, drawn, blocks], draws⟩
  | orElse => exact ⟨drawn, congrArg swapBranch blocks, draws⟩
  | endIf => exact ⟨drawn, congrArg List.tail blocks, draws⟩
  | endRandom => exact ⟨congrArg List.tail drawn, blocks, draws⟩

/-- Gates that draw the same numbers for all random choices of a run stay together. -/
theorem foldl_step {controls : List Control}
    (agrees : Agrees (count + controls.countP Control.isRandom) left right) :
    Agrees count (controls.foldl Gate.step left) (controls.foldl Gate.step right) := by
  induction controls generalizing left right with
  | nil => exact agrees
  | cons control rest ih =>
      rw [List.countP_cons, ← Nat.add_assoc] at agrees
      exact ih agrees.step

theorem skips_eq (agrees : Agrees count left right) : left.skips = right.skips :=
  congrArg (List.headD · false) agrees.blocks

end Agrees

end Gate

namespace Compilation

def controlsOn (dialect : Dialect) (lines : List Text) : List Control :=
  lines.filterMap fun line =>
    (Sentence.read? dialect (Text.trim line)).bind Sentence.asControl?

def choicesOn (dialect : Dialect) (lines : List Text) : Nat :=
  (controlsOn dialect lines).countP Control.isRandom

section Lines

variable {dialect : Dialect}

theorem controls_sentencesFrom (number : Nat) (lines : List Text) :
    ((sentencesFrom dialect number lines).filterMap fun entry => entry.2.asControl?) =
      controlsOn dialect lines :=
  filterMap_sentencesFrom dialect Sentence.asControl? number lines

theorem sentencesFrom_append (number : Nat) (before after : List Text) :
    sentencesFrom dialect number (before ++ after) =
      sentencesFrom dialect number before ++
        sentencesFrom dialect (number + before.length) after := by
  induction before generalizing number with
  | nil => rfl
  | cons line rest ih =>
      rw [List.cons_append, sentencesFrom, sentencesFrom, ih, List.append_assoc,
        List.length_cons, Nat.add_assoc, Nat.add_comm 1]

theorem sentencesFrom_replicate_nil (number count : Nat) :
    sentencesFrom dialect number (List.replicate count []) = [] := by
  induction count generalizing number with
  | zero => rfl
  | succ count ih => exact ih (number + 1)

theorem ofText_joinLines {lines : List Text}
    (areLines : ∀ line ∈ lines, Text.IsLine line) :
    Sentence.ofText dialect (Text.joinLines lines) = sentencesFrom dialect 1 lines := by
  rw [ofText_eq_sentencesFrom]
  cases lines with
  | nil => rfl
  | cons line rest => rw [Text.lines_joinLines (List.cons_ne_nil line rest) areLines]

end Lines

/-- Gates meet at the end of balanced lines and of none, after the same lines. -/
theorem agrees_behind_balanced {before block after : List Control}
    {draws others : List Int} (balanced : Control.Balanced block)
    (sameBefore : ∀ i < before.countP Control.isRandom, draws.getD i 1 = others.getD i 1)
    (sameAfter : ∀ i < after.countP Control.isRandom,
      draws.getD (before.countP Control.isRandom + block.countP Control.isRandom + i) 1 =
        others.getD (before.countP Control.isRandom + i) 1) :
    Gate.Agrees (after.countP Control.isRandom)
      ((before ++ block).foldl Gate.step (Gate.start draws))
      (before.foldl Gate.step (Gate.start others)) := by
  have began : Gate.Agrees (0 + before.countP Control.isRandom) (Gate.start draws)
      (Gate.start others) := by
    refine ⟨rfl, rfl, fun i below => sameBefore i ?_⟩
    rwa [Nat.zero_add] at below
  obtain ⟨drawn, blocks, -⟩ := began.foldl_step
  rw [List.foldl_append, Gate.foldl_step_of_balanced balanced]
  refine ⟨drawn, blocks, fun i below => ?_⟩
  rw [Gate.draws_foldl_step, Gate.draws_foldl_step, List.drop_drop]
  simpa [Gate.start, List.getD_eq_getElem?_getD, List.getElem?_drop]
    using sameAfter i below

variable {α : Type} [Scalar α]

/-- What becomes of a content sentence: it is skipped and counted as
skipped, or it is applied. -/
theorem outcome_step_content {state : State α} {skips : Bool}
    (gate : state.gate.skips = skips) (line : Nat) (content : Content) :
    (step state (line, .content content)).result.chart =
        (if skips then state.result.chart else content.apply line state.result.chart) ∧
      (step state (line, .content content)).result.counts.skipped =
        state.result.counts.skipped + skips.toNat := by
  refine ⟨gate ▸ chart_step_content state line content, ?_⟩
  unfold step
  dsimp only
  rw [gate]
  cases skips <;> cases content <;> rfl

theorem isLine_of_mem_emptied {before block after : List Text}
    (areLines : ∀ line ∈ before ++ block ++ after, Text.IsLine line) :
    ∀ line ∈ before ++ List.replicate block.length [] ++ after, Text.IsLine line := by
  intro line member
  rcases List.mem_append.mp member with first | last
  · rcases List.mem_append.mp first with early | empty
    · exact areLines line (List.mem_append_left _ (List.mem_append_left _ early))
    · rw [List.eq_of_mem_replicate empty]
      exact Text.isLine_nil
  · exact areLines line (List.mem_append_right _ last)

/-- The gates in front of a sentence behind balanced lines and behind none. They agree on
the draws of all lines behind, so they agree on those up to the sentence. -/
theorem skips_before_sentence {dialect : Dialect} {before block after : List Text}
    {draws others : List Int}
    (balanced : Control.Balanced (controlsOn dialect block))
    (sameBefore : ∀ i < choicesOn dialect before, draws.getD i 1 = others.getD i 1)
    (sameAfter : ∀ i < choicesOn dialect after,
      draws.getD (choicesOn dialect before + choicesOn dialect block + i) 1 =
        others.getD (choicesOn dialect before + i) 1)
    {number : Nat} {earlier later : List (Nat × Sentence)}
    (split : sentencesFrom dialect number after = earlier ++ later) :
    ((sentencesFrom dialect 1 before ++ sentencesFrom dialect (1 + before.length) block ++
        earlier).foldl step (start α draws)).gate.skips =
      ((sentencesFrom dialect 1 before ++ earlier).foldl step
        (start α others)).gate.skips := by
  have controls :
      (earlier.filterMap fun entry => entry.2.asControl?).countP Control.isRandom ≤
        (controlsOn dialect after).countP Control.isRandom := by
    rw [← controls_sentencesFrom, split, List.filterMap_append, List.countP_append]
    exact Nat.le_add_right _ _
  have met := (agrees_behind_balanced balanced sameBefore sameAfter).mono controls
  rw [← Nat.zero_add (List.countP _ _), List.foldl_append] at met
  rw [gate_foldl_step, gate_foldl_step]
  simp only [List.filterMap_append, controls_sentencesFrom, List.foldl_append]
  exact met.foldl_step.skips_eq

/-- Behind balanced lines every sentence is applied or skipped as it is behind as many
empty lines, when the random choices before and behind them draw the same numbers. -/
theorem skips_behind_balanced {dialect : Dialect} {before block after : List Text}
    {draws others : List Int}
    (areLines : ∀ line ∈ before ++ block ++ after, Text.IsLine line)
    (balanced : Control.Balanced (controlsOn dialect block))
    (sameBefore : ∀ i < choicesOn dialect before, draws.getD i 1 = others.getD i 1)
    (sameAfter : ∀ i < choicesOn dialect after,
      draws.getD (choicesOn dialect before + choicesOn dialect block + i) 1 =
        others.getD (choicesOn dialect before + i) 1)
    {earlier later : List (Nat × Sentence)} {line : Nat} {sentence : Sentence}
    (split : sentencesFrom dialect (1 + before.length + block.length) after =
      earlier ++ (line, sentence) :: later) :
    ∃ ahead ahead',
      Sentence.ofText dialect (Text.joinLines (before ++ block ++ after)) =
        ahead ++ (line, sentence) :: later ∧
      Sentence.ofText dialect
          (Text.joinLines (before ++ List.replicate block.length [] ++ after)) =
        ahead' ++ (line, sentence) :: later ∧
      (ahead.foldl step (start α draws)).gate.skips =
        (ahead'.foldl step (start α others)).gate.skips ∧
      ∀ content, sentence = .content content →
        ∃ skips : Bool, ∀ state ∈ [ahead.foldl step (start α draws),
            ahead'.foldl step (start α others)],
          (step state (line, sentence)).result.chart =
              (if skips then state.result.chart
                else content.apply line state.result.chart) ∧
            (step state (line, sentence)).result.counts.skipped =
              state.result.counts.skipped + skips.toNat := by
  let opening := sentencesFrom dialect 1 before
  let middle := sentencesFrom dialect (1 + before.length) block
  have gates : ((opening ++ middle ++ earlier).foldl step (start α draws)).gate.skips =
      ((opening ++ earlier).foldl step (start α others)).gate.skips :=
    skips_before_sentence balanced sameBefore sameAfter split
  refine ⟨opening ++ middle ++ earlier, opening ++ earlier, ?_, ?_, gates, ?_⟩
  · rw [ofText_joinLines areLines, sentencesFrom_append, sentencesFrom_append,
      List.length_append, ← Nat.add_assoc, split]
    simp [opening, middle]
  · rw [ofText_joinLines (isLine_of_mem_emptied areLines), sentencesFrom_append,
      sentencesFrom_append, sentencesFrom_replicate_nil, List.length_append,
      List.length_replicate, ← Nat.add_assoc, split]
    simp [opening]
  · rintro content rfl
    refine ⟨((opening ++ earlier).foldl step (start α others)).gate.skips, ?_⟩
    exact List.forall_mem_cons.mpr ⟨outcome_step_content gates line content,
      List.forall_mem_singleton.mpr (outcome_step_content rfl line content)⟩

/-- A block and a random choice that overlap. -/
def overlappingLines : List Text :=
  ["#IF 1".toList, "#RANDOM 9".toList, "#ENDIF".toList, "#ENDRANDOM".toList]

def choiceLines : List Text :=
  ["#RANDOM 2".toList]

def blockLines : List Text :=
  ["#IF 2".toList, "#GENRE a".toList]

/-- The overlapping lines stand between a choice and a block that refers to it. -/
theorem skips_behind_balanced_overlapping :
    ∃ ahead ahead',
      Sentence.ofText .bms
        (Text.joinLines (choiceLines ++ overlappingLines ++ blockLines)) =
        ahead ++ [(7, .content (.header "GENRE".toList (some ['a'])))] ∧
      Sentence.ofText .bms
        (Text.joinLines (choiceLines ++ List.replicate 4 [] ++ blockLines)) =
        ahead' ++ [(7, .content (.header "GENRE".toList (some ['a'])))] ∧
      (ahead.foldl step (start Rat [2, 5])).gate.skips =
        (ahead'.foldl step (start Rat [2])).gate.skips := by
  have areLines :
      ∀ line ∈ choiceLines ++ overlappingLines ++ blockLines, Text.IsLine line := by
    decide
  have controls : controlsOn .bms overlappingLines =
      [.ifDrawn 1, .random 9, .endIf, .endRandom] := by
    decide +kernel
  have balanced : Control.Balanced (controlsOn .bms overlappingLines) := by
    rw [controls]
    exact ⟨rfl, rfl⟩
  have split :
      sentencesFrom .bms (1 + choiceLines.length + overlappingLines.length) blockLines =
        [(6, .control (.ifDrawn 2))] ++
          (7, .content (.header "GENRE".toList (some ['a']))) :: [] := by
    decide +kernel
  have sameBefore : ∀ i < choicesOn .bms choiceLines,
      [2, 5].getD i 1 = ([2] : List Int).getD i 1 := by
    decide +kernel
  have sameAfter : ∀ i < choicesOn .bms blockLines,
      [2, 5].getD (choicesOn .bms choiceLines + choicesOn .bms overlappingLines + i) 1 =
        ([2] : List Int).getD (choicesOn .bms choiceLines + i) 1 := by
    decide +kernel
  obtain ⟨ahead, ahead', whole, gaps, gates, -⟩ :=
    skips_behind_balanced (α := Rat) areLines balanced sameBefore sameAfter split
  exact ⟨ahead, ahead', whole, gaps, gates⟩

end Compilation

end RhythmChart
