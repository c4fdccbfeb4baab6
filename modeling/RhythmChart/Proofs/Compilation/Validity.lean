import RhythmChart.Proofs.Chart.Beats
import RhythmChart.Proofs.Chart.Overlay
import RhythmChart.Proofs.Chart.Topics
import RhythmChart.Proofs.Compilation.Slots
import RhythmChart.Proofs.Compilation.Steps

/-!
# Compiled charts are well formed

What every content sentence preserves holds of every compiled chart, whatever was drawn.
In this way measures are found to have positive sizes, objects to have proper fractions,
and places in the foreground to hold one object at most.
-/

namespace RhythmChart

open ChartObject (isAt)

/-- What holds of charts that were compiled in exact arithmetic. -/
structure Chart.WellFormed (chart : Chart Rat) : Prop where
  sizes : chart.sizes.Positive
  valid : ∀ object ∈ chart.objects.toList, object.Valid
  alone : ∀ channel measure fraction, channel ≠ Code.background →
    (chart.objects.toList.filter (isAt channel measure fraction)).length ≤ 1

theorem Content.pos_of_size? {α : Type} [Scalar α] {text : Text} {size : α}
    (read : size? text = some size) : ((0 : Nat) : α) < size :=
  of_decide_eq_true (Option.filter_eq_some_iff.mp read).2

/-- A slot lies inside its measure. -/
theorem Content.valid_of_mem_objects {line measure : Nat} {code : Code} {data : Text}
    {object : ChartObject Rat} (member : object ∈ objects line measure code data) :
    object.Valid := by
  obtain ⟨i, value, found, -, rfl⟩ := mem_objects_iff.mp member
  have proper : (i : Rat) < ((data.length / 2 : Nat) : Rat) :=
    Nat.cast_lt.mpr (lt_of_slot? found)
  have slots : (0 : Rat) < ((data.length / 2 : Nat) : Rat) :=
    lt_of_le_of_lt (Nat.cast_nonneg i) proper
  exact ⟨div_nonneg (Nat.cast_nonneg i) (le_of_lt slots), (div_lt_one slots).mpr proper⟩

namespace Chart.WellFormed

theorem empty : (Chart.empty : Chart Rat).WellFormed where
  sizes := fun _ member => nomatch member
  valid := fun _ member => nomatch member
  alone := fun _ _ _ _ => Nat.zero_le 1

variable {chart : Chart Rat} (wellFormed : chart.WellFormed)

include wellFormed

theorem setHeader (name : Text) (value : Option Text) :
    (chart.setHeader name value).WellFormed :=
  ⟨wellFormed.sizes, wellFormed.valid, wellFormed.alone⟩

theorem setSize (measure : Int) {size : Rat} (positive : 0 < size) :
    (chart.setSize measure size).WellFormed :=
  ⟨wellFormed.sizes.insert measure positive, wellFormed.valid, wellFormed.alone⟩

theorem addObject {object : ChartObject Rat} (valid : object.Valid) :
    (chart.addObject object).WellFormed where
  sizes := wellFormed.sizes
  valid := by
    intro other member
    rcases Objects.mem_add member with rfl | old
    · exact valid
    · exact wellFormed.valid other old
  alone := by
    intro channel measure fraction foreground
    have before := wellFormed.alone channel measure fraction foreground
    rw [Chart.addObject, Objects.filter_isAt_add _ object foreground before]
    split
    · exact Nat.le_refl 1
    · exact before

theorem addObjects {objects : List (ChartObject Rat)}
    (valid : ∀ object ∈ objects, object.Valid) :
    (objects.foldl Chart.addObject chart).WellFormed := by
  induction objects generalizing chart with
  | nil => exact wellFormed
  | cons object rest ih =>
      apply ih (wellFormed.addObject (valid object List.mem_cons_self))
      exact fun other member => valid other (List.mem_cons_of_mem object member)

theorem apply (line : Nat) (content : Content) :
    (content.apply line chart).WellFormed := by
  cases content with
  | header name value => exact wellFormed.setHeader name value
  | measureSize measure text =>
      rw [Content.apply]
      cases read : (Content.size? text : Option Rat) with
      | none => exact wellFormed
      | some size => exact wellFormed.setSize measure (Content.pos_of_size? read)
  | channel measure code data =>
      exact wellFormed.addObjects fun _ => Content.valid_of_mem_objects

theorem pairwise_places :
    chart.objects.toList.Pairwise fun a b =>
      a.channel ≠ Code.background → ¬ b.isAt a.channel a.measure a.fraction = true := by
  rw [List.pairwise_iff_forall_sublist]
  intro a b both foreground there
  have two := (both.filter (isAt a.channel a.measure a.fraction)).length_le
  rw [List.filter_cons_of_pos a.isAt_self, List.filter_cons_of_pos there] at two
  exact absurd (Nat.le_trans two (wellFormed.alone _ _ _ foreground)) (by simp)

end Chart.WellFormed

namespace Compilation

/-- What holds of the empty chart and is kept by every content sentence
holds of compiled charts. -/
theorem chartAfter_induction {α : Type} [Scalar α] {P : Chart α → Prop}
    {sentences : List (Nat × Sentence)} (draws : List Int) (empty : P .empty)
    (apply : ∀ chart line content, (line, .content content) ∈ sentences → P chart →
      P (content.apply line chart)) :
    P (chartAfter α draws sentences) := by
  induction sentences using List.reverseRecOn with
  | nil => exact empty
  | append_singleton before entry ih =>
      have earlier := ih fun chart line content member =>
        apply chart line content (List.mem_append_left _ member)
      obtain ⟨line, sentence⟩ := entry
      cases sentence with
      | control control =>
          rw [chartAfter_control]
          exact earlier
      | malformed text =>
          rw [chartAfter_malformed]
          exact earlier
      | content content =>
          rw [chartAfter_content]
          split
          · exact earlier
          · exact apply _ line content (List.mem_append_right _ List.mem_cons_self)
              earlier

section Stored

variable {α : Type} [Scalar α]

theorem sizes_ofText {P : α → Prop}
    (read : ∀ text size, Content.size? text = some size → P size)
    (dialect : Dialect) (draws : List Int) (source : Text) :
    ∀ entry ∈ (ofText dialect draws source : Compilation α).chart.sizes.entries,
      P entry.2 := by
  apply chartAfter_induction (P := fun chart : Chart α => ∀ entry ∈ chart.sizes.entries,
    P entry.2)
  · intro entry member
    cases member
  · intro chart line content _ before
    cases content with
    | header name value => exact before
    | channel measure code data =>
        rw [Content.apply, Chart.sizes_foldl_addObject]
        exact before
    | measureSize measure text =>
        rw [Content.apply]
        cases found : (Content.size? text : Option α) with
        | none => exact before
        | some size =>
            intro entry member
            rcases MeasureSizes.mem_insertEntry member with rfl | old
            · exact read text size found
            · exact before entry old

theorem objects_ofText {P : ChartObject α → Prop} {dialect : Dialect} {source : Text}
    (placed : ∀ line measure channel data,
      (line, .content (.channel measure channel data)) ∈ Sentence.ofText dialect source →
      ∀ object ∈ Content.objects line measure channel data, P object)
    (draws : List Int) :
    ∀ object ∈ (ofText dialect draws source : Compilation α).chart.objects.toList,
      P object := by
  apply chartAfter_induction (P := fun chart : Chart α => ∀ object ∈ chart.objects.toList,
    P object)
  · intro object member
    cases member
  · intro chart line content sentence before object listed
    rw [Content.objects_apply] at listed
    rcases Objects.mem_foldl_add listed with new | old
    · cases content with
      | channel measure channel data =>
          exact placed line measure channel data sentence object new
      | header name value => cases new
      | measureSize measure text => cases new
    · exact before object old

/-- All sizes of a chart are of one kind, and all fractions of another one. -/
structure Keeps (Size Fraction : α → Prop) (chart : Chart α) : Prop where
  sizes : ∀ entry ∈ chart.sizes.entries, Size entry.2
  fractions : ∀ object ∈ chart.objects.toList, Fraction object.fraction

/-- The numbers in a compiled chart are sizes that were found positive, and quotients of a
slot and the number of slots. -/
theorem keeps_ofText {Size Fraction : α → Prop} (dialect : Dialect) (draws : List Int)
    (source : Text) (sizes : ∀ size, ((0 : Nat) : α) < size → Size size)
    (fractions : ∀ slot slots : Nat, slot < slots → Fraction ((slot : α) / (slots : α))) :
    Keeps Size Fraction (ofText dialect draws source : Compilation α).chart where
  sizes := sizes_ofText (fun _ size read => sizes size (Content.pos_of_size? read))
    dialect draws source
  fractions := by
    apply objects_ofText (P := fun object : ChartObject α => Fraction object.fraction)
    intro line measure channel data _ object placed
    obtain ⟨slot, value, found, -, rfl⟩ := Content.mem_objects_iff.mp placed
    exact fractions slot (data.length / 2) (Content.lt_of_slot? found)

end Stored

theorem wellFormed_ofText (dialect : Dialect) (draws : List Int) (source : Text) :
    (ofText dialect draws source : Compilation Rat).chart.WellFormed :=
  chartAfter_induction draws .empty fun _ line content _ wellFormed =>
    wellFormed.apply line content

end Compilation

end RhythmChart
