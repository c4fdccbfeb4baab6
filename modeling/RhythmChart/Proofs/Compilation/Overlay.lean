import RhythmChart.Proofs.Chart.Overlay
import RhythmChart.Proofs.Compilation.Slots
import RhythmChart.Proofs.Compilation.Steps
import RhythmChart.Proofs.Sentence.Reading

/-!
# Overlaying channel sentences

Without control sentences every channel sentence is applied, each over those before it.
What stands at a place in the foreground is what the last sentence put there that fills
the place at all, however finely it divides the measure; empty slots put nothing anywhere.
In the background nothing is ever replaced.
-/

namespace RhythmChart

/-- The last entry that passes a filter comes from the last source that yields one. -/
theorem exists_last_of_getLast? {σ τ : Type} {f : σ → List τ} {p : τ → Bool}
    {sources : List σ} {x : τ} (last : ((sources.flatMap f).filter p).getLast? = some x) :
    ∃ before source after, sources = before ++ source :: after ∧ x ∈ f source ∧
        p x = true ∧
      ∀ later ∈ after, ∀ y ∈ f later, p y = false := by
  induction sources using List.reverseRecOn with
  | nil => cases last
  | append_singleton sources source ih =>
      rw [List.flatMap_append, List.flatMap_singleton, List.filter_append,
        List.getLast?_append] at last
      cases here : ((f source).filter p).getLast? with
      | some y =>
          rw [here, Option.some_or] at last
          cases last
          obtain ⟨member, passes⟩ := List.mem_filter.mp (List.mem_of_getLast? here)
          exact ⟨sources, source, [], rfl, member, passes, fun _ later => nomatch later⟩
      | none =>
          rw [here, Option.none_or] at last
          obtain ⟨before, source', after, rfl, member, passes, none⟩ := ih last
          refine ⟨before, source', after ++ [source], by simp, member, passes, ?_⟩
          intro later where' y yields
          rcases List.mem_append.mp where' with earlier | this
          · exact none later earlier y yields
          · rw [List.mem_singleton.mp this] at yields
            have empty := List.filter_eq_nil_iff.mp (List.getLast?_eq_none_iff.mp here)
            exact Bool.eq_false_iff.mpr (empty y yields)

/-- A slot of the sentence is at a place and holds a value. -/
def Sentence.Fills (sentence : Sentence) (channel : Code) (measure : Nat) (fraction : Rat)
    (value : Code) : Prop :=
  ∃ data i, sentence = .content (.channel measure channel data) ∧
    Content.slot? data i = some value ∧ value ≠ Code.empty ∧
    (i : Rat) / ((data.length / 2 : Nat) : Rat) = fraction

namespace Compilation

open ChartObject (isAt isBackground)

def Unfilled (sentences : List (Nat × Sentence)) (channel : Code) (measure : Nat)
    (fraction : Rat) : Prop :=
  ∀ entry ∈ sentences, ∀ value, ¬entry.2.Fills channel measure fraction value

/-- An object is what the last sentence to fill its place put there. -/
def IsLastFill (sentences : List (Nat × Sentence)) (object : ChartObject Rat) : Prop :=
  ∃ (before after : List (Nat × Sentence)) (line : Nat) (sentence : Sentence),
    sentences = before ++ (line, sentence) :: after ∧ object.line = some (line : Int) ∧
    sentence.Fills object.channel object.measure object.fraction object.value ∧
    Unfilled after object.channel object.measure object.fraction

/-- The objects that a sentence places where nothing skips it. -/
def placedBy : Nat × Sentence → List (ChartObject Rat)
  | (line, .content content) => content.placed Rat line
  | _ => []

/-- The filled slots of a sentence in the background, as objects. -/
def backgroundSlots : Nat × Sentence → List (ChartObject Rat)
  | (line, .content (.channel measure channel data)) =>
      if channel = Code.background then Content.filledSlots Rat line measure channel data
      else []
  | _ => []

theorem mem_placedBy_iff {line : Nat} {sentence : Sentence} {object : ChartObject Rat} :
    object ∈ placedBy (line, sentence) ↔
      object.line = some (line : Int) ∧
        sentence.Fills object.channel object.measure object.fraction object.value := by
  constructor
  · intro member
    match sentence, member with
    | .content (.channel measure channel data), member =>
        obtain ⟨i, value, found, nonempty, rfl⟩ := Content.mem_objects_iff.mp member
        exact ⟨rfl, data, i, rfl, found, nonempty, rfl⟩
  · rintro ⟨fromLine, data, i, rfl, found, nonempty, fraction⟩
    refine Content.mem_objects_iff.mpr ⟨i, object.value, found, nonempty, ?_⟩
    obtain ⟨channel, measure, fraction, value, line⟩ := object
    cases fromLine
    cases fraction
    rfl

theorem filter_isBackground_placedBy (entry : Nat × Sentence) :
    (placedBy entry).filter isBackground = backgroundSlots entry := by
  obtain ⟨line, sentence⟩ := entry
  match sentence with
  | .control _ => rfl
  | .malformed _ => rfl
  | .content (.header _ _) => rfl
  | .content (.measureSize _ _) => rfl
  | .content (.channel measure channel data) =>
      have channels :
          ∀ object ∈ placedBy (line, .content (.channel measure channel data)),
          object.channel = channel := by
        intro object member
        obtain ⟨-, data, i, same, -⟩ := mem_placedBy_iff.mp member
        cases same
        rfl
      have explicit := Content.objects_eq (α := Rat) line measure channel data
      rw [backgroundSlots]
      split
      · rename_i background
        refine (List.filter_eq_self.mpr fun object member => ?_).trans explicit
        exact beq_iff_eq.mpr ((channels object member).trans background)
      · rename_i foreground
        refine List.filter_eq_nil_iff.mpr fun object member => ?_
        rw [isBackground, channels object member, beq_iff_eq]
        exact foreground

/-- Sentences without a control sentence among them are all applied. -/
theorem objects_chartAfter {draws : List Int} {sentences : List (Nat × Sentence)}
    (uncontrolled : ∀ entry ∈ sentences, entry.2.asControl? = none) :
    (chartAfter Rat draws sentences).objects =
      Objects.overlay (sentences.flatMap placedBy) := by
  induction sentences using List.reverseRecOn with
  | nil => rfl
  | append_singleton before entry ih =>
      obtain ⟨line, sentence⟩ := entry
      have earlier : ∀ entry ∈ before, entry.2.asControl? = none := fun entry member =>
        uncontrolled entry (List.mem_append_left _ member)
      have noHistory : Sentence.history before = [] := by
        unfold Sentence.history
        rw [List.filterMap_eq_nil_iff.mpr earlier]
        rfl
      rw [List.flatMap_append, Objects.overlay, List.foldl_append, ← Objects.overlay,
        ← ih earlier, List.flatMap_singleton]
      cases sentence with
      | control choice =>
          cases uncontrolled _ (List.mem_append_right _ List.mem_cons_self)
      | malformed text => rw [chartAfter_malformed]; rfl
      | content content =>
          rw [chartAfter_content, noHistory, if_neg (by simp [Control.openBlock?]),
            Content.objects_apply]
          rfl

section Places

variable {sentences : List (Nat × Sentence)} {channel : Code} {measure : Nat}
  {fraction : Rat}

theorem mem_filter_placedBy_iff {object : ChartObject Rat} :
    object ∈ (sentences.flatMap placedBy).filter (isAt channel measure fraction) ↔
      ∃ line sentence, (line, sentence) ∈ sentences ∧ object.line = some (line : Int) ∧
        sentence.Fills channel measure fraction object.value ∧
        object.isAt channel measure fraction = true := by
  rw [List.mem_filter, List.mem_flatMap]
  constructor
  · rintro ⟨⟨⟨line, sentence⟩, member, places⟩, here⟩
    obtain ⟨fromLine, fills⟩ := mem_placedBy_iff.mp places
    obtain ⟨rfl, rfl, rfl⟩ := ChartObject.isAt_iff.mp here
    exact ⟨line, sentence, member, fromLine, fills, here⟩
  · rintro ⟨line, sentence, member, fromLine, fills, here⟩
    obtain ⟨rfl, rfl, rfl⟩ := ChartObject.isAt_iff.mp here
    exact ⟨⟨(line, sentence), member, mem_placedBy_iff.mpr ⟨fromLine, fills⟩⟩, here⟩

theorem filter_placedBy_eq_nil_iff :
    (sentences.flatMap placedBy).filter (isAt channel measure fraction) = [] ↔
      Unfilled sentences channel measure fraction := by
  rw [List.eq_nil_iff_forall_not_mem]
  constructor
  · intro nothing entry member value fills
    exact nothing ⟨channel, measure, fraction, value, some (entry.1 : Int)⟩
      (mem_filter_placedBy_iff.mpr ⟨entry.1, entry.2, member, rfl, fills,
        ChartObject.isAt_iff.mpr ⟨rfl, rfl, rfl⟩⟩)
  · intro unfilled object member
    obtain ⟨line, sentence, listed, -, fills, -⟩ := mem_filter_placedBy_iff.mp member
    exact unfilled (line, sentence) listed object.value fills

end Places

section Runs

variable {sentences : List (Nat × Sentence)}
  (uncontrolled : ∀ entry ∈ sentences, entry.2.asControl? = none)

include uncontrolled

/-- What is left of the foreground at a place. -/
theorem filter_isAt_chartAfter {channel : Code} (foreground : channel ≠ Code.background)
    (draws : List Int) (measure : Nat) (fraction : Rat) :
    (chartAfter Rat draws sentences).objects.toList.filter
      (isAt channel measure fraction) =
      ((sentences.flatMap placedBy).filter
        (isAt channel measure fraction)).getLast?.toList := by
  rw [objects_chartAfter uncontrolled]
  exact Objects.filter_isAt_overlay _ foreground

theorem filter_isBackground_chartAfter (draws : List Int) :
    (chartAfter Rat draws sentences).objects.toList.filter isBackground =
      sentences.flatMap backgroundSlots := by
  rw [objects_chartAfter uncontrolled, Objects.filter_isBackground_overlay,
    List.filter_flatMap]
  exact congrArg (sentences.flatMap ·) (funext filter_isBackground_placedBy)

/-- An object goes only when its place is filled again. -/
theorem mem_chartAfter_of_unfilled {draws : List Int}
    {before after : List (Nat × Sentence)}
    (split : sentences = before ++ after) {object : ChartObject Rat}
    (there : object ∈ (chartAfter Rat draws before).objects.toList)
    (unfilled : object.channel ≠ Code.background →
      Unfilled after object.channel object.measure object.fraction) :
    object ∈ (chartAfter Rat draws sentences).objects.toList := by
  subst split
  have earlier : ∀ entry ∈ before, entry.2.asControl? = none := fun entry member =>
    uncontrolled entry (List.mem_append_left after member)
  by_cases background : object.channel = Code.background
  · have inBackground : object.isBackground = true := beq_iff_eq.mpr background
    have listed := List.mem_filter.mpr ⟨there, inBackground⟩
    rw [filter_isBackground_chartAfter earlier] at listed
    apply List.mem_of_mem_filter (p := isBackground)
    rw [filter_isBackground_chartAfter uncontrolled, List.flatMap_append]
    exact List.mem_append_left _ listed
  · have listed := List.mem_filter.mpr ⟨there, object.isAt_self⟩
    rw [filter_isAt_chartAfter earlier background] at listed
    apply List.mem_of_mem_filter (p := isAt object.channel object.measure object.fraction)
    rw [filter_isAt_chartAfter uncontrolled background, List.flatMap_append,
      List.filter_append,
      filter_placedBy_eq_nil_iff.mpr (unfilled background), List.append_nil]
    exact listed

theorem isLastFill_of_mem_chartAfter {draws : List Int} {object : ChartObject Rat}
    (listed : object ∈ (chartAfter Rat draws sentences).objects.toList)
    (foreground : object.channel ≠ Code.background) :
    (chartAfter Rat draws sentences).objects.toList.filter
        (isAt object.channel object.measure object.fraction) = [object] ∧
      IsLastFill sentences object := by
  have place :=
    filter_isAt_chartAfter uncontrolled foreground draws object.measure object.fraction
  have kept := List.mem_filter.mpr ⟨listed, object.isAt_self⟩
  rw [place, Option.mem_toList] at kept
  rw [place, kept]
  obtain ⟨before, ⟨line, sentence⟩, after, split, places, -, none⟩ :=
    exists_last_of_getLast? kept
  obtain ⟨fromLine, fills⟩ := mem_placedBy_iff.mp places
  refine ⟨rfl, before, after, line, sentence, split, fromLine, fills, ?_⟩
  rw [← filter_placedBy_eq_nil_iff, List.filter_eq_nil_iff]
  intro other member
  obtain ⟨later, where', yields⟩ := List.mem_flatMap.mp member
  exact Bool.eq_false_iff.mp (none later where' other yields)

theorem exists_isAt_chartAfter_iff {channel : Code}
    (foreground : channel ≠ Code.background)
    (draws : List Int) (measure : Nat) (fraction : Rat) :
    (∃ object ∈ (chartAfter Rat draws sentences).objects.toList,
        object.isAt channel measure fraction = true) ↔
      ∃ entry ∈ sentences, ∃ value, entry.2.Fills channel measure fraction value := by
  have place := filter_isAt_chartAfter uncontrolled foreground draws measure fraction
  constructor
  · rintro ⟨object, listed, here⟩
    have kept := List.mem_filter.mpr ⟨listed, here⟩
    rw [place, Option.mem_toList] at kept
    obtain ⟨line, sentence, member, -, fills, -⟩ :=
      mem_filter_placedBy_iff.mp (List.mem_of_getLast? kept)
    exact ⟨(line, sentence), member, object.value, fills⟩
  · rintro ⟨entry, member, value, fills⟩
    by_contra nothing
    have noObject : (chartAfter Rat draws sentences).objects.toList.filter
        (isAt channel measure fraction) = [] :=
      List.filter_eq_nil_iff.mpr fun object listed here => nothing ⟨object, listed, here⟩
    rw [place, Option.toList_eq_nil_iff, List.getLast?_eq_none_iff,
      filter_placedBy_eq_nil_iff] at noObject
    exact noObject entry member value fills

end Runs

/-- Objects are decoded slot by slot and laid over each other: a place in the foreground
holds an object exactly if some sentence fills it, only one, and the one of the last
sentence that does. The background holds every filled slot in the order of the source. An
object stays until its place is filled again, which an empty slot does not do. And a line
in the form of a channel sentence is read as one. -/
theorem objects_ofText_overlay {dialect : Dialect} {source : Text}
    (uncontrolled : ∀ entry ∈ Sentence.ofText dialect source, entry.2.asControl? = none)
    (draws : List Int) :
    (∀ channel measure fraction, channel ≠ Code.background →
      ((∃ object ∈ (ofText dialect draws source : Compilation Rat).chart.objects.toList,
          object.isAt channel measure fraction = true) ↔
        ∃ entry ∈ Sentence.ofText dialect source, ∃ value,
          entry.2.Fills channel measure fraction value)) ∧
    (∀ object ∈ (ofText dialect draws source : Compilation Rat).chart.objects.toList,
      object.channel ≠ Code.background →
        (ofText dialect draws source : Compilation Rat).chart.objects.toList.filter
          (isAt object.channel object.measure object.fraction) = [object] ∧
        IsLastFill (Sentence.ofText dialect source) object) ∧
    (ofText dialect draws source : Compilation Rat).chart.objects.toList.filter
      isBackground = (Sentence.ofText dialect source).flatMap backgroundSlots ∧
    (∀ before after, Sentence.ofText dialect source = before ++ after →
      ∀ object ∈ (chartAfter Rat draws before).objects.toList,
        (object.channel ≠ Code.background →
          Unfilled after object.channel object.measure object.fraction) →
        object ∈ (ofText dialect draws source : Compilation Rat).chart.objects.toList) ∧
    ∀ number code data visible, code ≠ Code.measureSize →
      Sentence.read? dialect
        (Text.trim ((Phrase.channel number code data visible).line dialect)) =
        some (.content (.channel number.value code data)) := by
  refine ⟨?_, ?_, filter_isBackground_chartAfter uncontrolled draws, ?_, ?_⟩
  · intro channel measure fraction foreground
    exact exists_isAt_chartAfter_iff uncontrolled foreground draws measure fraction
  · intro object listed foreground
    exact isLastFill_of_mem_chartAfter uncontrolled listed foreground
  · intro before after split object there unfilled
    exact mem_chartAfter_of_unfilled uncontrolled split there unfilled
  · intro number code data visible other
    rw [Phrase.read?_line, Phrase.sentence, if_neg other]

/-- Two slots and then four on one channel, of which the last is half a slot too long. -/
def layeredSource : Text :=
  "#00111:0A0B\n#00111:00000C00D\n#00101:0100".toList

def upperLayer : ChartObject Rat :=
  ⟨⟨'1', '1'⟩, 1, 1 / 2, ⟨'0', 'C'⟩, some 2⟩

/-- The second of two slots and the third of four are at one place. -/
theorem objects_ofText_overlay_resolutions :
    (∀ entry ∈ Sentence.ofText .bms layeredSource, entry.2.asControl? = none) ∧
      upperLayer ∈ (ofText .bms [] layeredSource : Compilation Rat).chart.objects.toList ∧
      IsLastFill (Sentence.ofText .bms layeredSource) upperLayer ∧
      ∃ entry ∈ Sentence.ofText .bms layeredSource, ∃ value,
        entry.2.Fills ⟨'1', '1'⟩ 1 0 value := by
  have uncontrolled :
      ∀ entry ∈ Sentence.ofText .bms layeredSource, entry.2.asControl? = none := by
    decide +kernel
  have listed : upperLayer ∈
      (ofText .bms [] layeredSource : Compilation Rat).chart.objects.toList := by
    decide +kernel
  have starts :
      ∃ object ∈ (ofText .bms [] layeredSource : Compilation Rat).chart.objects.toList,
      object.isAt ⟨'1', '1'⟩ 1 0 = true := by
    decide +kernel
  obtain ⟨filled, last, -⟩ := objects_ofText_overlay uncontrolled []
  exact ⟨uncontrolled, listed, (last upperLayer listed (by decide)).2,
    (filled ⟨'1', '1'⟩ 1 0 (by decide)).mp starts⟩

end Compilation

end RhythmChart
