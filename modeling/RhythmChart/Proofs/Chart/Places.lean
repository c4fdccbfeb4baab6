import RhythmChart.Proofs.Chart.Topics
import RhythmChart.Proofs.Compilation.Validity
import RhythmChart.Proofs.Sorting.Stable

/-!
# Places and beats

An object has a place: a measure and a fraction of it. Objects are sorted by their
positions, which add the two up, while everything that is played goes by beats. With
positive sizes of measures and proper fractions both orders are that of places, so
objects in the order of their positions are in the order of their beats. This is so in
every chart whose sizes were set and whose objects were added one after the other, and
compiled charts are among these.
-/

namespace RhythmChart

namespace ChartObject

theorem isStrictRanking_precedes :
    IsStrictRanking (precedes : ChartObject Rat → ChartObject Rat → Bool) :=
  isStrictRanking_lt.comap position

variable {a b : ChartObject Rat}

/-- Fractions are proper, so positions are in the order of places. -/
theorem position_lt_iff (valid : a.Valid) (valid' : b.Valid) :
    a.position < b.position ↔
      a.measure < b.measure ∨ a.measure = b.measure ∧ a.fraction < b.fraction := by
  obtain ⟨nonneg, proper⟩ : 0 ≤ a.fraction ∧ a.fraction < 1 := valid
  obtain ⟨nonneg', proper'⟩ : 0 ≤ b.fraction ∧ b.fraction < 1 := valid'
  change (a.measure : Rat) + a.fraction < (b.measure : Rat) + b.fraction ↔ _
  rcases lt_trichotomy a.measure b.measure with earlier | same | later
  · have next : (a.measure : Rat) + 1 ≤ b.measure := by exact_mod_cast earlier
    exact iff_of_true (by linarith) (.inl earlier)
  · rw [same, add_lt_add_iff_left]
    exact ⟨fun less => .inr ⟨rfl, less⟩, fun before =>
      (before.resolve_left (lt_irrefl _)).2⟩
  · have next : (b.measure : Rat) + 1 ≤ a.measure := by exact_mod_cast later
    refine iff_of_false (by linarith) ?_
    rintro (earlier | ⟨same, -⟩)
    · exact lt_asymm earlier later
    · exact ne_of_gt later same

end ChartObject

namespace Chart

variable {chart : Chart Rat} {a b : ChartObject Rat}

namespace WellFormed

variable (wellFormed : chart.WellFormed) (listed : a ∈ chart.objects.toList)
  (listed' : b ∈ chart.objects.toList)

include wellFormed listed

theorem beatOf_nonneg : 0 ≤ chart.beatOf a :=
  wellFormed.sizes.beatAt_nonneg a.measure (wellFormed.valid a listed).1

include listed'

theorem beatOf_lt_iff : chart.beatOf a < chart.beatOf b ↔ a.position < b.position := by
  have valid := wellFormed.valid a listed
  have valid' := wellFormed.valid b listed'
  rw [ChartObject.position_lt_iff valid valid']
  exact wellFormed.sizes.beatAt_lt_beatAt_iff valid valid'

theorem beatOf_le_iff : chart.beatOf a ≤ chart.beatOf b ↔ a.position ≤ b.position := by
  rw [← not_lt, ← not_lt, wellFormed.beatOf_lt_iff listed' listed]

theorem beatOf_eq_iff :
    chart.beatOf a = chart.beatOf b ↔ a.measure = b.measure ∧
      a.fraction = b.fraction := by
  constructor
  · exact wellFormed.sizes.beatAt_injective (wellFormed.valid a listed)
      (wellFormed.valid b listed')
  · rintro ⟨measures, fractions⟩
    rw [beatOf, beatOf, measures, fractions]

theorem eq_of_isAt (foreground : a.channel ≠ Code.background)
    (there : b.isAt a.channel a.measure a.fraction = true) : a = b := by
  have alone := wellFormed.alone a.channel a.measure a.fraction foreground
  have first := List.mem_filter.mpr ⟨listed, a.isAt_self⟩
  have second := List.mem_filter.mpr ⟨listed', there⟩
  obtain ⟨only, single⟩ := List.length_eq_one_iff.mp
    (Nat.le_antisymm alone (List.length_pos_of_mem first))
  rw [single] at first second
  exact (List.mem_singleton.mp first).trans (List.mem_singleton.mp second).symm

/-- Two objects on one channel in the foreground are on different beats. -/
theorem eq_of_beatOf_eq (foreground : a.channel ≠ Code.background)
    (channels : a.channel = b.channel) (same : chart.beatOf a = chart.beatOf b) :
    a = b := by
  obtain ⟨measures, fractions⟩ := (wellFormed.beatOf_eq_iff listed listed').mp same
  exact wellFormed.eq_of_isAt listed listed' foreground
    (ChartObject.isAt_iff.mpr ⟨channels.symm, measures.symm, fractions.symm⟩)

omit listed listed'

/-- Objects in the order of their positions are in the order of their beats. -/
theorem pairwise_beatOf_sorted :
    chart.objects.sorted.Pairwise fun a b => chart.beatOf a ≤ chart.beatOf b := by
  refine List.Pairwise.imp_of_mem (fun member member' notAfter => ?_)
    (isSorted_sortBy ChartObject.isStrictRanking_precedes chart.objects.toList)
  exact (wellFormed.beatOf_le_iff (chart.objects.sorted_perm.mem_iff.mp member)
    (chart.objects.sorted_perm.mem_iff.mp member')).mpr
      (le_of_not_gt (of_decide_eq_false notAfter))

/-- Of two objects on one channel in the foreground the first is on an earlier beat. -/
theorem pairwise_beatOf_sorted_foreground :
    chart.objects.sorted.Pairwise fun a b =>
      a.channel ≠ Code.background → a.channel = b.channel →
        chart.beatOf a < chart.beatOf b := by
  have apart : chart.objects.sorted.Pairwise fun a b =>
      a.channel ≠ Code.background → ¬b.isAt a.channel a.measure a.fraction = true := by
    refine (chart.objects.sorted_perm.pairwise_iff fun {a b} apart foreground here =>
      ?_).mpr wellFormed.pairwise_places
    obtain ⟨channels, measures, fractions⟩ := ChartObject.isAt_iff.mp here
    exact apart (channels ▸ foreground)
      (ChartObject.isAt_iff.mpr ⟨channels.symm, measures.symm, fractions.symm⟩)
  refine (apart.and wellFormed.pairwise_beatOf_sorted).imp_of_mem
    fun {a b} member member' both foreground channels => ?_
  refine lt_of_le_of_ne both.2 fun same => both.1 foreground ?_
  obtain ⟨measures, fractions⟩ :=
    (wellFormed.beatOf_eq_iff (chart.objects.sorted_perm.mem_iff.mp member)
      (chart.objects.sorted_perm.mem_iff.mp member')).mp same
  exact ChartObject.isAt_iff.mpr ⟨channels.symm, measures.symm, fractions.symm⟩

end WellFormed

end Chart

/-- Objects that were added one after the other, each with a proper fraction. -/
inductive Objects.Placed : Objects Rat → Prop
  | empty : Placed .empty
  | add {objects : Objects Rat} {object : ChartObject Rat} :
      Placed objects → object.Valid → Placed (objects.add object)

namespace Chart

variable {chart : Chart Rat}

theorem wellFormed_of_placed (positive : chart.sizes.Positive)
    (placed : chart.objects.Placed) : chart.WellFormed := by
  obtain ⟨headers, objects, sizes⟩ := chart
  replace placed : objects.Placed := placed
  replace positive : sizes.Positive := positive
  induction placed with
  | empty =>
      exact ⟨positive, fun _ member => (nomatch member), fun _ _ _ _ => Nat.zero_le 1⟩
  | add _ valid ih => exact ih.addObject valid

theorem placed_foldl_addObject (placed : chart.objects.Placed)
    {added : List (ChartObject Rat)} (valid : ∀ object ∈ added, object.Valid) :
    (added.foldl addObject chart).objects.Placed := by
  induction added generalizing chart with
  | nil => exact placed
  | cons object rest ih =>
      obtain ⟨first, others⟩ := List.forall_mem_cons.mp valid
      exact @ih (chart.addObject object) (.add placed first) others

end Chart

namespace Compilation

/-- The sizes of compiled charts were set, and their objects added. -/
theorem reached_and_placed_ofText (dialect : Dialect) (draws : List Int) (source : Text) :
    (ofText dialect draws source : Compilation Rat).chart.sizes.Reached ∧
      (ofText dialect draws source : Compilation Rat).chart.objects.Placed := by
  refine chartAfter_induction (P := fun chart => chart.sizes.Reached ∧
    chart.objects.Placed) draws
    ⟨.empty, .empty⟩ fun chart line content _ ⟨reached, placed⟩ => ?_
  cases content with
  | header name value => exact ⟨reached, placed⟩
  | measureSize measure text =>
      rw [Content.apply]
      cases read : (Content.size? text : Option Rat) with
      | none => exact ⟨reached, placed⟩
      | some size =>
          have positive : 0 < size := Content.pos_of_size? read
          exact ⟨.set reached (MeasureSizes.set_of_pos positive measure), placed⟩
  | channel measure code data =>
      rw [Content.apply]
      refine ⟨?_, Chart.placed_foldl_addObject placed fun _ =>
        Content.valid_of_mem_objects⟩
      rw [Chart.sizes_foldl_addObject]
      exact reached

end Compilation

namespace Chart

variable {chart : Chart Rat}

/-- Beats are in the order of places, from the start of each measure up to that of
the next one, and stay where they are when a size is set further behind. So objects
sorted by their positions are in the order of their beats, and share a beat exactly
if they share a place. -/
theorem beatAt_embeds_places (reached : chart.sizes.Reached)
    (placed : chart.objects.Placed) :
    (∀ (left right : Nat) (fraction fraction' : Rat),
      0 ≤ fraction ∧ fraction < 1 → 0 ≤ fraction' ∧ fraction' < 1 →
      (chart.sizes.beatAt left fraction < chart.sizes.beatAt right fraction' ↔
        left < right ∨ left = right ∧ fraction < fraction')) ∧
    (∀ (measure : Nat) (fraction : Rat), 0 ≤ fraction ∧ fraction < 1 →
      chart.sizes.beatAt measure fraction < chart.sizes.beatAt (measure + 1 : Nat) 0) ∧
    (∀ (measure : Nat) (fraction : Rat) (later : Int) (given : Field Rat)
      (sizes : MeasureSizes Rat), (measure : Int) < later →
      chart.sizes.set later given = .ok sizes →
      sizes.beatAt measure fraction = chart.sizes.beatAt measure fraction) ∧
    chart.objects.sorted.Pairwise (fun a b => chart.beatOf a ≤ chart.beatOf b) ∧
    ∀ a ∈ chart.objects.toList, ∀ b ∈ chart.objects.toList,
      (chart.beatOf a < chart.beatOf b ↔ a.position < b.position) ∧
      (chart.beatOf a = chart.beatOf b ↔ a.measure = b.measure ∧
        a.fraction = b.fraction) := by
  have positive := reached.positive
  have wellFormed := wellFormed_of_placed positive placed
  refine ⟨?_, ?_, ?_, wellFormed.pairwise_beatOf_sorted, ?_⟩
  · intro left right fraction fraction' inside inside'
    exact positive.beatAt_lt_beatAt_iff inside inside'
  · intro measure fraction inside
    have start : (0 : Rat) ≤ 0 ∧ (0 : Rat) < 1 := ⟨le_refl 0, one_pos⟩
    exact (positive.beatAt_lt_beatAt_iff inside start).mpr
      (.inl (Nat.lt_succ_self measure))
  · intro measure fraction later given sizes behind made
    obtain ⟨size, -, rfl⟩ := MeasureSizes.exists_insert_of_set made
    exact MeasureSizes.beatAt_insert_of_lt behind size fraction
  · intro a listed b listed'
    exact ⟨wellFormed.beatOf_lt_iff listed listed',
      wellFormed.beatOf_eq_iff listed listed'⟩

/-- A measure of three beats with an object in the middle, and one behind it. -/
def waltzChart : Chart Rat :=
  (Compilation.ofText .bms [] "#00102:0.75\n#00212:01\n#00111:0001".toList).chart

theorem beatAt_embeds_places_waltzChart :
    waltzChart.sizes.Reached ∧ waltzChart.objects.Placed ∧
      (0 ≤ (1 / 2 : Rat) ∧ (1 / 2 : Rat) < 1) ∧
      waltzChart.sizes.beatAt (1 : Nat) (1 / 2) = 11 / 2 ∧
      waltzChart.sizes.beatAt (1 : Nat) (1 / 2) <
        waltzChart.sizes.beatAt (1 + 1 : Nat) 0 ∧
      ((1 : Nat) : Int) < 2 ∧
      waltzChart.sizes.set 2 (.number 3) = .ok (waltzChart.sizes.insert 2 3) ∧
      (waltzChart.sizes.insert 2 3).beatAt (1 : Nat) (1 / 2) =
        waltzChart.sizes.beatAt (1 : Nat) (1 / 2) ∧
      waltzChart.objects.sorted.map waltzChart.beatOf = [11 / 2, 7] ∧
      waltzChart.objects.sorted.Pairwise fun a b => waltzChart.beatOf a ≤
        waltzChart.beatOf b := by
  obtain ⟨reached, placed⟩ : waltzChart.sizes.Reached ∧ waltzChart.objects.Placed :=
    Compilation.reached_and_placed_ofText _ _ _
  have inside : 0 ≤ (1 / 2 : Rat) ∧ (1 / 2 : Rat) < 1 := by norm_num
  have made : waltzChart.sizes.set 2 (.number 3) = .ok (waltzChart.sizes.insert 2 3) :=
    MeasureSizes.set_of_pos three_pos 2
  obtain ⟨-, before, behind, inOrder, -⟩ := beatAt_embeds_places reached placed
  exact ⟨reached, placed, inside, by decide +kernel, before 1 (1 / 2) inside, by
    decide, made, behind 1 (1 / 2) 2 _ _ (by decide) made, by decide +kernel, inOrder⟩

end Chart

end RhythmChart
