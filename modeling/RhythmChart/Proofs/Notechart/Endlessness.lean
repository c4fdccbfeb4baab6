import RhythmChart.Notechart.OfChart
import RhythmChart.Proofs.Chart.Doubles
import RhythmChart.Proofs.Note.Spans
import RhythmChart.Proofs.Notechart.Drawing
import RhythmChart.Proofs.Number.Operations

/-!
# When the search for bar lines ends

With doubles, measures do not start before the ones in front of them, but they need
not start after them. Behind all sizes and objects every measure adds four beats, and
no note goes on beyond that point. So the search ends there or in the next measure, or
it never ends: four beats that are lost in rounding once are lost for ever. Before
beat 2 ^ 55 they are not lost.
-/

namespace RhythmChart

open Double

/-- What holds of charts that were compiled with doubles: no size is undefined or
negative, and no fraction is negative or greater than one. -/
structure Chart.Bounded (chart : Chart Float) : Prop where
  sizes : ∀ entry ∈ chart.sizes.entries, ((0 : Nat) : Float) ≤ entry.2
  notNeg : ∀ object ∈ chart.objects.toList, ¬object.fraction < ((0 : Nat) : Float)
  proper : ∀ object ∈ chart.objects.toList, ¬((1 : Nat) : Float) < object.fraction

theorem Compilation.bounded_ofText (dialect : Dialect) (draws : List Int)
    (source : Text) :
    (ofText dialect draws source : Compilation Float).chart.Bounded := by
  have keeps : Keeps (fun size : Float => ((0 : Nat) : Float) ≤ size)
      (fun fraction => ¬fraction < ((0 : Nat) : Float) ∧ ¬((1 : Nat) : Float) < fraction)
      (ofText dialect draws source).chart :=
    keeps_ofText dialect draws source (fun _ positive => nonneg_of_pos positive)
      fun slot slots less => ⟨not_neg_div (not_neg_natCast slot) (hasSign_natCast slots),
        not_one_lt_div (Nat.le_of_lt less)⟩
  exact ⟨keeps.sizes, fun object listed => (keeps.fractions object listed).1,
    fun object listed => (keeps.fractions object listed).2⟩

namespace MeasureSizes

variable {sizes : MeasureSizes Float}
  (nonneg : ∀ entry ∈ sizes.entries, ((0 : Nat) : Float) ≤ entry.2)

include nonneg

theorem beats_nonneg (measure : Int) : ((0 : Nat) : Float) ≤ sizes.beats measure := by
  have sized : ((0 : Nat) : Float) ≤ sizes.size measure := by
    unfold size
    cases found : sizes.entries.lookup measure with
    | none => exact nonneg_natCast 1
    | some size =>
        obtain ⟨before, after, split, -⟩ := List.lookup_eq_some_iff.mp found
        exact nonneg (measure, size) (split ▸ List.mem_append_right _ List.mem_cons_self)
  have four : ((0 : Nat) : Float) < ((4 : Nat) : Float) := by decide
  exact mul_nonneg_of_pos sized four (by decide)

theorem start_nonneg (measure : Nat) : ((0 : Nat) : Float) ≤ sizes.start measure := by
  induction measure with
  | zero => exact nonneg_natCast 0
  | succ measure ih =>
      rw [start_succ]
      exact add_nonneg ih (beats_nonneg nonneg measure)

theorem extent_start_mono :
    Monotone fun measure : Nat => extent (sizes.start measure) := by
  refine monotone_nat_of_le_succ fun measure => ?_
  have first := start_nonneg nonneg measure
  have more := beats_nonneg nonneg measure
  rw [start_succ, ← le_iff_extent first (add_nonneg first more)]
  exact le_sum first more

/-- No place in a measure comes after the start of the next one. -/
theorem extent_beatAt_le (measure : Nat) {fraction : Float}
    (notNeg : ¬fraction < ((0 : Nat) : Float)) (proper : ¬((1 : Nat) : Float) < fraction)
    (defined : Scalar.isUndefined (sizes.beatAt measure fraction) = false) :
    extent (sizes.beatAt measure fraction) ≤
      extent (sizes.start (measure + 1 : Nat)) := by
  have first := start_nonneg nonneg measure
  have beats := beats_nonneg nonneg measure
  have product : ((0 : Nat) : Float) ≤ sizes.beats measure * fraction :=
    nonneg_of_defined (not_neg_mul (not_neg_of_nonneg beats) notNeg)
      (defined_of_add defined).2
  have within : sizes.beats measure * fraction ≤ sizes.beats measure := by
    have notMore := not_lt_mul beats notNeg proper
    rw [lt_iff_extent beats product] at notMore
    rw [le_iff_extent product beats]
    exact le_of_not_gt notMore
  rw [start_succ, beatAt, ← le_iff_extent (add_nonneg first product)
    (add_nonneg first beats)]
  exact sum_le_sum first product ((le_iff_extent first first).mpr le_rfl) within
    first beats

end MeasureSizes

namespace BarLines

section LastBeat

variable {α : Type} [Scalar α]

theorem foldl_later_mem (first : α) (rest : List α) :
    rest.foldl (fun latest beat => if latest < beat then beat else latest) first ∈
      first :: rest := by
  induction rest generalizing first with
  | nil => exact List.mem_cons_self
  | cons beat rest ih =>
      rw [List.foldl_cons]
      split
      · exact List.mem_cons_of_mem first (ih beat)
      · rcases List.mem_cons.mp (ih first) with here | later
        · exact List.mem_cons.mpr (.inl here)
        · exact List.mem_cons_of_mem first (List.mem_cons_of_mem beat later)

theorem lastBeat_mem (notes : List (Note α)) :
    lastBeat notes ∈ ((0 : Nat) : α) :: notes.map lastBeatOf := by
  unfold lastBeat
  cases notes.map lastBeatOf with
  | nil => exact List.mem_cons_self
  | cons first rest => exact List.mem_cons_of_mem _ (foldl_later_mem first rest)

/-- The last note is over on the beat of an object, if there is any note. -/
theorem lastBeat_notes (chart : Chart α) (map : LaneMap) :
    lastBeat (chart.notes map) = ((0 : Nat) : α) ∨
      ∃ object ∈ chart.objects.toList,
        lastBeat (chart.notes map) = chart.beatOf object := by
  refine (List.mem_cons.mp (lastBeat_mem (chart.notes map))).imp_right fun listed => ?_
  obtain ⟨note, member, same⟩ := List.mem_map.mp listed
  rw [← same]
  obtain ⟨start, ends⟩ := Chart.beats_of_mem_notes member
  unfold lastBeatOf
  split
  · rename_i endBeat isEnd
    split
    · exact start
    · exact ends endBeat isEnd
  · exact start

end LastBeat

theorem size_beyond {α : Type} [Scalar α] (chart : Chart α) (count : Nat) :
    chart.sizes.size (horizon chart - 2 + count : Nat) = MeasureSizes.standard := by
  unfold MeasureSizes.size
  cases found : chart.sizes.entries.lookup ((horizon chart - 2 + count : Nat) : Int) with
  | none => rfl
  | some size =>
      obtain ⟨before, after, split, -⟩ := List.lookup_eq_some_iff.mp found
      have listed :
          (((horizon chart - 2 + count : Nat) : Int), size) ∈ chart.sizes.entries :=
        split ▸ List.mem_append_right before List.mem_cons_self
      have early :
          (((horizon chart - 2 + count : Nat) : Int)).toNat + 3 ≤ horizon chart :=
        size_before_horizon listed
      omega

/-- The start of the first measure after all that have an object or a size. -/
def beyond (chart : Chart Float) : Float :=
  chart.sizes.start (horizon chart - 2 : Nat)

theorem start_beyond_succ (chart : Chart Float) (count : Nat) :
    chart.sizes.start (horizon chart - 2 + count + 1 : Nat) =
      chart.sizes.start (horizon chart - 2 + count : Nat) + ((4 : Nat) : Float) := by
  have beats :
      (MeasureSizes.beatsOfSize MeasureSizes.standard : Float) = ((4 : Nat) : Float) := by
    rw [← Float.toBits_inj]
    decide +kernel
  rw [MeasureSizes.start_succ, MeasureSizes.beats, size_beyond, beats]

section Bounded

variable {chart : Chart Float} (bounded : chart.Bounded) {map : LaneMap}

include bounded

theorem beyond_nonneg : ((0 : Nat) : Float) ≤ beyond chart :=
  MeasureSizes.start_nonneg bounded.sizes _

theorem lastBeat_nonneg
    (defined : Scalar.isUndefined (lastBeat (chart.notes map)) = false) :
    ((0 : Nat) : Float) ≤ lastBeat (chart.notes map) := by
  rcases lastBeat_notes chart map with zero | ⟨object, listed, same⟩
  · exact zero ▸ nonneg_natCast 0
  · rw [same] at defined ⊢
    have beats := MeasureSizes.beats_nonneg bounded.sizes object.measure
    have product := not_neg_mul (not_neg_of_nonneg beats) (bounded.notNeg object listed)
    exact add_nonneg (MeasureSizes.start_nonneg bounded.sizes object.measure)
      (nonneg_of_defined product (defined_of_add defined).2)

theorem extent_lastBeat_le
    (defined : Scalar.isUndefined (lastBeat (chart.notes map)) = false) :
    extent (lastBeat (chart.notes map)) ≤ extent (beyond chart) := by
  have mono := MeasureSizes.extent_start_mono bounded.sizes
  rcases lastBeat_notes chart map with zero | ⟨object, listed, same⟩
  · rw [zero]
    exact (le_iff_extent (nonneg_natCast 0) (beyond_nonneg bounded)).mp
      (beyond_nonneg bounded)
  · rw [same] at defined ⊢
    have early := object_before_horizon listed
    refine le_trans (MeasureSizes.extent_beatAt_le bounded.sizes object.measure
      (bounded.notNeg object listed) (bounded.proper object listed) defined) ?_
    exact mono (show object.measure + 1 ≤ horizon chart - 2 by omega)

/-- Four beats that are lost once are lost for ever. -/
theorem extent_start_le_beyond (lost : ¬beyond chart < beyond chart + ((4 : Nat) : Float))
    (measure : Nat) : extent (chart.sizes.start measure) ≤ extent (beyond chart) := by
  have mono := MeasureSizes.extent_start_mono bounded.sizes
  have nonneg := MeasureSizes.start_nonneg bounded.sizes
  have four := nonneg_natCast 4
  have beyond_nonneg := beyond_nonneg bounded
  rw [lt_iff_extent beyond_nonneg (add_nonneg beyond_nonneg four), not_lt] at lost
  have later : ∀ count : Nat,
      extent (chart.sizes.start (horizon chart - 2 + count : Nat)) ≤
        extent (beyond chart) := by
    intro count
    induction count with
    | zero => exact le_rfl
    | succ count ih =>
        rw [← Nat.add_assoc, start_beyond_succ]
        refine le_trans ?_ lost
        rw [← le_iff_extent (nonneg _) beyond_nonneg] at ih
        rw [← le_iff_extent (add_nonneg (nonneg _) four) (add_nonneg beyond_nonneg four)]
        exact sum_le_sum (nonneg _) four ih ((le_iff_extent four four).mpr le_rfl)
          beyond_nonneg four
  exact le_trans (mono (Nat.le_add_left measure (horizon chart - 2))) (later measure)

/-- A measure that starts after the last note is no later than the second
one that has nothing. -/
theorem exists_lt_start
    (defined : Scalar.isUndefined (lastBeat (chart.notes map)) = false)
    (room : lastBeat (chart.notes map) < beyond chart ∨
      beyond chart < beyond chart + ((4 : Nat) : Float)) :
    ∃ measure ≤ horizon chart - 2,
      lastBeat (chart.notes map) < chart.sizes.start (measure + 1 : Nat) := by
  have reaches := three_le_horizon chart
  rcases room with before | moves
  · refine ⟨horizon chart - 3, by omega, ?_⟩
    have here : horizon chart - 3 + 1 = horizon chart - 2 := by omega
    rwa [here]
  · refine ⟨horizon chart - 2, le_rfl, ?_⟩
    have last_nonneg := lastBeat_nonneg bounded defined
    have next_nonneg := add_nonneg (beyond_nonneg bounded) (nonneg_natCast 4)
    have next : chart.sizes.start (horizon chart - 2 + 1 : Nat) =
        beyond chart + ((4 : Nat) : Float) := start_beyond_succ chart 0
    rw [lt_iff_extent (beyond_nonneg bounded) next_nonneg] at moves
    rw [next, lt_iff_extent last_nonneg next_nonneg]
    exact lt_of_le_of_lt (extent_lastBeat_le bounded defined) moves

theorem exists_lt_start_iff :
    (∃ measure : Nat, lastBeat (chart.notes map) <
      chart.sizes.start (measure + 1 : Nat)) ↔
      Scalar.isUndefined (lastBeat (chart.notes map)) = false ∧
        (lastBeat (chart.notes map) < beyond chart ∨
          beyond chart < beyond chart + ((4 : Nat) : Float)) := by
  constructor
  · rintro ⟨measure, later⟩
    have defined := (defined_of_lt later).1
    have last_nonneg := lastBeat_nonneg bounded defined
    refine ⟨defined, ?_⟩
    by_contra neither
    rw [not_or, lt_iff_extent last_nonneg (beyond_nonneg bounded)] at neither
    rw [lt_iff_extent last_nonneg (MeasureSizes.start_nonneg bounded.sizes _)] at later
    have within := extent_start_le_beyond bounded neither.2 (measure + 1)
    exact neither.1 (lt_of_lt_of_le later within)
  · rintro ⟨defined, room⟩
    obtain ⟨measure, -, later⟩ := exists_lt_start bounded defined room
    exact ⟨measure, later⟩

/-- The search without a horizon ends exactly if it is known when the last note is over
and there is a measure start after that. -/
theorem exists_drawn_iff_room :
    (∃ lines,
        Drawn chart.sizes (lastBeat (chart.notes map)) 0 ((0 : Nat) : Float) lines) ↔
      Scalar.isUndefined (lastBeat (chart.notes map)) = false ∧
        (lastBeat (chart.notes map) < beyond chart ∨
          beyond chart < beyond chart + ((4 : Nat) : Float)) :=
  exists_drawn_iff.trans (exists_lt_start_iff bounded)

/-- The search up to the horizon finds what the search without one finds. -/
theorem ofChart_eq_ok_iff_drawn {lines : List Float} :
    ofChart chart (chart.notes map) = .ok lines ↔
      Drawn chart.sizes (lastBeat (chart.notes map)) 0 ((0 : Nat) : Float) lines := by
  rw [ofChart_eq_ok_iff, and_iff_left_iff_imp]
  intro drawn
  obtain ⟨defined, room⟩ := (exists_drawn_iff_room bounded).mp ⟨lines, drawn⟩
  obtain ⟨measure, near, later⟩ := exists_lt_start bounded defined room
  obtain ⟨lines', drawn', short⟩ := exists_drawn_of_lt_start later
  have reaches := three_le_horizon chart
  rw [drawn.unique drawn']
  omega

/-- A note that starts and ends early enough leaves room for a bar line after it. -/
theorem before_or_moves (small : lastBeat (chart.notes map) < ((2 ^ 55 : Nat) : Float)) :
    lastBeat (chart.notes map) < beyond chart ∨
      beyond chart < beyond chart + ((4 : Nat) : Float) := by
  have defined := (defined_of_lt small).1
  have last_nonneg := lastBeat_nonneg bounded defined
  have beyond_nonneg := beyond_nonneg bounded
  by_cases early : beyond chart < ((2 ^ 55 : Nat) : Float)
  · exact .inr (lt_add_four beyond_nonneg early)
  · left
    rw [lt_iff_extent beyond_nonneg (nonneg_natCast _), not_lt] at early
    rw [lt_iff_extent last_nonneg (nonneg_natCast _)] at small
    rw [lt_iff_extent last_nonneg beyond_nonneg]
    exact lt_of_lt_of_le small early

end Bounded

/-- The bar lines of a compiled chart are found exactly if the search for them ends. It
ends exactly if it is known when the last note is over and the measures that have nothing
start after that, or the beats of such a measure are not lost. It ends for every chart
whose last note is over before beat 2 ^ 55. -/
theorem drawn_ofText_iff (dialect : Dialect) (draws : List Int) (source : Text)
    (map : LaneMap) :
    let chart : Chart Float := (Compilation.ofText dialect draws source).chart
    let last := lastBeat (chart.notes map)
    (∀ lines, ofChart chart (chart.notes map) = .ok lines ↔
      Drawn chart.sizes last 0 ((0 : Nat) : Float) lines) ∧
    ((∃ lines, Drawn chart.sizes last 0 ((0 : Nat) : Float) lines) ↔
      Scalar.isUndefined last = false ∧
        (last < beyond chart ∨ beyond chart < beyond chart + ((4 : Nat) : Float))) ∧
    (last < ((2 ^ 55 : Nat) : Float) →
      ∃ lines, Drawn chart.sizes last 0 ((0 : Nat) : Float) lines) := by
  intro chart last
  have bounded : chart.Bounded := Compilation.bounded_ofText dialect draws source
  refine ⟨fun lines => ofChart_eq_ok_iff_drawn bounded, exists_drawn_iff_room bounded, ?_⟩
  intro small
  exact (exists_drawn_iff_room bounded).mpr
    ⟨(defined_of_lt small).1, before_or_moves bounded small⟩

/-- A first measure of so many beats that four more are lost, and a note after it. -/
def hugeMeasure : Text :=
  "#00002:1e16\n#00111:01".toList

/-- Such a chart has no bar line after its note, and it does not become a notechart. -/
theorem not_drawn_hugeMeasure :
    let chart : Chart Float := (Compilation.ofText .bms [] hugeMeasure).chart
    (¬∃ lines, Drawn chart.sizes (lastBeat (chart.notes Lanes.first.toMap)) 0
      ((0 : Nat) : Float) lines) ∧
    (match Notechart.ofText .absent [] .standard hugeMeasure with
      | .error (.endlessBarLines : Fault Float) => true
      | _ => false) = true := by
  intro chart
  refine ⟨fun drawn => ?_, by decide +kernel⟩
  have bounded : chart.Bounded := Compilation.bounded_ofText .bms [] hugeMeasure
  obtain ⟨-, before | moves⟩ := (exists_drawn_iff_room bounded).mp drawn
  · exact absurd before (by decide +kernel)
  · exact absurd moves (by decide +kernel)

end BarLines

end RhythmChart
