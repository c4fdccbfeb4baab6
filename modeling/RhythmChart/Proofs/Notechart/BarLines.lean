import RhythmChart.Proofs.Motion.Tracks
import RhythmChart.Proofs.Note.Spans
import RhythmChart.Proofs.Notechart.Drawing
import RhythmChart.Proofs.Notechart.Outcome
import RhythmChart.Proofs.Timing.OfChart

/-!
# Bar lines cover all notes

In exact arithmetic every chart that was compiled has bar lines, on the starts of its
measures. The last of them, and only the last, comes after everything that is played.
The search for it never gets as far as its horizon, and the notechart looks its
measures up among these lines.
-/

namespace RhythmChart

namespace BarLines

/-- The latest beat on which a note starts or ends; zero if there is none later. -/
def latestBeat (notes : List (Note Rat)) : Rat :=
  (notes.flatMap fun note => note.beat :: note.endBeat.toList).foldl max 0

/-- Bar lines on the starts of measures, up to the first one after the latest beat. -/
structure Cover (sizes : MeasureSizes Rat) (latest : Rat) (lines : List Rat) : Prop where
  onStarts : ∀ measure < lines.length, lines[measure]? = some (sizes.beatAt measure 0)
  first : lines[0]? = some 0
  ascending : lines.Pairwise (· < ·)
  last : ∀ measure line, lines[measure]? = some line →
    (latest < line ↔ measure + 1 = lines.length)

section LatestBeat

variable {notes : List (Note Rat)}

theorem latestBeat_lt_iff {bound : Rat} :
    latestBeat notes < bound ↔ 0 < bound ∧ ∀ note ∈ notes,
      note.beat < bound ∧ ∀ endBeat, note.endBeat = some endBeat → endBeat < bound := by
  rw [latestBeat, foldl_max_lt_iff]
  simp only [List.mem_flatMap, List.mem_cons, Option.mem_toList]
  refine and_congr_right fun _ => ⟨fun each note member => ?_, ?_⟩
  · exact ⟨each _ ⟨note, member, .inl rfl⟩, fun endBeat ends =>
      each _ ⟨note, member, .inr ends⟩⟩
  · rintro each beat ⟨note, member, rfl | ends⟩
    · exact (each note member).1
    · exact (each note member).2 beat ends

variable (beats : ∀ note ∈ notes, 0 ≤ note.beat ∧
  ∀ endBeat, note.endBeat = some endBeat → note.beat ≤ endBeat)

include beats

theorem lastBeatOf_eq {note : Note Rat} (member : note ∈ notes) :
    lastBeatOf note = note.endBeat.getD note.beat := by
  unfold lastBeatOf
  cases ends : note.endBeat with
  | none => rfl
  | some endBeat =>
      dsimp only [Option.getD_some]
      split
      · rename_i zero
        replace zero : endBeat = 0 := eq_of_beq zero
        exact le_antisymm ((beats note member).2 endBeat ends)
          (zero ▸ (beats note member).1)
      · rfl

theorem lastBeatOf_nonneg {note : Note Rat} (member : note ∈ notes) :
    0 ≤ lastBeatOf note := by
  obtain ⟨nonneg, inTime⟩ := beats note member
  rw [lastBeatOf_eq beats member]
  cases ends : note.endBeat with
  | none => exact nonneg
  | some endBeat => exact le_trans nonneg (inTime endBeat ends)

theorem foldl_max_beats {note : Note Rat} (member : note ∈ notes) (latest : Rat) :
    (note.beat :: note.endBeat.toList).foldl max latest = max latest
    (lastBeatOf note) := by
  rw [lastBeatOf_eq beats member]
  cases ends : note.endBeat with
  | none => rfl
  | some endBeat =>
      change max (max latest note.beat) endBeat = max latest endBeat
      rw [max_assoc, max_eq_right ((beats note member).2 endBeat ends)]

/-- An end on beat zero does not count, but then the note is on beat zero itself. -/
theorem lastBeat_eq_latestBeat : lastBeat notes = latestBeat notes := by
  have greatest :
      (fun latest beat : Rat => if latest < beat then beat else latest) = max := by
    funext latest beat
    exact (max_def_lt latest beat).symm
  have listed : latestBeat notes = (notes.map lastBeatOf).foldl max 0 := by
    rw [latestBeat, List.foldl_flatMap, List.foldl_map]
    exact List.foldl_ext _ _ _ fun latest note member =>
      foldl_max_beats beats member latest
  rw [listed, lastBeat, greatest]
  cases notes with
  | nil => rfl
  | cons note rest =>
      have nonneg := lastBeatOf_nonneg beats List.mem_cons_self
      rw [List.map_cons, List.foldl_cons, max_eq_right nonneg]

end LatestBeat

theorem latestBeat_nonneg (notes : List (Note Rat)) : 0 ≤ latestBeat notes :=
  le_of_not_gt fun less => lt_irrefl _ (latestBeat_lt_iff.mp less).1

/-- No note goes on into a measure after those that have an object. -/
theorem latestBeat_lt_start {chart : Chart Rat} (wellFormed : chart.WellFormed)
    (map : LaneMap)
    (measure : Nat) (last : ∀ object ∈ chart.objects.toList, object.measure ≤ measure) :
    latestBeat (chart.notes map) < chart.sizes.start (measure + 1 : Nat) := by
  have before : ∀ object ∈ chart.objects.toList,
      chart.beatOf object < chart.sizes.start (measure + 1 : Nat) := by
    intro object listed
    calc chart.beatOf object
      _ < chart.sizes.start (object.measure + 1 : Nat) :=
        wellFormed.sizes.beatAt_lt_start_succ object.measure
          (wellFormed.valid object listed).2
      _ ≤ chart.sizes.start (measure + 1 : Nat) :=
        wellFormed.sizes.start_le_start (Nat.succ_le_succ (last object listed))
  refine latestBeat_lt_iff.mpr ⟨?_, fun note member => ?_⟩
  · rw [← chart.sizes.start_zero]
    exact wellFormed.sizes.start_lt_start (Nat.succ_pos measure)
  · obtain ⟨⟨first, listed, beat⟩, ends⟩ := Chart.beats_of_mem_notes member
    refine ⟨beat ▸ before first listed, fun endBeat isEnd => ?_⟩
    obtain ⟨object, listed', rfl⟩ := ends endBeat isEnd
    exact before object listed'

theorem Cover.of_drawn {sizes : MeasureSizes Rat} (positive : sizes.Positive)
    {latest : Rat}
    (nonneg : 0 ≤ latest) {lines : List Rat} (drawn : Drawn sizes latest 0 0 lines) :
    Cover sizes latest lines := by
  obtain ⟨count, rfl, after, notAfters⟩ := drawn_start_iff.mp drawn
  rw [Nat.zero_add] at after
  have line : ∀ measure < count + 2,
      (starts sizes 0 (count + 2))[measure]? = some (sizes.start measure) := by
    intro measure less
    rw [starts, List.getElem?_map, List.getElem?_range less, Option.map_some,
      Nat.zero_add]
  constructor
  · intro measure less
    rw [length_starts] at less
    rw [line measure less, MeasureSizes.beatAt, mul_zero, add_zero]
  · exact line 0 (Nat.succ_pos _)
  · refine List.Pairwise.map _ (fun a b less => ?_) List.pairwise_lt_range
    exact positive.start_lt_start (Nat.add_lt_add_left less 0)
  · intro measure beat there
    rw [length_starts]
    have less : measure < count + 2 := by
      have bound := (List.getElem?_eq_some_iff.mp there).1
      rwa [length_starts] at bound
    rw [line measure less] at there
    cases there
    constructor
    · intro past
      cases measure with
      | zero => exact absurd past (not_lt_of_ge nonneg)
      | succ measure =>
          have notBefore : count ≤ measure := by
            refine Nat.le_of_not_lt fun earlier => ?_
            have notAfter := notAfters measure earlier
            rw [Nat.zero_add] at notAfter
            exact notAfter past
          omega
    · intro final
      rwa [Nat.succ.inj final]

theorem exists_ofChart {chart : Chart Rat} (wellFormed : chart.WellFormed)
    (map : LaneMap) :
    ∃ lines, ofChart chart (chart.notes map) = .ok lines ∧
      Cover chart.sizes (latestBeat (chart.notes map)) lines := by
  have latest : lastBeat (chart.notes map) = latestBeat (chart.notes map) :=
    lastBeat_eq_latestBeat fun note member => wellFormed.beats_of_note member
  have after := latestBeat_lt_start wellFormed map (horizon chart - 3)
    fun object listed => Nat.le_sub_of_add_le (object_before_horizon listed)
  obtain ⟨lines, drawn, short⟩ := exists_drawn_of_lt_start after
  have reaches := three_le_horizon chart
  refine ⟨lines, ofChart_eq_ok_iff.mpr ⟨latest ▸ drawn, by omega⟩, ?_⟩
  exact .of_drawn wellFormed.sizes (latestBeat_nonneg _) drawn

end BarLines

namespace Notechart

/-- A measure is on its bar line, or on the last one if it has none. -/
theorem measureToBeat_eq_ok {α : Type} {notechart : Notechart α} {measure : Nat}
    {beat : α} (found : (notechart.barLines[measure]?.or notechart.barLines.getLast?).map
      GameEvent.beat = some beat) :
    notechart.measureToBeat measure = .ok beat := by
  have nonneg : ¬(measure : Int) < 0 := Int.not_lt.mpr (Int.natCast_nonneg measure)
  obtain ⟨line, there, rfl⟩ := Option.map_eq_some_iff.mp found
  simp only [measureToBeat, if_neg nonneg, Int.toNat_natCast, there]

/-- Nothing is refused in exact arithmetic. -/
theorem exists_ofChart {chart : Chart Rat} (wellFormed : chart.WellFormed)
    (options : PlayerOptions) : ∃ notechart, ofChart chart options = .ok notechart := by
  have yields : Yields (fun _ => True) (fun _ => False) (ofChart chart options) := by
    refine yields_ofChart ?_ ?_ ?_ ?_ ?_
    · obtain ⟨timing, made, -⟩ :=
        Timing.ofActions_ascends (Timing.initialTempo_pos chart)
          (Timing.spread_actions wellFormed)
      rw [Timing.ofChart, made]
      trivial
    · obtain ⟨scroll, made⟩ := Scroll.exists_ofRates (Scroll.rates chart)
      rw [Scroll.ofChart, made]
      trivial
    · obtain ⟨spacing, made⟩ := Spacing.exists_ofKeyframes (Spacing.keyframes chart)
      rw [Spacing.ofChart, made]
      trivial
    · obtain ⟨lines, made, -⟩ := BarLines.exists_ofChart wellFormed (lanes options).toMap
      rw [made]
      trivial
    · refine (Note.yields_arrange _ _).mono (fun _ => id) ?_
      rintro fault ⟨note, member, refuses⟩
      have inTime : note.EndsInTime := fun endBeat ends =>
        not_lt_of_ge ((wellFormed.beats_of_note member).2 endBeat ends)
      exact inTime.not_refuses fault refuses
  obtain ⟨notechart, made, -⟩ | ⟨fault, -, impossible⟩ := yields.cases
  · exact ⟨notechart, made⟩
  · exact impossible.elim

end Notechart

namespace BarLines

/-- The bar lines of a compiled chart are on the starts of its measures, from beat zero to
the first start after everything that is played. In its notechart, the measures that have
a bar line are on it, and all later ones are on the last bar line. -/
theorem cover_ofText (dialect : Dialect) (draws : List Int) (source : Text) :
    let chart : Chart Rat := (Compilation.ofText dialect draws source).chart
    (∀ map : LaneMap, ∃ lines, ofChart chart (chart.notes map) = .ok lines ∧
      Cover chart.sizes (latestBeat (chart.notes map)) lines) ∧
    ∀ options : PlayerOptions,
      ∃ notechart, Notechart.ofChart chart options = .ok notechart ∧
      Cover chart.sizes (latestBeat (chart.notes (Notechart.lanes options).toMap))
        (notechart.barLines.map GameEvent.beat) ∧
      (∀ measure < notechart.barLines.length,
        notechart.measureToBeat measure = .ok (chart.sizes.beatAt measure 0)) ∧
      ∃ last, notechart.barLines.getLast? = some last ∧
        ∀ measure ≥ notechart.barLines.length,
          notechart.measureToBeat measure = .ok last.beat := by
  intro chart
  have wellFormed : chart.WellFormed := Compilation.wellFormed_ofText dialect draws source
  refine ⟨exists_ofChart wellFormed, fun options => ?_⟩
  obtain ⟨notechart, made⟩ := Notechart.exists_ofChart wellFormed options
  refine ⟨notechart, made, ?_⟩
  obtain ⟨timing, scroll, _, lines, _, -, -, -, drawn, -, rfl⟩ :=
    Notechart.ofChart_eq_ok made
  obtain ⟨lines', drawn', cover⟩ :=
    exists_ofChart wellFormed (Notechart.lanes options).toMap
  cases drawn.symm.trans drawn'
  have beats : (lines.map (GameEvent.at timing scroll)).map GameEvent.beat = lines := by
    rw [List.map_map]
    exact List.map_id lines
  refine ⟨beats.symm ▸ cover, fun measure less => ?_, ?_⟩
  · rw [List.length_map] at less
    refine Notechart.measureToBeat_eq_ok ?_
    rw [List.getElem?_map, cover.onStarts measure less, Option.map_some, Option.some_or,
      Option.map_some]
    rfl
  · cases found : (lines.map (GameEvent.at timing scroll)).getLast? with
    | none =>
        have first := cover.first
        rw [List.map_eq_nil_iff.mp (List.getLast?_eq_none_iff.mp found)] at first
        cases first
    | some last =>
        refine ⟨last, rfl, fun measure past => ?_⟩
        refine Notechart.measureToBeat_eq_ok ?_
        rw [List.getElem?_eq_none past, Option.none_or, found, Option.map_some]

/-- With a note on the start of measure one, the bar lines go on to the
start of measure two. -/
example :
    (let chart : Chart Rat := (Compilation.ofText .bms [] "#00111:01".toList).chart
    (ofChart chart (chart.notes Lanes.first.toMap)).toOption) = some [0, 4, 8] := by
  decide +kernel

end BarLines

end RhythmChart
