import RhythmChart.Proofs.Note.Completion

/-!
# Long notes lane by lane

The long notes of a lane are the pairs of its objects. Nothing on other channels has
a part in them: neither plain notes on the channel that the lane is folded onto, nor
the markers that end those.
-/

namespace RhythmChart

namespace Chart

open Extraction

variable {α : Type} [Scalar α]

/-- The notes of a chart, each with the object that completes it. -/
def completions (chart : Chart α) (map : LaneMap) : List (ChartObject α × Note α) :=
  (Trace.run chart map chart.objects.sorted).entries

def laneObjects (chart : Chart α) (lane : Text) : List (ChartObject α) :=
  chart.objects.sorted.filter (isOnLane lane)

/-- Those notes of a chart that objects of a lane complete. -/
def laneNotes (chart : Chart α) (map : LaneMap) (lane : Text) : List (Note α) :=
  ((chart.completions map).filter fun entry => isOnLane lane entry.1).map Prod.snd

theorem completions_follow (chart : Chart α) (map : LaneMap) :
    Trace.Follows chart map chart.objects.sorted
      (Trace.run chart map chart.objects.sorted) :=
  Trace.follows_run chart map chart.objects.sorted

/-- Every note is completed by one object. -/
theorem map_snd_completions (chart : Chart α) (map : LaneMap) :
    (chart.completions map).map Prod.snd = chart.notes map := by
  have aligned := (completions_follow chart map).aligned
  rw [completions, Trace.entries, List.map_snd_zip (Nat.le_of_eq aligned.symm),
    Trace.state_run]
  rfl

/-- A note is in the column of the channel of the object that completes it. -/
theorem column_of_mem_completions {chart : Chart α} {map : LaneMap}
    {entry : ChartObject α × Note α} (member : entry ∈ chart.completions map) :
    entry.2.column = map.column? (noteChannel entry.1.channel) := by
  have follows := completions_follow chart map
  rcases follows.completes entry.1 (List.of_mem_zip member).1 with head | long
  · have kept : entry ∈ Trace.entriesOf _ (begins chart map) :=
      List.mem_filter.mpr ⟨member, head⟩
    have listed :=
      List.mem_map_of_mem (f := fun entry => (entry.1, Trace.withoutEnd entry.2)) kept
    rw [follows.heads] at listed
    obtain ⟨object, -, same⟩ := List.mem_map.mp listed
    obtain ⟨rfl, note⟩ := Prod.mk.inj same
    exact (congrArg Note.column note).symm
  · have onLane : isOnLane (noteChannel entry.1.channel) entry.1 = true := by
      simp [isOnLane, long]
    have listed : entry ∈ Trace.entriesOf _ (isOnLane (noteChannel entry.1.channel)) :=
      List.mem_filter.mpr ⟨member, onLane⟩
    rw [follows.lanes] at listed
    obtain ⟨pair, paired, rfl⟩ := List.mem_map.mp listed
    have opening := (List.mem_filter.mp (mem_of_mem_pairUp paired).1).2
    have channel := beq_iff_eq.mp (Bool.and_eq_true_iff.mp opening).2
    exact congrArg map.column? channel

/-- The pairs of a lane, each as the note that it makes and completed
by its second object. -/
theorem completions_lane (chart : Chart α) (map : LaneMap) (lane : Text) :
    ((chart.completions map).filter fun entry => isOnLane lane entry.1) =
      (pairUp (chart.laneObjects lane)).map fun (opening, closing) =>
        (closing,
          { beat := chart.beatOf opening
            keysound := opening.value.text
            endBeat := some (chart.beatOf closing)
            column := map.column? lane
            keysoundStart := .absent
            keysoundEnd := .absent }) := by
  refine ((completions_follow chart map).lanes lane).trans (List.map_congr_left ?_)
  intro (opening, closing) member
  have onLane : isOnLane lane opening = true :=
    (List.mem_filter.mp (mem_of_mem_pairUp member).1).2
  have channel : noteChannel opening.channel = lane :=
    beq_iff_eq.mp (Bool.and_eq_true_iff.mp onLane).2
  simp only [Trace.closed, noteAt, endAt, channel]

theorem laneNotes_eq (chart : Chart α) (map : LaneMap) (lane : Text) :
    chart.laneNotes map lane =
      (pairUp (chart.laneObjects lane)).map fun (opening, closing) =>
        { beat := chart.beatOf opening
          keysound := opening.value.text
          endBeat := some (chart.beatOf closing)
          column := map.column? lane
          keysoundStart := .absent
          keysoundEnd := .absent } := by
  rw [laneNotes, completions_lane, List.map_map]
  rfl

/-- Of the objects of a lane every two make a long note: the first gives its beat and
keysound, the second its end, and an object left over gives none. All notes of the chart
are those that its objects complete, so these are all of the lane. Charts that agree in
the objects of the lane and in their measures agree in these notes, whatever stands on
their other channels. -/
theorem laneNotes_pair_up (chart : Chart α) (map : LaneMap) (lane : Text) :
    ((chart.completions map).map Prod.snd = chart.notes map) ∧
    (chart.laneNotes map lane).Sublist (chart.notes map) ∧
    (chart.laneNotes map lane).length = (chart.laneObjects lane).length / 2 ∧
    (∀ i : Nat, (chart.laneNotes map lane)[i]? =
      (chart.laneObjects lane)[2 * i]?.bind fun opening =>
        (chart.laneObjects lane)[2 * i + 1]?.map fun closing =>
          { beat := chart.beatOf opening
            keysound := opening.value.text
            endBeat := some (chart.beatOf closing)
            column := map.column? lane
            keysoundStart := .absent
            keysoundEnd := .absent }) ∧
    ∀ other : Chart α, other.sizes = chart.sizes →
      other.laneObjects lane = chart.laneObjects lane →
      other.laneNotes map lane = chart.laneNotes map lane := by
  refine ⟨map_snd_completions chart map, ?_, ?_, ?_, ?_⟩
  · rw [← map_snd_completions]
    exact List.filter_sublist.map Prod.snd
  · rw [laneNotes_eq, List.length_map, length_pairUp]
  · intro i
    rw [laneNotes_eq, List.getElem?_map, getElem?_pairUp]
    cases (chart.laneObjects lane)[2 * i]? with
    | none => rfl
    | some opening => cases (chart.laneObjects lane)[2 * i + 1]? <;> rfl
  · intro other sizes objects
    have beats : other.beatOf = chart.beatOf := by
      unfold beatOf
      rw [sizes]
    rw [laneNotes_eq, laneNotes_eq, objects, beats]

/-- Three long notes on a lane, one of them without an end. -/
def lonelyLane : List (ChartObject Rat) :=
  [⟨⟨'5', '1'⟩, 0, 0, ⟨'A', 'A'⟩, none⟩, ⟨⟨'5', '1'⟩, 1, 0, ⟨'B', 'B'⟩, none⟩,
    ⟨⟨'5', '1'⟩, 2, 0, ⟨'C', 'C'⟩, none⟩]

/-- A plain note on the channel that the lane is folded onto, the marker that ends it
while a long note is held, and a long note of another lane. -/
def crowd : List (ChartObject Rat) :=
  [⟨⟨'1', '1'⟩, 0, 0, ⟨'0', '1'⟩, none⟩, ⟨⟨'1', '1'⟩, 0, 1 / 2, ⟨'Z', 'Z'⟩, none⟩,
    ⟨⟨'6', '1'⟩, 1, 0, ⟨'D', 'D'⟩, none⟩]

def lonelyChart : Chart Rat := ⟨.empty, ⟨lonelyLane⟩, .empty⟩

def crowdedChart : Chart Rat :=
  ⟨Headers.empty.set "LNOBJ".toList (some "ZZ".toList), ⟨crowd ++ lonelyLane⟩, .empty⟩

theorem laneObjects_crowdedChart :
    crowdedChart.laneObjects ['1', '1'] = lonelyChart.laneObjects ['1', '1'] := by
  decide +kernel

/-- A crowd on the other channels leaves the one long note of the lane as it is. -/
theorem laneNotes_pair_up_crowded :
    crowdedChart.laneObjects ['1', '1'] = lonelyChart.laneObjects ['1', '1'] ∧
      (lonelyChart.laneNotes Lanes.first.toMap ['1', '1']).length = 1 ∧
      crowdedChart.laneNotes Lanes.first.toMap ['1', '1'] =
        lonelyChart.laneNotes Lanes.first.toMap ['1', '1'] :=
  ⟨laneObjects_crowdedChart,
    (laneNotes_pair_up lonelyChart Lanes.first.toMap ['1', '1']).2.2.1.trans
      (by decide +kernel),
    (laneNotes_pair_up lonelyChart Lanes.first.toMap ['1', '1']).2.2.2.2 crowdedChart rfl
      laneObjects_crowdedChart⟩

end Chart

end RhythmChart
