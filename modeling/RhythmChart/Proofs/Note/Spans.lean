import RhythmChart.Proofs.Chart.Places
import RhythmChart.Proofs.Note.Ends
import RhythmChart.Proofs.Note.Markers

/-!
# The spans of notes

Notes start and end on beats of objects, and objects are taken in the order of their
positions. In exact arithmetic positions in order are beats in order, so no note ends
before it starts, although its end is set long after the note was made and is not checked
any more. The two objects of a long note that are on the same channel have different
places there, so such a note takes some time.
-/

namespace RhythmChart

namespace Chart

open Extraction

variable {α : Type} [Scalar α]

/-- Every note is that of a head on some channel, or a long note of some lane. -/
theorem mem_headNotes_or_mem_laneNotes {chart : Chart α} {map : LaneMap} {note : Note α}
    (member : note ∈ chart.notes map) :
    ∃ channel, note ∈ chart.headNotes map channel ∨
      note ∈ chart.laneNotes map channel := by
  rw [← map_snd_completions] at member
  obtain ⟨entry, completed, rfl⟩ := List.mem_map.mp member
  refine ⟨noteChannel entry.1.channel, ?_⟩
  rcases (completions_follow chart map).completes entry.1
    (List.of_mem_zip completed).1 with
    head | long
  · have plain := isPlainOn_of_holdsHeads (holdsHeads_of_begins head)
      (noteChannel entry.1.channel)
    have onChannel : isHeadOn chart map (noteChannel entry.1.channel) entry.1 = true := by
      rw [isHeadOn_of_begins head, plain, beq_self_eq_true]
    exact .inl (List.mem_map.mpr ⟨entry, List.mem_filter.mpr ⟨completed, onChannel⟩, rfl⟩)
  · have onLane : isOnLane (noteChannel entry.1.channel) entry.1 = true := by
      simp [isOnLane, long]
    exact .inr (List.mem_map.mpr ⟨entry, List.mem_filter.mpr ⟨completed, onLane⟩, rfl⟩)

/-- Notes start and end on the beats of objects. -/
theorem beats_of_mem_notes {chart : Chart α} {map : LaneMap} {note : Note α}
    (member : note ∈ chart.notes map) :
    (∃ object ∈ chart.objects.toList, note.beat = chart.beatOf object) ∧
      ∀ endBeat, note.endBeat = some endBeat →
        ∃ object ∈ chart.objects.toList, endBeat = chart.beatOf object := by
  have listed : ∀ {p} {object : ChartObject α}, object ∈ chart.objects.sorted.filter p →
      object ∈ chart.objects.toList :=
    fun kept => chart.objects.sorted_perm.mem_iff.mp (List.mem_filter.mp kept).1
  obtain ⟨channel, head | long⟩ := mem_headNotes_or_mem_laneNotes member
  · rw [headNotes_eq] at head
    obtain ⟨hold, held, rfl⟩ := List.mem_map.mp head
    obtain ⟨first, markers⟩ := mem_of_mem_withFollowers held
    refine ⟨⟨hold.1, listed first, rfl⟩, fun endBeat ends => ?_⟩
    obtain ⟨last, final, rfl⟩ := Option.map_eq_some_iff.mp ends
    exact ⟨last, listed (markers last (List.mem_of_getLast? final)), rfl⟩
  · rw [laneNotes_eq] at long
    obtain ⟨pair, paired, rfl⟩ := List.mem_map.mp long
    obtain ⟨opening, closing⟩ := mem_of_mem_pairUp paired
    refine ⟨⟨pair.1, listed opening, rfl⟩, fun endBeat ends => ?_⟩
    cases ends
    exact ⟨pair.2, listed closing, rfl⟩

variable {chart : Chart Rat}

theorem WellFormed.beats_of_note (wellFormed : chart.WellFormed) {map : LaneMap}
    {note : Note Rat} (member : note ∈ chart.notes map) :
    0 ≤ note.beat ∧ ∀ endBeat, note.endBeat = some endBeat → note.beat ≤ endBeat := by
  constructor
  · obtain ⟨⟨object, listed, beat⟩, -⟩ := beats_of_mem_notes member
    rw [beat]
    exact wellFormed.beatOf_nonneg listed
  · intro endBeat ends
    have inOrder := wellFormed.pairwise_beatOf_sorted.imp fun le => not_lt_of_ge le
    exact le_of_not_gt (endsInTime_of_mem_notes inOrder member endBeat ends)

/-- Notes do not start before beat zero or end before they start. A long note whose two
objects are on one and the same channel ends after it has started. -/
theorem notes_end_after_they_start (positive : chart.sizes.Positive)
    (placed : chart.objects.Placed) (map : LaneMap) :
    (∀ note ∈ chart.notes map,
      0 ≤ note.beat ∧ ∀ endBeat, note.endBeat = some endBeat → note.beat ≤ endBeat) ∧
    ∀ (lane : Text) (i : Nat) (opening closing : ChartObject Rat),
      (chart.laneObjects lane)[2 * i]? = some opening →
      (chart.laneObjects lane)[2 * i + 1]? = some closing →
      opening.channel = closing.channel →
      ∃ note ∈ chart.notes map, (chart.laneNotes map lane)[i]? = some note ∧
        note.beat = chart.beatOf opening ∧ note.endBeat = some (chart.beatOf closing) ∧
        chart.beatOf opening < chart.beatOf closing := by
  have wellFormed := wellFormed_of_placed positive placed
  refine ⟨fun note member => wellFormed.beats_of_note member, ?_⟩
  intro lane i opening closing first second channels
  have made : (chart.laneNotes map lane)[i]? = some
      { beat := chart.beatOf opening
        keysound := opening.value.text
        endBeat := some (chart.beatOf closing)
        column := map.column? lane
        keysoundStart := .absent
        keysoundEnd := .absent } := by
    rw [laneNotes_eq, List.getElem?_map, getElem?_pairUp, first, second]
    rfl
  have onLane : isOnLane lane opening = true :=
    (List.mem_filter.mp (List.mem_of_getElem? first)).2
  have foreground : opening.channel ≠ Code.background := by
    intro background
    have long := (Bool.and_eq_true_iff.mp onLane).1
    rw [background] at long
    revert long
    decide
  have inOrder : (chart.laneObjects lane).Pairwise fun a b =>
      a.channel ≠ Code.background → a.channel = b.channel →
        chart.beatOf a < chart.beatOf b :=
    wellFormed.pairwise_beatOf_sorted_foreground.filter _
  have less : chart.beatOf opening < chart.beatOf closing := by
    obtain ⟨bound, rfl⟩ := List.getElem?_eq_some_iff.mp first
    obtain ⟨bound', rfl⟩ := List.getElem?_eq_some_iff.mp second
    exact List.pairwise_iff_getElem.mp inOrder _ _ bound bound' (Nat.lt_succ_self _)
      foreground channels
  refine ⟨_, ?_, made, rfl, rfl, less⟩
  rw [← map_snd_completions]
  exact (List.filter_sublist.map Prod.snd).mem (List.mem_of_getElem? made)

def heldFrom : ChartObject Rat := ⟨⟨'5', '1'⟩, 0, 1 / 2, ⟨'0', '1'⟩, none⟩

def heldUntil : ChartObject Rat := ⟨⟨'5', '1'⟩, 1, 1 / 3, ⟨'0', '1'⟩, none⟩

/-- A long note into a measure of three beats, whose end was added before its start. -/
def shortMeasureChart : Chart Rat :=
  ⟨.empty, (Objects.empty.add heldUntil).add heldFrom, ⟨[(1, 3 / 4)]⟩⟩

/-- The long note starts on beat two and ends on beat five. -/
theorem notes_end_after_they_start_shortMeasure :
    shortMeasureChart.sizes.Positive ∧ shortMeasureChart.objects.Placed ∧
      (shortMeasureChart.laneObjects ['1', '1'])[0]? = some heldFrom ∧
      (shortMeasureChart.laneObjects ['1', '1'])[1]? = some heldUntil ∧
      ∃ note ∈ shortMeasureChart.notes Lanes.first.toMap,
        note.beat = 2 ∧ note.endBeat = some 5 ∧ (2 : Rat) < 5 := by
  have positive : shortMeasureChart.sizes.Positive := by
    intro entry member
    rw [List.mem_singleton.mp member]
    norm_num
  have placed : shortMeasureChart.objects.Placed := by
    change ((Objects.empty.add heldUntil).add heldFrom).Placed
    refine .add (.add .empty ?_) ?_
    · exact ⟨by decide +kernel, by decide +kernel⟩
    · exact ⟨by decide +kernel, by decide +kernel⟩
  have first : (shortMeasureChart.laneObjects ['1', '1'])[0]? = some heldFrom := by
    decide +kernel
  have second : (shortMeasureChart.laneObjects ['1', '1'])[1]? = some heldUntil := by
    decide +kernel
  have starts : shortMeasureChart.beatOf heldFrom = 2 := by decide +kernel
  have ends : shortMeasureChart.beatOf heldUntil = 5 := by decide +kernel
  obtain ⟨note, member, -, beat, endBeat, less⟩ :=
    (notes_end_after_they_start positive placed Lanes.first.toMap).2 ['1', '1'] 0 heldFrom
      heldUntil first second rfl
  rw [starts] at beat less
  rw [ends] at endBeat less
  exact ⟨positive, placed, first, second, note, member, beat, endBeat, less⟩

end Chart

end RhythmChart
