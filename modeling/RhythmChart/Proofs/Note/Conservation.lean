import Mathlib.Algebra.BigOperators.Group.Finset.Basic
import RhythmChart.Proofs.Note.LongNotes

/-!
# No object is lost

Every head gives one note, and the objects of every lane of long notes give one note
for each pair. These are all the notes of a chart, and they come in the order of the
objects that complete them.
-/

namespace RhythmChart

/-- Entries of a kind are counted key by key. -/
theorem countP_eq_sum_keys {σ : Type} {xs : List σ} {p : σ → Bool} {key : σ → Text}
    {keys : Finset Text} (covered : ∀ x ∈ xs, p x = true → key x ∈ keys) :
    xs.countP p = ∑ k ∈ keys, xs.countP fun x => p x && key x == k := by
  induction xs with
  | nil => simp
  | cons x xs ih =>
      have tail := ih fun y member => covered y (List.mem_cons_of_mem x member)
      simp only [List.countP_cons, Finset.sum_add_distrib, ← tail]
      congr 1
      cases counted : p x with
      | false => simp
      | true =>
          rw [Finset.sum_eq_single (key x)]
          · simp
          · intro k _ other
            simp [Ne.symm other]
          · intro absent
            exact absurd (covered x List.mem_cons_self counted) absent

namespace Extraction

section Lanes

variable {α : Type}

def longLanes (objects : List (ChartObject α)) : Finset Text :=
  ((objects.filter fun object => isLong object.channel).map fun object =>
    noteChannel object.channel).toFinset

theorem noteChannel_mem_longLanes {objects : List (ChartObject α)}
    {object : ChartObject α}
    (member : object ∈ objects) (long : isLong object.channel = true) :
    noteChannel object.channel ∈ longLanes objects :=
  List.mem_toFinset.mpr
    (List.mem_map.mpr ⟨object, List.mem_filter.mpr ⟨member, long⟩, rfl⟩)

theorem longLanes_congr {xs ys : List (ChartObject α)} (same : xs.Perm ys) :
    longLanes xs = longLanes ys :=
  List.toFinset_eq_of_perm _ _ ((same.filter _).map _)

end Lanes

variable {α : Type} [Scalar α] {chart : Chart α} {map : LaneMap}

/-- Landmines on channels that are not mapped are passed over. -/
theorem foldl_step_filter (objects : List (ChartObject α)) (state : State α) :
    (objects.filter fun object =>
        !(isLandmine object.channel &&
          !map.contains (Text.upper object.channel.text))).foldl
      (step chart map) state = objects.foldl (step chart map) state := by
  rw [List.foldl_filter]
  congr
  funext state object
  rw [← isForeignLandmine_eq]
  cases foreign : isForeignLandmine map object.channel with
  | false => rfl
  | true =>
      simp only [step, foreign, Bool.not_true, Bool.false_eq_true, if_false, if_true]

namespace Trace

variable {objects : List (ChartObject α)} {trace : Trace α}

theorem Follows.countP_begins (follows : Follows chart map objects trace) :
    trace.entries.countP (fun entry => begins chart map entry.1) =
      objects.countP (begins chart map) := by
  have heads := congrArg List.length follows.heads
  rw [List.length_map, List.length_map] at heads
  rw [List.countP_eq_length_filter, List.countP_eq_length_filter]
  exact heads

theorem Follows.countP_isOnLane (follows : Follows chart map objects trace)
    (lane : Text) :
    trace.entries.countP (fun entry => isOnLane lane entry.1) =
      objects.countP (isOnLane lane) / 2 := by
  have pairs := congrArg List.length (follows.lanes lane)
  rw [List.length_map, length_pairUp] at pairs
  rw [List.countP_eq_length_filter, List.countP_eq_length_filter]
  exact pairs

/-- What a head does not complete, a long note does. -/
theorem Follows.countP_isLong (follows : Follows chart map objects trace) :
    trace.entries.countP (fun entry => !begins chart map entry.1) =
      trace.entries.countP fun entry => isLong entry.1.channel := by
  refine List.countP_congr fun entry member => ?_
  have completer : entry.1 ∈ trace.completers := (List.of_mem_zip member).1
  rw [Bool.not_eq_true']
  rcases follows.completes entry.1 completer with head | long
  · simp [head, not_isLong_of_holdsHeads (holdsHeads_of_begins head)]
  · simp [not_begins_of_isLong long, long]

theorem Follows.length_notes (follows : Follows chart map objects trace) :
    trace.state.notes.length =
      objects.countP (begins chart map) +
        ∑ lane ∈ longLanes objects, objects.countP (isOnLane lane) / 2 := by
  have entries : trace.entries.length = trace.state.notes.length := by
    rw [Trace.entries, List.length_zip, follows.aligned, Nat.min_self]
  have covered : ∀ entry ∈ trace.entries, isLong entry.1.channel = true →
      noteChannel entry.1.channel ∈ longLanes objects := by
    intro entry member long
    have completer : entry.1 ∈ trace.completers := (List.of_mem_zip member).1
    exact noteChannel_mem_longLanes (follows.inOrder.subset completer) long
  calc
    trace.state.notes.length = trace.entries.length := entries.symm
    _ = trace.entries.countP (fun entry => begins chart map entry.1) +
        trace.entries.countP fun entry => !begins chart map entry.1 := by
      rw [List.length_eq_countP_add_countP fun entry => begins chart map entry.1]
      simp
    _ = objects.countP (begins chart map) +
        trace.entries.countP fun entry => isLong entry.1.channel := by
      rw [follows.countP_begins, follows.countP_isLong]
    _ = objects.countP (begins chart map) + ∑ lane ∈ longLanes objects,
        trace.entries.countP fun entry => isOnLane lane entry.1 := by
      rw [countP_eq_sum_keys covered]
      rfl
    _ = objects.countP (begins chart map) +
        ∑ lane ∈ longLanes objects, objects.countP (isOnLane lane) / 2 := by
      rw [Finset.sum_congr rfl fun lane _ => follows.countP_isOnLane lane]

end Trace

end Extraction

namespace Chart

open Extraction

variable {α : Type} [Scalar α]

theorem completions_heads (chart : Chart α) (map : LaneMap) :
    (((chart.completions map).filter fun entry => begins chart map entry.1).map
      fun entry =>
        (entry.1, { entry.2 with endBeat := none })) =
      (chart.objects.sorted.filter (begins chart map)).map fun object =>
        (object,
          { beat := chart.beatOf object
            keysound := object.value.text
            endBeat := none
            column := map.column? (Text.upper object.channel.text)
            keysoundStart := .absent
            keysoundEnd := .absent }) := by
  refine (completions_follow chart map).heads.trans
    (List.map_congr_left fun object member => ?_)
  have holds := holdsHeads_of_begins (List.mem_filter.mp member).2
  rw [noteAt, noteChannel_of_holdsHeads holds]

/-- The notes of a chart are its heads, each with its beat, its keysound and the column of
its channel, and the pairs on its lanes of long notes. They come in the order of the
objects that complete them: heads, and the closing objects of the pairs. Landmines on
channels that are not mapped might as well not be there. -/
theorem notes_conserve_objects (chart : Chart α) (map : LaneMap) :
    (chart.notes map).length =
      chart.objects.toList.countP (begins chart map) +
        ∑ lane ∈ longLanes chart.objects.toList,
          chart.objects.toList.countP (isOnLane lane) / 2 ∧
    (chart.completions map).map Prod.snd = chart.notes map ∧
    ((chart.completions map).map Prod.fst).Sublist chart.objects.sorted ∧
    (((chart.completions map).filter fun entry => begins chart map entry.1).map
      fun entry =>
        (entry.1, { entry.2 with endBeat := none })) =
      (chart.objects.sorted.filter (begins chart map)).map (fun object =>
        (object,
          { beat := chart.beatOf object
            keysound := object.value.text
            endBeat := none
            column := map.column? (Text.upper object.channel.text)
            keysoundStart := .absent
            keysoundEnd := .absent })) ∧
    (∀ lane, ((chart.completions map).filter fun entry => isOnLane lane entry.1) =
      (pairUp (chart.laneObjects lane)).map fun (opening, closing) =>
        (closing,
          { beat := chart.beatOf opening
            keysound := opening.value.text
            endBeat := some (chart.beatOf closing)
            column := map.column? lane
            keysoundStart := .absent
            keysoundEnd := .absent })) ∧
    ((chart.objects.sorted.filter fun object =>
        !(isLandmine object.channel &&
          !map.contains (Text.upper object.channel.text))).foldl
      (step chart map) start).notes = chart.notes map := by
  have follows := completions_follow chart map
  refine ⟨?_, map_snd_completions chart map, ?_, completions_heads chart map,
    completions_lane chart map, ?_⟩
  · have inRank := chart.objects.sorted_perm
    have length := follows.length_notes
    simp only [Trace.state_run, inRank.countP_eq, longLanes_congr inRank] at length
    exact length
  · rw [completions, Trace.entries, List.map_fst_zip (Nat.le_of_eq follows.aligned)]
    exact follows.inOrder
  · rw [foldl_step_filter]
    rfl

end Chart

end RhythmChart
