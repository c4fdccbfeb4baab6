import Mathlib.Data.List.Basic
import RhythmChart.Proofs.Note.Conservation
import RhythmChart.Proofs.Player.Columns

/-!
# Which objects are landmines

Landmines are extracted as notes are. So an object on a landmine channel whose value
happens to be the marker that ends long notes is taken for a marker, and no landmine comes
of it. Every other object there gives one landmine on its own beat, in the column of the
channel of notes that its channel belongs to.
-/

namespace RhythmChart

namespace Notechart

open Extraction

/-- Whether a channel is one of landmines: `D` or, on the second side, `E`, in capitals or
not, and the number of a key or of the turntable. -/
def isMined (options : PlayerOptions) (channel : Code) : Bool :=
  (['D', 'd'].contains channel.first || options.double &&
    ['E', 'e'].contains channel.first) &&
    ['1', '2', '3', '4', '5', '6', '8', '9'].contains channel.second

def mineColumn? (options : PlayerOptions) (channel : Code) : Option Text :=
  (Lanes.landmines (lanes options)).toMap.column? (Text.upper channel.text)

def mines {α : Type} [Scalar α] (chart : Chart α) (options : PlayerOptions) :
    List (ChartObject α) :=
  chart.objects.sorted.filter fun object =>
    isMined options object.channel && !isMarker (marker chart.headers) object.value

section Lanes

variable (options : PlayerOptions)

theorem isMined_of_mem_landmines :
    ∀ lane ∈ Lanes.landmines (lanes options),
      ∀ first ∈ Text.upperSources lane.1.first, ∀ second ∈
          Text.upperSources lane.1.second, isMined options ⟨first, second⟩ = true := by
  obtain ⟨scratch, double⟩ := options
  cases scratch <;> cases double <;> decide

theorem upper_of_mem_landmines :
    ∀ lane ∈ Lanes.landmines (lanes options),
      Text.upper lane.1.text = lane.1.text ∧ lane.1.first ∉ ['1', '2'] ∧
        lane.1.first ≠ Char.ofNat 0 ∧ lane.1.second ≠ Char.ofNat 0 := by
  obtain ⟨scratch, double⟩ := options
  cases scratch <;> cases double <;> decide

theorem isSome_mineColumn?_of_isMined :
    ∀ first ∈ ['D', 'd', 'E', 'e'], ∀ second ∈ ['1', '2', '3', '4', '5', '6', '8', '9'],
      isMined options ⟨first, second⟩ = true →
        (mineColumn? options ⟨first, second⟩).isSome = true := by
  obtain ⟨scratch, double⟩ := options
  cases scratch <;> cases double <;> decide

theorem isMined_iff (channel : Code) :
    isMined options channel = true ↔ (mineColumn? options channel).isSome = true := by
  constructor
  · intro mined
    have parts := mined
    simp only [isMined, Bool.and_eq_true, Bool.or_eq_true, List.contains_iff_mem] at parts
    apply isSome_mineColumn?_of_isMined options channel.first _ channel.second
      parts.2 mined
    rcases parts.1 with plain | ⟨-, second⟩
    · exact List.mem_append_left ['E', 'e'] plain
    · exact List.mem_append_right ['D', 'd'] second
  · intro mapped
    obtain ⟨column, found⟩ := Option.isSome_iff_exists.mp mapped
    obtain ⟨lane, listed, upper, -⟩ := Lanes.mem_of_column?_toMap found
    obtain ⟨capital, -, firstNotNul, secondNotNul⟩ :=
      upper_of_mem_landmines options lane listed
    obtain ⟨first, second⟩ := Text.upper_pair (upper.symm.trans capital)
    exact isMined_of_mem_landmines options lane listed _
      (Text.mem_upperSources first firstNotNul)
      _ (Text.mem_upperSources second secondNotNul)

theorem holdsHeads_of_isMined {channel : Code} (mined : isMined options channel = true) :
    holdsHeads (Lanes.landmines (lanes options)).toMap channel = true := by
  obtain ⟨column, found⟩ :=
    Option.isSome_iff_exists.mp ((isMined_iff options channel).mp mined)
  have contains : (Lanes.landmines (lanes options)).toMap.contains
      (Text.upper channel.text) = true := by
    rw [LaneMap.contains, Option.join_eq_some_iff.mp found]
    rfl
  have landmine : isLandmine channel = true := by
    simp only [isMined, Bool.and_eq_true, Bool.or_eq_true, List.contains_iff_mem] at mined
    apply List.contains_iff_mem.mpr
    rcases mined.1 with plain | ⟨-, second⟩
    · exact List.mem_append_left ['E', 'e'] plain
    · exact List.mem_append_right ['D', 'd'] second
  rw [holdsHeads, landmine, contains]
  simp

/-- Long notes are in no column of landmines. -/
theorem landmineColumn_noteChannel_of_isLong {channel : Code}
    (long : isLong channel = true) :
    (Lanes.landmines (lanes options)).toMap.column? (noteChannel channel) = none := by
  obtain ⟨c, plain, rest, renamed⟩ := noteChannel_of_isLong long
  rw [Option.eq_none_iff_forall_ne_some]
  intro column found
  obtain ⟨lane, listed, upper, -⟩ := Lanes.mem_of_column?_toMap found
  obtain ⟨capital, other, -⟩ := upper_of_mem_landmines options lane listed
  rw [capital, renamed] at upper
  exact other ((List.cons.inj upper).1 ▸ plain)

end Lanes

theorem map_landminesOf {α : Type} (place : α → GameEvent α) (notes : List (Note α)) :
    (landminesOf place notes).map (fun landmine =>
        (landmine.id, landmine.event, some landmine.column)) =
      ((notes.filterMap fun note => note.lane?.map fun column =>
        (note.beat, some column)).zipIdx
        1).map fun (spot, id) => (id, place spot.1, spot.2) := by
  have spots : (notes.filterMap fun note => note.lane?.map fun column =>
      (note.beat, some column)) =
      (notes.filterMap fun note => note.lane?.map fun column => (note, column)).map
        fun (note, column) => (note.beat, some column) := by
    rw [List.map_filterMap]
    congr
    funext note
    cases note.lane? <;> rfl
  rw [spots, List.zipIdx_map, landminesOf, List.map_map, List.map_map]
  rfl

section Charts

variable {α : Type} [Scalar α]

/-- The notes that the landmine lanes give a column are the mines. -/
theorem lanes_notes_eq_mines (chart : Chart α) (options : PlayerOptions) :
    ((chart.notes (Lanes.landmines (lanes options)).toMap).filterMap fun note =>
        note.lane?.map fun column => (note.beat, some column)) =
      (mines chart options).map fun object =>
        (chart.beatOf object, mineColumn? options object.channel) := by
  let map := (Lanes.landmines (lanes options)).toMap
  let placed := fun note : Note α => note.lane?.map fun column => (note.beat, some column)
  change (chart.notes map).filterMap placed = _
  -- Only heads have a column, and what they end on plays no part.
  have onlyHeads : (chart.completions map).filterMap (fun entry => placed entry.2) =
      ((chart.completions map).filter fun entry => begins chart map entry.1).filterMap
        fun entry => placed entry.2 := by
    rw [List.filterMap_filter]
    refine List.filterMap_congr fun entry member => ?_
    cases head : begins chart map entry.1 with
    | true => rfl
    | false =>
        have completes := (Chart.completions_follow chart map).completes entry.1
          (List.of_mem_zip member).1
        have long : isLong entry.1.channel = true :=
          completes.resolve_left (by simp [head])
        have noColumn := Chart.column_of_mem_completions member
        rw [landmineColumn_noteChannel_of_isLong options long] at noColumn
        simp [placed, Note.lane?, noColumn]
  have heads :=
    congrArg (List.filterMap fun entry : ChartObject α × Note α => placed entry.2)
    (Chart.completions_heads chart map)
  rw [List.filterMap_map, List.filterMap_map] at heads
  rw [← Chart.map_snd_completions, List.filterMap_map]
  refine onlyHeads.trans (heads.trans ?_)
  rw [mines, ← List.filterMap_eq_map, List.filterMap_filter, List.filterMap_filter]
  congr
  funext object
  have column :
      map.column? (Text.upper object.channel.text) = mineColumn? options object.channel :=
    rfl
  cases mined : isMined options object.channel with
  | false =>
      have noColumn : mineColumn? options object.channel = none := by
        rw [← Option.not_isSome_iff_eq_none, ← isMined_iff, mined]
        exact Bool.false_ne_true
      simp [placed, Note.lane?, column, noColumn]
  | true =>
      have head :
          begins chart map object = !isMarker (marker chart.headers) object.value := by
        rw [begins, holdsHeads_of_isMined options mined, Bool.true_and]
      obtain ⟨name, found⟩ :=
        Option.isSome_iff_exists.mp ((isMined_iff options _).mp mined)
      have named :
          (mineColumn? options object.channel).filter (fun name => !name.isEmpty) =
            mineColumn? options object.channel :=
        filter_of_ne_nil
          (landmineColumn_lane_ne_nil options (Text.upper object.channel.text))
      rw [found] at named
      simp [placed, Note.lane?, column, found, head, named]

/-- Every object on a landmine channel gives one landmine on its beat and in the column of
its channel, numbered in the order of the positions, unless its value is the marker that
ends long notes. Where no such value occurs no landmine is lost. -/
theorem landmines_are_unmarked_objects {chart : Chart α} {options : PlayerOptions}
    {notechart : Notechart α} (made : ofChart chart options = .ok notechart) :
    notechart.landmines.map (fun landmine =>
        (landmine.id, landmine.event, some landmine.column)) =
      ((mines chart options).zipIdx 1).map (fun (object, id) =>
        (id, .at notechart.timing notechart.scroll (chart.beatOf object),
          mineColumn? options object.channel)) ∧
    ((∀ object ∈ chart.objects.toList, isMined options object.channel = true →
        isMarker (marker chart.headers) object.value = false) →
      mines chart options =
        chart.objects.sorted.filter fun object => isMined options object.channel) ∧
    (∀ channel, isMined options channel = true ↔
      (mineColumn? options channel).isSome = true) ∧
    ∀ lane ∈ lanes options, ∀ channel : Code,
      Text.upper channel.text = (Lanes.landmineChannel lane.1).text →
        mineColumn? options channel = some lane.2 := by
  obtain ⟨timing, scroll, spacing, barLines, arranged, -, -, -, -, -, rfl⟩ :=
    ofChart_eq_ok made
  refine ⟨?_, ?_, isMined_iff options, ?_⟩
  · rw [map_landminesOf, lanes_notes_eq_mines, List.zipIdx_map, List.map_map]
    rfl
  · intro unmarked
    refine List.filter_congr fun object member => ?_
    cases mined : isMined options object.channel with
    | false => rfl
    | true =>
        have listed := (chart.objects.sorted_perm.mem_iff).mp member
        rw [unmarked object listed mined]
        rfl
  · intro lane listed channel same
    rw [mineColumn?, same]
    exact (column?_of_mem_lanes options lane listed).2

end Charts

def unmarkedMine : ChartObject Rat :=
  ⟨⟨'d', '6'⟩, 2, 0, ⟨'1', '0'⟩, none⟩

/-- Two objects on landmine channels, the first of which has the marker as its value. -/
def markedMine : Chart Rat :=
  ⟨Headers.empty.set "LNOBJ".toList (some "ZZ".toList),
    ⟨[⟨⟨'D', '1'⟩, 1, 0, ⟨'Z', 'Z'⟩, none⟩, unmarkedMine]⟩, .empty⟩

/-- Of the two objects only the second one gives a landmine, on the turntable. -/
theorem landmines_are_unmarked_objects_markedMine :
    ∃ notechart, ofChart markedMine .standard = .ok notechart ∧
      notechart.landmines.map (fun landmine =>
          (landmine.id, landmine.event, some landmine.column)) =
        [(1, .at notechart.timing notechart.scroll 8, some ['S', 'C'])] := by
  cases made : ofChart markedMine .standard with
  | error fault =>
      have isMade : (ofChart markedMine .standard).isOk = true := by decide +kernel
      rw [made] at isMade
      cases isMade
  | ok notechart =>
      refine ⟨notechart, rfl, (landmines_are_unmarked_objects made).1.trans ?_⟩
      have remains : mines markedMine .standard = [unmarkedMine] := by decide +kernel
      have beat : markedMine.beatOf unmarkedMine = 8 := by decide +kernel
      have column : mineColumn? .standard unmarkedMine.channel = some ['S', 'C'] := by
        decide
      rw [remains]
      simp [beat, column]

end Notechart

end RhythmChart
