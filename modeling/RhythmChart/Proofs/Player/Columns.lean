import RhythmChart.Proofs.Note.LongNotes
import RhythmChart.Proofs.Notechart.Assembly

/-!
# Columns of notes and of landmines

The player options move notes: with the turntable off its notes leave their column, and a
chart of five keys is shifted unless the turntable is on the left. Landmines are read from
the chart by themselves and stay in the columns of their channels. So a note and a
landmine of the same lane stand in the same column exactly where the options move nothing.
-/

namespace RhythmChart

theorem eq_map_of_mapM_ok {σ τ ε : Type} {f : σ → Except ε τ} {g : σ → τ}
    (each : ∀ x y, f x = .ok y → y = g x) {xs : List σ} {ys : List τ}
    (made : xs.mapM f = .ok ys) : ys = xs.map g := by
  induction xs generalizing ys with
  | nil =>
      cases made
      rfl
  | cons x xs ih =>
      rw [List.mapM_cons] at made
      cases first : f x with
      | error fault =>
          rw [first] at made
          cases made
      | ok y =>
          cases rest : xs.mapM f with
          | error fault =>
              rw [first, rest] at made
              cases made
          | ok tail =>
              rw [first, rest] at made
              cases made
              rw [List.map_cons, each x y first, ih rest]

namespace Note

/-- The key some columns further on, if there is one; columns that are no keys stay. -/
def shiftedColumn? (amount : Nat) (column : Text) : Option Text :=
  match keyColumns.idxOf? column with
  | some index => keyColumns[index + amount]?
  | none => some column

/-- The column in which the options show a column. -/
def arrangedColumn (scratch : Scratch) (sevenKeys : Bool) (column : Option Text) :
    Option Text :=
  let kept := if scratch = .off ∧ column = some turntable then none else column
  if sevenKeys || fiveKeyShift scratch = 0 then kept
  else kept.bind (shiftedColumn? (fiveKeyShift scratch).toNat)

def arranged {α : Type} (scratch : Scratch) (sevenKeys : Bool) (note : Note α) : Note α :=
  { note with column := arrangedColumn scratch sevenKeys note.column }

variable {α : Type} [Scalar α]

theorem eq_of_withColumn {note moved : Note α} {column : Option Text}
    (made : note.withColumn column = .ok moved) :
    moved = { note with column := column } := by
  unfold withColumn checked at made
  split at made
  · split at made
    · cases made
    · cases made
      rfl
  · cases made
    rfl

theorem eq_of_shift {amount : Nat} {note moved : Note α}
    (made : shift amount note = .ok moved) :
    moved = { note with column := note.column.bind (shiftedColumn? amount) } := by
  unfold shift at made
  cases column : note.column with
  | none =>
      rw [column] at made
      cases made
      rw [Option.bind_none, ← column]
  | some name =>
      simp only [column] at made
      rw [Option.bind_some, shiftedColumn?]
      cases key : keyColumns.idxOf? name with
      | none =>
          simp only [key] at made
          cases made
          dsimp only
          rw [← column]
      | some index =>
          have upwards : ¬((index : Int) + (amount : Int) < 0) := by omega
          simp only [key, if_neg upwards] at made
          split at made
          · cases made
          · split at made
            · rename_i target found
              have there : ((index : Int) + (amount : Int)).toNat = index + amount := by
                omega
              rw [there] at found
              split at made
              · cases made
              · simp only [eq_of_withColumn made, found]
            · cases made

theorem eq_of_offTurntable {note kept : Note α} (made : offTurntable note = .ok kept) :
    kept = { note with
      column := if note.column = some turntable then none else note.column } := by
  unfold offTurntable at made
  split at made
  · rename_i onTurntable
    rw [eq_of_withColumn made, if_pos onTurntable]
  · rename_i elsewhere
    cases made
    rw [if_neg elsewhere]

theorem eq_of_shiftKeys (scratch : Scratch) {sevenKeys : Bool}
    {playable arranged : List (Note α)}
    (made : (if sevenKeys || fiveKeyShift scratch = 0 then Except.ok playable
      else playable.mapM (shift (fiveKeyShift scratch))) = .ok arranged) :
    arranged = playable.map fun note => { note with
      column := if sevenKeys || fiveKeyShift scratch = 0 then note.column
        else note.column.bind (shiftedColumn? (fiveKeyShift scratch).toNat) } := by
  split at made
  · rename_i still
    cases made
    simp only [if_pos still]
    exact (List.map_id playable).symm
  · rename_i moves
    have upwards : ((fiveKeyShift scratch).toNat : Int) = fiveKeyShift scratch := by
      cases scratch <;> rfl
    simp only [if_neg moves]
    refine eq_map_of_mapM_ok (fun note moved shifted => eq_of_shift ?_) made
    rw [upwards]
    exact shifted

/-- Notes are laid out one by one, by their columns alone. -/
theorem eq_of_arrange {scratch : Scratch} {notes laid : List (Note α)}
    (made : arrange scratch notes = .ok laid) :
    laid = notes.map (arranged scratch (usesSevenKeys notes)) := by
  cases scratch with
  | off =>
      cases kept : notes.mapM offTurntable with
      | error fault =>
          rw [arrange, kept] at made
          cases made
      | ok playable =>
          rw [arrange, kept] at made
          rw [eq_of_shiftKeys .off made,
            eq_map_of_mapM_ok (fun _ _ => eq_of_offTurntable) kept, List.map_map]
          refine List.map_congr_left fun note _ => ?_
          simp [arranged, arrangedColumn]
  | left => exact eq_of_shiftKeys .left made
  | right => exact eq_of_shiftKeys .right made

end Note

namespace Lanes

theorem mem_of_column?_toMap {table : Table} {channel column : Text}
    (found : table.toMap.column? channel = some column) :
    ∃ entry ∈ table, Text.upper entry.1.text = channel ∧ entry.2 = column := by
  have entry := Option.join_eq_some_iff.mp found
  obtain ⟨before, after, entries, -⟩ := List.lookup_eq_some_iff.mp entry
  have member : (channel, some column) ∈ table.toMap.entries := by simp [entries]
  simp only [Table.toMap, LaneMap.ofEntries, List.mem_reverse, List.mem_map] at member
  obtain ⟨_, ⟨lane, listed, rfl⟩, same⟩ := member
  exact ⟨lane, listed, (Prod.mk.inj same).1, Option.some.inj (Prod.mk.inj same).2⟩

end Lanes

namespace Notechart

/-- The lanes of notes and those of landmines lead to the same columns. -/
theorem column?_of_mem_lanes (options : PlayerOptions) :
    ∀ lane ∈ lanes options,
      (lanes options).toMap.column? lane.1.text = some lane.2 ∧
      (Lanes.landmines (lanes options)).toMap.column?
        (Lanes.landmineChannel lane.1).text = some lane.2 := by
  obtain ⟨scratch, double⟩ := options
  cases scratch <;> cases double <;> decide

/-- The options move every key of a five-key chart unless the turntable is on the left,
and take away a turntable that is off. -/
theorem arrangedColumn_eq_iff (options : PlayerOptions) (sevenKeys : Bool) :
    ∀ lane ∈ lanes options,
      (Note.arrangedColumn options.scratch sevenKeys (some lane.2) = some lane.2 ↔
        if lane.2 = Note.turntable then options.scratch ≠ .off
        else sevenKeys = true ∨ options.scratch = .left ∨ lane.2 ∉ Note.keyColumns) := by
  obtain ⟨scratch, double⟩ := options
  cases scratch <;> cases double <;> cases sevenKeys <;> decide

theorem arrangedColumn_ne_nil (options : PlayerOptions) (sevenKeys : Bool) :
    ∀ lane ∈ lanes options,
      Note.arrangedColumn options.scratch sevenKeys (some lane.2) ≠ some [] := by
  obtain ⟨scratch, double⟩ := options
  cases scratch <;> cases double <;> cases sevenKeys <;> decide

theorem landmineColumn_ne_nil (options : PlayerOptions) :
    ∀ lane ∈ Lanes.landmines (lanes options), lane.2 ≠ [] := by
  obtain ⟨scratch, double⟩ := options
  cases scratch <;> cases double <;> decide

theorem filter_of_ne_nil {column : Option Text} (named : column ≠ some []) :
    (column.filter fun name => !name.isEmpty) = column := by
  cases column with
  | none => rfl
  | some name =>
      have nonempty : name.isEmpty = false :=
        List.isEmpty_eq_false_iff.mpr fun empty => named (congrArg some empty)
      simp [nonempty]

theorem arrangedColumn_lane_ne_nil (options : PlayerOptions) (sevenKeys : Bool)
    (channel : Text) :
    Note.arrangedColumn options.scratch sevenKeys
      ((lanes options).toMap.column? channel) ≠ some [] := by
  cases found : (lanes options).toMap.column? channel with
  | none =>
      unfold Note.arrangedColumn
      simp
  | some column =>
      obtain ⟨lane, listed, -, rfl⟩ := Lanes.mem_of_column?_toMap found
      exact arrangedColumn_ne_nil options sevenKeys lane listed

theorem landmineColumn_lane_ne_nil (options : PlayerOptions) (channel : Text) :
    (Lanes.landmines (lanes options)).toMap.column? channel ≠ some [] := by
  intro found
  obtain ⟨lane, listed, -, empty⟩ := Lanes.mem_of_column?_toMap found
  exact landmineColumn_ne_nil options lane listed empty

section Charts

variable {α : Type}

theorem filterMap_lane?_of_columns {σ : Type} {notes : List (Note α)} {entries : List σ}
    {columnOf : σ → Option Text} (columns : notes.map Note.column = entries.map columnOf)
    (named : ∀ entry, columnOf entry ≠ some []) :
    notes.filterMap Note.lane? = entries.filterMap columnOf := by
  have lanes : notes.filterMap Note.lane? =
      (notes.map Note.column).filterMap fun column => column.filter fun name =>
        !name.isEmpty := by
    rw [List.filterMap_map]
    rfl
  have unfiltered :
      (fun column : Option Text => column.filter fun name => !name.isEmpty) ∘ columnOf =
        columnOf := funext fun entry => filter_of_ne_nil (named entry)
  rw [lanes, columns, List.filterMap_map, unfiltered]

variable [Scalar α]

/-- The columns of extracted notes are those of the channels on which
they were completed. -/
theorem columns_notes (chart : Chart α) (map : LaneMap) :
    (chart.notes map).map Note.column =
      (chart.completions map).map fun entry =>
        map.column? (Extraction.noteChannel entry.1.channel) := by
  rw [← Chart.map_snd_completions, List.map_map]
  exact List.map_congr_left fun entry member => Chart.column_of_mem_completions member

/-- Playable notes are in the columns of their channels as the options arrange them,
landmines in the columns of their channels as they are. So a note and a landmine of one
lane share a column exactly if the options leave that column in its place. -/
theorem landmines_are_not_arranged {chart : Chart α} {options : PlayerOptions}
    {notechart : Notechart α} (made : ofChart chart options = .ok notechart) :
    (notechart.notes.map GameNote.column =
      (chart.completions (lanes options).toMap).filterMap fun entry =>
        Note.arrangedColumn options.scratch
          (Note.usesSevenKeys (chart.notes (lanes options).toMap))
          ((lanes options).toMap.column? (Extraction.noteChannel entry.1.channel))) ∧
    (notechart.landmines.map Landmine.column =
      (chart.completions (Lanes.landmines (lanes options)).toMap).filterMap fun entry =>
        (Lanes.landmines (lanes options)).toMap.column?
          (Extraction.noteChannel entry.1.channel)) ∧
    ∀ lane ∈ lanes options,
      (lanes options).toMap.column? lane.1.text = some lane.2 ∧
      (Lanes.landmines (lanes options)).toMap.column?
        (Lanes.landmineChannel lane.1).text = some lane.2 ∧
      (Note.arrangedColumn options.scratch
          (Note.usesSevenKeys (chart.notes (lanes options).toMap))
    (some lane.2) = some lane.2 ↔
        if lane.2 = Note.turntable then options.scratch ≠ .off
        else Note.usesSevenKeys (chart.notes (lanes options).toMap) = true ∨
          options.scratch = .left ∨ lane.2 ∉ Note.keyColumns) := by
  obtain ⟨timing, scroll, spacing, barLines, arranged, -, -, -, -, arranges, rfl⟩ :=
    ofChart_eq_ok made
  refine ⟨?_, ?_, ?_⟩
  · rw [column_playableNotes]
    refine filterMap_lane?_of_columns ?_ fun entry =>
      arrangedColumn_lane_ne_nil options _ _
    have columns := congrArg (List.map (Note.arrangedColumn options.scratch
      (Note.usesSevenKeys (chart.notes (lanes options).toMap))))
      (columns_notes chart (lanes options).toMap)
    rw [List.map_map, List.map_map] at columns
    rw [Note.eq_of_arrange arranges, List.map_map]
    exact columns
  · rw [column_landminesOf]
    exact filterMap_lane?_of_columns (columns_notes chart _) fun entry =>
      landmineColumn_lane_ne_nil options _
  · intro lane listed
    obtain ⟨plain, landmine⟩ := column?_of_mem_lanes options lane listed
    exact ⟨plain, landmine, arrangedColumn_eq_iff options _ lane listed⟩

end Charts

/-- One note and one landmine on the first key, and no other keys. -/
def minedKey : Chart Rat :=
  ⟨.empty, ⟨[⟨⟨'1', '1'⟩, 1, 0, ⟨'0', '1'⟩, none⟩, ⟨⟨'D', '1'⟩, 1, 0, ⟨'1', '0'⟩, none⟩]⟩,
    .empty⟩

/-- With the turntable off, the note on the first key moves to the second
and the landmine stays. -/
theorem landmines_are_not_arranged_minedKey :
    ∃ notechart, ofChart minedKey ⟨.off, false⟩ = .ok notechart ∧
      notechart.notes.map GameNote.column = [['2']] ∧
      notechart.landmines.map Landmine.column = [['1']] := by
  cases made : ofChart minedKey ⟨.off, false⟩ with
  | error fault =>
      have isMade : (ofChart minedKey ⟨.off, false⟩).isOk = true := by decide +kernel
      rw [made] at isMade
      cases isMade
  | ok notechart =>
      obtain ⟨notes, landmines, -⟩ := landmines_are_not_arranged made
      refine ⟨notechart, rfl, notes.trans ?_, landmines.trans ?_⟩
      · decide +kernel
      · decide +kernel

end Notechart

end RhythmChart
