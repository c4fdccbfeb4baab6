import RhythmChart.Proofs.Note.Ends
import RhythmChart.Proofs.Player.Columns

/-!
# Arranged lanes

Arranging sends every note to a column that depends on its own column only, and no two
lanes to the same one. A chart of five keys has room for every shift, and is still one of
five keys afterwards, as seen from where its turntable is.
-/

namespace RhythmChart

namespace Note

theorem key_of_shiftedColumn? {amount : Nat} {column target : Text}
    (made : shiftedColumn? amount column = some target) :
    (∃ index, keyColumns.idxOf? column = some index ∧
        keyColumns.idxOf? target = some (index + amount)) ∨
      keyColumns.idxOf? column = none ∧ target = column := by
  have own : ∀ index : Fin keyColumns.length,
      keyColumns.idxOf? keyColumns[index] = some ↑index := by
    decide
  unfold shiftedColumn? at made
  cases key : keyColumns.idxOf? column with
  | none =>
      rw [key] at made
      exact .inr ⟨rfl, (Option.some_inj.mp made).symm⟩
  | some index =>
      rw [key] at made
      obtain ⟨bound, there⟩ := List.getElem?_eq_some_iff.mp made
      exact .inl ⟨index, rfl, there ▸ own ⟨index + amount, bound⟩⟩

theorem eq_of_idxOf?_eq {column column' : Text} {index : Nat}
    (key : keyColumns.idxOf? column = some index)
    (key' : keyColumns.idxOf? column' = some index) : column = column' := by
  obtain ⟨_, here, -⟩ := List.idxOf?_eq_some_iff.mp key
  obtain ⟨_, here', -⟩ := List.idxOf?_eq_some_iff.mp key'
  exact here.symm.trans here'

theorem eq_of_shiftedColumn?_eq {amount : Nat} {column column' target : Text}
    (made : shiftedColumn? amount column = some target)
    (made' : shiftedColumn? amount column' = some target) : column = column' := by
  rcases key_of_shiftedColumn? made with ⟨index, key, there⟩ | ⟨key, rfl⟩
  · rcases key_of_shiftedColumn? made' with ⟨index', key', there'⟩ | ⟨key', rfl⟩
    · rw [there, Option.some_inj] at there'
      obtain rfl : index = index' := Nat.add_right_cancel there'
      exact eq_of_idxOf?_eq key key'
    · rw [there] at key'
      cases key'
  · rcases key_of_shiftedColumn? made' with ⟨index', key', there'⟩ | ⟨key', rfl⟩
    · rw [key] at there'
      cases there'
    · rfl

theorem arrangedColumn_eq_some {scratch : Scratch} {sevenKeys : Bool}
    {column : Option Text}
    {target : Text} (made : arrangedColumn scratch sevenKeys column = some target) :
    (if sevenKeys || fiveKeyShift scratch = 0 then column
      else column.bind (shiftedColumn? (fiveKeyShift scratch).toNat)) = some target := by
  by_cases gone : scratch = .off ∧ column = some turntable
  · simp only [arrangedColumn, if_pos gone, Option.bind_none, ite_self] at made
    cases made
  · simpa only [arrangedColumn, if_neg gone] using made

/-- Columns that stay columns are not merged. -/
theorem eq_of_arrangedColumn_eq {scratch : Scratch} {sevenKeys : Bool}
    {column column' : Option Text} {target : Text}
    (made : arrangedColumn scratch sevenKeys column = some target)
    (made' : arrangedColumn scratch sevenKeys column' = some target) :
    column = column' := by
  replace made := arrangedColumn_eq_some made
  replace made' := arrangedColumn_eq_some made'
  split at made
  · rename_i still
    rw [if_pos still] at made'
    exact made.trans made'.symm
  · rename_i moves
    rw [if_neg moves] at made'
    obtain ⟨name, rfl, shifted⟩ := Option.bind_eq_some_iff.mp made
    obtain ⟨name', rfl, shifted'⟩ := Option.bind_eq_some_iff.mp made'
    rw [eq_of_shiftedColumn?_eq shifted shifted']

/-- In a chart of five keys, every key comes from the one that lies
behind it by the shift. -/
theorem exists_key_of_arrangedColumn {scratch : Scratch} {column : Option Text}
    {target : Text}
    {position : Nat} (made : arrangedColumn scratch false column = some target)
    (there : keyColumns.idxOf? target = some position) :
    ∃ name index, column = some name ∧ keyColumns.idxOf? name = some index ∧
      position = index + (fiveKeyShift scratch).toNat := by
  replace made := arrangedColumn_eq_some made
  split at made
  · rename_i still
    have unmoved : fiveKeyShift scratch = 0 := by simpa using still
    exact ⟨target, position, made, there, by rw [unmoved]; rfl⟩
  · obtain ⟨name, rfl, shifted⟩ := Option.bind_eq_some_iff.mp made
    rcases key_of_shiftedColumn? shifted with ⟨index, key, there'⟩ | ⟨key, rfl⟩
    · rw [there, Option.some_inj] at there'
      exact ⟨name, index, rfl, key, there'⟩
    · rw [there] at key
      cases key

/-- The keys that a chart of five keys leaves to the turntable. -/
def unusedKeys : Scratch → List Char
  | .off => ['1', '7']
  | .left => ['6', '7']
  | .right => ['1', '2']

theorem position_of_mem_unusedKeys (scratch : Scratch) :
    ∀ key ∈ unusedKeys scratch, ∃ position ∈ List.range 7,
      keyColumns.idxOf? [key] = some position ∧
        (position < (fiveKeyShift scratch).toNat ∨
          (fiveKeyShift scratch).toNat + 5 ≤ position) := by
  cases scratch <;> decide

theorem arrangedColumn_ne_unused {scratch : Scratch} {column : Option Text} {key : Char}
    (unused : key ∈ unusedKeys scratch) (notSix : column ≠ some ['6'])
    (notSeven : column ≠ some ['7']) :
    arrangedColumn scratch false column ≠ some [key] := by
  intro made
  obtain ⟨position, -, there, outside⟩ := position_of_mem_unusedKeys scratch key unused
  obtain ⟨name, index, rfl, own, rfl⟩ := exists_key_of_arrangedColumn made there
  have first := index_lt_five own (fun six => notSix (congrArg some six))
    fun seven => notSeven (congrArg some seven)
  omega

variable {α : Type} [Scalar α] {scratch : Scratch} {notes : List (Note α)}

theorem not_lt_of_endNumber {given beatGiven : Field α} {beat endBeat : α}
    (made : endNumber given beatGiven beat = .ok (some endBeat)) : ¬endBeat < beat := by
  unfold endNumber at made
  split at made
  · cases made
  · obtain ⟨number, -, made⟩ := exists_of_bind_eq_ok made
    split at made
    · cases made
    · rename_i inTime
      cases made
      exact inTime

/-- A note that is made of a record does not end before it starts. -/
theorem endsInTime_of_ofRecord {record : Record α} {note : Note α}
    (made : ofRecord record = .ok note) : note.EndsInTime := by
  obtain ⟨beat, -, made⟩ := exists_of_bind_eq_ok made
  dsimp only at made
  split at made
  · obtain ⟨keysound, -, made⟩ := exists_of_bind_eq_ok made
    obtain ⟨finish, ends, made⟩ := exists_of_bind_eq_ok made
    have inTime : ∀ endBeat, finish = some endBeat → ¬endBeat < beat := by
      rintro endBeat rfl
      exact not_lt_of_endNumber ends
    -- The column may be a text or absent; neither matters to the end.
    split at made
    · cases made
      exact inTime
    · cases made
      exact inTime
    · cases made
  · cases made

/-- A key past the last one is never asked for. -/
theorem refuses_of_arrange {fault : Fault α}
    (refused : arrange scratch notes = .error fault) :
    ∃ note ∈ notes, note.Refuses fault := by
  have yields := yields_arrange scratch notes
  rw [refused] at yields
  exact yields

theorem arrange_eq_ok (scratch : Scratch) (inTime : ∀ note ∈ notes, note.EndsInTime) :
    arrange scratch notes = .ok (notes.map (arranged scratch (usesSevenKeys notes))) := by
  cases made : arrange scratch notes with
  | ok laid => rw [eq_of_arrange made]
  | error fault =>
      obtain ⟨note, member, refuses⟩ := refuses_of_arrange made
      exact ((inTime note member).not_refuses fault refuses).elim

end Note

namespace Notechart

variable {α : Type} [Scalar α] {parts : Parts α} {options : PlayerOptions}

theorem usesColumn_withNotes {notes : List (Note α)} {key : Char} :
    (parts.withNotes notes).usesColumn key = true ↔
      ∃ note ∈ notes, note.column = some [key] := by
  have columns : (parts.withNotes notes).usesColumn key =
      (notes.filterMap Note.lane?).any (· == [key]) := by
    rw [← column_playableNotes parts.place notes, List.any_map]
    rfl
  have inLane : ∀ note : Note α, note.lane? = some [key] ↔ note.column = some [key] := by
    intro note
    rw [Note.lane?, Option.filter_eq_some_iff]
    exact and_iff_left rfl
  rw [columns, List.any_eq_true]
  simp only [List.mem_filterMap, beq_iff_eq, exists_eq_right, inLane]

omit [Scalar α] in
theorem keyMode_of_named (chart : Notechart α) {name : Text} {scratch : Scratch}
    (named : Scratch.ofName? name = some scratch) :
    chart.keyMode name =
      if (Note.unusedKeys scratch).any chart.usesColumn then "7K" else "5K" := by
  rw [keyMode, named]
  cases scratch <;> simp [Note.unusedKeys]

/-- The keys left to the turntable stay unused when a chart of five
keys is arranged for it. -/
theorem keyMode_withNotes_arranged (five : Note.usesSevenKeys parts.notes = false)
    {name : Text} {scratch : Scratch} (named : Scratch.ofName? name = some scratch) :
    (parts.withNotes (parts.notes.map (Note.arranged scratch false))).keyMode name =
      "5K" := by
  rw [keyMode_of_named _ named, if_neg]
  rw [List.any_eq_true]
  rintro ⟨key, unused, used⟩
  obtain ⟨moved, listed, column⟩ := usesColumn_withNotes.mp used
  obtain ⟨note, member, rfl⟩ := List.mem_map.mp listed
  obtain ⟨notSix, notSeven⟩ := Note.column_of_not_usesSevenKeys five member
  exact Note.arrangedColumn_ne_unused unused notSix notSeven column

/-- Notes that are made of records end in time. Arranging asks for no key past the
last one. It changes nothing of a note but its column, by the column alone, and no
two lanes become one. A notechart of five keys is one of five keys for the turntable
that it was arranged for. -/
theorem arranging_keeps_lanes_apart (parts : Parts α) (options : PlayerOptions)
    (inTime : ∀ note ∈ parts.notes, note.EndsInTime) :
    (∀ (record : Note.Record α) (note : Note α), Note.ofRecord record = .ok note →
      note.EndsInTime) ∧
    (∀ (notes : List (Note α)) (fault : Fault α),
      Note.arrange options.scratch notes = .error fault →
        ∃ note ∈ notes, note.Refuses fault) ∧
    Note.arrange options.scratch parts.notes = .ok (parts.notes.map
      (Note.arranged options.scratch (Note.usesSevenKeys parts.notes))) ∧
    (∀ (a b : Note α) (sevenKeys : Bool) (lane lane' : Text), a.column ≠ b.column →
      (Note.arranged options.scratch sevenKeys a).lane? = some lane →
      (Note.arranged options.scratch sevenKeys b).lane? = some lane' → lane ≠ lane') ∧
    ∃ chart, assemble parts.ingredients options = .ok chart ∧
      (Note.usesSevenKeys parts.notes = false →
        ∀ name, Scratch.ofName? name = some options.scratch →
          chart.keyMode name = "5K") := by
  have made := Note.arrange_eq_ok options.scratch inTime
  have assembled := assemble_ingredients parts options
  rw [made] at assembled
  refine ⟨fun record note => Note.endsInTime_of_ofRecord,
    fun notes fault => Note.refuses_of_arrange, made, ?_, _, assembled, ?_⟩
  · rintro a b sevenKeys lane _ apart first second rfl
    exact apart (Note.eq_of_arrangedColumn_eq (Option.filter_eq_some_iff.mp first).1
      (Option.filter_eq_some_iff.mp second).1)
  · intro five name named
    rw [five]
    exact keyMode_withNotes_arranged five named

/-- Notes on the outer ones of five keys, on the turntable, in a column of
their own and in none. -/
def fiveKeyParts : Parts Rat where
  notes := [⟨0, ['0', '1'], none, some ['1'], .absent, .absent⟩,
    ⟨1, ['0', '2'], some 2, some ['5'], .absent, .absent⟩,
    ⟨2, ['0', '3'], none, some Note.turntable, .absent, .absent⟩,
    ⟨2, ['0', '4'], none, some ['X'], .absent, .absent⟩,
    ⟨3, ['0', '5'], none, none, .absent, .absent⟩]
  timing := ⟨⟨⟨0, 0, 2, true, 120⟩, []⟩, []⟩
  keysounds := .ofHeaders .empty
  songInfo := SongInfo.ofHeaders Rat .empty
  scroll := ⟨⟨⟨0, 0, 1, true, ()⟩, []⟩⟩
  spacing := ⟨none⟩
  barLines := [0, 4]
  landmines := []
  window := standardWindow
  images := ⟨none, none⟩

theorem endsInTime_fiveKeyParts : ∀ note ∈ fiveKeyParts.notes, note.EndsInTime := by
  refine List.forall_mem_cons.mpr ⟨nofun, List.forall_mem_cons.mpr ⟨?_, ?_⟩⟩
  · rintro _ ⟨⟩
    decide
  · exact List.forall_mem_cons.mpr ⟨nofun, List.forall_mem_cons.mpr
      ⟨nofun, List.forall_mem_singleton.mpr nofun⟩⟩

theorem arranging_keeps_lanes_apart_fiveKeyParts :
    (∀ note ∈ fiveKeyParts.notes, note.EndsInTime) ∧
      (∃ laid, Note.arrange .off fiveKeyParts.notes = .ok laid ∧
        laid.map Note.column = [some ['2'], some ['6'], none, some ['X'], none]) ∧
      ∃ chart, assemble fiveKeyParts.ingredients ⟨.off, false⟩ = .ok chart ∧
        chart.keyMode ['o', 'f', 'f'] = "5K" := by
  obtain ⟨-, -, laid, -, chart, assembled, fiveKeys⟩ :=
    arranging_keeps_lanes_apart fiveKeyParts ⟨.off, false⟩ endsInTime_fiveKeyParts
  exact ⟨endsInTime_fiveKeyParts, ⟨_, laid, by decide⟩, chart, assembled,
    fiveKeys (by decide) _ rfl⟩

end Notechart

end RhythmChart
