import RhythmChart.Catalog.Summary
import RhythmChart.Proofs.Number.Nonnegative
import RhythmChart.Proofs.Player.Arranging
import RhythmChart.Proofs.Sorting.Firsts

/-!
# From notes to events

Assembling parts the arranged notes: those in a lane are played, all others sound in the
background, and none is lost. What is played and what is avoided tell how long the
notechart lasts, and what is played and what sounds tell which files it needs.
-/

namespace RhythmChart

/-- A note is played as it was written. -/
structure GameNote.Plays {α : Type} (note : Note α) (game : GameNote α) : Prop where
  lane : note.lane? = some game.column
  beat : game.event.beat = note.beat
  finish : game.finish.map GameEvent.beat = note.endBeat
  keysound : game.keysound = note.keysound
  keysoundStart : game.keysoundStart = note.keysoundStart
  keysoundEnd : game.keysoundEnd = note.keysoundEnd

structure AutoEvent.Sounds {α : Type} (note : Note α) (auto : AutoEvent α) : Prop where
  beat : auto.event.beat = note.beat
  keysound : auto.keysound = note.keysound
  keysoundStart : auto.keysoundStart = note.keysoundStart
  keysoundEnd : auto.keysoundEnd = note.keysoundEnd

structure Landmine.Lies {α : Type} (note : Note α) (landmine : Landmine α) : Prop where
  lane : note.lane? = some landmine.column
  beat : landmine.event.beat = note.beat

theorem forall₂_zipIdx {σ τ : Type} {Relates : σ → τ → Prop} {f : σ × Nat → τ}
    {xs : List σ} (each : ∀ x ∈ xs, ∀ rank, Relates x (f (x, rank))) (start : Nat) :
    List.Forall₂ Relates xs ((xs.zipIdx start).map f) := by
  induction xs generalizing start with
  | nil => exact .nil
  | cons x rest ih =>
      rw [List.zipIdx_cons, List.map_cons]
      exact .cons (each x List.mem_cons_self start)
        (ih (fun y member => each y (List.mem_cons_of_mem x member)) _)

/-- The file that a keysound plays; an empty name is no file. -/
def Keysounds.file? (keysounds : Keysounds) (keysound : Text) : Option Text :=
  (keysounds.get? keysound).filter fun file => !file.isEmpty

namespace Notechart

variable {α : Type}

def events (chart : Notechart α) : List (GameEvent α) :=
  (chart.notes.flatMap fun note => note.event :: note.finish.toList) ++
    chart.landmines.map Landmine.event ++ chart.autos.map AutoEvent.event ++
      chart.barLines

/-- A note starts or ends at a time, or a landmine lies there. -/
def IsPlayedAt (chart : Notechart α) (time : α) : Prop :=
  (∃ note ∈ chart.notes, note.event.time = time) ∨
    (∃ note ∈ chart.notes, ∃ finish, note.finish = some finish ∧ finish.time = time) ∨
    ∃ landmine ∈ chart.landmines, landmine.event.time = time

/-- The keysounds that are used, first those of the notes. -/
def usedKeysounds (chart : Notechart α) : List Text :=
  chart.notes.map GameNote.keysound ++ chart.autos.map AutoEvent.keysound

section Lists

variable (place : α → GameEvent α) (notes : List (Note α))

theorem ids_playableNotes :
    (playableNotes place notes).map GameNote.id =
      List.range' 1 (playableNotes place notes).length := by
  rw [playableNotes, List.map_map, List.length_map, List.length_zipIdx]
  exact List.zipIdx_map_snd 1 (Note.inLanes notes)

theorem ids_landminesOf :
    (landminesOf place notes).map Landmine.id =
      List.range' 1 (landminesOf place notes).length := by
  rw [landminesOf, List.map_map, List.length_map, List.length_zipIdx]
  exact List.zipIdx_map_snd 1 (Note.inLanes notes)

/-- No note is lost, and none is both played and left to the background. -/
theorem length_playableNotes_add_length_autosOf :
    (playableNotes place notes).length + (autosOf place notes).length = notes.length := by
  have played : (playableNotes place notes).length =
      (notes.filter fun note => note.lane?.isSome).length := by
    rw [playableNotes, List.length_map, List.length_zipIdx, ← Note.map_fst_inLanes,
      List.length_map]
    rfl
  have total := notes.length_eq_length_filter_add fun note => note.lane?.isSome
  simp only [Option.not_isSome] at total
  rw [played, autosOf, List.length_map, total]

end Lists

theorem combos?_of_mem {chart : Notechart α} (ids : (chart.notes.map GameNote.id).Nodup)
    {note : GameNote α} (member : note ∈ chart.notes) :
    chart.combos? note.id = some note.combos := by
  unfold combos?
  cases found : chart.notes.find? fun other => decide ((other.id : Int) = note.id) with
  | none =>
      have missed := List.find?_eq_none.mp found note member
      exact absurd (decide_eq_true rfl) missed
  | some other =>
      have same := List.find?_some found
      rw [decide_eq_true_eq, Int.natCast_inj] at same
      rw [List.inj_on_of_nodup_map ids (List.mem_of_find?_eq_some found) member same]
      rfl

theorem mem_playedTimes {chart : Notechart α} {time : α} :
    time ∈ chart.playedTimes ↔ chart.IsPlayedAt time := by
  simp only [playedTimes, IsPlayedAt, List.mem_append, List.mem_flatMap, List.mem_cons,
    Option.mem_toList, Option.map_eq_some_iff, List.mem_map, and_or_left, exists_or,
      or_assoc,
    eq_comm (a := time)]

theorem samples_eq_dedupe (chart : Notechart α) :
    chart.samples =
      dedupe (· == ·) (chart.usedKeysounds.filterMap chart.keysounds.file?) := by
  rw [samples, samplesOf, List.filter_filterMap]
  rfl

variable [Scalar α]

section WithNotes

variable (parts : Parts α) (laid : List (Note α))

theorem plays_withNotes :
    List.Forall₂ GameNote.Plays (laid.filter fun note => note.lane?.isSome)
      (parts.withNotes laid).notes := by
  rw [← Note.map_fst_inLanes, List.forall₂_map_left_iff]
  refine forall₂_zipIdx (fun entry member id => ?_) 1
  refine ⟨(Note.lane?_of_mem_inLanes member).2, rfl, ?_, rfl, rfl, rfl⟩
  dsimp only
  rw [Option.map_map]
  exact Option.map_id'

theorem sounds_withNotes :
    List.Forall₂ AutoEvent.Sounds (laid.filter fun note => note.lane?.isNone)
      (parts.withNotes laid).autos := by
  refine List.forall₂_map_right_iff.mpr (List.forall₂_same.mpr fun note _ => ?_)
  exact ⟨rfl, rfl, rfl, rfl⟩

theorem lies_withNotes :
    List.Forall₂ Landmine.Lies (parts.landmines.filter fun note => note.lane?.isSome)
      (parts.withNotes laid).landmines := by
  rw [← Note.map_fst_inLanes, List.forall₂_map_left_iff]
  refine forall₂_zipIdx (fun entry member id => ?_) 1
  exact ⟨(Note.lane?_of_mem_inLanes member).2, rfl⟩

theorem exists_place_of_mem_events {event : GameEvent α}
    (listed : event ∈ (parts.withNotes laid).events) :
    ∃ beat, event = parts.place beat := by
  rcases List.mem_append.mp listed with listed | line
  · rcases List.mem_append.mp listed with listed | auto
    · rcases List.mem_append.mp listed with played | landmine
      · obtain ⟨note, member, either⟩ := List.mem_flatMap.mp played
        obtain ⟨source, -, rfl⟩ := List.mem_map.mp member
        rcases List.mem_cons.mp either with start | finish
        · exact ⟨_, start⟩
        · obtain ⟨beat, -, made⟩ :=
            Option.map_eq_some_iff.mp (Option.mem_toList.mp finish)
          exact ⟨beat, made.symm⟩
      · obtain ⟨_, member, rfl⟩ := List.mem_map.mp landmine
        obtain ⟨source, -, rfl⟩ := List.mem_map.mp member
        exact ⟨_, rfl⟩
    · obtain ⟨_, member, rfl⟩ := List.mem_map.mp auto
      obtain ⟨source, -, rfl⟩ := List.mem_map.mp member
      exact ⟨_, rfl⟩
  · obtain ⟨beat, -, made⟩ := List.mem_map.mp line
    exact ⟨beat, made.symm⟩

end WithNotes

section Duration

variable {start : α} {times : List α}

/-- The latest of some times, none of which counts before the start. -/
def latestOf (start : α) (times : List α) : α :=
  times.foldl (fun latest time => if latest < time then time else latest) start

theorem latestOf_cons (start time : α) (rest : List α) :
    latestOf start (time :: rest) =
      latestOf (if start < time then time else start) rest := rfl

theorem latestOf_eq_or_mem : latestOf start times = start ∨
      latestOf start times ∈ times := by
  induction times generalizing start with
  | nil => exact .inl rfl
  | cons time rest ih =>
      rw [latestOf_cons]
      split
      · rcases ih with own | later
        · rw [own]
          exact .inr List.mem_cons_self
        · exact .inr (List.mem_cons_of_mem time later)
      · exact ih.imp_right (List.mem_cons_of_mem time)

open HasExtent in
theorem latestOf_is_latest [HasExtent α] (nonneg : ((0 : Nat) : α) ≤ start) :
    ((0 : Nat) : α) ≤ latestOf start times ∧ extent start ≤ extent
      (latestOf start times) ∧
      ∀ time ∈ times, ¬latestOf start times < time := by
  induction times generalizing start with
  | nil => exact ⟨nonneg, le_refl _, nofun⟩
  | cons time rest ih =>
      rw [latestOf_cons]
      -- What is taken so far never gets less, so no time that was seen comes after it.
      split
      · rename_i later
        have nonneg' := nonneg_of_lt nonneg later
        obtain ⟨nonnegLast, le, others⟩ := ih nonneg'
        rw [lt_iff nonneg nonneg'] at later
        refine ⟨nonnegLast, le_trans (le_of_lt later) le,
          List.forall_mem_cons.mpr ⟨fun less => ?_, others⟩⟩
        exact absurd ((lt_iff nonnegLast nonneg').mp less) (not_lt_of_ge le)
      · rename_i earlier
        obtain ⟨nonnegLast, le, others⟩ := ih nonneg
        refine ⟨nonnegLast, le, List.forall_mem_cons.mpr ⟨fun less => earlier ?_, others⟩⟩
        have nonneg' := nonneg_of_lt nonnegLast less
        exact (lt_iff nonneg nonneg').mpr
          (lt_of_le_of_lt le ((lt_iff nonnegLast nonneg').mp less))

end Duration

/-- A notechart holds what its parts say, with the notes as they were laid out. -/
structure IsAssembledFrom (chart : Notechart α) (parts : Parts α) (laid : List (Note α)) :
    Prop where
  notes : List.Forall₂ GameNote.Plays (laid.filter fun note => note.lane?.isSome)
    chart.notes
  noteIds : chart.notes.map GameNote.id = List.range' 1 chart.notes.length
  autos : List.Forall₂ AutoEvent.Sounds (laid.filter fun note => note.lane?.isNone)
    chart.autos
  count : chart.notes.length + chart.autos.length = laid.length
  landmines : List.Forall₂ Landmine.Lies
    (parts.landmines.filter fun note => note.lane?.isSome) chart.landmines
  landmineIds : chart.landmines.map Landmine.id = List.range' 1 chart.landmines.length
  barLines : chart.barLines.map GameEvent.beat = parts.barLines
  placed : ∀ event ∈ chart.events,
    event.time = parts.timing.beatToSeconds event.beat ∧
      event.position = parts.scroll.position event.beat
  combos : ∀ note ∈ chart.notes,
    chart.combos? note.id = some (if note.finish.isSome then 2 else 1)
  duration_nonneg : ((0 : Nat) : α) ≤ chart.duration
  duration_reached : chart.duration = ((0 : Nat) : α) ∨ chart.IsPlayedAt chart.duration
  duration_last : ∀ time, chart.IsPlayedAt time → ¬chart.duration < time
  samples_nodup : chart.samples.Nodup
  mem_samples : ∀ file, file ∈ chart.samples ↔
    ∃ keysound ∈ chart.usedKeysounds, parts.keysounds.file? keysound = some file
  samples_inOrder : chart.samples.Pairwise fun a b =>
    chart.usedKeysounds.findIdx (parts.keysounds.file? · == some a) <
      chart.usedKeysounds.findIdx (parts.keysounds.file? · == some b)

theorem isAssembledFrom_withNotes [HasExtent α] (parts : Parts α) (laid : List (Note α)) :
    (parts.withNotes laid).IsAssembledFrom parts laid where
  notes := plays_withNotes parts laid
  noteIds := ids_playableNotes _ laid
  autos := sounds_withNotes parts laid
  count := length_playableNotes_add_length_autosOf _ laid
  landmines := lies_withNotes parts laid
  landmineIds := ids_landminesOf _ parts.landmines
  barLines := by
    refine (List.map_map).trans ?_
    exact List.map_id _
  placed := by
    intro event listed
    obtain ⟨beat, rfl⟩ := exists_place_of_mem_events parts laid listed
    exact ⟨rfl, rfl⟩
  combos := by
    intro note member
    refine combos?_of_mem ?_ member
    exact (ids_playableNotes parts.place laid).symm ▸ List.nodup_range'
  duration_nonneg := (latestOf_is_latest (HasExtent.natCast_nonneg 0)).1
  duration_reached := latestOf_eq_or_mem.imp_right mem_playedTimes.mp
  duration_last := by
    intro time played
    exact (latestOf_is_latest (HasExtent.natCast_nonneg 0)).2.2 time
      (mem_playedTimes.mpr played)
  samples_nodup := samples_eq_dedupe (parts.withNotes laid) ▸ nodup_dedupe _
  mem_samples := by
    intro file
    rw [samples_eq_dedupe, mem_dedupe, List.mem_filterMap]
    rfl
  samples_inOrder := samples_eq_dedupe (parts.withNotes laid) ▸ pairwise_findIdx_dedupe _

end Notechart

theorem Summary.notes_eq {α : Type} [Scalar α] {compiled : Compilation α}
    {summary : Summary α} (made : ofCompilation compiled = .ok summary) :
    summary.notes = summary.playable + summary.autos := by
  obtain ⟨notechart, charted, made⟩ := exists_of_bind_eq_ok made
  obtain ⟨timing, -, made⟩ := exists_of_bind_eq_ok made
  cases made
  obtain ⟨timing, scroll, -, -, laid, -, -, -, -, laidOut, rfl⟩ :=
    Notechart.ofChart_eq_ok charted
  rw [Notechart.length_playableNotes_add_length_autosOf, Note.eq_of_arrange laidOut,
    List.length_map]
  rfl

namespace Notechart

variable {α : Type} [Scalar α] [HasExtent α]

/-- Only complete input is assembled. Assembling parts the notes, as they are arranged,
into those that are played and those that sound in the background, and loses none. So a
summary counts as many notes as are in the two together. -/
theorem assembling_parts_notes (parts : Parts α) (options : PlayerOptions)
    (inTime : ∀ note ∈ parts.notes, note.EndsInTime) :
    (∀ (ingredients : Ingredients α) (chart : Notechart α),
      assemble ingredients options = .ok chart →
        ∃ complete : Parts α, complete.ingredients = ingredients) ∧
    (∃ laid chart, Note.arrange options.scratch parts.notes = .ok laid ∧
      assemble parts.ingredients options = .ok chart ∧ chart.IsAssembledFrom parts laid) ∧
    ∀ (compiled : Compilation α) (summary : Summary α),
      Summary.ofCompilation compiled = .ok summary →
        summary.notes = summary.playable + summary.autos := by
  have laidOut := Note.arrange_eq_ok options.scratch inTime
  have assembled := assemble_ingredients parts options
  rw [laidOut] at assembled
  exact ⟨fun _ _ => exists_parts_of_assemble,
    ⟨_, _, laidOut, assembled, isAssembledFrom_withNotes parts _⟩, fun _ _ =>
      Summary.notes_eq⟩

/-- Two keysounds with one file, one with an empty name for it, and a
landmine behind all notes. -/
def soundingParts : Parts Rat :=
  { fiveKeyParts with
    keysounds := .ofEntries [(['0', '1'], "kick.wav".toList), (['0', '2'], []),
      (['0', '3'], "kick.wav".toList), (['0', '4'], "bell.wav".toList)]
    landmines := [⟨4, ['1', '0'], none, some ['7'], .absent, .absent⟩] }

/-- A note to be played and one in the background. -/
def twoNoteSource : Compilation Rat :=
  Compilation.ofText .bms [] "#WAV01 a.wav\n#00111:01\n#00101:02".toList

theorem assembling_parts_notes_soundingParts :
    (∀ note ∈ soundingParts.notes, note.EndsInTime) ∧
      (∃ laid chart, Note.arrange .off soundingParts.notes = .ok laid ∧
        assemble soundingParts.ingredients ⟨.off, false⟩ = .ok chart ∧
        chart.IsAssembledFrom soundingParts laid ∧
        chart.notes.map GameNote.column = [['2'], ['6'], ['X']] ∧ chart.duration = 2 ∧
        chart.samples = ["kick.wav".toList, "bell.wav".toList]) ∧
      ∃ summary, Summary.ofCompilation twoNoteSource = .ok summary ∧
        summary.notes = summary.playable + summary.autos := by
  obtain ⟨-, ⟨laid, chart, laidOut, assembled, parted⟩, counts⟩ :=
    assembling_parts_notes soundingParts ⟨.off, false⟩ endsInTime_fiveKeyParts
  have played :
      (assemble soundingParts.ingredients ⟨.off, false⟩).toOption.map (fun chart =>
      (chart.notes.map GameNote.column, chart.duration, chart.samples)) =
        some ([['2'], ['6'], ['X']], 2, ["kick.wav".toList, "bell.wav".toList]) := by
    decide +kernel
  rw [assembled, Except.toOption, Option.map_some, Option.some_inj, Prod.mk.injEq,
    Prod.mk.injEq] at played
  have summarized : (Summary.ofCompilation twoNoteSource).isOk = true := by decide +kernel
  refine ⟨endsInTime_fiveKeyParts, ⟨laid, chart, laidOut, assembled, parted, played⟩, ?_⟩
  cases made : Summary.ofCompilation twoNoteSource with
  | error fault =>
      rw [made] at summarized
      cases summarized
  | ok summary => exact ⟨summary, rfl, counts twoNoteSource summary made⟩

end Notechart

end RhythmChart
