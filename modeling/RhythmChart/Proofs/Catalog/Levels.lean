import Mathlib.Data.List.Forall2
import RhythmChart.Catalog.Basic
import RhythmChart.Proofs.Chart.Tables

/-!
# Which summaries are kept

A chart file leaves all summaries alone but the one under its own level name. So under
each level name the summary of the last chart of that name is kept. Names of levels are
not unique: subtitles are split off titles, and characters are left out. Every chart has a
level directory only if no two charts share their name.
-/

namespace RhythmChart.Catalog

variable {α : Type}

/-- The directories of levels, in order, with their summaries. -/
def directories (catalog : Catalog α) : List (Text × Summary α) :=
  catalog.entries.filterMap fun entry => entry.2.map (entry.1, ·)

def hasDirectory (level : Text) : Bool :=
  level != hereName && level != aboveName

theorem put_eq_upsert (name : Text) (summary : Summary α)
    (levels : List (Text × Summary α)) :
    put name summary levels = upsert name (fun _ => summary) levels := by
  induction levels with
  | nil => rfl
  | cons entry rest ih =>
      obtain ⟨other, kept⟩ := entry
      rw [put, upsert]
      split
      · rename_i same
        rw [same]
      · rw [ih]

theorem directories_perm (catalog : Catalog α) :
    catalog.directories.Perm (catalog.levels.filter fun entry =>
      hasDirectory entry.1) := by
  refine ((sortBy_perm _ _).filterMap _).trans (.of_eq ?_)
  rw [List.filterMap_filterMap, ← List.filterMap_eq_filter]
  refine List.filterMap_congr fun entry _ => ?_
  obtain ⟨name, summary⟩ := entry
  unfold hasDirectory
  by_cases above : name = aboveName
  · simp [above, Option.guard]
  · by_cases here : name = hereName
    · simp [here, Option.guard]
    · simp [here, above, Option.guard]

section Records

variable {catalog : Catalog α} {records : List (Text × Summary α)}
  (table : catalog.levels = tableOf Prod.fst (fun record _ => record.2) records)

include table

theorem lookup_of_table (level : Text) :
    catalog.levels.lookup level = records.reverse.lookup level := by
  rw [table]
  clear table
  induction records using List.reverseRecOn with
  | nil => rfl
  | append_singleton records record ih =>
      rw [tableOf_append_singleton, List.reverse_append, List.reverse_singleton,
        List.singleton_append, List.lookup_cons]
      by_cases here : level = record.1
      · rw [here, lookup_upsert_self, beq_self_eq_true]
      · rw [lookup_upsert_of_ne _ _ _ here, beq_eq_false_iff_ne.mpr here, ih]

theorem length_directories :
    catalog.directories.length =
      ((dedupe (· == ·) (records.map Prod.fst)).filter hasDirectory).length := by
  have keys : catalog.levels.map Prod.fst = dedupe (· == ·) (records.map Prod.fst) := by
    rw [table]
    exact keys_tableOf _ _ _
  rw [catalog.directories_perm.length_eq, ← keys, List.filter_map, List.length_map]
  rfl

/-- Records of different names, all of which are directories, are all there. -/
theorem directories_perm_records (distinct : (records.map Prod.fst).Nodup)
    (directories : ∀ record ∈ records, hasDirectory record.1 = true) :
    catalog.directories.Perm records := by
  have all : catalog.levels = records := by
    rw [table, tableOf_of_nodup _ _ distinct]
    exact List.map_id records
  have kept : catalog.levels.filter (fun entry => hasDirectory entry.1) = records := by
    rw [all]
    exact List.filter_eq_self.mpr directories
  exact catalog.directories_perm.trans (.of_eq kept)

theorem length_directories_iff :
    catalog.directories.length = records.length ↔
      (records.map Prod.fst).Nodup ∧
        ∀ record ∈ records, hasDirectory record.1 = true := by
  constructor
  · intro counted
    have names : (records.map Prod.fst).length = records.length := List.length_map _
    rw [length_directories table, ← names] at counted
    -- The names of directories are some of the names of records, so if none is missing
    -- they are the same list.
    have same := (List.filter_sublist.trans (dedupe_sublist _ _)).eq_of_length counted
    refine ⟨?_, fun record member => ?_⟩
    · rw [← same]
      exact (nodup_dedupe _).filter _
    · have listed : record.1 ∈ records.map Prod.fst := List.mem_map_of_mem member
      rw [← same] at listed
      exact (List.mem_filter.mp listed).2
  · rintro ⟨distinct, directories⟩
    exact (directories_perm_records table distinct directories).length_eq

end Records

variable [Scalar α] {draws : ChartFile → List Int}

/-- The level name and the summary of a chart file. -/
structure IsRecordOf (draws : ChartFile → List Int) (file : ChartFile)
    (record : Text × Summary α) : Prop where
  summarised : summarise (draws file) file = .ok record.2
  named : record.1 = levelName record.2.songInfo.title file.name

/-- A file that does not end the run has a record, which is put into the catalog. -/
theorem exists_record_of_step {catalog : Catalog α} {file : ChartFile}
    (handled : (catalog.step draws file).failure = none) :
    catalog.failure = none ∧ ∃ record, IsRecordOf draws file record ∧
      (catalog.step draws file).levels = put record.1 record.2 catalog.levels := by
  unfold step at handled ⊢
  split at handled
  · rename_i ended
    rw [handled] at ended
    cases ended
  · rename_i running
    refine ⟨Option.not_isSome_iff_eq_none.mp running, ?_⟩
    rw [if_neg running]
    cases summarised : (summarise (draws file) file : Except (Fault α) (Summary α)) with
    | error fault =>
        rw [summarised] at handled
        cases handled
    | ok summary =>
        rw [summarised] at handled
        dsimp only at handled ⊢
        cases free : obstacle? catalog.levels
          (levelName summary.songInfo.title file.name) with
        | some fault =>
            rw [free] at handled
            cases handled
        | none => exact ⟨(_, summary), ⟨summarised, rfl⟩, rfl⟩

/-- What a file does to the summaries under other level names: nothing. -/
theorem lookup_step_of_ne (catalog : Catalog α) {file : ChartFile}
    {record : Text × Summary α}
    (isRecord : IsRecordOf draws file record) {level : Text} (other : level ≠ record.1) :
    (catalog.step draws file).levels.lookup level = catalog.levels.lookup level := by
  unfold step
  rw [isRecord.summarised]
  split
  · rfl
  · dsimp only
    rw [← isRecord.named]
    split
    · rfl
    · rw [put_eq_upsert]
      exact lookup_upsert_of_ne _ _ _ other

/-- The catalog of a run without failure is the table of its records. -/
theorem exists_records_of_run {files : List ChartFile}
    (handled : (files.foldl (step draws) (empty : Catalog α)).failure = none) :
    ∃ records, List.Forall₂ (IsRecordOf draws) files records ∧
      (files.foldl (step draws) (empty : Catalog α)).levels =
        tableOf Prod.fst (fun record _ => record.2) records := by
  induction files using List.reverseRecOn with
  | nil => exact ⟨[], .nil, rfl⟩
  | append_singleton files file ih =>
      rw [List.foldl_append] at handled ⊢
      obtain ⟨before, record, isRecord, levels⟩ := exists_record_of_step handled
      obtain ⟨records, areRecords, table⟩ := ih before
      refine ⟨records ++ [record], List.rel_append areRecords (.cons isRecord .nil), ?_⟩
      rw [tableOf_append_singleton, ← table, ← put_eq_upsert]
      exact levels

/-- After a run without failure each chart file has a record. A file leaves the
summaries under other names than its own alone, so each name has the summary of the last
chart of that name. There are as many level directories as charts if and only if no two
charts share a name and none has a name without a directory, and then they hold the
summaries of all charts. -/
theorem directories_ofFiles {files : List ChartFile}
    (handled : (ofFiles draws files : Catalog α).failure = none) :
    ∃ records : List (Text × Summary α),
      List.Forall₂ (IsRecordOf draws) (charts files) records ∧
      (∀ (catalog : Catalog α) (file : ChartFile) (record : Text × Summary α),
        IsRecordOf draws file record → ∀ level, level ≠ record.1 →
        (catalog.step draws file).levels.lookup level = catalog.levels.lookup level) ∧
      (∀ level, (ofFiles draws files : Catalog α).levels.lookup level =
        records.reverse.lookup level) ∧
      (ofFiles draws files : Catalog α).directories.length =
        ((dedupe (· == ·) (records.map Prod.fst)).filter hasDirectory).length ∧
      ((ofFiles draws files : Catalog α).directories.length = (charts files).length ↔
        (records.map Prod.fst).Nodup ∧ ∀ record ∈ records, hasDirectory record.1 = true) ∧
      ((ofFiles draws files : Catalog α).directories.length = (charts files).length →
        (ofFiles draws files : Catalog α).directories.Perm records) := by
  obtain ⟨records, areRecords, table⟩ := exists_records_of_run handled
  have counted := length_directories_iff table
  rw [← areRecords.length_eq] at counted
  refine ⟨records, areRecords, fun catalog file record isRecord level other => ?_,
    lookup_of_table table, length_directories table, counted, fun all => ?_⟩
  · exact catalog.lookup_step_of_ne isRecord other
  · obtain ⟨distinct, directories⟩ := counted.mp all
    exact directories_perm_records table distinct directories

/-- Two charts of one song, which differ in their subtitles. -/
def twoDifficulties : List ChartFile :=
  [⟨"a.bms".toList, "#TITLE Song [HYPER]".toList.map Char.toNat⟩,
    ⟨"b.bms".toList, "#TITLE Song [NORMAL]".toList.map Char.toNat⟩]

theorem one_directory_twoDifficulties :
    (ofFiles (fun _ => []) twoDifficulties : Catalog Float).failure = none ∧
      (ofFiles (fun _ => []) twoDifficulties : Catalog Float).directories.length = 1 := by
  constructor
  · exact Option.isNone_iff_eq_none.mp (by decide +kernel)
  · decide +kernel

theorem directories_ofFiles_twoDifficulties :
    (ofFiles (fun _ => []) twoDifficulties : Catalog Float).failure = none ∧
      ∃ records : List (Text × Summary Float),
        List.Forall₂ (IsRecordOf fun _ => []) (charts twoDifficulties) records ∧
          ((dedupe (· == ·) (records.map Prod.fst)).filter hasDirectory).length = 1 := by
  obtain ⟨handled, one⟩ := one_directory_twoDifficulties
  obtain ⟨records, areRecords, -, -, counted, -⟩ := directories_ofFiles handled
  exact ⟨handled, records, areRecords, counted.symm.trans one⟩

theorem not_forall_directory_per_chart :
    ¬∀ draws files, (ofFiles draws files : Catalog Float).failure = none →
      (ofFiles draws files : Catalog Float).directories.length =
        (charts files).length := by
  intro perChart
  obtain ⟨handled, one⟩ := one_directory_twoDifficulties
  have two : (charts twoDifficulties).length = 2 := by decide +kernel
  have same := perChart (fun _ => []) twoDifficulties handled
  rw [one, two] at same
  cases same

end RhythmChart.Catalog
