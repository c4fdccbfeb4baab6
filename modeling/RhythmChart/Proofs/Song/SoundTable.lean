import RhythmChart.Proofs.Chart.Tables
import RhythmChart.Proofs.Text.Lower
import RhythmChart.Song.Keysounds

/-!
# Keysounds as a table

Keysounds have one file for each id in lower case, the last one that was given for it. Ids
that are in lower case and different from each other are kept as they are given.
-/

namespace RhythmChart.Keysounds

theorem insertEntry_eq_upsert (id file : Text) (entries : List (Text × Text)) :
    insertEntry id file entries = upsert id (fun _ => file) entries := by
  induction entries with
  | nil => rfl
  | cons entry rest ih =>
      obtain ⟨other, otherFile⟩ := entry
      rw [insertEntry, upsert, ih]
      split
      · rename_i same
        rw [same]
      · rfl

variable (given : List (Text × Text))

theorem entries_ofEntries : (ofEntries given).entries =
    tableOf (fun entry => Text.lower entry.1) (fun entry _ => entry.2) given := by
  induction given using List.reverseRecOn with
  | nil => rfl
  | append_singleton given entry ih =>
      rw [tableOf_append_singleton, ← ih, ← insertEntry_eq_upsert, ofEntries,
        List.foldl_append]
      rfl

theorem nodup_map_fst_entries : ((ofEntries given).entries.map Prod.fst).Nodup := by
  rw [entries_ofEntries]
  exact nodup_keys_tableOf _ _ given

def fileOf? (id : Text) : Option Text :=
  (given.filter fun entry => Text.lower entry.1 == id).getLast?.map Prod.snd

theorem lookup_entries (id : Text) :
    (ofEntries given).entries.lookup id = fileOf? given id := by
  rw [entries_ofEntries, lookup_tableOf, fileOf?]
  cases given.filter fun entry => Text.lower entry.1 == id using List.reverseRecOn with
  | nil => rfl
  | append_singleton before last => simp

theorem mem_entries {id file : Text} :
    (id, file) ∈ (ofEntries given).entries ↔ fileOf? given id = some file := by
  rw [mem_iff_lookup (nodup_map_fst_entries given), lookup_entries]

/-- Different ids in lower case are kept as they are. -/
theorem entries_ofEntries_of_lowered {given : List (Text × Text)}
    (distinct : (given.map Prod.fst).Nodup)
    (lowered : ∀ entry ∈ given, Text.lower entry.1 = entry.1) :
    (ofEntries given).entries = given := by
  have ids : given.map (fun entry => Text.lower entry.1) = given.map Prod.fst :=
    List.map_congr_left lowered
  rw [entries_ofEntries, tableOf_of_nodup _ _ (ids ▸ distinct)]
  have same : ∀ entry ∈ given, (Text.lower entry.1, entry.2) = entry := by
    intro entry member
    rw [lowered entry member]
  exact (List.map_congr_left same).trans (List.map_id given)

end RhythmChart.Keysounds
