import RhythmChart.Proofs.Sorting.Firsts

/-!
# Tables in order of first setting

Headers and keysounds are kept as tables in which every key has one entry. An entry that
is set again stays where it is, and a new one goes to the end. Such a table can be read
off the list of what was set: its keys are the distinct ones in order of their first
setting, and the value of a key follows from what was set for it, in order.
-/

namespace RhythmChart

section Entries

variable {κ ν : Type} [BEq κ] [LawfulBEq κ] {entries : List (κ × ν)} {key : κ} {value : ν}

theorem mem_of_lookup (found : entries.lookup key = some value) :
    (key, value) ∈ entries := by
  obtain ⟨before, after, rfl, -⟩ := List.lookup_eq_some_iff.mp found
  exact List.mem_append_right before List.mem_cons_self

/-- Where every key has one entry, looking up a key finds it. -/
theorem mem_iff_lookup (distinct : (entries.map Prod.fst).Nodup) :
    (key, value) ∈ entries ↔ entries.lookup key = some value := by
  refine ⟨fun listed => ?_, mem_of_lookup⟩
  induction entries with
  | nil => cases listed
  | cons entry rest ih =>
      obtain ⟨new, distinct⟩ := List.nodup_cons.mp distinct
      rcases List.mem_cons.mp listed with rfl | later
      · exact List.lookup_cons_self
      · have different : (key == entry.1) = false := by
          apply beq_eq_false_iff_ne.mpr
          rintro rfl
          exact new (List.mem_map.mpr ⟨(entry.1, value), later, rfl⟩)
        rw [List.lookup_cons, different]
        exact ih distinct later

end Entries

section Steps

variable {κ ν : Type} [DecidableEq κ]

/-- Changes the value of a key, or adds the key at the end. -/
def upsert (key : κ) (change : Option ν → ν) : List (κ × ν) → List (κ × ν)
  | [] => [(key, change none)]
  | (other, value) :: rest =>
      if other = key then (other, change (some value)) :: rest
      else (other, value) :: upsert key change rest

variable {key : κ} {entries : List (κ × ν)} (change : Option ν → ν)

theorem upsert_of_known (known : key ∈ entries.map Prod.fst) :
    (upsert key change entries).map Prod.fst = entries.map Prod.fst := by
  induction entries with
  | nil => cases known
  | cons entry rest ih =>
      obtain ⟨other, value⟩ := entry
      by_cases same : other = key
      · simp [upsert, same]
      · have later : key ∈ rest.map Prod.fst := by simpa [Ne.symm same] using known
        simp [upsert, same, ih later]

theorem upsert_of_new (new : key ∉ entries.map Prod.fst) :
    upsert key change entries = entries ++ [(key, change none)] := by
  induction entries with
  | nil => rfl
  | cons entry rest ih =>
      obtain ⟨other, value⟩ := entry
      rw [List.map_cons, List.mem_cons, not_or] at new
      simp [upsert, Ne.symm new.1, ih new.2]

variable [BEq κ] [LawfulBEq κ] (key entries)

theorem lookup_upsert_self :
    (upsert key change entries).lookup key = some (change (entries.lookup key)) := by
  induction entries with
  | nil => simp [upsert]
  | cons entry rest ih =>
      obtain ⟨other, value⟩ := entry
      by_cases same : other = key
      · simp [upsert, same]
      · simp [upsert, same, List.lookup_cons, ih, beq_eq_false_iff_ne.mpr (Ne.symm same)]

theorem lookup_upsert_of_ne {other : κ} (different : other ≠ key) :
    (upsert key change entries).lookup other = entries.lookup other := by
  induction entries with
  | nil => simp [upsert, List.lookup_cons, beq_eq_false_iff_ne.mpr different]
  | cons entry rest ih =>
      obtain ⟨first, value⟩ := entry
      by_cases same : first = key
      · simp [upsert, same, List.lookup_cons, beq_eq_false_iff_ne.mpr different]
      · simp [upsert, same, List.lookup_cons, ih]

end Steps

section Settings

variable {κ ν σ : Type} [DecidableEq κ] (key : σ → κ) (change : σ → Option ν → ν)

/-- The table after a list of settings. -/
def tableOf (settings : List σ) : List (κ × ν) :=
  settings.foldl (fun entries setting => upsert (key setting) (change setting) entries) []

variable (settings : List σ)

theorem tableOf_append_singleton (setting : σ) :
    tableOf key change (settings ++ [setting]) =
      upsert (key setting) (change setting) (tableOf key change settings) := by
  simp [tableOf]

/-- Settings of different keys are all kept. -/
theorem tableOf_of_nodup {settings : List σ} (distinct : (settings.map key).Nodup) :
    tableOf key change settings =
      settings.map fun setting => (key setting, change setting none) := by
  induction settings using List.reverseRecOn with
  | nil => rfl
  | append_singleton settings setting ih =>
      rw [List.map_append, List.nodup_append] at distinct
      obtain ⟨earlier, -, apart⟩ := distinct
      have new : key setting ∉ (tableOf key change settings).map Prod.fst := by
        rw [ih earlier, List.map_map]
        exact fun known => apart _ known (key setting) List.mem_cons_self rfl
      rw [tableOf_append_singleton, upsert_of_new _ new, ih earlier, List.map_append]
      rfl

variable [BEq κ] [LawfulBEq κ]

theorem keys_tableOf :
    (tableOf key change settings).map Prod.fst = dedupe (· == ·) (settings.map key) := by
  induction settings using List.reverseRecOn with
  | nil => rfl
  | append_singleton settings setting ih =>
      rw [tableOf_append_singleton, List.map_append, List.map_singleton,
        dedupe_append_singleton, ← ih]
      by_cases known : key setting ∈ (tableOf key change settings).map Prod.fst
      · rw [upsert_of_known _ known, if_pos]
        exact List.any_eq_true.mpr ⟨key setting, known, beq_self_eq_true _⟩
      · rw [upsert_of_new _ known, if_neg]
        · simp
        · rw [List.any_eq_true]
          rintro ⟨other, member, same⟩
          exact known (eq_of_beq same ▸ member)

theorem nodup_keys_tableOf : ((tableOf key change settings).map Prod.fst).Nodup := by
  rw [keys_tableOf]
  exact nodup_dedupe _

theorem lookup_tableOf (name : κ) :
    (tableOf key change settings).lookup name =
      (settings.filter (key · == name)).foldl
        (fun value setting => some (change setting value)) none := by
  induction settings using List.reverseRecOn with
  | nil => rfl
  | append_singleton settings setting ih =>
      rw [tableOf_append_singleton, List.filter_append, List.foldl_append, ← ih]
      by_cases here : key setting = name
      · subst here
        simp [lookup_upsert_self]
      · rw [lookup_upsert_of_ne _ _ _ (Ne.symm here)]
        simp [here]

end Settings

end RhythmChart
