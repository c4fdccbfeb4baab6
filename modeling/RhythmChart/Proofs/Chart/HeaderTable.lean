import Mathlib.Data.Finset.Card
import RhythmChart.Chart.Headers
import RhythmChart.Proofs.Chart.Tables

/-!
# Headers as a table of what was set

All that can be asked of headers follows from the list of fields that were set: the values
of a field are those set under its name in any case, the fields are the distinct names in
order of first setting, and a field may be there without a value. Latest values and all
values might as well be kept in two dictionaries, which stay in step.
-/

namespace RhythmChart.Headers

def withValue (value : Option Text) (values : Option (List (Option Text))) :
    List (Option Text) :=
  values.getD [] ++ [value]

theorem record_eq_upsert (key : Text) (value : Option Text)
    (entries : List (Text × List (Option Text))) :
    record key value entries = upsert key (withValue value) entries := by
  induction entries with
  | nil => rfl
  | cons entry rest ih =>
      rw [record, upsert, ih]
      rfl

section Records

variable (value : Option Text) (entries : List (Text × List (Option Text)))

theorem lookup_record_self (key : Text) : (record key value entries).lookup key =
    some ((entries.lookup key).getD [] ++ [value]) := by
  rw [record_eq_upsert]
  exact lookup_upsert_self key entries _

theorem lookup_record_of_ne {key other : Text} (different : other ≠ key) :
    (record key value entries).lookup other = entries.lookup other := by
  rw [record_eq_upsert]
  exact lookup_upsert_of_ne key entries _ different

end Records

def ofSettings (settings : List (Text × Option Text)) : Headers :=
  settings.foldl (fun headers (name, value) => headers.set name value) empty

def namesOf (settings : List (Text × Option Text)) : List Text :=
  settings.map fun setting => Text.lower setting.1

/-- The values that were set under a name in lower case, in order. -/
def valuesOf (settings : List (Text × Option Text)) (key : Text) : List (Option Text) :=
  (settings.filter fun setting => Text.lower setting.1 == key).map Prod.snd

theorem entries_ofSettings (settings : List (Text × Option Text)) :
    (ofSettings settings).entries =
      tableOf (fun setting => Text.lower setting.1) (fun setting => withValue setting.2)
        settings := by
  induction settings using List.reverseRecOn with
  | nil => rfl
  | append_singleton settings setting ih =>
      rw [tableOf_append_singleton, ← ih, ← record_eq_upsert, ofSettings,
        List.foldl_append]
      rfl

variable (settings : List (Text × Option Text))

theorem map_fst_entries : (ofSettings settings).entries.map Prod.fst =
    dedupe (· == ·) (namesOf settings) := by
  rw [entries_ofSettings, keys_tableOf, namesOf]

theorem nodup_map_fst_entries : ((ofSettings settings).entries.map Prod.fst).Nodup := by
  rw [entries_ofSettings]
  exact nodup_keys_tableOf _ _ settings

private theorem foldl_append_value (start : List (Option Text))
    (settings : List (Text × Option Text)) :
    settings.foldl (fun values setting => some (withValue setting.2 values))
      (some start) = some (start ++ settings.map Prod.snd) := by
  induction settings generalizing start with
  | nil => simp
  | cons setting rest ih =>
      rw [List.foldl_cons]
      apply (ih (start ++ [setting.2])).trans
      simp

theorem lookup_entries (key : Text) :
    (ofSettings settings).entries.lookup key =
      if valuesOf settings key = [] then none else some (valuesOf settings key) := by
  rw [entries_ofSettings, lookup_tableOf, valuesOf]
  cases settings.filter fun setting => Text.lower setting.1 == key with
  | nil => rfl
  | cons setting rest => exact foldl_append_value [setting.2] rest

theorem valuesOf_eq_nil_iff (key : Text) :
    valuesOf settings key = [] ↔ key ∉ namesOf settings := by
  simp [valuesOf, namesOf]

theorem mem_items {key : Text} {value : Option Text} :
    (key, value) ∈ (ofSettings settings).items ↔
      key ∈ namesOf settings ∧ value = (valuesOf settings key).getLast?.join := by
  have listed : ∀ values, (key, values) ∈ (ofSettings settings).entries ↔
      key ∈ namesOf settings ∧ values = valuesOf settings key := by
    intro values
    rw [mem_iff_lookup (nodup_map_fst_entries settings), lookup_entries]
    by_cases absent : valuesOf settings key = []
    · have unnamed := (valuesOf_eq_nil_iff settings key).mp absent
      simp [absent, unnamed]
    · have named := not_imp_comm.mp (valuesOf_eq_nil_iff settings key).mpr absent
      simp [absent, named, eq_comm]
  unfold items
  rw [List.mem_map]
  constructor
  · rintro ⟨⟨name, values⟩, member, same⟩
    obtain ⟨rfl, rfl⟩ := Prod.mk.inj same
    obtain ⟨named, rfl⟩ := (listed values).mp member
    exact ⟨named, rfl⟩
  · rintro ⟨named, rfl⟩
    exact ⟨(key, _), (listed _).mpr ⟨named, rfl⟩, rfl⟩

theorem map_fst_items : (ofSettings settings).items.map Prod.fst =
    dedupe (· == ·) (namesOf settings) := by
  rw [← map_fst_entries, items, List.map_map]
  rfl

theorem nodup_map_fst_items : ((ofSettings settings).items.map Prod.fst).Nodup := by
  rw [map_fst_items]
  exact nodup_dedupe _

theorem get?_ofSettings (name : Text) : (ofSettings settings).get? name =
    (valuesOf settings (Text.lower name)).getLast?.join := by
  rw [get?, getAll?, lookup_entries]
  split
  · rename_i absent
    rw [absent]
    rfl
  · rfl

theorem forM_entries {m : Type → Type} [Monad m] (visit : Text → Option Text → m Unit)
    (entries : List (Text × List (Option Text))) :
    entries.forM (fun (name, values) => visit name values.getLast?.join) =
      (entries.map fun (name, values) => (name, values.getLast?.join)).forM
        fun item => visit item.1 item.2 := by
  induction entries with
  | nil => rfl
  | cons entry rest ih =>
      exact congrArg (fun later => visit entry.1 _ >>= fun _ => later) ih

/-- Header fields in two dictionaries: one of latest values, and one of all values. -/
structure Dictionaries where
  latest : List (Text × Option Text)
  all : List (Text × List (Option Text))

namespace Dictionaries

def empty : Dictionaries := ⟨[], []⟩

def set (tables : Dictionaries) (name : Text) (value : Option Text) : Dictionaries :=
  ⟨upsert (Text.lower name) (fun _ => value) tables.latest,
    upsert (Text.lower name) (withValue value) tables.all⟩

def ofSettings (settings : List (Text × Option Text)) : Dictionaries :=
  settings.foldl (fun tables (name, value) => tables.set name value) empty

/-- Each dictionary answers what headers are asked for, as far as it is its part. -/
structure AnswersAs (tables : Dictionaries) (headers : Headers) : Prop where
  get? : ∀ name, (tables.latest.lookup (Text.lower name)).join = headers.get? name
  getAll? : ∀ name, tables.all.lookup (Text.lower name) = headers.getAll? name
  contains : ∀ name, (tables.latest.lookup (Text.lower name)).isSome =
    headers.contains name
  items : tables.latest = headers.items
  each : ∀ (m : Type → Type) [Monad m] (visit : Text → Option Text → m Unit),
    (tables.latest.forM fun (name, value) => visit name value) = headers.each visit
  size : tables.latest.length = headers.size

end Dictionaries

def dictionaries (headers : Headers) : Dictionaries :=
  ⟨headers.items, headers.entries⟩

theorem items_set (headers : Headers) (name : Text) (value : Option Text) :
    (headers.set name value).items =
      upsert (Text.lower name) (fun _ => value) headers.items := by
  unfold items set
  dsimp only
  generalize headers.entries = entries
  induction entries with
  | nil => rfl
  | cons entry rest ih =>
      obtain ⟨other, values⟩ := entry
      rw [record]
      split
      · rename_i same
        simp [upsert, same]
      · rename_i different
        simp [upsert, different, ih]

/-- A setting does to both dictionaries what it does to headers. -/
theorem dictionaries_set (headers : Headers) (name : Text) (value : Option Text) :
    (headers.set name value).dictionaries = headers.dictionaries.set name value := by
  rw [dictionaries, items_set, Dictionaries.set, set, record_eq_upsert]
  rfl

theorem dictionaries_ofSettings :
    (ofSettings settings).dictionaries = Dictionaries.ofSettings settings := by
  refine (List.foldl_hom dictionaries fun headers setting => ?_).symm
  exact (dictionaries_set headers setting.1 setting.2).symm

theorem answersAs_dictionaries (headers : Headers) :
    headers.dictionaries.AnswersAs headers := by
  have latest : ∀ key, headers.items.lookup key =
      (headers.entries.lookup key).map fun values => values.getLast?.join := by
    intro key
    unfold items
    induction headers.entries with
    | nil => rfl
    | cons entry rest ih =>
        rw [List.map_cons, List.lookup_cons, List.lookup_cons, ih]
        split <;> rfl
  refine ⟨fun name => ?_, fun _ => rfl, fun name => ?_, rfl, fun _ _ visit => ?_, ?_⟩
  · change (headers.items.lookup _).join = _
    rw [latest, get?, getAll?]
    cases headers.entries.lookup (Text.lower name) <;> rfl
  · change (headers.items.lookup _).isSome = _
    rw [latest, Option.isSome_map]
    rfl
  · exact (forM_entries visit headers.entries).symm
  · exact List.length_map _

/-- What headers answer when these fields were set. A field whose latest value is missing
is answered like one that was never set, but it is there. -/
structure IsTableOf (headers : Headers) (settings : List (Text × Option Text)) :
    Prop where
  latest : ∀ name, headers.get? name = (valuesOf settings (Text.lower name)).getLast?.join
  values : ∀ name, headers.getAll? name =
    if valuesOf settings (Text.lower name) = [] then none
    else some (valuesOf settings (Text.lower name))
  contains_iff : ∀ name, headers.contains name = true ↔
    valuesOf settings (Text.lower name) ≠ []
  distinct : (headers.items.map Prod.fst).Nodup
  mem_items : ∀ key value, (key, value) ∈ headers.items ↔
    key ∈ namesOf settings ∧ value = (valuesOf settings key).getLast?.join
  ordered : headers.items.Pairwise fun a b =>
    (namesOf settings).idxOf a.1 < (namesOf settings).idxOf b.1
  visited : ∀ (m : Type → Type) [Monad m] (visit : Text → Option Text → m Unit),
    headers.each visit = headers.items.forM fun item => visit item.1 item.2
  size : headers.size = (namesOf settings).toFinset.card
  inStep : (Dictionaries.ofSettings settings).AnswersAs headers

theorem isTableOf_ofSettings : (ofSettings settings).IsTableOf settings where
  latest := get?_ofSettings settings
  values name := lookup_entries settings (Text.lower name)
  contains_iff name := by
    rw [contains, getAll?, lookup_entries]
    split <;> simp_all
  distinct := nodup_map_fst_items settings
  mem_items _ _ := mem_items settings
  ordered := by
    have ordered := pairwise_idxOf_dedupe (namesOf settings)
    rwa [← map_fst_items, List.pairwise_map] at ordered
  visited _ _ visit := forM_entries visit (ofSettings settings).entries
  size := by
    have names :
        (namesOf settings).toFinset = (dedupe (· == ·) (namesOf settings)).toFinset := by
      ext key
      simp only [List.mem_toFinset, mem_dedupe]
    rw [names, List.toFinset_card_of_nodup (nodup_dedupe _), ← map_fst_entries,
      List.length_map]
    rfl
  inStep := by
    rw [← dictionaries_ofSettings]
    exact answersAs_dictionaries _

end RhythmChart.Headers
