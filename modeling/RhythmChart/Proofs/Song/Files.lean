import Mathlib
import RhythmChart.Proofs.Song.SoundTable
import RhythmChart.Proofs.Sorting.Stable

/-!
# Files in the order of their ids

The files of keysounds are listed once each, in the order of their least ids. Sorting puts
the entries in strict order, since no two of them have one id, and the first entry of a
file is then the one with its least id.
-/

namespace RhythmChart

theorem Text.precedes_iff_lt (a b : Text) : precedes a b = true ↔ a < b := by
  induction a generalizing b with
  | nil => cases b <;> simp [precedes]
  | cons first rest ih =>
      cases b with
      | nil => simp [precedes]
      | cons first' rest' =>
          rw [List.cons_lt_cons_iff, ← ih, precedes, Bool.or_eq_true, decide_eq_true_eq,
            Bool.and_eq_true, beq_iff_eq]
          rfl

namespace Keysounds

/-- The place of an id: numbers by value and then by text, and behind them
the other ids by text. -/
def rank (id : Text) : WithTop Int ×ₗ Text :=
  toLex ((index? id).elim ⊤ WithTop.some, id)

theorem rank_injective : Function.Injective rank :=
  fun _ _ same => congrArg (fun place => (ofLex place).2) same

theorem idPrecedes_eq (a b : Text) : idPrecedes a b = decide (rank a < rank b) := by
  rw [Bool.eq_iff_iff, decide_eq_true_eq, rank, rank, Prod.Lex.toLex_lt_toLex, idPrecedes]
  cases index? a with
  | none =>
      cases index? b with
      | none => simp [Text.precedes_iff_lt]
      | some j => simp
  | some i =>
      cases index? b with
      | none => simp
      | some j => simp [Text.precedes_iff_lt]

section Given

variable (given : List (Text × Text))

/-- A file and the least id, in lower case, that it was given for. -/
structure IsLeastId (file id : Text) : Prop where
  found : fileOf? given id = some file
  least : ∀ other, fileOf? given other = some file → rank id ≤ rank other

def sorted : List (Text × Text) :=
  sortBy (fun a b => idPrecedes a.1 b.1) (ofEntries given).entries

variable {given}

theorem mem_sorted {id file : Text} : (id, file) ∈ sorted given ↔
      fileOf? given id = some file :=
  (sortBy_perm _ _).mem_iff.trans (mem_entries given)

theorem mem_map_sorted {file : Text} :
    file ∈ (sorted given).map Prod.snd ↔ ∃ id, fileOf? given id = some file := by
  simp [← mem_sorted]

variable (given)

theorem pairwise_sorted : (sorted given).Pairwise fun a b => rank a.1 < rank b.1 := by
  have ranking := isStrictRanking_lt.comap fun entry : Text × Text => rank entry.1
  have notAfter :
      (sorted given).Pairwise fun a b => decide (rank b.1 < rank a.1) = false := by
    simp only [sorted, idPrecedes_eq]
    exact isSorted_sortBy ranking _
  have distinct : ((sorted given).map Prod.fst).Nodup :=
    ((sortBy_perm _ _).map Prod.fst).nodup_iff.mpr (nodup_map_fst_entries given)
  apply (notAfter.and (List.pairwise_map.mp distinct)).imp
  rintro a b ⟨notAfter, apart⟩
  apply lt_of_le_of_ne (le_of_not_gt (of_decide_eq_false notAfter))
  exact fun same => apart (rank_injective same)

variable {given}

theorem IsLeastId.isLeastEntry {file id : Text} (leastId : IsLeastId given file id) :
    IsLeastEntry Prod.snd (fun entry => rank entry.1) (sorted given) file (id, file) := by
  refine ⟨mem_sorted.mpr leastId.found, rfl, ?_⟩
  rintro ⟨other, file'⟩ member rfl
  exact leastId.least other (mem_sorted.mp member)

theorem exists_isLeastId {file : Text} (listed : file ∈ (sorted given).map Prod.snd) :
    ∃ id, IsLeastId given file id := by
  obtain ⟨⟨id, file'⟩, member, rfl, least⟩ :=
    exists_isLeastEntry (pairwise_sorted given) listed
  refine ⟨id, mem_sorted.mp member, fun other found => ?_⟩
  exact least (other, file') (mem_sorted.mpr found) rfl

theorem isLeastId_iff {file id : Text} : IsLeastId given file id ↔
    (id, file) ∈ (ofEntries given).entries ∧
      ∀ entry ∈ (ofEntries given).entries, entry.2 = file →
        idPrecedes entry.1 id = false := by
  constructor
  · rintro ⟨found, least⟩
    refine ⟨(mem_entries given).mpr found, ?_⟩
    rintro ⟨other, file'⟩ member rfl
    rw [idPrecedes_eq]
    exact decide_eq_false (not_lt_of_ge (least other ((mem_entries given).mp member)))
  · rintro ⟨member, least⟩
    refine ⟨(mem_entries given).mp member, fun other found => ?_⟩
    have notBefore := least (other, file) ((mem_entries given).mpr found) rfl
    rw [idPrecedes_eq] at notBefore
    exact le_of_not_gt (of_decide_eq_false notBefore)

instance (file id : Text) : Decidable (IsLeastId given file id) :=
  decidable_of_iff _ isLeastId_iff.symm

variable (given)

/-- The files that are given for some id are listed once each, in the
order of their least ids. -/
theorem files_in_order_of_least_ids :
    (∀ file, file ∈ (ofEntries given).files ↔ ∃ id, fileOf? given id = some file) ∧
    (ofEntries given).files.Nodup ∧
    (∀ file ∈ (ofEntries given).files, ∃ id, IsLeastId given file id) ∧
    ∀ f g a b, IsLeastId given f a → IsLeastId given g b →
      ((ofEntries given).files.idxOf f < (ofEntries given).files.idxOf g ↔
        rank a < rank b) := by
  have listing : (ofEntries given).files =
    dedupe (· == ·) ((sorted given).map Prod.snd) := rfl
  rw [listing]
  refine ⟨fun file => mem_dedupe.trans mem_map_sorted, nodup_dedupe _, ?_, ?_⟩
  · intro file listed
    exact exists_isLeastId (mem_dedupe.mp listed)
  · intro f g a b leastId leastId'
    rw [idxOf_dedupe_lt_iff (mem_map_sorted.mpr ⟨a, leastId.found⟩)
      (mem_map_sorted.mpr ⟨b, leastId'.found⟩)]
    exact idxOf_map_lt_iff (pairwise_sorted given) leastId.isLeastEntry
      leastId'.isLeastEntry

end Given

/-- Two spellings of one number, an id that is no number, and a file with two ids. -/
def respelledIds : List (Text × Text) :=
  [("!!", "noise"), ("ZZ", "kick"), ("2", "kick"), ("02", "hat"), ("zz", "kick")].map
    fun (id, file) => (id.toList, file.toList)

theorem files_in_order_of_least_ids_respelled :
    IsLeastId respelledIds "hat".toList "02".toList ∧
      IsLeastId respelledIds "kick".toList "2".toList ∧
      (ofEntries respelledIds).files.idxOf "hat".toList <
        (ofEntries respelledIds).files.idxOf "kick".toList := by
  have hat : IsLeastId respelledIds "hat".toList "02".toList := by decide +kernel
  have kick : IsLeastId respelledIds "kick".toList "2".toList := by decide +kernel
  have before : idPrecedes "02".toList "2".toList = true := by decide +kernel
  rw [idPrecedes_eq, decide_eq_true_eq] at before
  have ordered := (files_in_order_of_least_ids respelledIds).2.2.2 _ _ _ _ hat kick
  exact ⟨hat, kick, ordered.mpr before⟩

end Keysounds

end RhythmChart
