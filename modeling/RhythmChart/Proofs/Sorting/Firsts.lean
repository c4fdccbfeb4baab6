import Mathlib.Data.List.Basic
import Mathlib.Data.List.Induction
import Mathlib.Data.List.Nodup
import Mathlib.Data.Nat.Basic
import Mathlib.Order.Lattice
import RhythmChart.Sorting

/-!
# First occurrences

Of entries that are the same the first one is kept, in the order of the list. A list
without its repetitions has the same members, each once, in the order in which they first
occur. What entries in strict order are sent to occurs first at the least of them.
-/

namespace RhythmChart

variable {σ : Type}

section Keeping

variable (same : σ → σ → Bool) (xs : List σ)

theorem dedupe_append_singleton (x : σ) :
    dedupe same (xs ++ [x]) =
      if (dedupe same xs).any (same · x) then dedupe same xs
      else dedupe same xs ++ [x] := by
  rw [dedupe, List.foldl_append]
  rfl

theorem dedupe_sublist : (dedupe same xs).Sublist xs := by
  induction xs using List.reverseRecOn with
  | nil => exact .refl _
  | append_singleton xs x ih =>
      rw [dedupe_append_singleton]
      split
      · exact ih.trans (List.sublist_append_left xs [x])
      · exact ih.append (.refl [x])

variable {same xs}

/-- What is not kept is the same as something before it that is. -/
theorem mem_dedupe_or_exists_same {x : σ} (member : x ∈ xs) :
    x ∈ dedupe same xs ∨ ∃ first ∈ dedupe same xs, same first x = true := by
  induction xs using List.reverseRecOn with
  | nil => cases member
  | append_singleton xs y ih =>
      rw [dedupe_append_singleton]
      rcases List.mem_append.mp member with earlier | last
      · split
        · exact ih earlier
        · refine (ih earlier).imp (List.mem_append_left [y]) ?_
          rintro ⟨first, listed, known⟩
          exact ⟨first, List.mem_append_left [y] listed, known⟩
      · rw [List.mem_singleton.mp last]
        split
        · rename_i known
          exact .inr (List.any_eq_true.mp known)
        · exact .inl (List.mem_append_right _ (List.mem_singleton_self y))

end Keeping

section Repetitions

variable [BEq σ] [LawfulBEq σ]

theorem mem_dedupe {xs : List σ} {x : σ} : x ∈ dedupe (· == ·) xs ↔ x ∈ xs := by
  refine ⟨fun listed => (dedupe_sublist _ xs).mem listed, fun member => ?_⟩
  rcases mem_dedupe_or_exists_same member with listed | ⟨first, listed, same⟩
  · exact listed
  · exact eq_of_beq same ▸ listed

/-- Each member is listed behind those that occur before it. -/
theorem pairwise_idxOf_dedupe (xs : List σ) :
    (dedupe (· == ·) xs).Pairwise fun a b => xs.idxOf a < xs.idxOf b := by
  induction xs using List.reverseRecOn with
  | nil => exact .nil
  | append_singleton xs x ih =>
      have among : ∀ {a}, a ∈ dedupe (· == ·) xs → (xs ++ [x]).idxOf a = xs.idxOf a :=
        fun member => List.idxOf_append_of_mem (mem_dedupe.mp member)
      have kept : (dedupe (· == ·) xs).Pairwise fun a b =>
          (xs ++ [x]).idxOf a < (xs ++ [x]).idxOf b := by
        refine ih.imp_of_mem fun listed listed' less => ?_
        rwa [among listed, among listed']
      rw [dedupe_append_singleton]
      split
      · exact kept
      · rename_i new
        rw [List.any_beq', List.contains_iff_mem, mem_dedupe] at new
        refine List.pairwise_append.mpr ⟨kept, List.pairwise_singleton _ x, ?_⟩
        intro a listed b last
        rw [List.mem_singleton.mp last, among listed, List.idxOf_append_of_notMem new]
        exact Nat.lt_add_right _ (List.idxOf_lt_length_iff.mpr (mem_dedupe.mp listed))

theorem nodup_dedupe (xs : List σ) : (dedupe (· == ·) xs).Nodup :=
  (pairwise_idxOf_dedupe xs).imp fun less same => absurd (same ▸ less) (Nat.lt_irrefl _)

/-- In a list in strict order the positions compare like the ranks. -/
theorem idxOf_lt_idxOf_iff {κ : Type} [LinearOrder κ] (rank : σ → κ) {xs : List σ}
    (ordered : xs.Pairwise fun a b => rank a < rank b) {a b : σ} (member : a ∈ xs)
    (member' : b ∈ xs) : xs.idxOf a < xs.idxOf b ↔ rank a < rank b := by
  have before : ∀ {c d}, c ∈ xs → d ∈ xs → xs.idxOf c < xs.idxOf d → rank c < rank d := by
    intro c d listed listed' less
    have inside := List.idxOf_lt_length_of_mem listed
    have inside' := List.idxOf_lt_length_of_mem listed'
    have ranked := List.pairwise_iff_getElem.mp ordered _ _ inside inside' less
    rwa [List.getElem_idxOf, List.getElem_idxOf] at ranked
  refine ⟨before member member', fun less => ?_⟩
  rcases Nat.lt_trichotomy (xs.idxOf a) (xs.idxOf b) with first | same | last
  · exact first
  · rw [(List.idxOf_inj member).mp same] at less
    exact absurd less (lt_irrefl _)
  · exact absurd (before member' member last) (not_lt_of_gt less)

theorem idxOf_dedupe_lt_iff {xs : List σ} {a b : σ} (member : a ∈ xs) (member' : b ∈ xs) :
    (dedupe (· == ·) xs).idxOf a < (dedupe (· == ·) xs).idxOf b ↔
      xs.idxOf a < xs.idxOf b :=
  idxOf_lt_idxOf_iff xs.idxOf (pairwise_idxOf_dedupe xs) (mem_dedupe.mpr member)
    (mem_dedupe.mpr member')

variable {τ : Type} {f : τ → Option σ}

theorem findIdx_lt_of_idxOf_filterMap_lt {xs : List τ} {a b : σ}
    (less : (xs.filterMap f).idxOf a < (xs.filterMap f).idxOf b) :
    xs.findIdx (f · == some a) < xs.findIdx (f · == some b) := by
  induction xs with
  | nil => exact absurd less (Nat.lt_irrefl _)
  | cons x rest ih =>
      rw [List.findIdx_cons, List.findIdx_cons]
      cases image : f x with
      | none =>
          rw [List.filterMap_cons_none image] at less
          exact Nat.succ_lt_succ (ih less)
      | some y =>
          rw [List.filterMap_cons_some image] at less
          by_cases last : y = b
          · rw [last, List.idxOf_cons_self] at less
            exact absurd less (Nat.not_lt_zero _)
          · have behind : (some y == some b) = false := by simpa using last
            rw [behind]
            by_cases first : y = a
            · rw [first, beq_self_eq_true]
              exact Nat.succ_pos _
            · have behind' : (some y == some a) = false := by simpa using first
              rw [List.idxOf_cons_ne _ first, List.idxOf_cons_ne _ last] at less
              rw [behind']
              exact Nat.succ_lt_succ (ih (Nat.lt_of_succ_lt_succ less))

/-- Images are listed in the order in which something is first sent to them. -/
theorem pairwise_findIdx_dedupe (xs : List τ) :
    (dedupe (· == ·) (xs.filterMap f)).Pairwise fun a b =>
      xs.findIdx (f · == some a) < xs.findIdx (f · == some b) :=
  (pairwise_idxOf_dedupe _).imp findIdx_lt_of_idxOf_filterMap_lt

end Repetitions

section Images

variable {σ τ κ : Type} [LinearOrder κ] (image : τ → σ) (rank : τ → κ)

/-- The least entry with an image. -/
structure IsLeastEntry (xs : List τ) (u : σ) (a : τ) : Prop where
  member : a ∈ xs
  sent : image a = u
  least : ∀ x ∈ xs, image x = u → rank a ≤ rank x

variable {image rank} {xs : List τ} {u v : σ} {a b : τ}

theorem exists_isLeastEntry (ordered : xs.Pairwise fun a b => rank a < rank b)
    (listed : u ∈ xs.map image) : ∃ a, IsLeastEntry image rank xs u a := by
  induction xs with
  | nil => cases listed
  | cons x rest ih =>
      obtain ⟨behind, ordered⟩ := List.pairwise_cons.mp ordered
      by_cases first : image x = u
      · refine ⟨x, List.mem_cons_self, first, ?_⟩
        intro y member _
        rcases List.mem_cons.mp member with rfl | later
        · exact le_rfl
        · exact le_of_lt (behind y later)
      · have later : u ∈ rest.map image := by simpa [Ne.symm first] using listed
        obtain ⟨a, member, sent, least⟩ := ih ordered later
        refine ⟨a, List.mem_cons_of_mem x member, sent, ?_⟩
        intro y member' sent'
        rcases List.mem_cons.mp member' with rfl | later'
        · exact absurd sent' first
        · exact least y later' sent'

theorem IsLeastEntry.tail {x : τ} (first : image x ≠ u)
    (leastEntry : IsLeastEntry image rank (x :: xs) u a) :
    IsLeastEntry image rank xs u a := by
  obtain ⟨member, sent, least⟩ := leastEntry
  refine ⟨?_, sent, fun y member' => least y (List.mem_cons_of_mem x member')⟩
  rcases List.mem_cons.mp member with rfl | later
  · exact absurd sent first
  · exact later

variable [BEq σ] [LawfulBEq σ]

theorem idxOf_map_lt_of_lt (ordered : xs.Pairwise fun a b => rank a < rank b)
    (leastEntry : IsLeastEntry image rank xs u a)
    (leastEntry' : IsLeastEntry image rank xs v b)
    (less : rank a < rank b) : (xs.map image).idxOf u < (xs.map image).idxOf v := by
  induction xs with
  | nil => cases leastEntry.member
  | cons x rest ih =>
      obtain ⟨behind, ordered⟩ := List.pairwise_cons.mp ordered
      rw [List.map_cons]
      by_cases last : image x = v
      · exfalso
        have least := leastEntry'.least x List.mem_cons_self last
        rcases List.mem_cons.mp leastEntry.member with rfl | later
        · exact absurd less (not_lt_of_ge least)
        · exact absurd (lt_of_lt_of_le less least) (lt_asymm (behind a later))
      · rw [List.idxOf_cons_ne _ last]
        by_cases first : image x = u
        · rw [first, List.idxOf_cons_self]
          exact Nat.succ_pos _
        · rw [List.idxOf_cons_ne _ first]
          exact Nat.succ_lt_succ
            (ih ordered (leastEntry.tail first) (leastEntry'.tail last))

/-- The images of entries in strict order occur in the order of their least entries. -/
theorem idxOf_map_lt_iff (ordered : xs.Pairwise fun a b => rank a < rank b)
    (leastEntry : IsLeastEntry image rank xs u a)
    (leastEntry' : IsLeastEntry image rank xs v b) :
    (xs.map image).idxOf u < (xs.map image).idxOf v ↔ rank a < rank b := by
  refine ⟨fun before => ?_, idxOf_map_lt_of_lt ordered leastEntry leastEntry'⟩
  rcases lt_trichotomy (rank a) (rank b) with less | same | greater
  · exact less
  · have distinct : (xs.map rank).Nodup := List.pairwise_map.mpr (ordered.imp ne_of_lt)
    have one :=
      List.inj_on_of_nodup_map distinct leastEntry.member leastEntry'.member same
    rw [← leastEntry.sent, ← leastEntry'.sent, one] at before
    exact absurd before (Nat.lt_irrefl _)
  · have after := idxOf_map_lt_of_lt ordered leastEntry' leastEntry greater
    exact absurd before (Nat.lt_asymm after)

end Images

end RhythmChart
