import Mathlib.Order.Lattice
import RhythmChart.Sorting

/-!
# Stable sorting

Sorting by a strict comparison puts a list in order, and entries that compare equal stay
in the order they came in. The second fact is used in the form that a fold cannot tell a
list from its sorting as long as it does not matter to the fold when an entry and one that
precedes it change places.
-/

namespace RhythmChart

variable {σ : Type} {precedes : σ → σ → Bool}

/-- A strict comparison whose negation is an order that ranks all entries. -/
structure IsStrictRanking (precedes : σ → σ → Bool) : Prop where
  asymm : ∀ {a b}, precedes a b = true → precedes b a = false
  trans : ∀ {a b c}, precedes b a = false → precedes c b = false → precedes c a = false

/-- No entry precedes one that stands before it. -/
def IsSorted (precedes : σ → σ → Bool) (xs : List σ) : Prop :=
  xs.Pairwise fun a b => precedes b a = false

theorem isSorted_insertSorted (ranking : IsStrictRanking precedes) (x : σ) {xs : List σ}
    (sorted : IsSorted precedes xs) : IsSorted precedes (insertSorted precedes x xs) := by
  induction xs with
  | nil => exact List.pairwise_singleton _ x
  | cons y rest ih =>
      obtain ⟨headFirst, restSorted⟩ := List.pairwise_cons.mp sorted
      unfold insertSorted
      by_cases first : precedes y x = true
      · rw [if_pos first]
        refine List.pairwise_cons.mpr ⟨?_, ih restSorted⟩
        intro z member
        rcases List.mem_cons.mp ((insertSorted_perm precedes x rest).mem_iff.mp member)
          with
          inserted | old
        · rw [inserted]
          exact ranking.asymm first
        · exact headFirst z old
      · rw [if_neg first]
        have notBefore : precedes y x = false := Bool.eq_false_iff.mpr first
        refine List.pairwise_cons.mpr ⟨?_, sorted⟩
        intro z member
        rcases List.mem_cons.mp member with same | later
        · rw [same]
          exact notBefore
        · exact ranking.trans notBefore (headFirst z later)

theorem isSorted_sortBy (ranking : IsStrictRanking precedes) (xs : List σ) :
    IsSorted precedes (sortBy precedes xs) := by
  induction xs with
  | nil => exact List.Pairwise.nil
  | cons x rest ih => exact isSorted_insertSorted ranking x ih

theorem IsStrictRanking.comap {τ : Type} (ranking : IsStrictRanking precedes)
    (f : τ → σ) : IsStrictRanking fun a b => precedes (f a) (f b) where
  asymm := ranking.asymm
  trans := ranking.trans

theorem isStrictRanking_lt {κ : Type} [LinearOrder κ] :
    IsStrictRanking fun a b : κ => decide (a < b) where
  asymm before := decide_eq_false (not_lt_of_gt (of_decide_eq_true before))
  trans notBefore notBefore' := by
    have first := le_of_not_gt (of_decide_eq_false notBefore)
    have second := le_of_not_gt (of_decide_eq_false notBefore')
    exact decide_eq_false (not_lt_of_ge (le_trans first second))

section Agreement

variable {precedes' : σ → σ → Bool}

theorem insertSorted_congr {x : σ} {xs : List σ}
    (agree : ∀ y ∈ xs, precedes y x = precedes' y x) :
    insertSorted precedes x xs = insertSorted precedes' x xs := by
  induction xs with
  | nil => rfl
  | cons y rest ih =>
      rw [insertSorted, insertSorted, agree y List.mem_cons_self,
        ih fun z member => agree z (List.mem_cons_of_mem y member)]

/-- Comparisons that agree on the entries of a list sort it alike. -/
theorem sortBy_congr {xs : List σ}
    (agree : ∀ a ∈ xs, ∀ b ∈ xs, precedes a b = precedes' a b) :
    sortBy precedes xs = sortBy precedes' xs := by
  induction xs with
  | nil => rfl
  | cons x rest ih =>
      change insertSorted precedes x (sortBy precedes rest) =
        insertSorted precedes' x (sortBy precedes' rest)
      rw [ih fun a listed b listed' =>
        agree a (List.mem_cons_of_mem x listed) b (List.mem_cons_of_mem x listed')]
      refine insertSorted_congr fun y member => ?_
      have listed : y ∈ rest := (sortBy_perm precedes' rest).mem_iff.mp member
      exact agree y (List.mem_cons_of_mem x listed) x List.mem_cons_self

end Agreement

section Folds

variable {β : Type} {f : β → σ → β}

theorem foldl_insertSorted
    (commutes : ∀ start x y, precedes y x = true → f (f start x) y = f (f start y) x)
    (x : σ) (xs : List σ) (start : β) :
    (insertSorted precedes x xs).foldl f start = (x :: xs).foldl f start := by
  induction xs generalizing start with
  | nil => rfl
  | cons y rest ih =>
      unfold insertSorted
      by_cases first : precedes y x = true
      · rw [if_pos first, List.foldl_cons, ih]
        simp only [List.foldl_cons]
        rw [commutes start x y first]
      · rw [if_neg first]

/-- A fold that does not mind when entries change places with those that precede them
gives the same result on a list and on its sorting. -/
theorem foldl_sortBy
    (commutes : ∀ start x y, precedes y x = true → f (f start x) y = f (f start y) x)
    (xs : List σ) (start : β) :
    (sortBy precedes xs).foldl f start = xs.foldl f start := by
  induction xs generalizing start with
  | nil => rfl
  | cons x rest ih =>
      change (insertSorted precedes x (sortBy precedes rest)).foldl f start = _
      rw [foldl_insertSorted commutes, List.foldl_cons, ih, List.foldl_cons]

end Folds

end RhythmChart
