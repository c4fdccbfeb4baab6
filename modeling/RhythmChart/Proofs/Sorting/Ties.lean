import Mathlib.Data.List.Basic
import RhythmChart.Proofs.Sorting.Stable

/-!
# Ties

Entries that tie stay in the order they came in when a list is sorted. The other way
round, a fold may only mind in which order the entries of one class come. Then it gives
the same on all lists that agree in every class, however the classes are mixed.
-/

namespace RhythmChart

variable {σ : Type}

section Sorting

variable {precedes : σ → σ → Bool} {p : σ → Bool}

end Sorting

section Folds

variable {β κ : Type} {f : β → σ → β}

/-- An entry may be taken before others when the fold does not mind. -/
theorem foldl_take_first {x : σ} {before after : List σ}
    (passes : ∀ y ∈ before, ∀ start, f (f start y) x = f (f start x) y) (start : β) :
    (before ++ x :: after).foldl f start = (before ++ after).foldl f (f start x) := by
  induction before generalizing start with
  | nil => rfl
  | cons y rest ih =>
      rw [List.cons_append, List.foldl_cons,
        ih fun z member => passes z (List.mem_cons_of_mem y member),
        passes y List.mem_cons_self start]
      rfl

/-- Entries of different classes may change places, and the lists agree in every class. -/
theorem foldl_eq_of_classes [DecidableEq κ] (key : σ → κ)
    (passes : ∀ start x y, key x ≠ key y → f (f start x) y = f (f start y) x)
    {xs ys : List σ}
    (classes : ∀ k, xs.filter (fun x => key x = k) = ys.filter fun y => key y = k)
    (start : β) : xs.foldl f start = ys.foldl f start := by
  induction xs generalizing ys start with
  | nil =>
      cases ys with
      | nil => rfl
      | cons y rest =>
          have alone := classes (key y)
          simp at alone
  | cons x rest ih =>
      have first := classes (key x)
      rw [List.filter_cons_of_pos (by simp)] at first
      obtain ⟨before, after, rfl, others, -, later⟩ :=
        List.filter_eq_cons_iff.mp first.symm
      have different : ∀ y ∈ before, key y ≠ key x := fun y member same =>
        others y member (decide_eq_true same)
      rw [List.foldl_cons, foldl_take_first fun y member start =>
        passes start y x (different y member)]
      refine ih (fun k => ?_) (f start x)
      by_cases here : key x = k
      · subst here
        rw [List.filter_append, later, List.filter_eq_nil_iff.mpr others, List.nil_append]
      · have elsewhere := classes k
        rwa [List.filter_cons_of_neg (by simpa using here), List.filter_append,
          List.filter_cons_of_neg
            (by simpa using here), ← List.filter_append] at elsewhere

end Folds

end RhythmChart
