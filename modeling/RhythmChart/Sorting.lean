/-!
# Stable sorting

Objects are put in order of their position, actions in order of their beat, and entries
that compare equal keep the order they came in. Insertion from the back of the list does
this by structural recursion, and takes one comparison for each entry that is already in
place. It permutes its list.

Entries that cannot be ordered, such as those on an undefined beat, have no place of their
own: where they end up depends on the comparisons that are made. Lists that may hold them
are sorted as `RhythmChart.Sorting.Adaptive` lays down.
-/

namespace RhythmChart

variable {σ : Type}

/-- Puts an entry in front of the first one that it need not follow. -/
def insertSorted (precedes : σ → σ → Bool) (x : σ) : List σ → List σ
  | [] => [x]
  | y :: rest =>
      if precedes y x then y :: insertSorted precedes x rest else x :: y :: rest

/-- Sorts by a strict comparison; entries neither of which precedes the
other keep their order. -/
def sortBy (precedes : σ → σ → Bool) (xs : List σ) : List σ :=
  xs.foldr (insertSorted precedes) []

/-- Keeps the first of equal entries. -/
def dedupe (same : σ → σ → Bool) (xs : List σ) : List σ :=
  xs.foldl (fun kept x => if kept.any (same · x) then kept else kept ++ [x]) []

theorem insertSorted_perm (precedes : σ → σ → Bool) (x : σ) (xs : List σ) :
    (insertSorted precedes x xs).Perm (x :: xs) := by
  induction xs with
  | nil => exact .refl _
  | cons y rest ih =>
      unfold insertSorted
      split
      · exact (ih.cons y).trans (.swap x y rest)
      · exact .refl _

theorem sortBy_perm (precedes : σ → σ → Bool) (xs : List σ) :
    (sortBy precedes xs).Perm xs := by
  induction xs with
  | nil => exact .refl _
  | cons x rest ih => exact (insertSorted_perm precedes x _).trans (ih.cons x)

end RhythmChart
