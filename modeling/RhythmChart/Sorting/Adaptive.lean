import RhythmChart.Sorting
import RhythmChart.Sorting.Merging
import RhythmChart.Sorting.Runs

/-!
# Adaptive sorting

The runs of a list are merged in an order that suits their lengths. Each boundary between
two runs has a depth in the halving of the whole list: the number of binary digits that
tell the middles of the two runs apart. Runs wait on a pile whose boundaries become ever
deeper; before a shallower boundary is laid on top, the runs above every deeper one are
merged. At the end the pile is merged from the top.

For a strict order this sorts stably. With entries that have no order it still fixes which
comparisons are made, and so where every entry ends up. It always permutes its list.
-/

namespace RhythmChart

variable {σ : Type}

/-- How often a length is halved until it is less than sixty-four. -/
def halvings (length : Nat) : Nat :=
  if length < 64 then 0 else halvings (length / 2) + 1

/-- The least length of a run: the whole list if it has less than sixty-four
entries, and otherwise a length, rounded up, that divides the list into nearly a
power of two of runs. -/
def leastRun (length : Nat) : Nat :=
  let least := length >>> halvings length
  if least <<< halvings length = length then least else least + 1

/-- The depth of the boundary between two neighbouring runs, the first of which has so
many entries before it in a list of `length` entries. -/
def boundaryDepth (length before first second : Nat) : Nat :=
  let middle := 2 * before + first
  let nextMiddle := middle + first + second
  let apart := fun (digit : Nat) =>
    decide ((middle <<< digit) / length ≠ (nextMiddle <<< digit) / length)
  (((List.range (length.log2 + 2)).find? apart).getD 0) + 1

/-- Runs that wait to be merged. -/
structure Pile (σ : Type) where
  top : List σ
  /-- The runs before it, the latest first, each with the depth of the
  boundary after it. -/
  below : List (Nat × List σ)
  patience : Nat

namespace Pile

def lower (below : List (Nat × List σ)) : List σ :=
  (below.reverse.map Prod.snd).flatten

def entries (pile : Pile σ) : List σ :=
  lower pile.below ++ pile.top

/-- Merges the runs above every boundary that is deeper than the given depth. -/
def settle (precedes : σ → σ → Bool) (depth : Nat) (top : List σ) (patience : Nat) :
    List (Nat × List σ) → Pile σ
  | [] => ⟨top, [], patience⟩
  | (deeper, run) :: below =>
      if depth < deeper then
        let (merged, left) := mergeRuns precedes patience run top
        settle precedes depth merged left below
      else ⟨top, (deeper, run) :: below, patience⟩

/-- Lays the next run of a list of `length` entries on top. -/
def push (precedes : σ → σ → Bool) (length : Nat) (pile : Pile σ) (run : List σ) :
    Pile σ :=
  let depth := boundaryDepth length (lower pile.below).length pile.top.length run.length
  let settled := settle precedes depth pile.top pile.patience pile.below
  ⟨run, (depth, settled.top) :: settled.below, settled.patience⟩

/-- Merges all runs, the latest first: the two on top, or the two below the top if the
lower one of them is shorter than the top. -/
def collapse (precedes : σ → σ → Bool) (patience : Nat) (top : List σ) :
    (below : List (List σ)) → List σ
  | [] => top
  | [run] => (mergeRuns precedes patience run top).1
  | run :: lowest :: below =>
      if lowest.length < top.length then
        let (merged, left) := mergeRuns precedes patience lowest run
        collapse precedes left top (merged :: below)
      else
        let (merged, left) := mergeRuns precedes patience run top
        collapse precedes left merged (lowest :: below)
termination_by below => below.length

theorem lower_cons (depth : Nat) (run : List σ) (below : List (Nat × List σ)) :
    lower ((depth, run) :: below) = lower below ++ run := by
  simp [lower]

theorem settle_perm (precedes : σ → σ → Bool) (depth : Nat) (top : List σ)
    (patience : Nat) (below : List (Nat × List σ)) :
    (settle precedes depth top patience below).entries.Perm (lower below ++ top) := by
  induction below generalizing top patience with
  | nil => exact .refl _
  | cons entry below ih =>
      obtain ⟨deeper, run⟩ := entry
      unfold settle
      split
      · refine (ih ..).trans (((mergeRuns_perm ..).append_left _).trans (.of_eq ?_))
        rw [lower_cons, List.append_assoc]
      · exact .refl _

theorem push_perm (precedes : σ → σ → Bool) (length : Nat) (pile : Pile σ)
    (run : List σ) :
    (pile.push precedes length run).entries.Perm (pile.entries ++ run) := by
  unfold push
  dsimp only [entries]
  rw [lower_cons]
  exact (settle_perm ..).append_right _

theorem collapse_perm (precedes : σ → σ → Bool) (patience : Nat) (top : List σ)
    (below : List (List σ)) :
    (collapse precedes patience top below).Perm (below.reverse.flatten ++ top) := by
  fun_induction collapse precedes patience top below with
  | case1 => exact .refl _
  | case2 patience top run => simpa using mergeRuns_perm precedes patience run top
  | case3 patience top run lowest below shorter merged left split ih =>
      have merges := mergeRuns_perm precedes patience lowest run
      rw [split] at merges
      refine ih.trans ?_
      simpa using (merges.append_right top).append_left below.reverse.flatten
  | case4 patience top run lowest below longer merged left split ih =>
      have merges := mergeRuns_perm precedes patience run top
      rw [split] at merges
      refine ih.trans ?_
      simpa using merges.append_left (below.reverse.flatten ++ lowest)

end Pile

/-- Sorts by a strict comparison, under which some entries may have no order. -/
def sortAdaptively (precedes : σ → σ → Bool) (xs : List σ) : List σ :=
  match runs precedes (leastRun xs.length) xs with
  | [] => []
  | first :: rest =>
      let pile := rest.foldl (Pile.push precedes xs.length) ⟨first, [], Merge.gallopGain⟩
      Pile.collapse precedes pile.patience pile.top (pile.below.map Prod.snd)

/-- Sorts by a strict comparison, under which the entries that are
marked have no order. -/
def sortPartly (hasNoOrder : σ → Bool) (precedes : σ → σ → Bool) (xs : List σ) : List σ :=
  if xs.any hasNoOrder then sortAdaptively precedes xs else sortBy precedes xs

theorem foldl_push_perm (precedes : σ → σ → Bool) (length : Nat) (pile : Pile σ)
    (rest : List (List σ)) :
    (rest.foldl (Pile.push precedes length) pile).entries.Perm
    (pile.entries ++ rest.flatten) := by
  induction rest generalizing pile with
  | nil => simp
  | cons run rest ih =>
      refine (ih _).trans (((Pile.push_perm ..).append_right _).trans (.of_eq ?_))
      simp

theorem sortAdaptively_perm (precedes : σ → σ → Bool) (xs : List σ) :
    (sortAdaptively precedes xs).Perm xs := by
  have whole := runs_perm precedes (leastRun xs.length) xs
  unfold sortAdaptively
  split
  · rename_i noRuns
    simpa [noRuns] using whole
  · rename_i first rest found
    rw [found] at whole
    refine (Pile.collapse_perm ..).trans (.trans ?_ whole)
    have piled := foldl_push_perm precedes xs.length ⟨first, [], Merge.gallopGain⟩ rest
    simpa [Pile.entries, Pile.lower] using piled

theorem sortPartly_perm (hasNoOrder : σ → Bool) (precedes : σ → σ → Bool) (xs : List σ) :
    (sortPartly hasNoOrder precedes xs).Perm xs := by
  unfold sortPartly
  split
  · exact sortAdaptively_perm precedes xs
  · exact sortBy_perm precedes xs

end RhythmChart
