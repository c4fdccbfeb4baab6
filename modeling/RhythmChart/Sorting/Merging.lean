/-!
# Merging runs

Two neighbouring runs are merged from the front or from the back of the list, entry by
entry. When one run has given so many entries in a row that patience ends, the merge
gallops: it finds by ever greater strides how many entries of a run come next, and takes
them at once. As long as galloping pays, patience shrinks; when it no longer does,
patience grows again, and it is handed on to the next merge.

The two directions are the same procedure on lists that are read from that end. Which
entries a procedure takes depends on the comparisons it makes, but merging always permutes
the entries of the two runs.
-/

namespace RhythmChart

variable {σ : Type}

/-- The end of the list from which two runs are merged. -/
inductive MergeEnd where
  | front
  | back
  deriving DecidableEq, Repr

namespace MergeEnd

/-- The middle of so many places, counted from this end of the list. Of two middle places
it is the one nearer to the back. -/
def middle : MergeEnd → Nat → Nat
  | front, count => count / 2
  | back, count => (count - 1) / 2

theorem middle_lt (side : MergeEnd) {count : Nat} (nonempty : 0 < count) :
    side.middle count < count := by
  cases side <;> simp only [middle] <;> omega

end MergeEnd

/-- Widens a stride from an entry that holds at `held` to one at `next`, as long
as that holds too: the last place found to hold, and one that does not or that
lies behind the list. -/
def stride (holds : σ → Bool) (xs : List σ) (held next : Nat) : Nat × Nat :=
  if next < xs.length then
    if (xs[next]?).any holds then stride holds xs next (2 * next + 1) else (held, next)
  else (held, xs.length)
termination_by xs.length - next
decreasing_by omega

/-- How many entries of a list hold, if at least `low` and at most `high`
do, found by halving. -/
def narrow (side : MergeEnd) (holds : σ → Bool) (xs : List σ) (low high : Nat) : Nat :=
  if gap : low < high then
    let place := low + side.middle (high - low)
    if (xs[place]?).any holds then narrow side holds xs (place + 1) high
    else narrow side holds xs low place
  else high
termination_by high - low
decreasing_by
  all_goals
    have middle := side.middle_lt (Nat.sub_pos_of_lt gap)
    omega

/-- How many entries at the front of a list hold, found by strides. -/
def countLeading (side : MergeEnd) (holds : σ → Bool) (xs : List σ) : Nat :=
  if xs.head?.any holds then
    let (held, next) := stride holds xs 0 1
    narrow side holds xs (held + 1) next
  else 0

/-- A merge that is going on, both runs read from the end at which it began. -/
structure Merge (σ : Type) where
  /-- The rest of the run whose last entry comes last of all. -/
  held : List σ
  /-- The rest of the run whose first entry came first of all. -/
  moving : List σ
  /-- What is merged so far, the latest first. -/
  merged : List σ

/-- How a merge goes on. -/
inductive Merge.Pace where
  /-- Entry by entry; one of the runs has won so many times in a row. -/
  | single (heldWins movingWins : Nat)
  | gallop

namespace Merge

def entries (merge : Merge σ) : List σ :=
  merge.merged ++ (merge.moving ++ merge.held)

/-- The merged run, once what is left is known to be in order. -/
def result (merge : Merge σ) : List σ :=
  merge.merged.reverse ++ (merge.moving ++ merge.held)

/-- Whether what is left is known to be in order. -/
def isOver (merge : Merge σ) : Bool :=
  merge.moving.isEmpty || decide (merge.held.length ≤ 1)

def takeHeld (count : Nat) (merge : Merge σ) : Merge σ :=
  { merge with
    held := merge.held.drop count
    merged := (merge.held.take count).reverse ++ merge.merged }

def takeMoving (count : Nat) (merge : Merge σ) : Merge σ :=
  { merge with
    moving := merge.moving.drop count
    merged := (merge.moving.take count).reverse ++ merge.merged }

def movingWins (precedes : σ → σ → Bool) (merge : Merge σ) : Bool :=
  match merge.moving, merge.held with
  | x :: _, y :: _ => precedes x y
  | _, _ => false

/-- Gallops through the held run up to the next moving entry, and takes that too. Says how
many held entries were taken. -/
def gallopHeld (side : MergeEnd) (precedes : σ → σ → Bool) (merge : Merge σ) :
    Nat × Merge σ :=
  if merge.isOver then (0, merge)
  else
    let count :=
      countLeading side (fun y => !(merge.moving.head?).any (precedes · y)) merge.held
    let after := merge.takeHeld count
    (count, if after.isOver then after else after.takeMoving 1)

/-- Gallops through the moving run up to the next held entry, and takes that too. Says how
many moving entries were taken. -/
def gallopMoving (side : MergeEnd) (precedes : σ → σ → Bool) (merge : Merge σ) :
    Nat × Merge σ :=
  if merge.isOver then (0, merge)
  else
    let count :=
      countLeading side (fun x => (merge.held.head?).any (precedes x)) merge.moving
    let after := merge.takeMoving count
    (count, if after.isOver then after else after.takeHeld 1)

/-- Gallops through both runs, the one that lies in front of the other first. Says how
many entries the luckier one gave at once. -/
def gallopBoth (side : MergeEnd) (precedes : σ → σ → Bool) (merge : Merge σ) :
    Nat × Merge σ :=
  match side with
  | .front =>
      let (heldCount, between) := merge.gallopHeld side precedes
      let (movingCount, after) := between.gallopMoving side precedes
      (max heldCount movingCount, after)
  | .back =>
      let (movingCount, between) := merge.gallopMoving side precedes
      let (heldCount, after) := between.gallopHeld side precedes
      (max heldCount movingCount, after)

/-- Galloping pays as long as a run gives so many entries at once. Patience starts
with this number too. -/
def gallopGain : Nat := 7

/-- Goes on with a merge for at most so many steps, each of which takes an entry. Also
says which patience is left. -/
def proceed (side : MergeEnd) (precedes : σ → σ → Bool) :
    (steps : Nat) → Pace → (patience : Nat) → Merge σ → Merge σ × Nat
  | 0, _, patience, merge => (merge, patience)
  | steps + 1, pace, patience, merge =>
      if merge.isOver then (merge, patience)
      else match pace with
        | .single heldWins movingWins =>
            if merge.movingWins precedes then
              let pace :=
                if patience ≤ movingWins + 1 then .gallop else .single 0 (movingWins + 1)
              proceed side precedes steps pace patience (merge.takeMoving 1)
            else
              let pace :=
                if patience ≤ heldWins + 1 then .gallop else .single (heldWins + 1) 0
              proceed side precedes steps pace patience (merge.takeHeld 1)
        | .gallop =>
            let (gain, after) := merge.gallopBoth side precedes
            if after.isOver then (after, patience)
            else if gallopGain ≤ gain then
              proceed side precedes steps .gallop (max 1 (patience - 1)) after
            else proceed side precedes steps (.single 0 0) (patience + 1) after

/-- Merges two runs of which the moving one has the first entry. -/
def run (side : MergeEnd) (precedes : σ → σ → Bool) (patience : Nat)
    (held moving : List σ) :
    List σ × Nat :=
  let (merge, left) :=
    proceed side precedes (held.length + moving.length) (.single 0 0) patience
    (takeMoving 1 ⟨held, moving, []⟩)
  (merge.result, left)

theorem takeHeld_perm (count : Nat) (merge : Merge σ) :
    (merge.takeHeld count).entries.Perm merge.entries := by
  have whole := List.take_append_drop count merge.held
  simp only [takeHeld, entries]
  refine (((List.reverse_perm _).append_right _).append_right _).trans ?_
  refine (List.perm_append_comm.append_right _).trans ?_
  rw [List.append_assoc]
  refine .append_left _ ?_
  refine List.perm_append_comm_assoc .. |>.trans ?_
  rw [whole]

theorem takeMoving_perm (count : Nat) (merge : Merge σ) :
    (merge.takeMoving count).entries.Perm merge.entries := by
  have whole := List.take_append_drop count merge.moving
  simp only [takeMoving, entries]
  refine (((List.reverse_perm _).append_right _).append_right _).trans ?_
  refine (List.perm_append_comm.append_right _).trans ?_
  rw [List.append_assoc]
  refine .append_left _ ?_
  rw [← List.append_assoc, whole]

theorem result_perm (merge : Merge σ) : merge.result.Perm merge.entries :=
  (List.reverse_perm _).append_right _

theorem gallopHeld_perm (side : MergeEnd) (precedes : σ → σ → Bool) (merge : Merge σ) :
    (merge.gallopHeld side precedes).2.entries.Perm merge.entries := by
  unfold gallopHeld
  split
  · exact .refl _
  · dsimp only
    split
    · exact takeHeld_perm _ _
    · exact (takeMoving_perm _ _).trans (takeHeld_perm _ _)

theorem gallopMoving_perm (side : MergeEnd) (precedes : σ → σ → Bool) (merge : Merge σ) :
    (merge.gallopMoving side precedes).2.entries.Perm merge.entries := by
  unfold gallopMoving
  split
  · exact .refl _
  · dsimp only
    split
    · exact takeMoving_perm _ _
    · exact (takeHeld_perm _ _).trans (takeMoving_perm _ _)

theorem gallopBoth_perm (side : MergeEnd) (precedes : σ → σ → Bool) (merge : Merge σ) :
    (merge.gallopBoth side precedes).2.entries.Perm merge.entries := by
  cases side with
  | front => exact (gallopMoving_perm _ _ _).trans (gallopHeld_perm _ _ _)
  | back => exact (gallopHeld_perm _ _ _).trans (gallopMoving_perm _ _ _)

theorem proceed_perm (side : MergeEnd) (precedes : σ → σ → Bool) (steps : Nat)
    (pace : Pace) (patience : Nat) (merge : Merge σ) :
    (proceed side precedes steps pace patience merge).1.entries.Perm merge.entries := by
  induction steps generalizing pace patience merge with
  | zero => exact .refl _
  | succ steps ih =>
      unfold proceed
      split
      · exact .refl _
      · split
        · split
          · exact (ih ..).trans (takeMoving_perm _ _)
          · exact (ih ..).trans (takeHeld_perm _ _)
        · have galloped := gallopBoth_perm side precedes merge
          dsimp only
          split
          · exact galloped
          · split
            · exact (ih ..).trans galloped
            · exact (ih ..).trans galloped

theorem run_perm (side : MergeEnd) (precedes : σ → σ → Bool) (patience : Nat)
    (held moving : List σ) :
    (run side precedes patience held moving).1.Perm (moving ++ held) :=
  (result_perm _).trans ((proceed_perm ..).trans (takeMoving_perm _ _))

end Merge

/-- Merges two runs from one end of the list, where the entry that is first at this end is
that of the farther run. -/
def mergeFrom (side : MergeEnd) (precedes : σ → σ → Bool) (patience : Nat)
    (xs ys : List σ) : List σ × Nat :=
  match side with
  | .front => Merge.run side precedes patience xs ys
  | .back =>
      let (merged, left) :=
        Merge.run side (fun a b => precedes b a) patience ys.reverse xs.reverse
      (merged.reverse, left)

/-- Merges two neighbouring runs. Entries of the first run that may stay in front, and
entries of the second that may stay behind, are left where they are; the rest is merged
from the end at which the shorter run lies. -/
def mergeRuns (precedes : σ → σ → Bool) (patience : Nat) (xs ys : List σ) :
    List σ × Nat :=
  let settled := countLeading .front (fun x => !(ys.head?).any (precedes · x)) xs
  let low := xs.drop settled
  let kept := countLeading .back (fun y => !(low.getLast?).any (precedes y)) ys.reverse
  let high := ys.take (ys.length - kept)
  if low.isEmpty || high.isEmpty then (xs ++ ys, patience)
  else
    let side := if low.length ≤ high.length then .front else .back
    let (merged, left) := mergeFrom side precedes patience low high
    (xs.take settled ++ merged ++ ys.drop (ys.length - kept), left)

theorem mergeFrom_perm (side : MergeEnd) (precedes : σ → σ → Bool) (patience : Nat)
    (xs ys : List σ) : (mergeFrom side precedes patience xs ys).1.Perm (xs ++ ys) := by
  cases side with
  | front => exact (Merge.run_perm ..).trans List.perm_append_comm
  | back =>
      refine (List.reverse_perm _).trans ((Merge.run_perm ..).trans ?_)
      exact (List.reverse_perm _).append (List.reverse_perm _)

theorem mergeRuns_perm (precedes : σ → σ → Bool) (patience : Nat) (xs ys : List σ) :
    (mergeRuns precedes patience xs ys).1.Perm (xs ++ ys) := by
  unfold mergeRuns
  dsimp only
  split
  · exact .refl _
  · refine (((mergeFrom_perm ..).append_left _).append_right _).trans (.of_eq ?_)
    rw [← List.append_assoc, List.take_append_drop, List.append_assoc,
      List.take_append_drop]

end RhythmChart
