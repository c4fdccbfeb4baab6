/-!
# Runs

A list that is to be sorted by merging is first cut into runs. A run goes on as long as
every entry follows the one before it, or as long as every entry precedes the one before
it; in the second case it is turned round. A run that is too short takes in the entries
after it, each of which is inserted by halving. The runs of a list hold its entries.
-/

namespace RhythmChart

variable {σ : Type}

/-- The entries that continue a run after `last`, as long as each of them `follows` the
one before it, and the entries after that run. -/
def takeRun (follows : σ → σ → Bool) (last : σ) : List σ → List σ × List σ
  | [] => ([], [])
  | x :: rest =>
      if follows last x then
        let (run, later) := takeRun follows x rest
        (x :: run, later)
      else ([], x :: rest)

/-- The run at the front of a list, turned round if it descends, and
the entries after it. -/
def leadingRun (precedes : σ → σ → Bool) : List σ → List σ × List σ
  | [] => ([], [])
  | [x] => ([x], [])
  | x :: y :: rest =>
      let descends := precedes y x
      let run := takeRun (fun last next => precedes next last == descends) x (y :: rest)
      (if descends then (x :: run.1).reverse else x :: run.1, run.2)

/-- Inserts an entry after the last one that it does not precede,
found by halving the list. -/
def insertByHalving (precedes : σ → σ → Bool) (x : σ) (xs : List σ) : List σ :=
  match _split : xs.drop (xs.length / 2) with
  | [] => [x]
  | middle :: above =>
      let below := xs.take (xs.length / 2)
      if precedes x middle then insertByHalving precedes x below ++ middle :: above
      else below ++ middle :: insertByHalving precedes x above
termination_by xs.length
decreasing_by
  all_goals
    have lengths := congrArg List.length _split
    simp only [List.length_drop, List.length_cons, List.length_take] at lengths ⊢
    omega

/-- Inserts entries one after the other into a run. -/
def extendRun (precedes : σ → σ → Bool) (run entries : List σ) : List σ :=
  entries.foldl (fun sorted entry => insertByHalving precedes entry sorted) run

/-- The first run of a list, with at least so many entries as far as there are any, and
the entries after it. -/
def nextRun (precedes : σ → σ → Bool) (least : Nat) (xs : List σ) : List σ × List σ :=
  let (run, rest) := leadingRun precedes xs
  let missing := least - run.length
  (extendRun precedes run (rest.take missing), rest.drop missing)

theorem takeRun_append (follows : σ → σ → Bool) (last : σ) (xs : List σ) :
    (takeRun follows last xs).1 ++ (takeRun follows last xs).2 = xs := by
  induction xs generalizing last with
  | nil => rfl
  | cons x rest ih =>
      unfold takeRun
      split
      · simp [ih]
      · rfl

theorem leadingRun_perm (precedes : σ → σ → Bool) (xs : List σ) :
    ((leadingRun precedes xs).1 ++ (leadingRun precedes xs).2).Perm xs := by
  unfold leadingRun
  split
  · exact .refl _
  · exact .refl _
  · rename_i x y rest
    have whole :=
      takeRun_append (fun last next => precedes next last == precedes y x) x (y :: rest)
    dsimp only
    split
    · refine ((List.reverse_perm _).append_right _).trans (.of_eq ?_)
      rw [List.cons_append, whole]
    · rw [List.cons_append, whole]

theorem length_leadingRun_pos (precedes : σ → σ → Bool) (x : σ) (rest : List σ) :
    0 < (leadingRun precedes (x :: rest)).1.length := by
  unfold leadingRun
  split
  · contradiction
  · simp
  · dsimp only
    split <;> simp

theorem insertByHalving_perm (precedes : σ → σ → Bool) (x : σ) (xs : List σ) :
    (insertByHalving precedes x xs).Perm (x :: xs) := by
  fun_induction insertByHalving precedes x xs with
  | case1 xs split =>
      have short : xs = [] := by
        have lengths := congrArg List.length split
        simp only [List.length_drop, List.length_nil] at lengths
        exact List.length_eq_zero_iff.1 (by omega)
      simp [short]
  | case2 xs middle above split below before ih =>
      have whole : below ++ middle :: above = xs := split ▸ List.take_append_drop _ _
      exact whole ▸ ih.append_right (middle :: above)
  | case3 xs middle above split below after ih =>
      have whole : below ++ middle :: above = xs := split ▸ List.take_append_drop _ _
      refine whole ▸ ((ih.cons middle).append_left below).trans ?_
      exact ((List.Perm.swap x middle above).append_left below).trans List.perm_middle

theorem extendRun_perm (precedes : σ → σ → Bool) (run entries : List σ) :
    (extendRun precedes run entries).Perm (run ++ entries) := by
  unfold extendRun
  induction entries generalizing run with
  | nil => simp
  | cons entry rest ih =>
      refine (ih _).trans
        (((insertByHalving_perm precedes entry run).append_right rest).trans ?_)
      exact List.perm_middle.symm

theorem nextRun_perm (precedes : σ → σ → Bool) (least : Nat) (xs : List σ) :
    ((nextRun precedes least xs).1 ++ (nextRun precedes least xs).2).Perm xs := by
  unfold nextRun
  dsimp only
  refine ((extendRun_perm precedes _ _).append_right _).trans ?_
  rw [List.append_assoc, List.take_append_drop]
  exact leadingRun_perm precedes xs

theorem length_nextRun_lt (precedes : σ → σ → Bool) (least : Nat) (x : σ)
    (rest : List σ) :
    (nextRun precedes least (x :: rest)).2.length < (x :: rest).length := by
  have whole := (leadingRun_perm precedes (x :: rest)).length_eq
  have nonempty := length_leadingRun_pos precedes x rest
  unfold nextRun
  simp only [List.length_append, List.length_drop] at whole ⊢
  omega

/-- Cuts a list into runs, all but the last of which have at least so many entries. -/
def runs (precedes : σ → σ → Bool) (least : Nat) (xs : List σ) : List (List σ) :=
  match xs with
  | [] => []
  | x :: rest =>
      let next := nextRun precedes least (x :: rest)
      next.1 :: runs precedes least next.2
termination_by xs.length
decreasing_by exact length_nextRun_lt precedes least x rest

theorem runs_perm (precedes : σ → σ → Bool) (least : Nat) (xs : List σ) :
    (runs precedes least xs).flatten.Perm xs := by
  fun_induction runs precedes least xs with
  | case1 => exact .refl _
  | case2 x rest next ih =>
      rw [List.flatten_cons]
      exact (ih.append_left _).trans (nextRun_perm precedes least (x :: rest))

end RhythmChart
