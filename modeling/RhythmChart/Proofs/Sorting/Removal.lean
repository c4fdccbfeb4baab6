/-!
# Removal along a copy

A list is gone through in a copy. For each bad entry of the copy the first entry that a
search for it finds is deleted from what remains of the list. When searches for bad
entries find nothing but bad entries, and each finds at least its own, then none of them
fails: the good entries remain, in their order and as often as they were listed.
-/

namespace RhythmChart

variable {σ : Type}

/-- Deletes the first entry that is found. There must be one. -/
def deleteFirst? (found : σ → Bool) (xs : List σ) : Option (List σ) :=
  if xs.any found then some (xs.eraseP found) else none

/-- Takes the next entry of the copy: if it is bad, the first entry that a search
for it finds is deleted. -/
def visit? (isBad : σ → Bool) (finds : σ → σ → Bool) (rest : List σ) (x : σ) :
    Option (List σ) :=
  if isBad x then deleteFirst? (finds x) rest else some rest

/-- What remains of a list after each entry of a copy was taken. -/
def deleteBad? (isBad : σ → Bool) (finds : σ → σ → Bool) (xs : List σ) :
    Option (List σ) :=
  xs.foldlM (visit? isBad finds) xs

theorem eraseP_of_deleteFirst? {found : σ → Bool} {xs rest : List σ}
    (deleted : deleteFirst? found xs = some rest) : xs.eraseP found = rest := by
  unfold deleteFirst? at deleted
  split at deleted
  · exact Option.some.inj deleted
  · cases deleted

theorem deleteFirst?_append_cons {found : σ → Bool} {kept : List σ} {x : σ}
    (absent : ∀ y ∈ kept, ¬found y = true) (here : found x = true) (todo : List σ) :
    deleteFirst? found (kept ++ x :: todo) = some (kept ++ todo) := by
  have listed : (kept ++ x :: todo).any found = true :=
    List.any_eq_true.mpr ⟨x, List.mem_append_right kept List.mem_cons_self, here⟩
  rw [deleteFirst?, if_pos listed, List.eraseP_append_right _ absent,
    List.eraseP_cons_of_pos here]

/-- A search that finds nothing fails. -/
example : deleteFirst? (· == 3) [1, 2, 1] = none := rfl

section Visits

variable {isBad : σ → Bool} {finds : σ → σ → Bool} (self : ∀ x, finds x x = true)
  (isBad_of_finds : ∀ {x y}, finds x y = true → isBad x = true → isBad y = true)

include self isBad_of_finds

/-- The invariant: what remains is the good part of the entries visited, then all of the
others. So the first bad entry that remains is the one that is visited. -/
theorem visit?_eq (visited todo : List σ) (x : σ) :
    visit? isBad finds (visited.filter (fun y => !isBad y) ++ x :: todo) x =
      some ((visited ++ [x]).filter (fun y => !isBad y) ++ todo) := by
  rw [visit?, List.filter_append]
  cases bad : isBad x with
  | true =>
      have absent : ∀ y ∈ visited.filter (fun y => !isBad y), ¬finds x y = true := by
        intro y member known
        have good := (List.mem_filter.mp member).2
        rw [isBad_of_finds known bad] at good
        cases good
      have dropped : [x].filter (fun y => !isBad y) = [] :=
        List.filter_cons_of_neg (by simp [bad])
      rw [if_pos rfl, deleteFirst?_append_cons absent (self x), dropped, List.append_nil]
  | false =>
      have kept : [x].filter (fun y => !isBad y) = [x] :=
        List.filter_cons_of_pos (by simp [bad])
      rw [if_neg Bool.false_ne_true, kept, List.append_assoc, List.singleton_append]

theorem foldlM_visit? (visited todo : List σ) :
    todo.foldlM (visit? isBad finds) (visited.filter (fun y => !isBad y) ++ todo) =
      some ((visited ++ todo).filter fun y => !isBad y) := by
  induction todo generalizing visited with
  | nil => rw [List.foldlM_nil, List.append_nil, List.append_nil]; rfl
  | cons x todo ih =>
      have next := ih (visited ++ [x])
      rw [List.append_assoc, List.singleton_append] at next
      rw [List.foldlM_cons, visit?_eq self isBad_of_finds]
      exact next

/-- No search fails, and the good entries remain. -/
theorem deleteBad?_eq_filter (xs : List σ) :
    deleteBad? isBad finds xs = some (xs.filter fun x => !isBad x) :=
  foldlM_visit? self isBad_of_finds [] xs

end Visits

/-- Steps that may fail agree with steps that cannot, as long as none of them fails. -/
theorem foldl_eq_of_foldlM {τ : Type} {f : τ → σ → Option τ} {g : τ → σ → τ}
    (agrees : ∀ {state x next}, f state x = some next → g state x = next) {xs : List σ}
    {start last : τ} (made : xs.foldlM f start = some last) :
    xs.foldl g start = last := by
  induction xs generalizing start with
  | nil => exact Option.some.inj made
  | cons x rest ih =>
      rw [List.foldlM_cons] at made
      obtain ⟨next, stepped, later⟩ := Option.bind_eq_some_iff.mp made
      rw [List.foldl_cons, agrees stepped]
      exact ih later

/-- Where no search fails, the same remains if failed searches are passed over. -/
theorem foldl_eraseP_of_deleteBad? {isBad : σ → Bool} {finds : σ → σ → Bool}
    {xs last : List σ} (deleted : deleteBad? isBad finds xs = some last) :
    xs.foldl (fun rest x => if isBad x then rest.eraseP (finds x) else rest) xs =
      last := by
  refine foldl_eq_of_foldlM ?_ deleted
  intro rest x next visited
  unfold visit? at visited
  split at visited
  · rename_i bad
    rw [if_pos bad, eraseP_of_deleteFirst? visited]
  · rename_i good
    rw [if_neg good]
    exact Option.some.inj visited

end RhythmChart
