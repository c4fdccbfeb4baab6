/-!
# Taking entries two by two

Entries that arrive one after the other pair up: each even one closes what the odd one
before it opened. The last of an odd number is left over and waits for its partner.
-/

namespace RhythmChart

variable {σ : Type}

def pairUp : List σ → List (σ × σ)
  | [] => []
  | [_] => []
  | opening :: closing :: rest => (opening, closing) :: pairUp rest

def leftOver? : List σ → Option σ
  | [] => none
  | [last] => some last
  | _ :: _ :: rest => leftOver? rest

/-- One more entry closes what was left over, or is left over itself. -/
theorem leftOver?_append_singleton (xs : List σ) (x : σ) :
    leftOver? (xs ++ [x]) = if (leftOver? xs).isSome then none else some x := by
  fun_induction leftOver? xs with
  | case1 => rfl
  | case2 last => rfl
  | case3 opening closing rest ih => exact ih

theorem pairUp_append_singleton (xs : List σ) (x : σ) :
    pairUp (xs ++ [x]) = pairUp xs ++ (leftOver? xs).toList.map fun opening =>
      (opening, x) := by
  fun_induction leftOver? xs with
  | case1 => rfl
  | case2 last => rfl
  | case3 opening closing rest ih =>
      change (opening, closing) :: pairUp (rest ++ [x]) = _
      rw [ih]
      rfl

theorem length_pairUp (xs : List σ) : (pairUp xs).length = xs.length / 2 := by
  fun_induction pairUp xs with
  | case1 => simp
  | case2 last => simp
  | case3 opening closing rest ih =>
      simp only [List.length_cons, ih]
      omega

theorem mem_of_mem_pairUp {xs : List σ} {pair : σ × σ} (member : pair ∈ pairUp xs) :
    pair.1 ∈ xs ∧ pair.2 ∈ xs := by
  fun_induction pairUp xs with
  | case1 => cases member
  | case2 last => cases member
  | case3 opening closing rest ih =>
      rcases List.mem_cons.mp member with first | later
      · simp [first]
      · have inRest := ih later
        simp [inRest]

/-- The pair at an index consists of the entries at twice the index and just after it. -/
theorem getElem?_pairUp (xs : List σ) (i : Nat) :
    (pairUp xs)[i]? =
      xs[2 * i]?.bind fun opening => xs[2 * i + 1]?.map fun closing =>
        (opening, closing) := by
  fun_induction pairUp xs generalizing i with
  | case1 => rfl
  | case2 last => cases i <;> rfl
  | case3 opening closing rest ih =>
      cases i with
      | zero => rfl
      | succ i => exact ih i

end RhythmChart
