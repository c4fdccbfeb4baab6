import RhythmChart.Motion.Scroll

/-!
# Scrolls that grow rate by rate

A scroll is made of all rates at once, or rate by rate. Rates on beat zero are taken in
front of all others in both ways.
-/

namespace RhythmChart.Scroll

variable {α : Type} [Scalar α]

theorem foldlM_extend_eq_segmentsFrom (first : Segment α Unit)
    (rest : List (Segment α Unit)) (rates : List (α × α))
    (later : rest ≠ [] ∨ ∀ entry ∈ rates.head?, Scalar.isZero entry.1 = false) :
    rates.foldlM extend ⟨⟨first, rest⟩⟩ =
      (segmentsFrom (rest.getLastD first) rates).map fun segments =>
        ⟨⟨first, rest ++ segments⟩⟩ := by
  induction rates generalizing rest with
  | nil => simp [segmentsFrom, pure, Except.pure, Except.map]
  | cons entry rates ih =>
      have appends : (rest.isEmpty && Scalar.isZero entry.1) = false := by
        rcases later with nonempty | sounding
        · simp [nonempty]
        · simp [sounding entry rfl]
      rw [List.foldlM_cons]
      simp only [extend, segmentsFrom, appends, Bool.false_eq_true, if_false]
      cases Segment.make entry.1 ((rest.getLastD first).xAt entry.1) entry.2 true () with
      | error fault => rfl
      | ok segment =>
          have grown := ih (rest ++ [segment]) (.inl (by simp))
          simp only [List.getLastD_concat] at grown
          refine Eq.trans grown ?_
          simp only [bind, Except.bind, pure, Except.pure]
          cases segmentsFrom segment rates with
          | error fault => rfl
          | ok segments => simp [Except.map]

theorem foldlM_extend_eq_initialRate (first : Segment α Unit) (rates : List (α × α)) :
    rates.foldlM extend ⟨⟨first, []⟩⟩ =
      (initialRate first.dx rates).2.foldlM extend
        ⟨⟨{ first with dx := (initialRate first.dx rates).1 }, []⟩⟩ := by
  induction rates generalizing first with
  | nil => rfl
  | cons entry rates ih =>
      unfold initialRate
      split
      · rename_i zero
        rw [List.foldlM_cons]
        simp only [extend, List.isEmpty_nil, Bool.true_and, zero, if_true]
        exact ih _
      · rfl

theorem head?_initialRate (rate : α) (rates : List (α × α)) :
    ∀ entry ∈ (initialRate rate rates).2.head?, Scalar.isZero entry.1 = false := by
  induction rates generalizing rate with
  | nil => simp [initialRate]
  | cons entry rates ih =>
      unfold initialRate
      split
      · exact ih _
      · rename_i nonzero
        simpa using nonzero

/-- What comes in front of the rates that are left is on beat zero, and the
latest rate there counts. -/
theorem exists_zeros_initialRate (rate : α) (rates : List (α × α)) :
    ∃ zeros, rates = zeros ++ (initialRate rate rates).2 ∧
      (∀ entry ∈ zeros, Scalar.isZero entry.1 = true) ∧
      (initialRate rate rates).1 = (zeros.getLast?.map Prod.snd).getD rate := by
  induction rates generalizing rate with
  | nil => exact ⟨[], rfl, List.forall_mem_nil _, rfl⟩
  | cons entry rates ih =>
      unfold initialRate
      split
      · rename_i zero
        obtain ⟨zeros, split, onZero, latest⟩ := ih entry.2
        refine ⟨entry :: zeros, congrArg _ split,
          List.forall_mem_cons.mpr ⟨zero, onZero⟩, ?_⟩
        rw [latest, List.getLast?_cons]
        cases zeros.getLast? <;> rfl
      · exact ⟨[], rfl, List.forall_mem_nil _, rfl⟩

/-- A scroll is what grows rate by rate. -/
theorem ofRates_eq_foldlM (rates : List (α × α)) :
    ofRates rates = rates.foldlM extend initial := by
  unfold initial
  rw [foldlM_extend_eq_initialRate,
    foldlM_extend_eq_segmentsFrom _ _ _ (.inr (head?_initialRate _ rates))]
  unfold ofRates
  simp only [bind, Except.bind, pure, Except.pure, List.getLastD_nil, List.nil_append]
  split <;> rename_i made <;> rw [made] <;> rfl

end RhythmChart.Scroll
