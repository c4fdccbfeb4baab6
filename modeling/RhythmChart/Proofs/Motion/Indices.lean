import RhythmChart.Proofs.Motion.Selection

/-!
# The number of the selected segment

The search for a segment stops at the first one that is not reached, which need not be
the end of those that are reached. So the selected segment is known by a run: all
segments up to it are reached, and the one after it is not. That run only grows with the
position. On segments in order it also parts those that start before the position from
those that start after it.
-/

namespace RhythmChart

variable {α τ : Type} [Scalar α]

namespace Motion

/-- The segments after the first up to a number are reached, and the one after them, if
there is one, is not. -/
structure IsSelected (segments : List (Segment α τ)) (key : Segment α τ → α)
    (position : α) (number : Nat) : Prop where
  lt_length : number < segments.length
  reached : ∀ {i segment}, segments[i]? = some segment → 0 < i → i ≤ number →
    segment.reached key position = true
  ahead : ∀ {next}, segments[number + 1]? = some next → next.reached key position = false

variable {first next : Segment α τ} {rest segments : List (Segment α τ)}
  {key : Segment α τ → α} {position position' : α} {number number' : Nat}

theorem index_cons (first next : Segment α τ) (rest : List (Segment α τ))
    (key : Segment α τ → α) (position : α) :
    (Motion.mk first (next :: rest)).index key position =
      if next.reached key position then (Motion.mk next rest).index key position + 1
      else 0 := by
  unfold index passed
  rw [List.takeWhile_cons]
  split <;> rfl

theorem getElem?_index (motion : Motion α τ) (key : Segment α τ → α) (position : α) :
    motion.segments[motion.index key position]? = some (motion.select key position) := by
  obtain ⟨first, rest⟩ := motion
  induction rest generalizing first with
  | nil => rfl
  | cons next rest ih =>
      rw [index_cons, select_cons]
      split
      · exact ih next
      · rfl

theorem IsSelected.zero (ahead : ∀ next ∈ rest.head?, next.reached key position = false) :
    IsSelected (first :: rest) key position 0 where
  lt_length := Nat.zero_lt_succ _
  reached := fun _ positive le => absurd positive (Nat.not_lt_of_le le)
  ahead := by
    intro next second
    apply ahead
    rw [List.getElem?_cons_succ, ← List.head?_eq_getElem?] at second
    exact second

theorem IsSelected.succ (here : next.reached key position = true)
    (later : IsSelected (next :: rest) key position number) :
    IsSelected (first :: next :: rest) key position (number + 1) where
  lt_length := Nat.succ_lt_succ later.lt_length
  reached := by
    intro i segment taken positive le
    cases i with
    | zero => exact absurd positive (Nat.lt_irrefl 0)
    | succ i =>
        cases i with
        | zero =>
            cases taken
            exact here
        | succ i => exact later.reached taken (Nat.succ_pos i) (Nat.le_of_succ_le_succ le)
  ahead := later.ahead

theorem isSelected_index (motion : Motion α τ) (key : Segment α τ → α) (position : α) :
    IsSelected motion.segments key position (motion.index key position) := by
  obtain ⟨first, rest⟩ := motion
  induction rest generalizing first with
  | nil =>
      apply IsSelected.zero
      intro next none
      cases none
  | cons next rest ih =>
      rw [index_cons]
      split
      · rename_i here
        exact (ih next).succ here
      · rename_i notHere
        apply IsSelected.zero
        rintro _ ⟨⟩
        exact Bool.eq_false_iff.mpr notHere

namespace IsSelected

/-- If a position has reached all that another one has, its run is not shorter: it would
stop at a segment that is reached. -/
theorem le_of_imp (imp : ∀ segment : Segment α τ, segment.reached key position = true →
      segment.reached key position' = true)
    (selected : IsSelected segments key position number)
    (selected' : IsSelected segments key position' number') : number ≤ number' := by
  by_contra less
  have inRange : number' + 1 < segments.length := by
    have := selected.lt_length
    omega
  have taken := List.getElem?_eq_getElem inRange
  have reached := imp _ (selected.reached taken (Nat.succ_pos number') (by omega))
  rw [selected'.ahead taken] at reached
  cases reached

theorem unique (selected : IsSelected segments key position number)
    (selected' : IsSelected segments key position number') : number = number' :=
  Nat.le_antisymm (selected.le_of_imp (fun _ => id) selected')
    (selected'.le_of_imp (fun _ => id) selected)

/-- On segments in order, one that is not reached comes before all
others behind the run. -/
theorem exists_ahead (selected : IsSelected segments key position number)
    (sorted : segments.Pairwise fun segment later => key segment ≤ key later)
    {i : Nat} {segment : Segment α τ} (taken : segments[i]? = some segment)
    (less : number < i) :
    ∃ next ∈ segments, next.reached key position = false ∧
      (next = segment ∨ key next ≤ key segment) := by
  obtain ⟨inRange, rfl⟩ := List.getElem?_eq_some_iff.mp taken
  have inRange' : number + 1 < segments.length := Nat.lt_of_le_of_lt less inRange
  refine ⟨segments[number + 1], List.getElem_mem inRange',
    selected.ahead (List.getElem?_eq_getElem inRange'), ?_⟩
  rcases Nat.eq_or_lt_of_le less with rfl | further
  · exact .inl rfl
  · exact .inr (List.pairwise_iff_getElem.mp sorted _ _ inRange' inRange further)

variable [HasLevel α]

theorem not_lt (selected : IsSelected segments key position number)
    (sorted : segments.Pairwise fun segment later => key segment ≤ key later)
    {i : Nat} {segment : Segment α τ} (taken : segments[i]? = some segment)
    (less : number < i) : ¬key segment < position := by
  intro before
  obtain ⟨next, -, notReached, rfl | le⟩ := selected.exists_ahead sorted taken less
  · rw [Segment.reached_of_lt before] at notReached
    cases notReached
  · rw [Segment.reached_of_lt (HasLevel.lt_of_le_of_lt le before)] at notReached
    cases notReached

/-- Without exclusive segments, starting at the position also counts as reached. -/
theorem not_le (selected : IsSelected segments key position number)
    (sorted : segments.Pairwise fun segment later => key segment ≤ key later)
    (inclusive : ∀ segment ∈ segments, segment.inclusive = true)
    {i : Nat} {segment : Segment α τ} (taken : segments[i]? = some segment)
    (less : number < i) : ¬key segment ≤ position := by
  intro before
  obtain ⟨next, member, notReached, order⟩ := selected.exists_ahead sorted taken less
  have start : key next ≤ position := by
    rcases order with rfl | le
    · exact before
    · exact HasLevel.le_trans le before
  rw [(Segment.reached_iff_of_inclusive (inclusive next member)).mpr start] at notReached
  cases notReached

end IsSelected

theorem defined_of_sorted [HasLevel α]
    (sorted : segments.Pairwise fun segment later => key segment ≤ key later)
    {i : Nat} {segment : Segment α τ} (taken : segments[i]? = some segment)
    (positive : 0 < i) : Scalar.isUndefined (key segment) = false := by
  obtain ⟨inRange, rfl⟩ := List.getElem?_eq_some_iff.mp taken
  have le :=
    List.pairwise_iff_getElem.mp sorted 0 i (positive.trans inRange) inRange positive
  exact (HasLevel.le_iff.mp le).2.1

/-- A list of segments, in any order, gives a motion if it is not empty. At each position
one segment is selected, by its number and in either direction: no other number has all
segments up to it reached and the next one not. The number does not decrease with the
position. If the segments are in order, the selected one parts those before the position
from those after it, and without exclusive segments it is the last one that does not start
after the position. An undefined position is neither before nor after anything. -/
theorem ofSegments_selects [HasLevel α] {segments : List (Segment α τ)}
    (nonempty : segments ≠ []) :
    ∃ motion, ofSegments segments = .ok motion ∧
      (∀ t, segments[motion.index Segment.t t]? = some (motion.segmentAtT t)) ∧
      (∀ x, segments[motion.index Segment.x x]? = some (motion.segmentAtX x)) ∧
      ∀ key : Segment α τ → α,
        (∀ position number,
          IsSelected segments key position number ↔ number = motion.index key position) ∧
        (∀ position position', position ≤ position' →
          motion.index key position ≤ motion.index key position') ∧
        ((segments.Pairwise fun segment later => key segment ≤ key later) →
          ∀ position i segment, segments[i]? = some segment → 0 < i →
            (i ≤ motion.index key position → key segment ≤ position) ∧
            (motion.index key position < i → ¬key segment < position ∧
              (Scalar.isUndefined position = false → position ≤ key segment)) ∧
            ((∀ segment ∈ segments, segment.inclusive = true) →
              (i ≤ motion.index key position ↔ key segment ≤ position))) := by
  cases segments with
  | nil => exact absurd rfl nonempty
  | cons first rest =>
      have selected := getElem?_index (Motion.mk first rest)
      have here := isSelected_index (Motion.mk first rest)
      refine ⟨⟨first, rest⟩, rfl, selected Segment.t, selected Segment.x,
        fun key => ⟨fun position number => ?_, fun position position' le => ?_, ?_⟩⟩
      · constructor
        · exact fun selected => selected.unique (here key position)
        · rintro rfl
          exact here key position
      · exact (here key position).le_of_imp (fun _ => Segment.reached_of_le le)
          (here key position')
      · intro sorted position i segment taken positive
        have before :
            i ≤ (Motion.mk first rest).index key position → key segment ≤ position :=
          fun le => Segment.le_of_reached ((here key position).reached taken positive le)
        refine ⟨before, fun less => ?_, fun inclusive => ⟨before, fun le => ?_⟩⟩
        · have notLess := (here key position).not_lt sorted taken less
          have defined := defined_of_sorted sorted taken positive
          exact ⟨notLess, fun defined' => HasLevel.le_of_not_lt defined defined' notLess⟩
        · by_contra less
          exact (here key position).not_le sorted inclusive taken
            (Nat.lt_of_not_le less) le

/-- A stop: the motion rests at 32 and goes on from there. -/
def stopAndGo : List (Segment Float Unit) :=
  [⟨0, 0, 2.5, true, ()⟩, ⟨12.8, 32, 0, true, ()⟩, ⟨13.6, 32, 2.5, false, ()⟩]

theorem stopAndGo_selects : stopAndGo ≠ [] ∧
    (stopAndGo.Pairwise fun segment later => segment.x ≤ later.x) ∧
    ∃ motion, ofSegments stopAndGo = .ok motion ∧
      (∀ number, IsSelected stopAndGo Segment.x 32 number ↔ number = 1) ∧
      ∀ segment, stopAndGo[2]? = some segment → ¬segment.x < 32 := by
  have nonempty : stopAndGo ≠ [] := List.cons_ne_nil _ _
  have sorted : stopAndGo.Pairwise fun segment later => segment.x ≤ later.x := by
    decide +kernel
  obtain ⟨motion, made, -, -, facts⟩ := ofSegments_selects nonempty
  obtain ⟨selected, -, parts⟩ := facts Segment.x
  cases made
  have index :
      (Motion.mk ⟨0, 0, 2.5, true, ()⟩ stopAndGo.tail).index Segment.x 32 = 1 := by
    decide +kernel
  refine ⟨nonempty, sorted, _, rfl, fun number => ?_, fun segment taken => ?_⟩
  · exact (selected 32 number).trans (by rw [← index]; rfl)
  · exact ((parts sorted 32 2 segment taken
      (by decide)).2.1 (index.trans_lt (by decide))).1

end Motion

end RhythmChart
