import RhythmChart.Motion.Basic
import RhythmChart.Proofs.Number.Levels

/-!
# Selecting segments

A motion with a second segment either stays on its first segment or goes on as the motion
without it. Which segment is selected depends on nothing but which ones are reached.
-/

namespace RhythmChart

variable {α τ : Type} [Scalar α]

namespace Segment

variable {key : Segment α τ → α} {position position' : α} {segment : Segment α τ}

theorem reached_iff_of_inclusive (inclusive : segment.inclusive = true) :
    segment.reached key position = true ↔ key segment ≤ position := by
  unfold reached
  rw [inclusive, if_pos rfl, decide_eq_true_iff]

theorem reached_iff_of_exclusive (exclusive : segment.inclusive = false) :
    segment.reached key position = true ↔ key segment < position := by
  unfold reached
  rw [exclusive, if_neg Bool.false_ne_true, decide_eq_true_iff]

variable [HasLevel α]

theorem le_of_reached (reached : segment.reached key position = true) :
    key segment ≤ position := by
  cases flag : segment.inclusive with
  | true => exact (reached_iff_of_inclusive flag).mp reached
  | false => exact HasLevel.le_of_lt ((reached_iff_of_exclusive flag).mp reached)

theorem reached_of_lt (less : key segment < position) :
    segment.reached key position = true := by
  cases flag : segment.inclusive with
  | true => exact (reached_iff_of_inclusive flag).mpr (HasLevel.le_of_lt less)
  | false => exact (reached_iff_of_exclusive flag).mpr less

theorem reached_of_le (le : position ≤ position')
    (reached : segment.reached key position = true) :
    segment.reached key position' = true := by
  cases flag : segment.inclusive with
  | true =>
      rw [reached_iff_of_inclusive flag] at reached ⊢
      exact HasLevel.le_trans reached le
  | false =>
      rw [reached_iff_of_exclusive flag] at reached ⊢
      exact HasLevel.lt_of_lt_of_le reached le

end Segment

namespace Motion

/-- The search goes on exactly if the second segment is reached. -/
theorem select_cons (first next : Segment α τ) (rest : List (Segment α τ))
    (key : Segment α τ → α) (position : α) :
    (Motion.mk first (next :: rest)).select key position =
      if next.reached key position then (Motion.mk next rest).select key position
      else first := by
  unfold select passed
  rw [List.takeWhile_cons]
  split
  · rw [List.getLastD_cons]
  · rfl

theorem t_cons (first next : Segment α τ) (rest : List (Segment α τ)) (x : α) :
    (Motion.mk first (next :: rest)).t x =
      if next.reached Segment.x x then (Motion.mk next rest).t x else first.tAt x := by
  unfold t segmentAtX
  rw [select_cons]
  split <;> rfl

theorem x_cons (first next : Segment α τ) (rest : List (Segment α τ)) (t : α) :
    (Motion.mk first (next :: rest)).x t =
      if next.reached Segment.t t then (Motion.mk next rest).x t else first.xAt t := by
  unfold x segmentAtT
  rw [select_cons]
  split <;> rfl

theorem rate_cons (first next : Segment α τ) (rest : List (Segment α τ)) (t : α) :
    (Motion.mk first (next :: rest)).rate t =
      if next.reached Segment.t t then (Motion.mk next rest).rate t else first.dx := by
  unfold rate segmentAtT
  rw [select_cons]
  split <;> rfl

/-- Where the second segment is not reached, the first one is selected. -/
theorem select_of_ahead {first : Segment α τ} {rest : List (Segment α τ)}
    {key : Segment α τ → α} {position : α}
    (ahead : ∀ next ∈ rest.head?, next.reached key position = false) :
    (Motion.mk first rest).select key position = first := by
  cases rest with
  | nil => rfl
  | cons next rest => rw [select_cons, ahead next rfl, if_neg Bool.false_ne_true]

/-- The segment behind which the next one is not reached is selected, if all
up to it are reached. -/
theorem select_append {first segment : Segment α τ} {before after : List (Segment α τ)}
    {key : Segment α τ → α} {position : α}
    (reached : ∀ earlier ∈ before, earlier.reached key position = true)
    (here : segment.reached key position = true)
    (ahead : ∀ next ∈ after.head?, next.reached key position = false) :
    (Motion.mk first (before ++ segment :: after)).select key position = segment := by
  induction before generalizing first with
  | nil =>
      rw [List.nil_append, select_cons, if_pos here]
      exact select_of_ahead ahead
  | cons next before ih =>
      obtain ⟨nextReached, reached⟩ := List.forall_mem_cons.mp reached
      rw [List.cons_append, select_cons, if_pos nextReached]
      exact ih reached

theorem select_mem_segments (motion : Motion α τ) (key : Segment α τ → α) (position : α) :
    motion.select key position ∈ motion.segments := by
  obtain ⟨first, rest⟩ := motion
  induction rest generalizing first with
  | nil => exact List.mem_singleton_self first
  | cons next rest ih =>
      rw [select_cons]
      split
      · exact List.mem_cons_of_mem first (ih next)
      · exact List.mem_cons_self

/-- Positions that have reached the same segments have passed the same segments. -/
theorem passed_congr {first : Segment α τ} {rest : List (Segment α τ)}
    {key key' : Segment α τ → α} {position position' : α}
    (agree : ∀ segment ∈ rest, segment.reached key position =
      segment.reached key' position') :
    (Motion.mk first rest).passed key position =
      (Motion.mk first rest).passed key' position' := by
  unfold passed
  induction rest with
  | nil => rfl
  | cons next rest ih =>
      obtain ⟨here, later⟩ := List.forall_mem_cons.mp agree
      rw [List.takeWhile_cons, List.takeWhile_cons, here]
      split
      · exact congrArg _ (ih later)
      · rfl

end Motion

end RhythmChart
