import Mathlib.Data.List.Induction
import RhythmChart.Chart.Objects

/-!
# Overlaying objects

In exact arithmetic two objects compete for a place exactly if channel, measure and
fraction agree. After any objects were added, a place in the foreground holds the last one
that was added there, and the background holds all that were added to it.
-/

namespace RhythmChart

namespace Objects

section Placing

variable {σ : Type} {samePlace : σ → σ → Bool} {entry : σ} {p : σ → Bool} {xs : List σ}

/-- A filter that drops an entry and everything that it may replace
does not see it placed. -/
theorem filter_place_of_dropped (rivals : ∀ x, samePlace x entry = true → p x = false)
    (dropped : p entry = false) : (place samePlace entry xs).filter p = xs.filter p := by
  induction xs with
  | nil => simp [place, dropped]
  | cons x rest ih =>
      unfold place
      split
      · rename_i same
        simp [dropped, rivals x same]
      · rw [List.filter_cons, List.filter_cons, ih]

theorem filter_place_of_kept (rivals : ∀ x, p x = samePlace x entry)
    (kept : p entry = true) (alone : (xs.filter p).length ≤ 1) :
    (place samePlace entry xs).filter p = [entry] := by
  induction xs with
  | nil => simp [place, kept]
  | cons x rest ih =>
      unfold place
      cases same : samePlace x entry with
      | true =>
          rw [List.filter_cons_of_pos ((rivals x).trans same)] at alone
          have others : rest.filter p = [] :=
            List.length_eq_zero_iff.mp (by simpa using alone)
          simp [kept, others]
      | false =>
          have dropped : ¬p x = true := by simp [rivals, same]
          rw [List.filter_cons_of_neg dropped] at alone
          rw [if_neg Bool.false_ne_true, List.filter_cons_of_neg dropped, ih alone]

theorem mem_place {x : σ} (member : x ∈ place samePlace entry xs) :
    x = entry ∨ x ∈ xs := by
  induction xs with
  | nil => exact .inl (List.mem_singleton.mp member)
  | cons other rest ih =>
      unfold place at member
      split at member
      · exact (List.mem_cons.mp member).imp_right (List.mem_cons_of_mem other)
      · rcases List.mem_cons.mp member with first | later
        · exact .inr (first ▸ List.mem_cons_self)
        · exact (ih later).imp_right (List.mem_cons_of_mem other)

theorem map_place {τ : Type} {f : σ → τ} {samePlace' : τ → τ → Bool}
    (same : ∀ x y, samePlace' (f x) (f y) = samePlace x y) :
    (place samePlace entry xs).map f = place samePlace' (f entry) (xs.map f) := by
  induction xs with
  | nil => rfl
  | cons x rest ih =>
      rw [place, List.map_cons, place, same]
      split
      · rfl
      · rw [List.map_cons, ih]

end Placing

theorem mem_add {α : Type} [Scalar α] {objects : Objects α} {added object : ChartObject α}
    (member : object ∈ (objects.add added).toList) : object = added ∨
      object ∈ objects.toList := by
  unfold add at member
  split at member
  · exact (List.mem_append.mp member).symm.imp_left List.mem_singleton.mp
  · exact mem_place member

theorem mem_foldl_add {α : Type} [Scalar α] {objects : Objects α}
    {added : List (ChartObject α)}
    {object : ChartObject α} (member : object ∈ (added.foldl add objects).toList) :
    object ∈ added ∨ object ∈ objects.toList := by
  induction added generalizing objects with
  | nil => exact .inr member
  | cons first rest ih =>
      rcases ih member with later | before
      · exact .inl (List.mem_cons_of_mem first later)
      · rcases mem_add before with rfl | old
        · exact .inl List.mem_cons_self
        · exact .inr old

end Objects

namespace ChartObject

def isAt (channel : Code) (measure : Nat) (fraction : Rat)
    (object : ChartObject Rat) : Bool :=
  object.channel == channel && object.measure == measure && object.fraction == fraction

def isBackground {α : Type} (object : ChartObject α) : Bool :=
  object.channel == Code.background

theorem samePlace_iff {α : Type} [Scalar α] {a b : ChartObject α} :
    a.samePlace b = true ↔
      a.channel = b.channel ∧ a.measure = b.measure ∧
        (a.fraction == b.fraction) = true := by
  simp [samePlace, and_assoc]

variable {channel : Code} {measure : Nat} {fraction : Rat} {object : ChartObject Rat}

theorem isAt_iff :
    object.isAt channel measure fraction = true ↔
      object.channel = channel ∧ object.measure = measure ∧
        object.fraction = fraction := by
  simp [isAt, and_assoc]

theorem isAt_self (object : ChartObject Rat) :
    object.isAt object.channel object.measure object.fraction = true :=
  isAt_iff.mpr ⟨rfl, rfl, rfl⟩

end ChartObject

namespace Objects

open ChartObject

variable {channel : Code} {measure : Nat} {fraction : Rat}

theorem filter_isAt_add (objects : Objects Rat) (object : ChartObject Rat)
    (foreground : channel ≠ Code.background)
    (alone : (objects.toList.filter (isAt channel measure fraction)).length ≤ 1) :
    (objects.add object).toList.filter (isAt channel measure fraction) =
      if object.isAt channel measure fraction then [object]
      else objects.toList.filter (isAt channel measure fraction) := by
  unfold add
  cases here : object.isAt channel measure fraction with
  | true =>
      obtain ⟨rfl, rfl, rfl⟩ := isAt_iff.mp here
      rw [if_neg foreground, if_pos rfl]
      exact filter_place_of_kept (fun _ => rfl) here alone
  | false =>
      rw [if_neg Bool.false_ne_true]
      split
      · simp [here]
      · refine filter_place_of_dropped (fun other same => ?_) here
        obtain ⟨channels, measures, fractions⟩ := isAt_iff.mp same
        rw [← here, isAt, isAt, channels, measures, fractions]

theorem filter_isBackground_add {α : Type} [Scalar α] (objects : Objects α)
    (object : ChartObject α) :
    (objects.add object).toList.filter isBackground =
      (objects.toList ++ [object]).filter isBackground := by
  unfold add
  split
  · rfl
  · rename_i foreground
    have dropped : object.isBackground = false := beq_eq_false_iff_ne.mpr foreground
    rw [filter_place_of_dropped _ dropped]
    · simp [dropped]
    · intro other same
      rw [isBackground, (samePlace_iff.mp same).1]
      exact dropped

/-- In the background objects accumulate. -/
theorem filter_isBackground_foldl_add {α : Type} [Scalar α]
    (added : List (ChartObject α)) :
    (added.foldl add empty).toList.filter isBackground = added.filter isBackground := by
  induction added using List.reverseRecOn with
  | nil => rfl
  | append_singleton added object ih =>
      rw [List.foldl_append, List.foldl_cons, List.foldl_nil, filter_isBackground_add,
        List.filter_append, ih, List.filter_append]

def overlay (added : List (ChartObject Rat)) : Objects Rat :=
  added.foldl add empty

theorem overlay_append_singleton (added : List (ChartObject Rat))
    (object : ChartObject Rat) :
    overlay (added ++ [object]) = (overlay added).add object := by
  rw [overlay, List.foldl_append]
  rfl

/-- In the foreground the last object that was added at a place is the only one there. -/
theorem filter_isAt_overlay (added : List (ChartObject Rat))
    (foreground : channel ≠ Code.background) :
    (overlay added).toList.filter (isAt channel measure fraction) =
      (added.filter (isAt channel measure fraction)).getLast?.toList := by
  induction added using List.reverseRecOn with
  | nil => rfl
  | append_singleton added object ih =>
      have alone :
          ((overlay added).toList.filter (isAt channel measure fraction)).length ≤ 1 := by
        rw [ih]
        exact Option.length_toList_le
      rw [overlay_append_singleton, filter_isAt_add _ object foreground alone, ih,
        List.filter_append]
      cases here : object.isAt channel measure fraction with
      | true => simp [here]
      | false => simp [here]

theorem filter_isBackground_overlay (added : List (ChartObject Rat)) :
    (overlay added).toList.filter isBackground = added.filter isBackground :=
  filter_isBackground_foldl_add added

end Objects

end RhythmChart
