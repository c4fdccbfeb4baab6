import Mathlib.Algebra.Order.Field.Rat
import Mathlib.Tactic.NormNum
import Mathlib.Tactic.Ring
import RhythmChart.Proofs.Motion.Selection

/-!
# Linked motions

The segments of a linked motion come in the order of their times, and each one starts
where the line of the one before it has got to. So the motion has no jumps: it passes
through the start of every segment, whether that start belongs to the segment or to the
one before. With positive rates it is strictly increasing, goes everywhere, and is turned
back by looking segments up by their other end.
-/

namespace RhythmChart

namespace Segment

variable {τ : Type}

theorem le_of_not_reached {key : Segment Rat τ → Rat} {position : Rat}
    {segment : Segment Rat τ}
    (notReached : ¬segment.reached key position = true) : position ≤ key segment :=
  le_of_not_gt fun less => notReached (reached_of_lt less)

theorem xAt_eq_add (segment : Segment Rat τ) (left right : Rat) :
    segment.xAt right = segment.xAt left + (right - left) * segment.dx := by
  unfold xAt
  ring

theorem xAt_t (segment : Segment Rat τ) : segment.xAt segment.t = segment.x := by
  rw [xAt, sub_self, zero_mul, add_zero]

theorem xAt_lt_xAt {segment : Segment Rat τ} (rising : 0 < segment.dx) {left right : Rat}
    (less : left < right) : segment.xAt left < segment.xAt right :=
  add_lt_add_right (mul_lt_mul_of_pos_right (sub_lt_sub_right less _) rising) _

theorem tAt_of_rising {segment : Segment Rat τ} (rising : 0 < segment.dx) (x : Rat) :
    segment.tAt x = segment.t + (x - segment.x) / segment.dx := by
  have moving : Scalar.isZero segment.dx = false :=
    beq_eq_false_iff_ne.mpr (ne_of_gt rising)
  rw [tAt, moving]
  rfl

theorem tAt_xAt {segment : Segment Rat τ} (rising : 0 < segment.dx) (t : Rat) :
    segment.tAt (segment.xAt t) = t := by
  rw [tAt_of_rising rising, xAt, add_sub_cancel_left,
    mul_div_cancel_right₀ _ (ne_of_gt rising), add_sub_cancel]

theorem xAt_tAt {segment : Segment Rat τ} (rising : 0 < segment.dx) (x : Rat) :
    segment.xAt (segment.tAt x) = x := by
  rw [xAt, tAt_of_rising rising, add_sub_cancel_left, div_mul_cancel₀ _ (ne_of_gt rising),
    add_sub_cancel]

/-- The second segment does not start before the first one, and starts on its line. -/
def Meets (a b : Segment Rat τ) : Prop :=
  a.t ≤ b.t ∧ b.x = a.x + a.dx * (b.t - a.t)

theorem Meets.x_eq {a b : Segment Rat τ} (meets : a.Meets b) : b.x = a.xAt b.t := by
  rw [meets.2, xAt, mul_comm]

end Segment

namespace Motion

open Segment (Meets)

variable {τ : Type} {first : Segment Rat τ} {rest : List (Segment Rat τ)}

theorem start_le_of_mem (linked : (first :: rest).IsChain Meets) {segment : Segment Rat τ}
    (member : segment ∈ first :: rest) : first.t ≤ segment.t := by
  induction rest generalizing first with
  | nil => rw [List.mem_singleton.mp member]
  | cons next rest ih =>
      rcases List.mem_cons.mp member with rfl | later
      · exact le_refl _
      · obtain ⟨meets, linked⟩ := List.isChain_cons_cons.mp linked
        exact le_trans meets.1 (ih linked later)

theorem x_start (linked : (first :: rest).IsChain Meets) :
    (Motion.mk first rest).x first.t = first.x := by
  induction rest generalizing first with
  | nil => exact first.xAt_t
  | cons next rest ih =>
      obtain ⟨meets, linked⟩ := List.isChain_cons_cons.mp linked
      rw [x_cons]
      split
      · rename_i reached
        have same : next.t = first.t :=
          le_antisymm (Segment.le_of_reached reached) meets.1
        rw [← same, ih linked, meets.x_eq, same, first.xAt_t]
      · exact first.xAt_t

/-- Up to the start of the second segment a linked motion is on the
line of the first one. -/
theorem x_of_le {next : Segment Rat τ} (linked : (first :: next :: rest).IsChain Meets)
    {t : Rat}
    (early : t ≤ next.t) : (Motion.mk first (next :: rest)).x t = first.xAt t := by
  obtain ⟨meets, linked⟩ := List.isChain_cons_cons.mp linked
  rw [x_cons]
  split
  · rename_i reached
    rw [le_antisymm early (Segment.le_of_reached reached), x_start linked, meets.x_eq]
  · rfl

/-- From the start of the second segment on, a linked motion goes on
without the first one. -/
theorem x_of_ge {next : Segment Rat τ} (linked : (first :: next :: rest).IsChain Meets)
    {t : Rat} (late : next.t ≤ t) : (Motion.mk first (next :: rest)).x t =
      (Motion.mk next rest).x t := by
  obtain ⟨meets, behind⟩ := List.isChain_cons_cons.mp linked
  rcases eq_or_lt_of_le late with rfl | later
  · rw [x_of_le linked (le_refl _), x_start behind, meets.x_eq]
  · have reached : next.reached Segment.t t = true := by
      by_contra notReached
      exact not_le_of_gt later (Segment.le_of_not_reached notReached)
    rw [x_cons, if_pos reached]

/-- A linked motion passes through the starts of its segments. -/
theorem x_of_mem (linked : (first :: rest).IsChain Meets) {segment : Segment Rat τ}
    (member : segment ∈ first :: rest) :
    (Motion.mk first rest).x segment.t = segment.x := by
  induction rest generalizing first with
  | nil =>
      rw [List.mem_singleton.mp member]
      exact x_start linked
  | cons next rest ih =>
      rcases List.mem_cons.mp member with rfl | later
      · exact x_start linked
      · have behind := (List.isChain_cons_cons.mp linked).2
        rw [x_of_ge linked (start_le_of_mem behind later), ih behind later]

section Inclusive

variable (linked : (first :: rest).IsChain Meets)
  (inclusive : ∀ segment ∈ rest, segment.inclusive = true)

include linked inclusive

/-- The segment looked up at a time is the latest one that has started, if all starts
belong to their segments. -/
theorem segmentAtT_is_latest (t : Rat) :
    ((Motion.mk first rest).segmentAtT t ∈ rest ∧
      ((Motion.mk first rest).segmentAtT t).t ≤ t ∧
      ∀ segment ∈ rest, segment.t ≤ t →
        segment.t ≤ ((Motion.mk first rest).segmentAtT t).t) ∨
    ((Motion.mk first rest).segmentAtT t = first ∧ ∀ segment ∈ rest, t < segment.t) := by
  unfold segmentAtT
  induction rest generalizing first with
  | nil => exact .inr ⟨rfl, List.forall_mem_nil _⟩
  | cons next rest ih =>
      have behind := (List.isChain_cons_cons.mp linked).2
      obtain ⟨nextInclusive, othersInclusive⟩ := List.forall_mem_cons.mp inclusive
      have reached : next.reached Segment.t t = true ↔ next.t ≤ t :=
        Segment.reached_iff_of_inclusive nextInclusive
      rw [select_cons]
      rcases le_or_gt next.t t with started | ahead
      · rw [if_pos (reached.mpr started)]
        refine .inl ?_
        rcases ih behind othersInclusive with ⟨member, there, latest⟩ | ⟨same, later⟩
        · exact ⟨List.mem_cons_of_mem next member, there, List.forall_mem_cons.mpr
            ⟨fun _ => start_le_of_mem behind (List.mem_cons_of_mem next member), latest⟩⟩
        · rw [same]
          exact ⟨List.mem_cons_self, started, List.forall_mem_cons.mpr
            ⟨fun _ => le_refl _, fun segment member early =>
              absurd early (not_le_of_gt (later segment member))⟩⟩
      · rw [if_neg (mt reached.mp (not_le_of_gt ahead))]
        exact .inr ⟨rfl, fun segment member =>
          lt_of_lt_of_le ahead (start_le_of_mem behind member)⟩

/-- While no segment sets in, a linked motion goes on at the rate that it has at first. -/
theorem x_eq_add_of_steady {left right : Rat} (order : left ≤ right)
    (steady : ∀ segment ∈ rest, segment.t ≤ left ∨ right ≤ segment.t) :
    (Motion.mk first rest).x right =
      (Motion.mk first rest).x left + (right - left) *
        (Motion.mk first rest).rate left := by
  induction rest generalizing first with
  | nil => exact first.xAt_eq_add left right
  | cons next rest ih =>
      obtain ⟨meets, behind⟩ := List.isChain_cons_cons.mp linked
      obtain ⟨nextInclusive, othersInclusive⟩ := List.forall_mem_cons.mp inclusive
      obtain ⟨nextSteady, othersSteady⟩ := List.forall_mem_cons.mp steady
      have reached : next.reached Segment.t left = true ↔ next.t ≤ left :=
        Segment.reached_iff_of_inclusive nextInclusive
      rw [rate_cons]
      rcases le_or_gt next.t left with late | early
      · rw [if_pos (reached.mpr late), x_of_ge linked late,
        x_of_ge linked (le_trans late order)]
        exact ih behind othersInclusive othersSteady
      · have notYet := nextSteady.resolve_left (not_le_of_gt early)
        rw [if_neg (mt reached.mp (not_le_of_gt early)), x_of_le linked (le_of_lt early),
          x_of_le linked notYet]
        exact first.xAt_eq_add left right

end Inclusive

section Rising

variable (linked : (first :: rest).IsChain Meets)
  (rising : ∀ segment ∈ first :: rest, 0 < segment.dx)

include linked rising

/-- A linked motion with positive rates never stands still or goes back. -/
theorem strictMono_x : StrictMono (Motion.mk first rest).x := by
  induction rest generalizing first with
  | nil =>
      intro left right less
      exact Segment.xAt_lt_xAt (rising first List.mem_cons_self) less
  | cons next rest ih =>
      obtain ⟨meets, behind⟩ := List.isChain_cons_cons.mp linked
      obtain ⟨firstRising, othersRising⟩ := List.forall_mem_cons.mp rising
      have later := ih behind othersRising
      intro left right less
      rcases lt_or_ge left next.t with leftEarly | leftLate
      · rw [x_of_le linked (le_of_lt leftEarly)]
        rcases lt_or_ge right next.t with rightEarly | rightLate
        · rw [x_of_le linked (le_of_lt rightEarly)]
          exact Segment.xAt_lt_xAt firstRising less
        · rw [x_of_ge linked rightLate]
          calc first.xAt left
            _ < first.xAt next.t := Segment.xAt_lt_xAt firstRising leftEarly
            _ = next.x := meets.x_eq.symm
            _ = (Motion.mk next rest).x next.t := (x_start behind).symm
            _ ≤ (Motion.mk next rest).x right := later.monotone rightLate
      · rw [x_of_ge linked leftLate, x_of_ge linked (le_trans leftLate (le_of_lt less))]
        exact later less

/-- A linked motion with positive rates leads everywhere. -/
theorem surjective_x : Function.Surjective (Motion.mk first rest).x := by
  intro x
  induction rest generalizing first with
  | nil => exact ⟨_, Segment.xAt_tAt (rising first List.mem_cons_self) x⟩
  | cons next rest ih =>
      obtain ⟨meets, behind⟩ := List.isChain_cons_cons.mp linked
      obtain ⟨firstRising, othersRising⟩ := List.forall_mem_cons.mp rising
      rcases le_or_gt next.x x with late | early
      · obtain ⟨t, there⟩ := ih behind othersRising
        have reached : next.t ≤ t := by
          rw [← (strictMono_x behind othersRising).le_iff_le, x_start behind, there]
          exact late
        exact ⟨t, (x_of_ge linked reached).trans there⟩
      · have there := Segment.xAt_tAt firstRising x
        have notReached : first.tAt x ≤ next.t := by
          by_contra beyond
          have passed := Segment.xAt_lt_xAt firstRising (lt_of_not_ge beyond)
          rw [there, ← meets.x_eq] at passed
          exact lt_asymm early passed
        exact ⟨first.tAt x, (x_of_le linked notReached).trans there⟩

/-- The segments passed at a time are those passed where the motion is at that time. -/
theorem passed_x (t : Rat) :
    (Motion.mk first rest).passed Segment.x ((Motion.mk first rest).x t) =
      (Motion.mk first rest).passed Segment.t t := by
  have increasing := strictMono_x linked rising
  refine passed_congr fun segment member => ?_
  have start := x_of_mem linked (List.mem_cons_of_mem first member)
  simp only [Segment.reached, ← start, increasing.le_iff_le, increasing.lt_iff_lt]

theorem segmentAtX_x (t : Rat) :
    (Motion.mk first rest).segmentAtX ((Motion.mk first rest).x t) =
      (Motion.mk first rest).segmentAtT t := by
  rw [segmentAtX, segmentAtT, select, select, passed_x linked rising]

theorem t_x (t : Rat) : (Motion.mk first rest).t ((Motion.mk first rest).x t) = t := by
  have moving := rising _ (select_mem_segments (Motion.mk first rest) Segment.t t)
  rw [Motion.t, segmentAtX_x linked rising, Motion.x]
  exact Segment.tAt_xAt moving t

theorem x_t (x : Rat) : (Motion.mk first rest).x ((Motion.mk first rest).t x) = x := by
  obtain ⟨t, rfl⟩ := surjective_x linked rising x
  rw [t_x linked rising]

theorem strictMono_t : StrictMono (Motion.mk first rest).t := by
  intro left right less
  rw [← (strictMono_x linked rising).lt_iff_lt, x_t linked rising, x_t linked rising]
  exact less

end Rising

/-- A linked motion with positive rates can be made, its two directions are strictly
increasing and undo each other, and both look up the same segment. -/
theorem directions_are_inverse {segments : List (Segment Rat τ)}
    (nonempty : segments ≠ []) (rising : ∀ segment ∈ segments, 0 < segment.dx)
    (linked : segments.IsChain Meets) :
    ∃ motion, ofSegments segments = .ok motion ∧
      (∀ t, motion.t (motion.x t) = t) ∧ (∀ x, motion.x (motion.t x) = x) ∧
      StrictMono motion.x ∧ StrictMono motion.t ∧
      ∀ t, motion.index Segment.x (motion.x t) = motion.index Segment.t t ∧
        motion.segmentAtX (motion.x t) = motion.segmentAtT t := by
  cases segments with
  | nil => exact absurd rfl nonempty
  | cons first rest =>
      refine ⟨⟨first, rest⟩, rfl, t_x linked rising, x_t linked rising,
        strictMono_x linked rising,
        strictMono_t linked rising, fun t => ⟨?_, segmentAtX_x linked rising t⟩⟩
      rw [index, index, passed_x linked rising]

/-- Three starts at one time, of which the first does not belong to its segment: the other
two are not looked up there either. -/
def sharedStarts : List (Segment Rat Unit) :=
  [⟨0, 0, 2, true, ()⟩, ⟨1, 2, 1 / 2, false, ()⟩, ⟨1, 2, 3, true, ()⟩,
    ⟨1, 2, 4, false, ()⟩, ⟨2, 6, 1, true, ()⟩]

theorem directions_are_inverse_sharedStarts :
    sharedStarts ≠ [] ∧ (∀ segment ∈ sharedStarts, 0 < segment.dx) ∧
      sharedStarts.IsChain Meets ∧
      ∃ motion, ofSegments sharedStarts = .ok motion ∧ motion.index Segment.t 1 = 0 ∧
        motion.index Segment.x (motion.x 1) = motion.index Segment.t 1 ∧
        motion.t (motion.x 1) = 1 ∧ motion.x (motion.t (-3)) = -3 ∧
          motion.x (motion.t 9) = 9 := by
  have rising : ∀ segment ∈ sharedStarts, 0 < segment.dx := by simp [sharedStarts]
  have linked : sharedStarts.IsChain Meets := by
    simp only [sharedStarts, List.isChain_cons_cons, List.IsChain.singleton, Meets]
    norm_num
  obtain ⟨motion, made, back, forth, -, -, found⟩ :=
    directions_are_inverse (List.cons_ne_nil _ _) rising linked
  have index : motion.index Segment.t 1 = 0 := by
    cases made
    decide +kernel
  exact ⟨List.cons_ne_nil _ _, rising, linked, motion, made, index, (found 1).1, back 1,
    forth (-3), forth 9⟩

end Motion

end RhythmChart
