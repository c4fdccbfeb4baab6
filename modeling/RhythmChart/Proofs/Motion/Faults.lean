import RhythmChart.Motion.Scroll
import RhythmChart.Motion.Spacing
import RhythmChart.Motion.Timing

/-!
# What motions refuse

Motions are made segment by segment. Unless a tempo is zero, all that can be refused on
the way is an undefined number in a segment.
-/

namespace RhythmChart

variable {α : Type}

/-- What is said of an outcome: one thing of its value, or else
another one of its fault. -/
def Yields {σ : Type} (Result : σ → Prop) (Refusal : Fault α → Prop) :
    Except (Fault α) σ → Prop
  | .ok value => Result value
  | .error fault => Refusal fault

namespace Yields

variable {σ τ : Type} {Result : σ → Prop} {Result' : τ →
  Prop} {Refusal Refusal' : Fault α → Prop}

theorem bind {first : Except (Fault α) σ} {next : σ → Except (Fault α) τ}
    (yields : Yields Result Refusal first)
    (onward : ∀ value, Result value → Yields Result' Refusal (next value)) :
    Yields Result' Refusal (first >>= next) := by
  cases first with
  | error fault => exact yields
  | ok value => exact onward value yields

theorem mono {outcome : Except (Fault α) σ} {Wider : σ → Prop}
    (yields : Yields Result Refusal outcome)
    (results : ∀ value, Result value → Wider value)
    (refusals : ∀ fault, Refusal fault → Refusal' fault) :
    Yields Wider Refusal' outcome := by
  cases outcome with
  | error fault => exact refusals fault yields
  | ok value => exact results value yields

theorem mapM {f : σ → Except (Fault α) τ} {xs : List σ}
    (each : ∀ x ∈ xs, Yields Result' Refusal (f x)) :
    Yields (fun ys => ∀ y ∈ ys, Result' y) Refusal (xs.mapM f) := by
  induction xs with
  | nil => exact fun _ member => nomatch member
  | cons x xs ih =>
      rw [List.mapM_cons]
      refine (each x List.mem_cons_self).bind fun y good => ?_
      refine (ih fun z member => each z (List.mem_cons_of_mem x member)).bind
        fun ys others => ?_
      exact List.forall_mem_cons.mpr ⟨good, others⟩

theorem cases {outcome : Except (Fault α) σ} (yields : Yields Result Refusal outcome) :
    (∃ value, outcome = .ok value ∧ Result value) ∨
      ∃ fault, outcome = .error fault ∧ Refusal fault := by
  cases outcome with
  | error fault => exact .inr ⟨fault, rfl, yields⟩
  | ok value => exact .inl ⟨value, rfl, yields⟩

end Yields

/-- A number of a segment is undefined. -/
def Fault.IsUndefined (fault : Fault α) : Prop :=
  ∃ field, fault = .segmentUndefined field

variable [Scalar α]

namespace Segment

variable {τ : Type}

theorem yields_defined (field : SegmentField) (value : α) :
    Yields (fun result => result = value) Fault.IsUndefined (defined field value) := by
  unfold defined
  split
  · exact ⟨field, rfl⟩
  · rfl

/-- A segment is made of the numbers it is given, unless one of them is undefined. -/
theorem yields_make (t x dx : α) (inclusive : Bool) (label : τ) :
    Yields (fun segment => segment = ⟨t, x, dx, inclusive, label⟩) Fault.IsUndefined
      (make t x dx inclusive label) := by
  refine (yields_defined .t t).bind ?_
  rintro _ rfl
  refine (yields_defined .x x).bind ?_
  rintro _ rfl
  refine (yields_defined .dx dx).bind ?_
  rintro _ rfl
  rfl

theorem yields_make_of_defined {t x dx : α} (hasT : Scalar.isUndefined t = false)
    (hasX : Scalar.isUndefined x = false) (hasDx : Scalar.isUndefined dx = false)
    (inclusive : Bool) (label : τ) :
    Yields (fun segment => segment = ⟨t, x, dx, inclusive, label⟩) (fun _ => False)
      (make t x dx inclusive label) := by
  rw [make, defined, defined, defined, hasT, hasX, hasDx]
  rfl

end Segment

namespace Timing

/-- An action sets no tempo of zero. -/
def KeepsMoving : TimingAction α → Prop
  | .tempo _ bpm => Scalar.isZero bpm = false
  | .stop _ _ => True

theorem duration_of_nonzero {bpm : α} (nonzero : Scalar.isZero bpm = false) (beats : α) :
    duration beats bpm = .ok (beats * minute / bpm) := by
  rw [duration, nonzero, if_neg Bool.false_ne_true]

theorem yields_segmentsFrom {bpm beat seconds : α} {actions : List (TimingAction α)}
    (nonzero : Scalar.isZero bpm = false)
    (moving : ∀ action ∈ actions, KeepsMoving action) :
    Yields (fun _ => True) Fault.IsUndefined (segmentsFrom bpm beat seconds actions) := by
  induction actions generalizing bpm beat seconds with
  | nil => trivial
  | cons action rest ih =>
      obtain ⟨first, others⟩ := List.forall_mem_cons.mp moving
      cases action with
      | tempo next bpm' =>
          rw [segmentsFrom, duration_of_nonzero nonzero]
          refine (Segment.yields_make ..).bind fun segment _ => ?_
          exact (ih first others).bind fun _ _ => trivial
      | stop next length =>
          rw [segmentsFrom, duration_of_nonzero nonzero]
          refine (Segment.yields_make ..).bind fun hold _ => ?_
          rw [duration_of_nonzero nonzero]
          refine (Segment.yields_make ..).bind fun segment _ => ?_
          exact (ih nonzero others).bind fun _ _ => trivial

theorem yields_ofActions {bpm : α} {actions : List (TimingAction α)}
    (nonzero : Scalar.isZero bpm = false)
    (moving : ∀ action ∈ actions, KeepsMoving action) :
    Yields (fun _ => True) Fault.IsUndefined (ofActions bpm actions) := by
  refine (Segment.yields_make ..).bind fun first _ => ?_
  refine (yields_segmentsFrom nonzero fun action member => ?_).bind fun rest _ => trivial
  exact moving action ((TimingAction.inOrder_perm _ _ actions).mem_iff.mp member)

end Timing

theorem Scroll.yields_segmentsFrom (previous : Segment α Unit) (rates : List (α × α)) :
    Yields (fun _ => True) Fault.IsUndefined (segmentsFrom previous rates) := by
  induction rates generalizing previous with
  | nil => trivial
  | cons entry rest ih =>
      refine (Segment.yields_make ..).bind fun segment _ => ?_
      exact (ih segment).bind fun _ _ => trivial

theorem Scroll.yields_ofRates (rates : List (α × α)) :
    Yields (fun _ => True) Fault.IsUndefined (ofRates rates) :=
  (yields_segmentsFrom _ _).bind fun _ _ => trivial

theorem Spacing.yields_checked (keyframes : List (α × α)) :
    Yields (fun _ => True) Fault.IsUndefined (checked keyframes) := by
  induction keyframes with
  | nil => trivial
  | cons keyframe rest ih => exact (Segment.yields_make ..).bind fun _ _ => ih

theorem Spacing.yields_ofKeyframes (keyframes : List (α × α)) :
    Yields (fun _ => True) Fault.IsUndefined (ofKeyframes keyframes) := by
  refine (yields_checked keyframes).bind fun _ _ => ?_
  cases keyframes <;> trivial

end RhythmChart
