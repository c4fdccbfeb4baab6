import RhythmChart.Fault

/-!
# Segments

A segment is a piece of linear motion: `x` is reached at `t` and changes by `dx` for each
unit of `t` until the next segment starts. It may carry a label. The start itself belongs
to the segment if it is inclusive, and otherwise to the segment before.
-/

namespace RhythmChart

/-- A piece of linear motion. -/
structure Segment (α τ : Type) where
  t : α
  x : α
  dx : α
  inclusive : Bool
  label : τ

namespace Segment

variable {α τ : Type} [Scalar α]

def defined (field : SegmentField) (value : α) : Except (Fault α) α :=
  if Scalar.isUndefined value then .error (.segmentUndefined field) else .ok value

/-- A segment from its numbers, none of which may be undefined. -/
def make (t x dx : α) (inclusive : Bool) (label : τ) :
    Except (Fault α) (Segment α τ) := do
  let t ← defined .t t
  let x ← defined .x x
  let dx ← defined .dx dx
  return ⟨t, x, dx, inclusive, label⟩

/-- Whether a position has reached the start of a segment, measured by a key. -/
def reached (key : Segment α τ → α) (position : α) (segment : Segment α τ) : Bool :=
  if segment.inclusive then decide (key segment ≤ position)
  else decide (key segment < position)

def xAt (segment : Segment α τ) (t : α) : α :=
  segment.x + (t - segment.t) * segment.dx

/-- The `t` at which the line of a segment is at `x`; a segment at rest
counts as one of rate one. -/
def tAt (segment : Segment α τ) (x : α) : α :=
  segment.t +
    (x - segment.x) / (if Scalar.isZero segment.dx then ((1 : Nat) : α) else segment.dx)

/-- A segment with nothing checked yet. -/
structure Record (α : Type) where
  t : Field α
  x : Field α
  dx : Field α
  inclusive : Field α

/-- The number given for a field; flags are not numbers here. -/
def numeric (field : SegmentField) (given : Field α) : Except (Fault α) α :=
  match given with
  | .number value => defined field value
  | .integer _ => given.quantity
  | _ => .error (.segmentNotNumeric field given)

/-- Checks a record: the numbers in order, then the flag. -/
def ofRecord (record : Record α) : Except (Fault α) (Segment α Unit) := do
  let t ← numeric .t record.t
  let x ← numeric .x record.x
  let dx ← numeric .dx record.dx
  match record.inclusive with
  | .flag inclusive => return ⟨t, x, dx, inclusive, ()⟩
  | given => .error (.segmentFlag given)

/-- Checks a list in which segments may be missing. -/
def allPresent (segments : List (Option (Segment α τ))) :
    Except (Fault α) (List (Segment α τ)) :=
  segments.mapM fun
    | some segment => .ok segment
    | none => .error .missingSegment

end Segment

end RhythmChart
