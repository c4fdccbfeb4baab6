import RhythmChart.Motion.Segment

/-!
# Keyframed motion

A motion is a nonempty list of segments. A position selects the last segment of the
initial run that it has reached: the search stops at the first segment that is not
reached. The first segment is selected also by positions before its start, and the last
one extends without end.

The same motion is read in both directions, from `t` to `x` and back.
-/

namespace RhythmChart

/-- A motion in one dimension, made of segments. -/
structure Motion (α τ : Type) where
  first : Segment α τ
  rest : List (Segment α τ)

namespace Motion

variable {α τ : Type}

def segments (motion : Motion α τ) : List (Segment α τ) :=
  motion.first :: motion.rest

variable [Scalar α]

/-- A motion from its segments, of which there must be at least one. -/
def ofSegments : List (Segment α τ) → Except (Fault α) (Motion α τ)
  | [] => .error .noSegments
  | first :: rest => .ok ⟨first, rest⟩

/-- The segments after the first that a position has reached without a gap. -/
def passed (motion : Motion α τ) (key : Segment α τ → α) (position : α) :
    List (Segment α τ) :=
  motion.rest.takeWhile (Segment.reached key position)

def index (motion : Motion α τ) (key : Segment α τ → α) (position : α) : Nat :=
  (motion.passed key position).length

def select (motion : Motion α τ) (key : Segment α τ → α) (position : α) : Segment α τ :=
  (motion.passed key position).getLastD motion.first

def segmentAtT (motion : Motion α τ) (t : α) : Segment α τ :=
  motion.select Segment.t t

def segmentAtX (motion : Motion α τ) (x : α) : Segment α τ :=
  motion.select Segment.x x

/-- The segment that a given value selects. Without a second segment nothing is compared
with it, so that it need not be a number. -/
def lookUp (motion : Motion α τ) (key : Segment α τ → α) (given : Field α) :
    Except (Fault α) (Segment α τ) :=
  if motion.rest.isEmpty then .ok motion.first else given.quantity.map (motion.select key)

def x (motion : Motion α τ) (t : α) : α :=
  (motion.segmentAtT t).xAt t

def t (motion : Motion α τ) (x : α) : α :=
  (motion.segmentAtX x).tAt x

def rate (motion : Motion α τ) (t : α) : α :=
  (motion.segmentAtT t).dx

end Motion

end RhythmChart
