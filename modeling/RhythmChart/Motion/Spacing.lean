import RhythmChart.Chart.Basic
import RhythmChart.Motion.Basic

/-!
# Note spacing

Objects on the spacing channel are keyframes of the factor that spreads notes apart.
Between two keyframes the factor changes evenly; two keyframes on one beat make it jump.
Without a keyframe it is one.
-/

namespace RhythmChart

/-- The relation of beats and spacing factors; without a motion the
factor is one everywhere. -/
structure Spacing (α : Type) where
  motion? : Option (Motion α Unit)

namespace Spacing

variable {α : Type} [Scalar α]

def factor (spacing : Spacing α) (beat : α) : α :=
  match spacing.motion? with
  | some motion => motion.x beat
  | none => ((1 : Nat) : α)

/-- The spacing factor at a given beat, which without a motion need not be a number. -/
def lookUpFactor (spacing : Spacing α) (given : Field α) : Except (Fault α) α :=
  match spacing.motion? with
  | some motion => given.quantity.map motion.x
  | none => .ok ((1 : Nat) : α)

/-- The slope from a keyframe to the next one; a jump has none. -/
def slope (beat factor : α) : List (α × α) → α
  | [] => ((0 : Nat) : α)
  | (next, nextFactor) :: _ =>
      if next == beat then ((0 : Nat) : α) else (nextFactor - factor) / (next - beat)

def segmentsOf : List (α × α) → List (Segment α Unit)
  | [] => []
  | (beat, factor) :: rest =>
      ⟨beat, factor, slope beat factor rest, true, ()⟩ :: segmentsOf rest

def checked : List (α × α) → Except (Fault α) Unit
  | [] => .ok ()
  | (beat, factor) :: rest => do
      let _ ← Segment.make beat factor ((0 : Nat) : α) true ()
      checked rest

/-- The spacing through keyframes in the order of their beats. From beat zero to the first
keyframe the factor is that of the first keyframe. -/
def ofKeyframes (keyframes : List (α × α)) : Except (Fault α) (Spacing α) := do
  checked keyframes
  match keyframes with
  | [] => return ⟨none⟩
  | (_, factor) :: _ =>
      let zero := ((0 : Nat) : α)
      return ⟨some ⟨⟨zero, factor, zero, true, ()⟩, segmentsOf keyframes⟩⟩

/-- Whether a keyframe that is still to be checked can be measured against the beat of the
one before it: on another beat, both of its fields are calculated with. -/
def isMeasurable (previous : α) (beat factor : Field α) : Bool :=
  match beat.scalar? with
  | some beat => beat == previous || factor.scalar?.isSome
  | none => false

/-- Checks keyframes after one on the beat `previous`, if there is one before them. Each
is measured against the one before it, and then its beat and its factor are checked like
`t` and `x` of a segment. -/
def readKeyframes (previous : Option α) :
    List (Field α × Field α) → Except (Fault α) (List (α × α))
  | [] => .ok []
  | (beat, factor) :: rest =>
      if previous.any fun previous => !isMeasurable previous beat factor then
        .error .incomparable
      else do
        let beat ← Segment.numeric .t beat
        let factor ← Segment.numeric .x factor
        let later ← readKeyframes (some beat) rest
        return (beat, factor) :: later

def ofRecords (records : List (Field α × Field α)) : Except (Fault α) (Spacing α) := do
  ofKeyframes (← readKeyframes none records)

def factorNamed? (headers : Headers) (value : Code) : Option α :=
  headers.number? (['s', 'p', 'e', 'e', 'd'] ++ value.text)

/-- The keyframes of a chart: an object refers to a header, and is passed over
if that is no number. -/
def keyframes (chart : Chart α) : List (α × α) :=
  chart.objects.sorted.filterMap fun object =>
    if object.channel = Code.spacing then
      (factorNamed? chart.headers object.value).map (chart.beatOf object, ·)
    else none

def ofChart (chart : Chart α) : Except (Fault α) (Spacing α) :=
  ofKeyframes (keyframes chart)

end Spacing

end RhythmChart
