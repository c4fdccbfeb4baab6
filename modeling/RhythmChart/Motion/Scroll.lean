import RhythmChart.Chart.Basic
import RhythmChart.Motion.Basic

/-!
# Scroll positions

Objects on the scroll channel change how fast the chart scrolls. A scroll is a motion with
`t` in beats, `x` the distance scrolled so far, and `dx` the distance per beat.
-/

namespace RhythmChart

/-- The relation of beats and scroll positions. -/
structure Scroll (α : Type) where
  motion : Motion α Unit

namespace Scroll

variable {α : Type} [Scalar α]

def ofSegments (segments : List (Segment α Unit)) : Except (Fault α) (Scroll α) :=
  (Motion.ofSegments segments).map Scroll.mk

def speed (scroll : Scroll α) (beat : α) : α :=
  scroll.motion.rate beat

def lookUpSpeed (scroll : Scroll α) (given : Field α) : Except (Fault α) α :=
  (scroll.motion.lookUp Segment.t given).map Segment.dx

def position (scroll : Scroll α) (beat : α) : α :=
  scroll.motion.x beat

/-- The segments after `previous` for rates that set in at beats in order. -/
def segmentsFrom (previous : Segment α Unit) :
    List (α × α) → Except (Fault α) (List (Segment α Unit))
  | [] => .ok []
  | (beat, rate) :: rest => do
      let segment ← Segment.make beat (previous.xAt beat) rate true ()
      let later ← segmentsFrom segment rest
      return segment :: later

/-- Rates on beat zero that come before all others replace the rate of the first segment;
the latest of them counts. -/
def initialRate (rate : α) : List (α × α) → α × List (α × α)
  | [] => (rate, [])
  | (beat, rate') :: rest =>
      if Scalar.isZero beat then initialRate rate' rest else (rate, (beat, rate') :: rest)

/-- The scroll for rates that set in at beats in order. Before any of
them the rate is one. -/
def ofRates (rates : List (α × α)) : Except (Fault α) (Scroll α) := do
  let origin := ((0 : Nat) : α)
  let (rate, later) := initialRate ((1 : Nat) : α) rates
  let first := ⟨origin, origin, rate, true, ()⟩
  let rest ← segmentsFrom first later
  return ⟨⟨first, rest⟩⟩

def initial : Scroll α :=
  let origin := ((0 : Nat) : α)
  ⟨⟨⟨origin, origin, ((1 : Nat) : α), true, ()⟩, []⟩⟩

/-- The scroll with one more rate, which sets in after all others. -/
def extend (scroll : Scroll α) (entry : α × α) : Except (Fault α) (Scroll α) :=
  let first := scroll.motion.first
  let rest := scroll.motion.rest
  if rest.isEmpty && Scalar.isZero entry.1 then .ok ⟨⟨{ first with dx := entry.2 }, []⟩⟩
  else
    (Segment.make entry.1 ((rest.getLastD first).xAt entry.1) entry.2 true ()).map
      fun segment =>
      ⟨⟨first, rest ++ [segment]⟩⟩

/-- The rates of a chart: an object refers to a header, and is passed over
if that is no number. -/
def rates (chart : Chart α) : List (α × α) :=
  chart.objects.sorted.filterMap fun object =>
    if object.channel = Code.scroll then
      (chart.number? (['s', 'c', 'r', 'o', 'l', 'l'] ++ object.value.text)).map
        (chart.beatOf object, ·)
    else none

def ofChart (chart : Chart α) : Except (Fault α) (Scroll α) :=
  ofRates (rates chart)

end Scroll

end RhythmChart
