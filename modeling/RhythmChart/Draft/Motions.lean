import RhythmChart.Draft.Basic
import RhythmChart.Motion.Scroll
import RhythmChart.Motion.Spacing
import RhythmChart.Motion.Timing

/-!
# The motions of drafts

Timing, scroll and spacing of a draft are those of the chart that it is, as far as the
objects on which they depend stand in whole measures. The beats of all objects are
calculated for the timing, in any order; those of scroll objects one by one as the scroll
goes on; and those of keyframes before anything else is done with them.
-/

namespace RhythmChart.Draft

variable {α : Type} [Scalar α]

def timing (draft : Draft α) : Except (Fault α) (Timing α) := do
  Timing.ofChart (← draft.toChart)

def sortedOn (draft : Draft α) (channel : Code) :
    Except (Fault α) (List (DraftObject α)) := do
  return (← draft.sorted).filter (·.channel == channel)

/-- The scroll with the rate of one more object, if that refers to one. The object
needs a beat in any case. -/
def extendScroll (draft : Draft α) (scroll : Scroll α) (object : DraftObject α) :
    Except (Fault α) (Scroll α) := do
  (Scroll.rates (← draft.chartOf [object])).foldlM Scroll.extend scroll

/-- The scroll of a draft, object by object, so that the first fault counts. -/
def scroll (draft : Draft α) : Except (Fault α) (Scroll α) := do
  (← draft.sortedOn Code.scroll).foldlM draft.extendScroll Scroll.initial

def hasFactor (draft : Draft α) (object : DraftObject α) : Bool :=
  (Spacing.factorNamed? draft.headers object.value : Option α).isSome

/-- The spacing of a draft. Objects that refer to no factor need no beat. -/
def spacing (draft : Draft α) : Except (Fault α) (Spacing α) := do
  let objects := (← draft.sortedOn Code.spacing).filter draft.hasFactor
  Spacing.ofChart (← draft.chartOf objects)

end RhythmChart.Draft
