import RhythmChart.Proofs.Chart.Overlay
import RhythmChart.Proofs.Number.Nonnegative
import RhythmChart.Proofs.Sorting.Firsts
import RhythmChart.Proofs.Sorting.Ties

/-!
# Objects as a log and a map

In the background the objects are a log of all that were added. Elsewhere they are a map
from places to the last object that was added there, in the order in which the places
were first taken. All this can be told from the list of what was added, on every scale
that is ordered from zero on.
-/

namespace RhythmChart

section Placing

variable {σ : Type} {samePlace : σ → σ → Bool} {entry : σ} {xs : List σ}

end Placing

namespace ChartObject

variable {α : Type} [Scalar α] {a b : ChartObject α}

instance (object : ChartObject α) : Decidable object.Valid :=
  inferInstanceAs (Decidable (_ ∧ _))

/-- The last of the objects that were added at the place of one of them. In the background
no object takes the place of another one. -/
def latest (added : List (ChartObject α)) (object : ChartObject α) : ChartObject α :=
  if object.isBackground then object
  else (added.filter object.samePlace).getLast?.getD object

section Latest

variable {added : List (ChartObject α)} {object : ChartObject α}

end Latest

variable [HasExtent α]

/-- What two objects that compete for a place have in common. -/
def key (object : ChartObject α) : Code × Nat × WithTop Rat :=
  (object.channel, object.measure, HasExtent.extent object.fraction)

section Added

variable {added : List (ChartObject α)} {object : ChartObject α}

end Added

end ChartObject

namespace Objects

open ChartObject

variable {α : Type} [Scalar α]

variable [HasExtent α] {added : List (ChartObject α)}
  (valid : ∀ object ∈ added, object.Valid)

include valid

section Foreground

variable {object : ChartObject α} (member : object ∈ added)
  (foreground : object.isBackground = false)

include member foreground

end Foreground

end Objects

section Sorting

open ChartObject HasExtent

variable {α : Type} [Scalar α] [HasExtent α]

variable {objects : Objects α} (valid : ∀ object ∈ objects.toList, object.Valid)

include valid

end Sorting

namespace Objects

open ChartObject

variable {α : Type} [Scalar α]

section Others

variable {objects : Objects α} {new : ChartObject α}

end Others

end Objects

end RhythmChart
