import RhythmChart.Draft.Basic
import RhythmChart.Proofs.Chart.Log
import RhythmChart.Proofs.Number.Range
import RhythmChart.Proofs.Sorting.Stable

/-!
# Objects of drafts

Objects in whole measures are put into a draft as into a chart, one after the
other, and sorted in the same way. Sorting fails if a measure is too large for a
number on the scale of positions.
-/

namespace RhythmChart

variable {α : Type} [Scalar α]

namespace DraftObject

end DraftObject

namespace DraftObject

/-- The object of a draft that an object is, with its place. -/
def placed (object : ChartObject α) : Place α × DraftObject α :=
  (.point object.position, ofObject object)

end DraftObject

namespace Draft

end Draft

namespace ChartObject

end ChartObject

namespace Draft

end Draft

end RhythmChart
