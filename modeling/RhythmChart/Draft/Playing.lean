import RhythmChart.Draft.Basic
import RhythmChart.Notechart.OfChart

/-!
# Drafts to be played

A draft is played like the chart that it is. All of its objects must have a place before
anything else is asked of them.
-/

namespace RhythmChart.Draft

variable {α : Type} [Scalar α]

def notechart (draft : Draft α) (options : PlayerOptions) :
    Except (Fault α) (Notechart α) := do
  let _ ← draft.sorted
  Notechart.ofChart (← draft.toChart) options

end RhythmChart.Draft
