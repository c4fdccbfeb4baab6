import RhythmChart.Text.Basic

/-!
# The order of texts

Texts are ordered by their first different character, and characters by their code points.
-/

namespace RhythmChart.Text

/-- Whether the first text comes strictly before the second. -/
def precedes : Text → Text → Bool
  | _, [] => false
  | [], _ :: _ => true
  | a :: as, b :: bs => decide (a.toNat < b.toNat) || (a == b && precedes as bs)

end RhythmChart.Text
