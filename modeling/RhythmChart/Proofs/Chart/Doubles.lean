import RhythmChart.Proofs.Compilation.Validity
import RhythmChart.Proofs.Number.DoubleOrder

/-!
# Beats in doubles

The sizes and fractions of a compiled chart are numbers that are not negative. Sums and
products of such numbers may be too large or undefined, but they are not negative either,
and so no object stands on a negative beat.
-/

namespace RhythmChart

open Double

/-- No size and no fraction is less than zero. -/
structure Chart.Unsigned (chart : Chart Float) : Prop where
  sizes : ∀ entry ∈ chart.sizes.entries, ¬entry.2 < ((0 : Nat) : Float)
  fractions : ∀ object ∈ chart.objects.toList, ¬object.fraction < ((0 : Nat) : Float)

namespace MeasureSizes

variable {sizes : MeasureSizes Float}
  (unsigned : ∀ entry ∈ sizes.entries, ¬entry.2 < ((0 : Nat) : Float))

include unsigned

theorem not_neg_beats (measure : Int) : ¬sizes.beats measure < ((0 : Nat) : Float) := by
  have sized : ¬sizes.size measure < ((0 : Nat) : Float) := by
    unfold size
    cases found : sizes.entries.lookup measure with
    | none => exact not_neg_natCast 1
    | some size =>
        obtain ⟨before, after, split, -⟩ := List.lookup_eq_some_iff.mp found
        exact unsigned (measure, size)
          (split ▸ List.mem_append_right _ List.mem_cons_self)
  exact not_neg_mul sized (not_neg_natCast 4)

theorem not_neg_start (measure : Int) : ¬sizes.start measure < ((0 : Nat) : Float) := by
  unfold start
  generalize measure.toNat = count
  induction count with
  | zero => exact not_neg_natCast 0
  | succ count ih =>
      rw [List.range_succ, List.foldl_append]
      exact not_neg_add ih (not_neg_beats unsigned _)

theorem not_neg_beatAt (measure : Int) {fraction : Float}
    (notNeg : ¬fraction < ((0 : Nat) : Float)) :
    ¬sizes.beatAt measure fraction < ((0 : Nat) : Float) :=
  not_neg_add (not_neg_start unsigned measure)
    (not_neg_mul (not_neg_beats unsigned measure) notNeg)

end MeasureSizes

namespace Chart.Unsigned

variable {chart : Chart Float} (unsigned : chart.Unsigned)

include unsigned

theorem not_neg_beatOf {object : ChartObject Float}
    (member : object ∈ chart.objects.toList) :
    ¬chart.beatOf object < ((0 : Nat) : Float) :=
  MeasureSizes.not_neg_beatAt unsigned.sizes object.measure
    (unsigned.fractions object member)

end Chart.Unsigned

theorem Compilation.unsigned_ofText (dialect : Dialect) (draws : List Int)
    (source : Text) :
    (ofText dialect draws source : Compilation Float).chart.Unsigned := by
  have keeps : Keeps (fun size : Float => ¬size < ((0 : Nat) : Float))
      (fun fraction => ¬fraction < ((0 : Nat) : Float))
        (ofText dialect draws source).chart :=
    keeps_ofText dialect draws source
      (fun _ positive => not_neg_of_nonneg (nonneg_of_pos positive))
      fun slot slots _ => not_neg_div (not_neg_natCast slot) (hasSign_natCast slots)
  exact ⟨keeps.sizes, keeps.fractions⟩

end RhythmChart
