import RhythmChart.Motion.Scroll
import RhythmChart.Motion.Spacing
import RhythmChart.Proofs.Chart.Places
import RhythmChart.Proofs.Chart.Topics

/-!
# Tracks

Scrolling and spacing are read off the track of one channel: its objects in the order of
their positions, each with the beat it stands on and the number it names. In exact
arithmetic no two objects of a channel in the foreground share a position, so tracks
depend on what is in the chart and not on the ranks of the objects. No number is undefined
there, so every chart scrolls and is spaced.
-/

namespace RhythmChart

open ChartObject (withoutLine)

namespace Chart

/-- The objects of a channel in the order of their positions, whatever
lines they come from. -/
def track (channel : Code) (chart : Chart Rat) : List (ChartObject Rat) :=
  (chart.objects.sorted.map withoutLine).filter fun object => object.channel == channel

theorem isSorted_track (channel : Code) (chart : Chart Rat) :
    IsSorted ChartObject.precedes (chart.track channel) := by
  have sorted := isSorted_sortBy ChartObject.isStrictRanking_precedes chart.objects.toList
  have lineless : IsSorted ChartObject.precedes (chart.objects.sorted.map withoutLine) :=
    List.Pairwise.map withoutLine (fun _ _ notBefore => notBefore) sorted
  exact lineless.filter _

theorem mem_track_iff {channel : Code} {chart : Chart Rat} {object : ChartObject Rat} :
    object ∈ chart.track channel ↔
      ∃ source ∈ chart.objects.toList, source.channel = channel ∧
        source.withoutLine = object := by
  rw [track, List.mem_filter, List.mem_map]
  constructor
  · rintro ⟨⟨source, member, rfl⟩, here⟩
    exact ⟨source, chart.objects.sorted_perm.mem_iff.mp member, beq_iff_eq.mp here, rfl⟩
  · rintro ⟨source, member, here, rfl⟩
    exact ⟨⟨source, chart.objects.sorted_perm.mem_iff.mpr member, rfl⟩,
      beq_iff_eq.mpr here⟩

variable {left right : Chart Rat}

/-- Charts with the same content have the same tracks. -/
theorem track_eq_of_sameContent (wellFormed : left.WellFormed)
    (same : SameContent left right)
    {channel : Code} (foreground : channel ≠ Code.background) :
    left.track channel = right.track channel := by
  have perm : (left.track channel).Perm (right.track channel) := by
    apply List.Perm.filter
    exact (left.objects.sorted_perm.map _).trans
      (same.objects.trans (right.objects.sorted_perm.map _).symm)
  refine List.Perm.eq_of_pairwise ?_ (isSorted_track channel left)
    (isSorted_track channel right) perm
  intro a b listed listed' notBefore notAfter
  obtain ⟨source, member, here, rfl⟩ := mem_track_iff.mp listed
  obtain ⟨source', member', here', rfl⟩ := mem_track_iff.mp (perm.mem_iff.mpr listed')
  have beats : left.beatOf source = left.beatOf source' :=
    le_antisymm
      ((wellFormed.beatOf_le_iff member member').mpr
        (le_of_not_gt (of_decide_eq_false notBefore)))
      ((wellFormed.beatOf_le_iff member' member).mpr
        (le_of_not_gt (of_decide_eq_false notAfter)))
  rw [wellFormed.eq_of_beatOf_eq member member' (here ▸ foreground)
    (here.trans here'.symm) beats]

theorem beatOf_eq_of_sameContent (same : SameContent left right)
    (object : ChartObject Rat) : left.beatOf object = right.beatOf object := by
  have beats : left.sizes.beats = right.sizes.beats := by
    funext measure
    rw [MeasureSizes.beats, MeasureSizes.beats, same.sizes]
  rw [beatOf, beatOf, MeasureSizes.beatAt, MeasureSizes.beatAt, MeasureSizes.start,
    MeasureSizes.start, beats]

theorem number?_eq_of_sameContent (same : SameContent left right) (name : Text) :
    (left.number? name : Option Rat) = right.number? name := by
  rw [number?, number?, Headers.number?, Headers.number?, same.latest]

end Chart

/-- What objects of one channel name, in order. -/
theorem filterMap_sorted_eq_track {σ : Type} (chart : Chart Rat) (channel : Code)
    (read : ChartObject Rat → Option σ)
    (lineless : ∀ object, read object.withoutLine = read object) :
    (chart.objects.sorted.filterMap fun object =>
        if object.channel = channel then read object else none) =
      (chart.track channel).filterMap read := by
  rw [Chart.track, List.filterMap_filter, List.filterMap_map]
  refine List.filterMap_congr fun object _ => ?_
  rw [Function.comp_apply, lineless]
  simp only [beq_iff_eq]
  rfl

namespace Scroll

theorem rates_eq_of_sameContent {left right : Chart Rat} (wellFormed : left.WellFormed)
    (same : Chart.SameContent left right) : rates left = rates right := by
  rw [rates, rates, filterMap_sorted_eq_track left _ _ fun _ => rfl,
    filterMap_sorted_eq_track right _ _ fun _ => rfl,
    Chart.track_eq_of_sameContent wellFormed same (by decide)]
  refine List.filterMap_congr fun object _ => ?_
  rw [Chart.number?_eq_of_sameContent same, Chart.beatOf_eq_of_sameContent same]

/-- The segments after `previous` for rates that set in at beats in order. -/
def segmentsBehind (previous : Segment Rat Unit) : List (Rat × Rat) →
      List (Segment Rat Unit)
  | [] => []
  | (beat, rate) :: rest =>
      ⟨beat, previous.xAt beat, rate, true, ()⟩ ::
        segmentsBehind ⟨beat, previous.xAt beat, rate, true, ()⟩ rest

theorem segmentsFrom_eq_ok (previous : Segment Rat Unit) (rates : List (Rat × Rat)) :
    segmentsFrom previous rates = .ok (segmentsBehind previous rates) := by
  induction rates generalizing previous with
  | nil => rfl
  | cons entry rest ih =>
      obtain ⟨beat, rate⟩ := entry
      let segment : Segment Rat Unit := ⟨beat, previous.xAt beat, rate, true, ()⟩
      change (do let later ← segmentsFrom segment rest; return segment :: later) = _
      rw [ih]
      rfl

/-- The segment before all rates but those on beat zero. -/
def firstSegment (rates : List (Rat × Rat)) : Segment Rat Unit :=
  ⟨0, 0, (initialRate 1 rates).1, true, ()⟩

def laterSegments (rates : List (Rat × Rat)) : List (Segment Rat Unit) :=
  segmentsBehind (firstSegment rates) (initialRate 1 rates).2

def motionOf (rates : List (Rat × Rat)) : Motion Rat Unit :=
  ⟨firstSegment rates, laterSegments rates⟩

/-- In exact arithmetic nothing is refused. -/
theorem ofRates_eq_ok (rates : List (Rat × Rat)) :
    ofRates rates = .ok ⟨motionOf rates⟩ := by
  have made := segmentsFrom_eq_ok (firstSegment rates) (initialRate 1 rates).2
  change (do let rest ← segmentsFrom (firstSegment rates) (initialRate 1 rates).2
             return (⟨⟨firstSegment rates, rest⟩⟩ : Scroll Rat)) = _
  rw [made]
  rfl

theorem exists_ofRates (rates : List (Rat × Rat)) :
    ∃ scroll : Scroll Rat, ofRates rates = .ok scroll :=
  ⟨_, ofRates_eq_ok rates⟩

end Scroll

namespace Spacing

theorem keyframes_eq_of_sameContent {left right : Chart Rat}
    (wellFormed : left.WellFormed)
    (same : Chart.SameContent left right) : keyframes left = keyframes right := by
  rw [keyframes, keyframes, filterMap_sorted_eq_track left _ _ fun _ => rfl,
    filterMap_sorted_eq_track right _ _ fun _ => rfl,
    Chart.track_eq_of_sameContent wellFormed same (by decide)]
  refine List.filterMap_congr fun object _ => ?_
  have numbers := Chart.number?_eq_of_sameContent same
  rw [factorNamed?, factorNamed?, Chart.beatOf_eq_of_sameContent same]
  exact congrArg _ (numbers _)

theorem checked_eq_ok (keyframes : List (Rat × Rat)) : checked keyframes = .ok () := by
  induction keyframes with
  | nil => rfl
  | cons keyframe rest ih => exact ih

theorem exists_ofKeyframes (keyframes : List (Rat × Rat)) :
    ∃ spacing : Spacing Rat, ofKeyframes keyframes = .ok spacing := by
  unfold ofKeyframes
  rw [checked_eq_ok]
  cases keyframes with
  | nil => exact ⟨_, rfl⟩
  | cons keyframe rest => exact ⟨_, rfl⟩

end Spacing

end RhythmChart
