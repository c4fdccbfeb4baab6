import RhythmChart.Proofs.Motion.Linked
import RhythmChart.Proofs.Motion.Rates
import RhythmChart.Proofs.Motion.Tracks
import RhythmChart.Proofs.Timing.Integral

/-!
# Scrolling

The scroll position is the integral of the scroll rate, and the rate on a beat is that of
the latest object of the scroll channel that names a number. Rates may be negative or
zero, and objects that name no number have no effect.
-/

namespace RhythmChart

namespace Scroll

/-- The rate that an object sets, if it is on the scroll channel and names a number. -/
def rate? (chart : Chart Rat) (object : ChartObject Rat) : Option Rat :=
  if object.channel = Code.scroll then
    chart.number? (['s', 'c', 'r', 'o', 'l', 'l'] ++ object.value.text)
  else none

/-- That a rate is in force on a beat, said of the objects of a chart: it is set by an
object up to the beat, and all others up to there that set one are on earlier beats.
Without any such object it is one. -/
def IsInForce (chart : Chart Rat) (beat rate : Rat) : Prop :=
  (∃ object ∈ chart.objects.toList, rate? chart object = some rate ∧
    chart.beatOf object ≤ beat ∧
    ∀ other ∈ chart.objects.toList, (rate? chart other).isSome →
        chart.beatOf other ≤ beat →
      other ≠ object → chart.beatOf other < chart.beatOf object) ∨
  rate = 1 ∧ ∀ object ∈ chart.objects.toList, (rate? chart object).isSome →
    beat < chart.beatOf object

def changeBeats (chart : Chart Rat) : List Rat :=
  (chart.objects.toList.filter fun object => (rate? chart object).isSome).map chart.beatOf

/-- How far the chart scrolls on the way to a beat: every piece on which no rate is set
contributes its length at the speed from its start. -/
def distance (chart : Chart Rat) (speed : Rat → Rat) (limit : Rat) : Rat :=
  ((Timing.pieces (Timing.ends (changeBeats chart) limit)).map fun piece =>
    (piece.2 - piece.1) * speed piece.1).sum

theorem map_segmentsBehind (previous : Segment Rat Unit) (rates : List (Rat × Rat)) :
    (segmentsBehind previous rates).map (fun segment => (segment.t, segment.dx)) =
      rates := by
  induction rates generalizing previous with
  | nil => rfl
  | cons entry rest ih => exact congrArg _ (ih _)

theorem inclusive_segmentsBehind (previous : Segment Rat Unit)
    (rates : List (Rat × Rat)) :
    ∀ segment ∈ segmentsBehind previous rates, segment.inclusive = true := by
  induction rates generalizing previous with
  | nil => exact List.forall_mem_nil _
  | cons entry rest ih => exact List.forall_mem_cons.mpr ⟨rfl, ih _⟩

/-- Every segment starts where the one before it has got to. -/
theorem isChain_segmentsBehind {previous : Segment Rat Unit} {rates : List (Rat × Rat)}
    (inOrder : (previous.t :: rates.map Prod.fst).Pairwise (· ≤ ·)) :
    (previous :: segmentsBehind previous rates).IsChain Segment.Meets := by
  induction rates generalizing previous with
  | nil => exact .singleton previous
  | cons entry rest ih =>
      obtain ⟨later, inOrder⟩ := List.pairwise_cons.mp inOrder
      refine .cons_cons ⟨later entry.1 List.mem_cons_self, ?_⟩ (ih inOrder)
      change _ + _ * _ = _
      rw [mul_comm]

section Rates

variable {rates : List (Rat × Rat)}

theorem mem_rates_of_mem_laterSegments {segment : Segment Rat Unit}
    (member : segment ∈ laterSegments rates) : (segment.t, segment.dx) ∈ rates := by
  obtain ⟨zeros, split, -, -⟩ := exists_zeros_initialRate 1 rates
  rw [split]
  refine List.mem_append_right zeros ?_
  rw [← map_segmentsBehind (firstSegment rates) (initialRate 1 rates).2]
  exact List.mem_map_of_mem member

theorem exists_laterSegment {entry : Rat × Rat}
    (later : entry ∈ (initialRate 1 rates).2) :
    ∃ segment ∈ laterSegments rates, segment.t = entry.1 := by
  rw [← map_segmentsBehind (firstSegment rates) (initialRate 1 rates).2] at later
  obtain ⟨segment, listed, same⟩ := List.mem_map.mp later
  exact ⟨segment, listed, congrArg Prod.fst same⟩

/-- An entry is on beat zero, or a later segment starts there. -/
theorem onZero_or_exists_laterSegment {entry : Rat × Rat} (listed : entry ∈ rates) :
    entry.1 = 0 ∨ ∃ segment ∈ laterSegments rates, segment.t = entry.1 := by
  obtain ⟨zeros, split, onZero, -⟩ := exists_zeros_initialRate 1 rates
  rw [split] at listed
  exact (List.mem_append.mp listed).imp
    (fun member => beq_iff_eq.mp (onZero entry member)) exists_laterSegment

/-- The first rate is set on beat zero, or it is one and all entries come later. -/
theorem dx_firstSegment (rates : List (Rat × Rat)) :
    (∃ entry ∈ rates, entry.1 = 0 ∧ (firstSegment rates).dx = entry.2) ∨
      (firstSegment rates).dx = 1 ∧
        ∀ entry ∈ rates, ∃ segment ∈ laterSegments rates, segment.t = entry.1 := by
  obtain ⟨zeros, split, onZero, initial⟩ := exists_zeros_initialRate 1 rates
  change (∃ entry ∈ rates, _ ∧ (initialRate 1 rates).1 = _) ∨
    (initialRate 1 rates).1 = 1 ∧ _
  cases last : zeros.getLast? with
  | none =>
      refine .inr ⟨by rw [initial, last]; rfl, fun entry listed => exists_laterSegment ?_⟩
      rwa [split, List.getLast?_eq_none_iff.mp last, List.nil_append] at listed
  | some entry =>
      have member := List.mem_of_getLast? last
      refine .inl ⟨entry, split ▸ List.mem_append_left _ member,
        ?_, by rw [initial, last]; rfl⟩
      exact beq_iff_eq.mp (onZero entry member)

/-- Rates in the order of their beats make a linked motion. -/
theorem isChain_segments (nonneg : ∀ entry ∈ rates, 0 ≤ entry.1)
    (inOrder : (rates.map Prod.fst).Pairwise (· ≤ ·)) :
    (firstSegment rates :: laterSegments rates).IsChain Segment.Meets := by
  obtain ⟨zeros, split, -, -⟩ := exists_zeros_initialRate 1 rates
  refine isChain_segmentsBehind (List.pairwise_cons.mpr ⟨?_, ?_⟩)
  · intro beat member
    obtain ⟨entry, listed, rfl⟩ := List.mem_map.mp member
    exact nonneg entry (split ▸ List.mem_append_right zeros listed)
  · rw [split, List.map_append] at inOrder
    exact (List.pairwise_append.mp inOrder).2.1

/-- The rate on a beat is that of the latest entry up to it. -/
theorem rate_is_latest (nonneg : ∀ entry ∈ rates, 0 ≤ entry.1)
    (inOrder : (rates.map Prod.fst).Pairwise (· ≤ ·)) {beat : Rat} (started : 0 ≤ beat) :
    (∃ entry ∈ rates, entry.1 ≤ beat ∧
      (motionOf rates).rate beat = entry.2 ∧
      ∀ other ∈ rates, other.1 ≤ beat → other.1 ≤ entry.1) ∨
    (motionOf rates).rate beat = 1 ∧
      ∀ entry ∈ rates, beat < entry.1 := by
  unfold Motion.rate motionOf
  rcases Motion.segmentAtT_is_latest (isChain_segments nonneg inOrder)
    (inclusive_segmentsBehind _ _) beat with ⟨member, there, latest⟩ | ⟨same, later⟩
  · refine .inl ⟨_, mem_rates_of_mem_laterSegments member, there, rfl,
    fun other listed early => ?_⟩
    rcases onZero_or_exists_laterSegment listed with onZero | ⟨segment, behind, same⟩
    · rw [onZero]
      exact nonneg _ (mem_rates_of_mem_laterSegments member)
    · rw [← same] at early ⊢
      exact latest segment behind early
  · rw [same]
    rcases dx_firstSegment rates with ⟨entry, listed, onZero, rate⟩ | ⟨one, behind⟩
    · refine .inl ⟨entry, listed, onZero ▸ started, rate, fun other listed' early => ?_⟩
      rcases onZero_or_exists_laterSegment listed' with onZero' | ⟨segment, member, same⟩
      · rw [onZero, onZero']
      · exact absurd early (not_le_of_gt (same ▸ later segment member))
    · refine .inr ⟨one, fun entry listed => ?_⟩
      obtain ⟨segment, member, same⟩ := behind entry listed
      exact same ▸ later segment member

end Rates

variable {chart : Chart Rat}

theorem rates_eq_filterMap (chart : Chart Rat) :
    rates chart = chart.objects.sorted.filterMap fun object =>
      (rate? chart object).map (chart.beatOf object, ·) := by
  refine List.filterMap_congr fun object _ => ?_
  unfold rate?
  split <;> rfl

theorem mem_rates_iff {entry : Rat × Rat} :
    entry ∈ rates chart ↔
      ∃ object ∈ chart.objects.toList, rate? chart object = some entry.2 ∧
        chart.beatOf object = entry.1 := by
  rw [rates_eq_filterMap, List.mem_filterMap]
  simp only [Option.map_eq_some_iff, chart.objects.sorted_perm.mem_iff]
  constructor
  · rintro ⟨object, member, rate, named, rfl⟩
    exact ⟨object, member, named, rfl⟩
  · rintro ⟨object, member, named, onBeat⟩
    exact ⟨object, member, entry.2, named, Prod.ext onBeat rfl⟩

theorem mem_changeBeats {change : Rat} :
    change ∈ changeBeats chart ↔ ∃ entry ∈ rates chart, entry.1 = change := by
  unfold changeBeats
  simp only [List.mem_map, List.mem_filter, Option.isSome_iff_exists]
  constructor
  · rintro ⟨object, ⟨member, rate, named⟩, onBeat⟩
    exact ⟨(change, rate), mem_rates_iff.mpr ⟨object, member, named, onBeat⟩, rfl⟩
  · rintro ⟨entry, listed, rfl⟩
    obtain ⟨object, member, named, onBeat⟩ := mem_rates_iff.mp listed
    exact ⟨object, ⟨member, entry.2, named⟩, onBeat⟩

theorem channel_of_rate? {object : ChartObject Rat} {rate : Rat}
    (named : rate? chart object = some rate) : object.channel = Code.scroll := by
  unfold rate? at named
  split at named
  · assumption
  · cases named

section WellFormed

variable (wellFormed : chart.WellFormed)

include wellFormed

theorem rates_nonneg : ∀ entry ∈ rates chart, 0 ≤ entry.1 := by
  intro entry listed
  obtain ⟨object, member, -, onBeat⟩ := mem_rates_iff.mp listed
  exact onBeat ▸ wellFormed.beatOf_nonneg member

theorem pairwise_rates : ((rates chart).map Prod.fst).Pairwise (· ≤ ·) := by
  rw [rates_eq_filterMap, List.pairwise_map, List.pairwise_filterMap]
  refine wellFormed.pairwise_beatOf_sorted.imp fun inOrder left named right named' => ?_
  obtain ⟨rate, -, rfl⟩ := Option.map_eq_some_iff.mp named
  obtain ⟨rate', -, rfl⟩ := Option.map_eq_some_iff.mp named'
  exact inOrder

/-- The rate of the latest entry is the one in force. -/
theorem isInForce_of_latest {beat : Rat} {entry : Rat × Rat}
    (listed : entry ∈ rates chart) (there : entry.1 ≤ beat)
    (latest : ∀ other ∈ rates chart, other.1 ≤ beat → other.1 ≤ entry.1) :
    IsInForce chart beat entry.2 := by
  obtain ⟨object, member, named, onBeat⟩ := mem_rates_iff.mp listed
  refine .inl ⟨object, member, named, onBeat ▸ there, ?_⟩
  intro other member' named' early different
  obtain ⟨rate, named'⟩ := Option.isSome_iff_exists.mp named'
  have notLater : chart.beatOf other ≤ chart.beatOf object :=
    onBeat ▸ latest (chart.beatOf other, rate)
      (mem_rates_iff.mpr ⟨other, member', named', rfl⟩) early
  refine lt_of_le_of_ne notLater fun same => different ?_
  have channels := (channel_of_rate? named').trans (channel_of_rate? named).symm
  have foreground : other.channel ≠ Code.background := by
    rw [channel_of_rate? named']
    decide
  exact wellFormed.eq_of_beatOf_eq member' member foreground channels same

/-- A chart scrolls at the rate that is in force. -/
theorem isInForce_rate {beat : Rat} (started : 0 ≤ beat) :
    IsInForce chart beat ((motionOf (rates chart)).rate beat) := by
  rcases rate_is_latest (rates_nonneg wellFormed) (pairwise_rates wellFormed) started with
    ⟨entry, listed, there, rate, latest⟩ | ⟨one, later⟩
  · rw [rate]
    exact isInForce_of_latest wellFormed listed there latest
  · refine .inr ⟨one, fun object member named => ?_⟩
    obtain ⟨rate, named⟩ := Option.isSome_iff_exists.mp named
    exact later (chart.beatOf object, rate)
      (mem_rates_iff.mpr ⟨object, member, named, rfl⟩)

theorem x_origin : (motionOf (rates chart)).x 0 = 0 :=
  Motion.x_start (isChain_segments (rates_nonneg wellFormed) (pairwise_rates wellFormed))

/-- On pieces without a change a chart scrolls steadily, so the pieces add up. -/
theorem x_eq_distance {beat : Rat} (started : 0 ≤ beat) :
    (motionOf (rates chart)).x beat = distance chart
    (motionOf (rates chart)).rate beat := by
  have linked := isChain_segments (rates_nonneg wellFormed) (pairwise_rates wellFormed)
  have total : distance chart (motionOf (rates chart)).rate beat =
      (motionOf (rates chart)).x beat - (motionOf (rates chart)).x 0 := by
    refine Timing.sum_pieces_ends (changeBeats chart) _
      (fun left right _ order steady => ?_) started
    have passed : (motionOf (rates chart)).x right = (motionOf (rates chart)).x left +
        (right - left) * (motionOf (rates chart)).rate left := by
      refine Motion.x_eq_add_of_steady linked (inclusive_segmentsBehind _ _) order ?_
      intro segment member
      exact steady segment.t
        (mem_changeBeats.mpr ⟨_, mem_rates_of_mem_laterSegments member, rfl⟩)
    exact eq_sub_of_add_eq' passed.symm
  rw [total, x_origin wellFormed, sub_zero]

end WellFormed

/-- Every compiled chart scrolls, and its scroll is what grows rate by rate. On each beat
from zero on its rate is that of the latest object that sets one, or one, and its position
is the integral of the rate, which starts at zero. -/
theorem position_eq_integral (dialect : Dialect) (draws : List Int) (source : Text) :
    ∃ scroll : Scroll Rat,
      ofChart (Compilation.ofText dialect draws source).chart = .ok scroll ∧
      (rates (Compilation.ofText dialect draws source).chart).foldlM extend initial =
        .ok scroll ∧
      scroll.position 0 = 0 ∧ ∀ beat, 0 ≤ beat →
        IsInForce (Compilation.ofText dialect draws source).chart beat
          (scroll.speed beat) ∧
        scroll.position beat =
          distance (Compilation.ofText dialect draws source).chart scroll.speed beat := by
  have wellFormed := Compilation.wellFormed_ofText dialect draws source
  refine ⟨_, ofRates_eq_ok _, (ofRates_eq_foldlM _).symm.trans (ofRates_eq_ok _),
    x_origin wellFormed, fun beat started => ⟨?_, ?_⟩⟩
  · exact isInForce_rate wellFormed started
  · exact x_eq_distance wellFormed started

/-- A chart that scrolls at half the speed from the start and backwards from beat four on.
An object on beat six names no number. -/
def turningSource : Text :=
  "#SCROLL01 -1\n#SCROLL02 x\n#SCROLL03 0.5\n#000SC:03\n#001SC:0102".toList

/-- It has turned back through its start on beat eight. -/
theorem position_eq_integral_turningSource :
    ∃ scroll : Scroll Rat,
      ofChart (Compilation.ofText .bms [] turningSource).chart = .ok scroll ∧
      (0 : Rat) ≤ 8 ∧ scroll.speed 8 = -1 ∧ scroll.position 8 = -2 ∧
      IsInForce (Compilation.ofText .bms [] turningSource).chart 8 (scroll.speed 8) ∧
      scroll.position 8 =
        distance (Compilation.ofText .bms [] turningSource).chart scroll.speed 8 := by
  obtain ⟨scroll, made, -, -, agrees⟩ := position_eq_integral .bms [] turningSource
  have nonneg : (0 : Rat) ≤ 8 := by norm_num
  have values : ((ofChart (Compilation.ofText .bms [] turningSource).chart).toOption.map
      fun scroll : Scroll Rat => (scroll.speed 8, scroll.position 8)) =
        some (-1, -2) := by
    decide +kernel
  rw [made] at values
  obtain ⟨speed, position⟩ := Prod.mk.inj (Option.some.inj values)
  exact ⟨scroll, made, nonneg, speed, position, (agrees 8 nonneg).1, (agrees 8 nonneg).2⟩

end Scroll

end RhythmChart
