import RhythmChart.Proofs.Chart.Doubles
import RhythmChart.Proofs.Motion.Faults
import RhythmChart.Proofs.Motion.Rates
import RhythmChart.Proofs.Timing.OfChart

/-!
# Motions in doubles

The time and the scroll position of an event are sums. As long as no term is negative they
may become infinite, but a sum of infinities of one sign is still a number. Differences of
beats are no danger either, provided that beats are finite and come in order. So a chart
has all its motions if it is steady in this sense.
-/

namespace RhythmChart

open Double

instance : LawfulSame Float where
  same_self := same_self
  nonpos_of_same := nonpos_of_same

/-- What keeps doubles from getting lost: beats are in range and in the order of the
objects, stops take no negative time, and nothing scrolls back. -/
structure Chart.Steady (chart : Chart Float) : Prop where
  inRange : ∀ object ∈ chart.objects.toList, Scalar.isFinite (chart.beatOf object) = true
  inOrder : chart.objects.sorted.Pairwise fun a b => chart.beatOf a ≤ chart.beatOf b
  stops : ∀ beat length, .stop beat length ∈ Timing.actions chart →
    ((0 : Nat) : Float) ≤ length
  rates : ∀ entry ∈ Scroll.rates chart, ((0 : Nat) : Float) ≤ entry.2

/-- A number that may be calculated with: finite and not negative. -/
structure Double.IsSize (x : Float) : Prop where
  nonneg : ((0 : Nat) : Float) ≤ x
  finite : Scalar.isFinite x = true

theorem Headers.isFinite_of_number? {headers : Headers} {name : Text} {x : Float}
    (read : headers.number? name = some x) : Scalar.isFinite x = true := by
  obtain ⟨negative, digits, exponent, read⟩ := exists_ofDecimal?_of_number? read
  exact isFinite_of_ofDecimal? read

theorem Chart.isSize_beatOf {chart : Chart Float} (unsigned : chart.Unsigned)
    (steady : chart.Steady) {object : ChartObject Float}
    (member : object ∈ chart.objects.toList) : IsSize (chart.beatOf object) where
  nonneg :=
    nonneg_of_not_neg (unsigned.not_neg_beatOf member) (steady.inRange object member)
  finite := steady.inRange object member

/-- What is read off an object for a motion: its beat, and a number that is finite. -/
theorem Chart.entry_of_read {chart : Chart Float} {object : ChartObject Float}
    {isOn : Prop} [Decidable isOn] {name : Text} {entry : Float × Float}
    (read : (if isOn then (chart.number? name).map (chart.beatOf object, ·) else none) =
      some entry) : entry.1 = chart.beatOf object ∧ Scalar.isFinite entry.2 = true := by
  split at read
  · obtain ⟨value, found, rfl⟩ := Option.map_eq_some_iff.mp read
    exact ⟨rfl, Headers.isFinite_of_number? found⟩
  · cases read

namespace TimingAction

def denoted : TimingAction Float → TimingAction Rat
  | tempo beat bpm => tempo (value (parts beat)) (value (parts bpm))
  | stop beat length => stop (value (parts beat)) (value (parts length))

theorem beat_denoted (action : TimingAction Float) :
    action.denoted.beat = value (parts action.beat) := by
  cases action <;> rfl

theorem kind_denoted (action : TimingAction Float) :
    action.denoted.kind = action.kind := by
  cases action <;> rfl

theorem comesBefore_eq_precedes {a b : TimingAction Float}
    (finite : Scalar.isFinite a.beat = true) (finite' : Scalar.isFinite b.beat = true) :
    comesBefore (a.beat, a.kind) (b.beat, b.kind) = precedes a.denoted b.denoted := by
  have equal : (a.beat == b.beat) = (a.denoted.beat == b.denoted.beat) := by
    rw [Bool.eq_iff_iff, beq_iff_value finite finite', beat_denoted, beat_denoted,
      beq_iff_eq]
  have less : decide (a.beat < b.beat) = decide (a.denoted.beat < b.denoted.beat) := by
    rw [decide_eq_decide, lt_iff_value finite finite', beat_denoted, beat_denoted]
  rw [precedes, comesBefore, comesBefore, equal, less, kind_denoted, kind_denoted]

/-- Actions on finite beats are put in the order of their beats. -/
theorem pairwise_beat_inOrder {actions : List (TimingAction Float)}
    (finite : ∀ action ∈ actions, Scalar.isFinite action.beat = true) :
    (inOrder beat kind actions).Pairwise fun a b => a.beat ≤ b.beat := by
  have defined : (actions.any fun action => Scalar.isUndefined action.beat) = false := by
    rw [List.any_eq_false]
    intro action member
    rw [isUndefined_of_isFinite (finite action member)]
    exact Bool.false_ne_true
  have sorted :
      IsSorted (fun a b => precedes a.denoted b.denoted) (inOrder beat kind actions) := by
    unfold inOrder sortPartly
    rw [defined, if_neg Bool.false_ne_true, sortBy_congr fun a member b member' =>
      comesBefore_eq_precedes (finite a member) (finite b member')]
    exact isSorted_sortBy (isStrictRanking_precedes.comap denoted) actions
  refine List.Pairwise.imp_of_mem (fun member member' notBefore => ?_) sorted
  have listed := (inOrder_perm _ _ _).mem_iff.mp member
  have listed' := (inOrder_perm _ _ _).mem_iff.mp member'
  rw [le_iff_value (finite _ listed) (finite _ listed'), ← beat_denoted, ← beat_denoted]
  exact beat_le_of_not_precedes notBefore

end TimingAction

namespace Timing

/-- An action that takes time on from a beat that may be calculated with. -/
def TakesTime (action : TimingAction Float) : Prop :=
  IsSize action.beat ∧
    match action with
    | .tempo _ bpm => ((0 : Nat) : Float) < bpm ∧ Scalar.isFinite bpm = true
    | .stop _ length => ((0 : Nat) : Float) ≤ length

theorem minute_pos : ((0 : Nat) : Float) < minute :=
  lt_iff_parts.mpr rfl

theorem isFinite_minute : Scalar.isFinite (minute : Float) = true := rfl

section Walk

variable {bpm : Float} (pos : ((0 : Nat) : Float) < bpm)
  (finite : Scalar.isFinite bpm = true)

include pos finite

theorem yields_duration {beats : Float} (nonneg : ((0 : Nat) : Float) ≤ beats) :
    Yields (fun seconds => ((0 : Nat) : Float) ≤ seconds) (fun _ => False)
      (duration beats bpm) := by
  rw [duration_of_nonzero (isZero_of_pos pos)]
  have product : ((0 : Nat) : Float) ≤ beats * minute :=
    mul_nonneg_of_pos nonneg minute_pos isFinite_minute
  exact div_nonneg_of_pos product pos finite

omit finite in
theorem isUndefined_div_minute : Scalar.isUndefined (bpm / minute) = false :=
  isUndefined_of_nonneg (div_nonneg_of_pos (nonneg_of_pos pos) minute_pos isFinite_minute)

/-- The invariant of the walk: the beat reached may be calculated with, and the time
reached is not negative. -/
theorem yields_segmentsFrom_of_takesTime {beat seconds : Float}
    {actions : List (TimingAction Float)} (onBeat : IsSize beat)
    (started : ((0 : Nat) : Float) ≤ seconds)
    (takeTime : ∀ action ∈ actions, TakesTime action)
    (inOrder : (beat :: actions.map TimingAction.beat).Pairwise (· ≤ ·)) :
    Yields (fun _ => True) (fun _ => False) (segmentsFrom bpm beat seconds actions) := by
  induction actions generalizing bpm beat seconds with
  | nil => trivial
  | cons action rest ih =>
      obtain ⟨⟨place, amount⟩, others⟩ := List.forall_mem_cons.mp takeTime
      obtain ⟨ahead, later⟩ := List.pairwise_cons.mp inOrder
      -- Only a difference of beats in order is sure to be finite and not negative.
      have apart :=
        sub_of_le onBeat.nonneg (ahead _ List.mem_cons_self) place.finite onBeat.finite
      have hasPlace := isUndefined_of_nonneg place.nonneg
      cases action with
      | tempo next bpm' =>
          obtain ⟨pos', finite'⟩ := amount
          refine (yields_duration pos finite apart.1).bind fun elapsed elapses => ?_
          have reached := add_nonneg started elapses
          refine (Segment.yields_make_of_defined (isUndefined_of_nonneg reached) hasPlace
            (isUndefined_div_minute pos') true bpm').bind fun segment _ => ?_
          exact (ih pos' finite' place reached others later).bind fun _ _ => trivial
      | stop next length =>
          refine (yields_duration pos finite apart.1).bind fun elapsed elapses => ?_
          have reached := add_nonneg started elapses
          have rests : Scalar.isUndefined ((0 : Nat) : Float) = false := rfl
          refine (Segment.yields_make_of_defined (isUndefined_of_nonneg reached)
            hasPlace rests true bpm).bind fun hold _ => ?_
          refine (yields_duration pos finite amount).bind fun held holds => ?_
          have resumed := add_nonneg reached holds
          refine (Segment.yields_make_of_defined (isUndefined_of_nonneg resumed) hasPlace
            (isUndefined_div_minute pos) false bpm).bind fun segment _ => ?_
          exact (ih pos finite place resumed others later).bind fun _ _ => trivial

theorem yields_ofActions_of_takesTime {actions : List (TimingAction Float)}
    (takeTime : ∀ action ∈ actions, TakesTime action) :
    Yields (fun _ => True) (fun _ => False) (ofActions bpm actions) := by
  have listed : ∀ {action},
      action ∈ TimingAction.inOrder TimingAction.beat TimingAction.kind actions →
        TakesTime action :=
    fun member => takeTime _ ((TimingAction.inOrder_perm _ _ actions).mem_iff.mp member)
  have sorted := TimingAction.pairwise_beat_inOrder fun action member =>
    (takeTime action member).1.finite
  have zero : IsSize ((0 : Nat) : Float) := ⟨nonneg_natCast 0, rfl⟩
  refine (Segment.yields_make_of_defined rfl rfl (isUndefined_div_minute pos) true
    bpm).bind fun first _ => ?_
  refine (yields_segmentsFrom_of_takesTime pos finite zero zero.nonneg (fun _ => listed)
    (List.pairwise_cons.mpr ⟨?_, List.pairwise_map.mpr sorted⟩)).bind fun rest _ =>
      trivial
  intro beat member
  obtain ⟨action, found, rfl⟩ := List.mem_map.mp member
  exact (listed found).1.nonneg

end Walk

variable {chart : Chart Float}

theorem initialTempo_pos_of_double (chart : Chart Float) :
    ((0 : Nat) : Float) < initialTempo chart ∧
      Scalar.isFinite (initialTempo chart) = true := by
  unfold initialTempo
  cases found : (chart.number? ['b', 'p', 'm']).filter
      fun bpm => decide (((0 : Nat) : Float) < bpm) with
  | none => exact ⟨minute_pos, isFinite_minute⟩
  | some bpm =>
      obtain ⟨read, pos⟩ := Option.filter_eq_some_iff.mp found
      exact ⟨of_decide_eq_true pos, Headers.isFinite_of_number? read⟩

theorem tempo_of_mem_actions {beat bpm : Float}
    (member : .tempo beat bpm ∈ actions chart) :
    ((0 : Nat) : Float) < bpm ∧ Scalar.isFinite bpm = true := by
  obtain ⟨⟨object, -, made⟩, good⟩ := mem_actions_iff.mp member
  obtain ⟨negative, digits, exponent, read⟩ := exists_ofDecimal?_of_action? made
  have finite := isFinite_of_ofDecimal? read
  exact ⟨pos_of_not_nonpos (of_decide_eq_false good) finite, finite⟩

theorem keepsMoving_of_mem_actions {action : TimingAction Float}
    (member : action ∈ actions chart) : KeepsMoving action := by
  cases action with
  | stop beat length => trivial
  | tempo beat bpm =>
      exact isZero_of_pos (tempo_of_mem_actions member).1

theorem yields_ofChart (chart : Chart Float) :
    Yields (fun _ => True) Fault.IsUndefined (ofChart chart) :=
  yields_ofActions (isZero_of_pos (initialTempo_pos_of_double chart).1)
    fun _ member => keepsMoving_of_mem_actions member

theorem takesTime_of_mem_actions (unsigned : chart.Unsigned) (steady : chart.Steady)
    {action : TimingAction Float} (member : action ∈ actions chart) :
    TakesTime action := by
  obtain ⟨⟨object, listed, made⟩, -⟩ := mem_actions_iff.mp member
  refine ⟨beat_of_action? made ▸ Chart.isSize_beatOf unsigned steady listed, ?_⟩
  cases action with
  | tempo beat bpm => exact tempo_of_mem_actions member
  | stop beat length => exact steady.stops beat length member

theorem yields_ofChart_of_steady (unsigned : chart.Unsigned) (steady : chart.Steady) :
    Yields (fun _ => True) (fun _ => False) (ofChart chart) := by
  obtain ⟨pos, finite⟩ := initialTempo_pos_of_double chart
  exact yields_ofActions_of_takesTime pos finite fun _ member =>
    takesTime_of_mem_actions unsigned steady member

end Timing

namespace Scroll

/-- The invariant of the walk: a segment starts where one may calculate,
and does not lead back. -/
structure Advances (segment : Segment Float Unit) : Prop where
  start : IsSize segment.t
  position : ((0 : Nat) : Float) ≤ segment.x
  rate : IsSize segment.dx

theorem Advances.xAt_nonneg {segment : Segment Float Unit} (advances : Advances segment)
    {beat : Float} (onBeat : IsSize beat) (later : segment.t ≤ beat) :
    ((0 : Nat) : Float) ≤ segment.xAt beat := by
  obtain ⟨nonneg, finite⟩ :=
    sub_of_le advances.start.nonneg later onBeat.finite advances.start.finite
  exact add_nonneg advances.position
    (mul_nonneg_of_finite nonneg advances.rate.nonneg finite advances.rate.finite)

theorem yields_segmentsFrom_of_advances {previous : Segment Float Unit}
    {rates : List (Float × Float)} (advances : Advances previous)
    (sizes : ∀ entry ∈ rates, IsSize entry.1 ∧ IsSize entry.2)
    (inOrder : (previous.t :: rates.map Prod.fst).Pairwise (· ≤ ·)) :
    Yields (fun _ => True) (fun _ => False) (segmentsFrom previous rates) := by
  induction rates generalizing previous with
  | nil => trivial
  | cons entry rest ih =>
      obtain ⟨⟨onBeat, rate⟩, others⟩ := List.forall_mem_cons.mp sizes
      obtain ⟨ahead, later⟩ := List.pairwise_cons.mp inOrder
      have position := advances.xAt_nonneg onBeat (ahead _ List.mem_cons_self)
      refine (Segment.yields_make_of_defined (isUndefined_of_nonneg onBeat.nonneg)
        (isUndefined_of_nonneg position) (isUndefined_of_nonneg rate.nonneg) true ()).bind
          ?_
      rintro segment rfl
      have onward : Advances ⟨entry.1, previous.xAt entry.1, entry.2, true, ()⟩ :=
        ⟨onBeat, position, rate⟩
      exact (ih onward others later).bind fun _ _ => trivial

theorem yields_ofRates_of_sizes {rates : List (Float × Float)}
    (sizes : ∀ entry ∈ rates, IsSize entry.1 ∧ IsSize entry.2)
    (inOrder : (rates.map Prod.fst).Pairwise (· ≤ ·)) :
    Yields (fun _ => True) (fun _ => False) (ofRates rates) := by
  obtain ⟨zeros, split, -, latest⟩ := exists_zeros_initialRate ((1 : Nat) : Float) rates
  have suffix : (initialRate ((1 : Nat) : Float) rates).2 <:+ rates := ⟨zeros, split.symm⟩
  have zero : IsSize ((0 : Nat) : Float) := ⟨nonneg_natCast 0, rfl⟩
  have rate : IsSize (initialRate ((1 : Nat) : Float) rates).1 := by
    rw [latest]
    cases last : zeros.getLast? with
    | none => exact ⟨nonneg_natCast 1, rfl⟩
    | some entry =>
        have member : entry ∈ rates := by
          rw [split]
          exact List.mem_append_left _ (List.mem_of_getLast? last)
        exact (sizes entry member).2
  have first : Advances ⟨_, _, _, true, ()⟩ := ⟨zero, zero.nonneg, rate⟩
  refine (yields_segmentsFrom_of_advances first
    (fun entry member => sizes entry (suffix.subset member)) ?_).bind fun _ _ => trivial
  refine List.pairwise_cons.mpr ⟨?_, inOrder.sublist (suffix.sublist.map _)⟩
  intro beat member
  obtain ⟨entry, found, rfl⟩ := List.mem_map.mp member
  exact (sizes entry (suffix.subset found)).1.nonneg

theorem yields_ofChart_of_steady {chart : Chart Float} (unsigned : chart.Unsigned)
    (steady : chart.Steady) :
    Yields (fun _ => True) (fun _ => False) (ofChart chart) := by
  refine yields_ofRates_of_sizes ?_ ?_
  · intro entry member
    have nonneg := steady.rates entry member
    obtain ⟨object, listed, read⟩ := List.mem_filterMap.mp member
    obtain ⟨onBeat, finite⟩ := Chart.entry_of_read read
    rw [onBeat]
    exact ⟨Chart.isSize_beatOf unsigned steady
      (chart.objects.sorted_perm.mem_iff.mp listed), nonneg, finite⟩
  · rw [rates, List.pairwise_map, List.pairwise_filterMap]
    refine steady.inOrder.imp fun order entry read entry' read' => ?_
    rw [(Chart.entry_of_read read).1, (Chart.entry_of_read read').1]
    exact order

end Scroll

namespace Spacing

theorem yields_checked_of_finite {keyframes : List (Float × Float)}
    (finite : ∀ entry ∈ keyframes,
      Scalar.isFinite entry.1 = true ∧ Scalar.isFinite entry.2 = true) :
    Yields (fun _ => True) (fun _ => False) (checked keyframes) := by
  induction keyframes with
  | nil => trivial
  | cons keyframe rest ih =>
      obtain ⟨⟨beat, factor⟩, others⟩ := List.forall_mem_cons.mp finite
      exact (Segment.yields_make_of_defined (isUndefined_of_isFinite beat)
        (isUndefined_of_isFinite factor) rfl true ()).bind fun _ _ => ih others

theorem yields_ofChart_of_steady {chart : Chart Float} (steady : chart.Steady) :
    Yields (fun _ => True) (fun _ => False) (ofChart chart) := by
  have finite : ∀ entry ∈ keyframes chart,
      Scalar.isFinite entry.1 = true ∧ Scalar.isFinite entry.2 = true := by
    intro entry member
    obtain ⟨object, listed, read⟩ := List.mem_filterMap.mp member
    obtain ⟨onBeat, finite⟩ := Chart.entry_of_read read
    rw [onBeat]
    exact ⟨steady.inRange object (chart.objects.sorted_perm.mem_iff.mp listed), finite⟩
  refine (yields_checked_of_finite finite).bind fun _ _ => ?_
  cases keyframes chart <;> trivial

end Spacing

end RhythmChart
