import RhythmChart.Proofs.Chart.Places
import RhythmChart.Proofs.Timing.Actions
import RhythmChart.Proofs.Timing.Ascent

/-!
# The timing of a compiled chart

Whatever its headers say, a compiled chart has a timing: bad tempos are dropped or
replaced. Negative stops are not, and they are all that can turn time back.
-/

namespace RhythmChart

/-- Numbers are the same only as themselves. -/
instance : LawfulSame Rat where
  same_self x := by rw [Scalar.same, beq_self_eq_true, Bool.true_or]
  nonpos_of_same := by
    intro x y same nonpos
    rw [Scalar.same, Bool.or_eq_true, beq_iff_eq] at same
    rcases same with rfl | undefined
    · exact nonpos
    · exact absurd undefined Bool.false_ne_true

/-- The header of a stop in the chart is a negative number. -/
def Chart.HasNegativeStop (chart : Chart Rat) : Prop :=
  ∃ object ∈ chart.objects.toList, object.channel = Code.stop ∧
    ∃ units, chart.number? (['s', 't', 'o', 'p'] ++ object.value.text) = some units ∧
      units < 0

namespace Timing

open TimingAction

theorem initialTempo_pos (chart : Chart Rat) : 0 < initialTempo chart := by
  unfold initialTempo
  cases found : (chart.number? ['b', 'p', 'm']).filter
      fun bpm => decide (((0 : Nat) : Rat) < bpm) with
  | none => exact (by norm_num : (0 : Rat) < 60)
  | some bpm => exact of_decide_eq_true (Option.filter_eq_some_iff.mp found).2

variable {chart : Chart Rat}

theorem isPaced_of_mem_actions {action : TimingAction Rat}
    (member : action ∈ actions chart) : action.IsPaced := by
  have good := (mem_actions_iff.mp member).2
  cases action with
  | tempo beat bpm => exact lt_of_not_ge (of_decide_eq_false good)
  | stop beat length => trivial

theorem beat_nonneg_of_mem_actions (wellFormed : chart.WellFormed)
    {action : TimingAction Rat} (member : action ∈ actions chart) : 0 ≤ action.beat := by
  obtain ⟨⟨object, listed, made⟩, -⟩ := mem_actions_iff.mp member
  rw [beat_of_action? made]
  exact wellFormed.beatOf_nonneg listed

/-- Two stops of a chart are at different places and therefore on different beats. -/
theorem pairwise_apart_actions (wellFormed : chart.WellFormed) :
    (actions chart).Pairwise Apart := by
  rw [actions, dropBadTempos_eq_filter]
  apply List.Pairwise.filter
  rw [List.pairwise_filterMap]
  refine wellFormed.pairwise_places.imp_of_mem ?_
  intro a b listed listed' places first made second made'
  cases first with
  | tempo beat bpm => cases second <;> trivial
  | stop beat length =>
      cases second with
      | tempo beat' bpm => trivial
      | stop beat' length' =>
          obtain ⟨stop, rfl, -⟩ := action?_eq_stop_iff.mp made
          obtain ⟨stop', rfl, -⟩ := action?_eq_stop_iff.mp made'
          -- On one beat they would be at one place, where there is room for one of them
          -- only.
          intro sameBeat
          obtain ⟨measures, fractions⟩ := wellFormed.sizes.beatAt_injective
            (wellFormed.valid a listed) (wellFormed.valid b listed') sameBeat
          refine places ?_ (ChartObject.isAt_iff.mpr
            ⟨stop'.trans stop.symm, measures.symm, fractions.symm⟩)
          rw [stop]
          decide

theorem spread_actions (wellFormed : chart.WellFormed) :
    Spread 0 (ordered (actions chart)) :=
  spread_ordered (pairwise_apart_actions wellFormed)
    (fun _ member => isPaced_of_mem_actions member)
    fun _ member => beat_nonneg_of_mem_actions wellFormed member

theorem forall_isForward_actions_iff :
    (∀ action ∈ actions chart, action.IsForward) ↔ ¬chart.HasNegativeStop := by
  constructor
  · rintro forward ⟨object, listed, stop, units, read, negative⟩
    have made :
        action? chart object = some (.stop (chart.beatOf object) (units / 48)) := by
      refine action?_eq_stop_iff.mpr ⟨stop, rfl, ?_⟩
      rw [read]
      rfl
    have length : 0 ≤ units / 48 :=
      forward _ (mem_actions_iff.mpr ⟨⟨object, listed, made⟩, rfl⟩)
    linarith
  · intro none action member
    obtain ⟨⟨object, listed, made⟩, -⟩ := mem_actions_iff.mp member
    cases action with
    | tempo beat bpm => trivial
    | stop beat length =>
        obtain ⟨stop, -, rfl⟩ := action?_eq_stop_iff.mp made
        cases read : chart.number? (['s', 't', 'o', 'p'] ++ object.value.text) with
        | none => exact le_of_eq (zero_div 48).symm
        | some units =>
            have nonneg : 0 ≤ units :=
              le_of_not_gt fun negative =>
                none ⟨object, listed, stop, units, read, negative⟩
            have unit : (0 : Rat) ≤ 48 := by norm_num
            exact div_nonneg nonneg unit

/-- Every compiled chart has a timing, whose segments are in the order of their beats.
They are in the order of their times, and time never runs back, exactly if no stop of the
chart is negative; then later beats even have later times. -/
theorem ofChart_ofText_ascends (dialect : Dialect) (draws : List Int) (source : Text) :
    ∃ timing,
      ofChart (Compilation.ofText dialect draws source : Compilation Rat).chart =
        .ok timing ∧
      timing.motion.segments.Pairwise (fun a b => a.x ≤ b.x) ∧
      (timing.motion.segments.Pairwise (fun a b => a.t ≤ b.t) ↔
        ¬(Compilation.ofText dialect draws source :
          Compilation Rat).chart.HasNegativeStop) ∧
      (Monotone timing.beatToSeconds ↔
        ¬(Compilation.ofText dialect draws source :
          Compilation Rat).chart.HasNegativeStop) ∧
      (¬(Compilation.ofText dialect draws source :
          Compilation Rat).chart.HasNegativeStop →
        StrictMono timing.beatToSeconds) := by
  have wellFormed := Compilation.wellFormed_ofText dialect draws source
  rw [← forall_isForward_actions_iff]
  exact ofActions_ascends (initialTempo_pos _) (spread_actions wellFormed)

/-- A stop of minus four beats. -/
def turningSource : Text :=
  "#BPM 60\n#STOP01 -192\n#00109:01".toList

theorem ofChart_ofText_ascends_turningSource :
    ∃ timing, ofChart (Compilation.ofText .bms [] turningSource : Compilation Rat).chart =
        .ok timing ∧
      ¬timing.motion.segments.Pairwise (fun a b => a.t ≤ b.t) ∧
        ¬Monotone timing.beatToSeconds := by
  have negative :
      (Compilation.ofText .bms [] turningSource :
        Compilation Rat).chart.HasNegativeStop :=
    ⟨⟨Code.stop, 1, 0, ⟨'0', '1'⟩, some 3⟩, by decide +kernel, rfl, -192, by
      decide +kernel, by norm_num⟩
  obtain ⟨timing, made, -, times, monotone, -⟩ :=
    ofChart_ofText_ascends .bms [] turningSource
  exact ⟨timing, made, fun ascends => times.mp ascends negative,
    fun ascends => monotone.mp ascends negative⟩

end Timing

end RhythmChart
