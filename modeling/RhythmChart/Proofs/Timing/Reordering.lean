import Mathlib.Data.List.Sort
import RhythmChart.Proofs.Sorting.Firsts
import RhythmChart.Proofs.Sorting.Ties
import RhythmChart.Proofs.Timing.RoundTrip

/-!
# Actions in another order

The order in which actions are listed says one thing only: which tempo change is last
on a beat. Stops may be listed anywhere, even before a tempo change on their own
beat. In which order several stops on one beat are made shows in the segments, but
not in what these convert.
-/

namespace RhythmChart

namespace TimingAction

def changesOn (place : Rat) : TimingAction Rat → Bool
  | .tempo beat _ => decide (beat = place)
  | .stop _ _ => false

/-- The same actions in another order, in which tempo changes on one beat keep theirs. -/
structure Reordered (actions others : List (TimingAction Rat)) : Prop where
  perm : actions.Perm others
  changes : ∀ place, actions.filter (changesOn place) = others.filter (changesOn place)

theorem laterChange_comm_of_ne (limit : Rat) (found : Rat × Rat) (x y : TimingAction Rat)
    (apart : x.beat ≠ y.beat) :
    laterChange limit (laterChange limit found x) y =
      laterChange limit (laterChange limit found y) x := by
  rcases lt_or_gt_of_ne apart with before | behind
  · exact (laterChange_comm limit found y x (precedes_eq_true_iff.mpr (.inl before))).symm
  · exact laterChange_comm limit found x y (precedes_eq_true_iff.mpr (.inl behind))

/-- The tempo is found among the tempo changes. -/
theorem tempoSince_eq_foldl_changes (origin : Rat × Rat)
    (actions : List (TimingAction Rat)) (limit : Rat) :
    tempoSince origin actions limit =
      ((actions.filter fun action => action.kind = .tempo).foldl (laterChange limit)
        origin).2 := by
  have unmoved : (fun found action => if decide (kind action = .tempo) = true then
      laterChange limit found action else found) = laterChange limit := by
    funext found action
    cases action <;> rfl
  rw [List.foldl_filter, unmoved, tempoSince]

theorem filter_changesOn (actions : List (TimingAction Rat)) (place : Rat) :
    ((actions.filter fun action => action.kind = .tempo).filter fun action =>
      action.beat = place) = actions.filter (changesOn place) := by
  rw [List.filter_filter]
  refine List.filter_congr fun action _ => Bool.eq_iff_iff.mpr ?_
  cases action with
  | tempo next bpm =>
      rw [Bool.and_eq_true, decide_eq_true_iff, decide_eq_true_iff, changesOn,
        decide_eq_true_iff]
      exact and_iff_left rfl
  | stop next length => simp [changesOn, kind]

namespace Reordered

variable {actions others : List (TimingAction Rat)} (reordered : Reordered actions others)

include reordered

theorem tempoSince_eq (origin : Rat × Rat) :
    tempoSince origin actions = tempoSince origin others := by
  funext limit
  rw [tempoSince_eq_foldl_changes, tempoSince_eq_foldl_changes,
    foldl_eq_of_classes beat (laterChange_comm_of_ne limit) fun place => ?_]
  rw [filter_changesOn, filter_changesOn, reordered.changes]

theorem restsWhere_eq (isMet : Rat → Bool) (origin : Rat × Rat) :
    restsWhere isMet origin actions = restsWhere isMet origin others := by
  unfold restsWhere total
  rw [reordered.tempoSince_eq]
  exact ((reordered.perm.filter _).map _).sum_eq

theorem sound (sound : ∀ action ∈ actions, action.Sound) :
    ∀ action ∈ others, action.Sound :=
  fun action member => sound action (reordered.perm.mem_iff.mpr member)

end Reordered

end TimingAction

namespace Timing

open TimingAction

variable {initial : Rat} {actions others : List (TimingAction Rat)}

theorem travelTime_eq_of_reordered (reordered : Reordered actions others) (limit : Rat) :
    travelTime initial actions limit = travelTime initial others limit := by
  have changes : (changeBeats actions).Perm (changeBeats others) :=
    reordered.perm.filterMap _
  unfold travelTime boundaries
  rw [List.toFinset_eq_of_perm _ _ (changes.filter _), reordered.tempoSince_eq]

section Walks

variable (ahead : (beginning initial).Ahead (ordered actions))
  (ahead' : (beginning initial).Ahead (ordered others))
    (reordered : Reordered actions others)

include ahead ahead' reordered

theorem arrival_eq_of_reordered :
    arrival (beginning initial) (ordered actions) =
      arrival (beginning initial) (ordered others) := by
  funext limit
  rcases le_total 0 limit with nonneg | early
  · rw [arrival_eq_integral ahead nonneg, arrival_eq_integral ahead' nonneg,
      travelTime_eq_of_reordered reordered]
    exact congrArg _ (reordered.restsWhere_eq _ _)
  · -- Before beat zero there is no action.
    rw [arrival_of_le ahead fun _ member =>
      le_trans early (ahead.upcoming.le_beat _ member),
      arrival_of_le ahead' fun _ member =>
        le_trans early (ahead'.upcoming.le_beat _ member)]

/-- The spans of beats are the same, and they determine the beat at a time. -/
theorem progress_eq_of_reordered :
    progress (beginning initial) (ordered actions) =
      progress (beginning initial) (ordered others) := by
  funext time
  obtain ⟨reached, notOver⟩ := arrival_progress_le ahead time
  have rests : restsOn (beginning initial).origin (ordered actions) =
      restsOn (beginning initial).origin (ordered others) := by
    funext place
    rw [restsOn_ordered, restsOn_ordered]
    exact reordered.restsWhere_eq _ _
  rw [arrival_eq_of_reordered ahead ahead' reordered] at reached notOver
  rw [rests] at notOver
  exact (progress_eq_of_span ahead' reached notOver).symm

end Walks

theorem mem_distinctBeats_ordered {place : Rat} :
    place ∈ distinctBeats ((ordered actions).map beat) ↔
      ∃ action ∈ actions, action.beat = place := by
  rw [distinctBeats, mem_dedupe, List.mem_map]
  simp only [(ordered_perm actions).mem_iff]

/-- Ordered actions are on ascending beats, so each beat once makes a
strictly ascending list. -/
theorem sortedLT_distinctBeats (actions : List (TimingAction Rat)) :
    (distinctBeats ((ordered actions).map beat)).SortedLT := by
  have ascending : ((ordered actions).map beat).Pairwise (· ≤ ·) :=
    List.pairwise_map.mpr ((isSorted_ordered actions).imp beat_le_of_not_precedes)
  refine List.Pairwise.sortedLT ?_
  exact (ascending.sublist (dedupe_sublist _ _)).imp₂ (fun _ _ => lt_of_le_of_ne)
    (nodup_dedupe _)

/-- Timings of the same actions in another order convert alike and have the same
event beats: each beat of an action once, ascending. Only tempo changes on one beat
must keep their order. -/
theorem conversions_eq_of_reordered (positive : 0 < initial)
    (sound : ∀ action ∈ actions, action.Sound) (reordered : Reordered actions others) :
    ∃ timing timing' : Timing Rat,
      ofActions initial actions = .ok timing ∧ ofActions initial others = .ok timing' ∧
      (∀ beat, timing.beatToSeconds beat = timing'.beatToSeconds beat) ∧
      (∀ time, timing.secondsToBeat time = timing'.secondsToBeat time) ∧
      (∀ beat, timing.bpmAtBeat beat = timing'.bpmAtBeat beat) ∧
      timing.eventBeats = timing'.eventBeats ∧ timing.eventBeats.Pairwise (· < ·) ∧
      ∀ place, place ∈ timing.eventBeats ↔ ∃ action ∈ actions, action.beat = place := by
  obtain ⟨ahead, made⟩ := ofActions_eq_ok positive sound
  obtain ⟨ahead', made'⟩ := ofActions_eq_ok positive (reordered.sound sound)
  refine ⟨_, _, made, made', fun place => ?_, fun time => ?_, fun place => ?_, ?_, ?_, ?_⟩
  · exact (t_eq_arrival ahead true place).trans
      ((congrFun (arrival_eq_of_reordered ahead ahead' reordered) place).trans
        (t_eq_arrival ahead' true place).symm)
  · exact (x_eq_progress ahead true time).trans
      ((congrFun (progress_eq_of_reordered ahead ahead' reordered) time).trans
        (x_eq_progress ahead' true time).symm)
  · unfold bpmAtBeat
    rw [label_segmentAtX ahead, label_segmentAtX ahead', tempoSince_ordered,
      tempoSince_ordered, reordered.tempoSince_eq]
  · refine (sortedLT_distinctBeats actions).eq_of_mem_iff
      (sortedLT_distinctBeats others) ?_
    intro place
    rw [mem_distinctBeats_ordered, mem_distinctBeats_ordered]
    simp only [reordered.perm.mem_iff]
  · exact (sortedLT_distinctBeats actions).pairwise
  · exact fun _ => mem_distinctBeats_ordered

/-- Two tempo changes and two stops on one beat. -/
def crowdedBeat : List (TimingAction Rat) :=
  [.tempo 4 120, .stop 4 1, .tempo 4 90, .stop 4 2]

/-- The same with the stops in each other's place, around the tempo changes. -/
def enclosedChanges : List (TimingAction Rat) :=
  [.stop 4 2, .tempo 4 120, .tempo 4 90, .stop 4 1]

theorem reordered_crowdedBeat : Reordered crowdedBeat enclosedChanges where
  perm := by
    have stopsLast :
        crowdedBeat.Perm ([.tempo 4 120, .tempo 4 90, .stop 4 1] ++ [.stop 4 2]) :=
      (List.Perm.swap ..).cons _
    exact stopsLast.trans List.perm_append_comm
  changes place := by
    by_cases here : 4 = place
    · simp [crowdedBeat, enclosedChanges, changesOn, here]
    · simp [crowdedBeat, enclosedChanges, changesOn, here]

theorem conversions_eq_of_reordered_crowdedBeat :
    0 < (60 : Rat) ∧ (∀ action ∈ crowdedBeat, action.Sound) ∧
    Reordered crowdedBeat enclosedChanges ∧
    ∃ timing timing' : Timing Rat,
      ofActions 60 crowdedBeat = .ok timing ∧ ofActions 60 enclosedChanges = .ok timing' ∧
      timing.beatToSeconds 7 = timing'.beatToSeconds 7 ∧
      timing.secondsToBeat 5 = timing'.secondsToBeat 5 ∧
      timing.bpmAtBeat 4 = timing'.bpmAtBeat 4 ∧
        timing.eventBeats = timing'.eventBeats := by
  have positive : 0 < (60 : Rat) := by norm_num
  have sound : ∀ action ∈ crowdedBeat, action.Sound := by simp [crowdedBeat, Sound]
  obtain ⟨timing, timing', made, made', forth, back, tempos, beats, -⟩ :=
    conversions_eq_of_reordered positive sound reordered_crowdedBeat
  exact ⟨positive, sound, reordered_crowdedBeat, timing, timing', made, made',
    forth 7, back 5, tempos 4, beats⟩

end Timing

end RhythmChart
