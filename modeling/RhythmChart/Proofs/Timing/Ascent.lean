import RhythmChart.Proofs.Timing.RoundTrip

/-!
# When time ascends

With positive tempos only stops can turn time back. A stop of negative length ends before
it begins, and where nothing else happens on its beat, the beats right behind it are
reached before it. So the segments of a timing are in order, and its beats are reached in
order, exactly if no stop has a negative length.
-/

namespace RhythmChart

namespace TimingAction

/-- Stops are on different beats. -/
def Apart : TimingAction Rat → TimingAction Rat → Prop
  | .stop beat _, .stop beat' _ => beat ≠ beat'
  | _, _ => True

theorem Apart.symm {a b : TimingAction Rat} (apart : Apart a b) : Apart b a := by
  cases a with
  | tempo beat bpm => cases b <;> trivial
  | stop beat length =>
      cases b with
      | tempo beat' bpm => trivial
      | stop beat' length' => exact Ne.symm apart

/-- Actions from a beat on in the order in which they take effect, with positive tempos,
of which none follows a stop on its own beat. -/
inductive Spread : Rat → List (TimingAction Rat) → Prop where
  | nil (origin : Rat) : Spread origin []
  | tempo {origin beat bpm : Rat} {rest : List (TimingAction Rat)} :
      origin ≤ beat → 0 < bpm → Spread beat rest → Spread origin (.tempo beat bpm :: rest)
  | stop {origin beat length : Rat} {rest : List (TimingAction Rat)} :
      origin ≤ beat → (∀ action ∈ rest, beat < action.beat) → Spread beat rest →
      Spread origin (.stop beat length :: rest)

theorem Spread.le_beat {origin : Rat} {actions : List (TimingAction Rat)}
    (spread : Spread origin actions) : ∀ action ∈ actions, origin ≤ action.beat := by
  induction spread with
  | nil =>
      intro action member
      cases member
  | tempo later _ _ ih | stop later _ _ ih =>
      intro action member
      rcases List.mem_cons.mp member with first | others
      · rw [first]
        exact later
      · exact le_trans later (ih action others)

theorem Spread.isPaced {origin : Rat} {actions : List (TimingAction Rat)}
    (spread : Spread origin actions) : ∀ action ∈ actions, action.IsPaced := by
  induction spread with
  | nil => exact List.forall_mem_nil _
  | tempo _ positive _ ih => exact List.forall_mem_cons.mpr ⟨positive, ih⟩
  | stop _ _ _ ih => exact List.forall_mem_cons.mpr ⟨trivial, ih⟩

theorem Spread.upcoming {origin : Rat} {actions : List (TimingAction Rat)}
    (spread : Spread origin actions) (forward : ∀ action ∈ actions, action.IsForward) :
    Upcoming origin actions := by
  induction spread with
  | nil => exact .nil _
  | tempo later positive _ ih =>
      exact .tempo later positive (ih (List.forall_mem_cons.mp forward).2)
  | stop later strictly _ ih =>
      obtain ⟨nonneg, forward⟩ := List.forall_mem_cons.mp forward
      exact .stop later nonneg (fun next bpm member => strictly _ member) (ih forward)

theorem spread_of_isSorted {origin : Rat} {actions : List (TimingAction Rat)}
    (sorted : IsSorted precedes actions) (apart : actions.Pairwise Apart)
    (paced : ∀ action ∈ actions, action.IsPaced)
    (later : ∀ action ∈ actions, origin ≤ action.beat) : Spread origin actions := by
  induction actions generalizing origin with
  | nil => exact .nil origin
  | cons first rest ih =>
      obtain ⟨headFirst, restSorted⟩ := List.pairwise_cons.mp sorted
      obtain ⟨headApart, restApart⟩ := List.pairwise_cons.mp apart
      obtain ⟨headPaced, restPaced⟩ := List.forall_mem_cons.mp paced
      have firstLater := later first List.mem_cons_self
      have restLater : ∀ action ∈ rest, first.beat ≤ action.beat := fun action member =>
        beat_le_of_not_precedes (headFirst action member)
      have spread := ih restSorted restApart restPaced restLater
      cases first with
      | tempo beat bpm => exact .tempo firstLater headPaced spread
      | stop beat length =>
          refine .stop firstLater (fun action member => ?_) spread
          rcases precedes_eq_false_iff.mp (headFirst action member) with less
            | ⟨same, rank⟩
          · exact less
          · cases action with
            | tempo next bpm => exact absurd rank (by simp [kind, Kind.rank])
            | stop next length' => exact absurd same (headApart _ member)

theorem spread_ordered {actions : List (TimingAction Rat)}
    (apart : actions.Pairwise Apart) (paced : ∀ action ∈ actions, action.IsPaced)
    (nonneg : ∀ action ∈ actions, 0 ≤ action.beat) : Spread 0 (ordered actions) := by
  have members : ∀ action ∈ ordered actions, action ∈ actions := fun action member =>
    (ordered_perm actions).mem_iff.mp member
  apply spread_of_isSorted (isSorted_ordered actions)
  · exact ((ordered_perm actions).pairwise_iff Apart.symm).mpr apart
  · exact fun action member => paced action (members action member)
  · exact fun action member => nonneg action (members action member)

end TimingAction

namespace Timing

open TimingAction

variable {point : Waypoint} {actions : List (TimingAction Rat)}

theorem isChain_iff_pairwise_key (key : TempoSegment Rat → Rat)
    (segments : List (TempoSegment Rat)) :
    (segments.IsChain fun a b => key a ≤ key b) ↔
      segments.Pairwise fun a b => key a ≤ key b := by
  rw [← List.isChain_map (R := (· ≤ ·)) key, List.isChain_iff_pairwise, List.pairwise_map]

theorem isChain_x (spread : Spread point.beat actions) (inclusive : Bool) :
    (point.segment inclusive :: segmentsBehind point actions).IsChain fun a b => a.x ≤
      b.x := by
  induction actions generalizing point inclusive with
  | nil => exact .singleton _
  | cons first rest ih =>
      cases spread with
      | @tempo _ next bpm _ later _ spread =>
          exact .cons_cons later (@ih (point.change next bpm) spread true)
      | @stop _ next length _ later _ spread =>
          exact .cons_cons later
            (.cons_cons (le_refl next) (@ih (point.stopFor next length) spread false))

theorem seconds_le_reach (positive : 0 < point.bpm) {next : Rat}
    (later : point.beat ≤ next) : point.seconds ≤ point.reach next := by
  have ahead : 0 ≤ next - point.beat := sub_nonneg.mpr later
  unfold Waypoint.reach
  exact le_add_of_nonneg_right (by positivity)

theorem reach_le_stopFor_iff (positive : 0 < point.bpm) (next length : Rat) :
    point.reach next ≤ (point.stopFor next length).seconds ↔ 0 ≤ length := by
  unfold Waypoint.stopFor
  dsimp only
  rw [le_add_iff_nonneg_right, le_div_iff₀ positive, zero_mul,
    mul_nonneg_iff_of_pos_right (by norm_num)]

/-- Segments are in the order of their times exactly if no stop turns time back. -/
theorem isChain_t_iff (positive : 0 < point.bpm) (spread : Spread point.beat actions)
    (inclusive : Bool) :
    ((point.segment inclusive :: segmentsBehind point actions).IsChain fun a b =>
      a.t ≤ b.t) ↔
      ∀ action ∈ actions, action.IsForward := by
  induction actions generalizing point inclusive with
  | nil => exact ⟨fun _ => List.forall_mem_nil _, fun _ => .singleton _⟩
  | cons first rest ih =>
      cases spread with
      | @tempo _ next bpm _ later more spread =>
          have onward := @ih (point.change next bpm) more spread true
          rw [segmentsBehind, List.isChain_cons_cons, onward, List.forall_mem_cons]
          exact and_congr (iff_of_true (seconds_le_reach positive later) trivial) Iff.rfl
      | @stop _ next length _ later _ spread =>
          have onward := @ih (point.stopFor next length) positive spread false
          rw [segmentsBehind, List.isChain_cons_cons, List.isChain_cons_cons, onward,
            List.forall_mem_cons]
          exact (and_iff_right (seconds_le_reach positive later)).trans
            (and_congr (reach_le_stopFor_iff positive next length) Iff.rfl)

/-- Before the first action time runs steadily. -/
theorem arrival_of_lt {target : Rat} (early : ∀ action ∈ actions, target < action.beat) :
    arrival point actions target = point.reach target := by
  cases actions with
  | nil => rfl
  | cons first rest =>
      cases first with
      | tempo next bpm =>
          have before : target < next := early _ List.mem_cons_self
          rw [arrival, if_neg (not_le_of_gt before)]
      | stop next length =>
          have before : target < next := early _ List.mem_cons_self
          rw [arrival, if_neg (not_lt_of_gt before)]

/-- There is room behind a beat and before what comes later. -/
theorem exists_between_beats {place bound : Rat} (less : place < bound)
    (later : ∀ action ∈ actions, place < action.beat) :
    ∃ between, place < between ∧ between < bound ∧
      ∀ action ∈ actions, between < action.beat := by
  induction actions with
  | nil =>
      obtain ⟨between, after, before⟩ := exists_between less
      exact ⟨between, after, before, fun _ member => nomatch member⟩
  | cons first rest ih =>
      obtain ⟨between, after, before, others⟩ := ih fun action member =>
        later action (List.mem_cons_of_mem first member)
      obtain ⟨nearer, after', before'⟩ :=
        exists_between (lt_min after (later first List.mem_cons_self))
      obtain ⟨nearerBetween, nearerFirst⟩ := lt_min_iff.mp before'
      refine ⟨nearer, after', lt_trans nearerBetween before, fun action member => ?_⟩
      rcases List.mem_cons.mp member with here | others'
      · rw [here]
        exact nearerFirst
      · exact lt_trans nearerBetween (others action others')

/-- Right behind a stop of negative length time is before it. -/
theorem exists_arrival_lt (positive : 0 < point.bpm) (spread : Spread point.beat actions)
    {place length : Rat} (member : .stop place length ∈ actions) (negative : length < 0) :
    ∃ later, place < later ∧ arrival point actions later <
      arrival point actions place := by
  induction actions generalizing point with
  | nil => cases member
  | cons first rest ih =>
      cases spread with
      | @tempo _ next bpm _ ahead more spread =>
          have others : .stop place
            length ∈ rest := (List.mem_cons.mp member).resolve_left nofun
          obtain ⟨later, beyond, less⟩ := @ih (point.change next bpm) more spread others
          have passed : next ≤ place := spread.le_beat _ others
          refine ⟨later, beyond, ?_⟩
          rw [arrival, arrival, if_pos passed, if_pos (le_trans passed (le_of_lt beyond))]
          exact less
      | @stop _ next length' _ ahead strictly spread =>
          rcases List.mem_cons.mp member with here | others
          · -- So close behind the stop that no other action is met, its end has not been
            -- made up for.
            cases here
            have room : place < place - length := by linarith
            obtain ⟨later, beyond, soon, early⟩ := exists_between_beats room strictly
            refine ⟨later, beyond, ?_⟩
            have ended : (length + (later - place)) * 60 / point.bpm < 0 :=
              div_neg_of_neg_of_pos (by linarith) positive
            rw [arrival, arrival, if_pos beyond, if_neg (lt_irrefl place),
              arrival_of_lt early]
            calc (point.stopFor place length).reach later
              _ = point.reach place + (length + (later - place)) * 60 / point.bpm := by
                  unfold Waypoint.stopFor Waypoint.reach
                  ring
              _ < point.reach place := by linarith
          · obtain ⟨later, beyond, less⟩ :=
              @ih (point.stopFor next length') positive spread others
            have passed : next < place := strictly _ others
            refine ⟨later, beyond, ?_⟩
            rw [arrival, arrival, if_pos passed, if_pos (lt_trans passed beyond)]
            exact less

theorem monotone_arrival_iff (positive : 0 < point.bpm)
    (spread : Spread point.beat actions) :
    Monotone (arrival point actions) ↔ ∀ action ∈ actions, action.IsForward := by
  constructor
  · intro monotone action member
    cases action with
    | tempo beat bpm => trivial
    | stop place length =>
        by_contra negative
        obtain ⟨later, beyond, less⟩ :=
          exists_arrival_lt positive spread member (lt_of_not_ge negative)
        exact absurd (monotone (le_of_lt beyond)) (not_le_of_gt less)
  · intro forward
    exact (strictMono_arrival
      (Waypoint.ahead_of_upcoming positive (spread.upcoming forward))).monotone

/-- A timing of spread actions can be made, and its segments are in the order of their
beats. They are in the order of their times, and time never runs back, exactly if no stop
has a negative length; then later beats even have later times. -/
theorem ofActions_ascends {initial : Rat} {actions : List (TimingAction Rat)}
    (positive : 0 < initial) (spread : Spread 0 (ordered actions)) :
    ∃ timing, ofActions initial actions = .ok timing ∧
      timing.motion.segments.Pairwise (fun a b => a.x ≤ b.x) ∧
      (timing.motion.segments.Pairwise (fun a b => a.t ≤ b.t) ↔
        ∀ action ∈ actions, action.IsForward) ∧
      (Monotone timing.beatToSeconds ↔ ∀ action ∈ actions, action.IsForward) ∧
      ((∀ action ∈ actions, action.IsForward) → StrictMono timing.beatToSeconds) := by
  have paced : (beginning initial).Paced (ordered actions) := ⟨positive, spread.isPaced⟩
  have course : ∀ beat, _ = arrival (beginning initial) (ordered actions) beat :=
    t_eq_arrival_of_paced paced true
  have stops : (∀ action ∈ ordered actions, action.IsForward) ↔
      ∀ action ∈ actions, action.IsForward := by
    simp only [(ordered_perm actions).mem_iff]
  refine ⟨_, ofActions_eq_ok_of_paced paced, ?_⟩
  unfold beatToSeconds Motion.segments
  dsimp only
  rw [funext course, ← stops]
  refine ⟨?_, ?_, ?_, ?_⟩
  · rw [← isChain_iff_pairwise_key]
    exact isChain_x spread true
  · rw [← isChain_iff_pairwise_key]
    exact isChain_t_iff positive spread true
  · exact monotone_arrival_iff positive spread
  · intro forward
    exact strictMono_arrival
      (Waypoint.ahead_of_upcoming positive (spread.upcoming forward))

end Timing

end RhythmChart
