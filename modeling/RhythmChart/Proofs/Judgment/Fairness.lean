import Mathlib.Data.Int.Init
import Mathlib.Data.List.Forall2
import RhythmChart.Proofs.Judgment.Classification

/-!
# Fairness between levels

The lower the level of a song for beginners, the wider are its gates. The outermost gate
is as wide in every table, for presses and for releases. So songs of all levels agree on
which hits are out of time altogether, and a hit that is in time is judged no worse on a
lower level. A release is judged no worse than a press at the same distance.
-/

namespace RhythmChart

/-- Either both judgments rank a hit, and the first rank is no worse, or both are the same
of the two that do not. -/
structure Judgment.NoWorse (judgment other : Judgment) : Prop where
  unjudged_iff : judgment = .unjudged ↔ other = .unjudged
  missed_iff : judgment = .missed ↔ other = .missed
  rank_le : judgment.rank ≤ other.rank

namespace Judgment.NoWorse

theorem refl (judgment : Judgment) : NoWorse judgment judgment :=
  ⟨Iff.rfl, Iff.rfl, Int.le_refl _⟩

theorem trans {first second third : Judgment} (better : NoWorse first second)
    (better' : NoWorse second third) : NoWorse first third where
  unjudged_iff := better.unjudged_iff.trans better'.unjudged_iff
  missed_iff := better.missed_iff.trans better'.missed_iff
  rank_le := Int.le_trans better.rank_le better'.rank_le

theorem of_ranks {judgment other : Judgment} (positive : 1 ≤ judgment.rank)
    (le : judgment.rank ≤ other.rank) : NoWorse judgment other := by
  have ranked : ∀ {unranked : Judgment}, unranked.rank < 1 →
      (judgment = unranked ↔ other = unranked) := by
    intro unranked low
    constructor
    · rintro rfl
      omega
    · rintro rfl
      omega
  exact ⟨ranked (by decide), ranked (by decide), le⟩

end Judgment.NoWorse

namespace Timegates

/-- Gates for the same judgments that are at least as wide one by one, the widest of them
no wider than all others. -/
def Widens (width width' : Timegate Float → Float)
    (gates gates' : Timegates Float) : Prop :=
  List.Forall₂ (fun gate gate' => gate.judgment = gate'.judgment ∧
      width' gate' ≤ width gate) gates gates' ∧
    ∀ gate ∈ gates, ∃ gate' ∈ gates', width gate ≤ width' gate'

instance (width width' : Timegate Float → Float) (gates gates' : Timegates Float) :
    Decidable (Widens width width' gates gates') :=
  inferInstanceAs (Decidable (_ ∧ _))

variable {width width' : Timegate Float → Float} {gates gates' : Timegates Float}
  {hit : Hit}

theorem isWithin_of_width_le {gate gate' : Timegate Float}
    (le : width' gate' ≤ width gate)
    (within : isWithin width' hit gate' = true) : isWithin width hit gate = true := by
  have less := of_decide_eq_true within
  exact decide_eq_true (Double.lt_trans_le hit.distance_nonneg less le)

/-- A hit within a gate is within a wider one that is listed no later. -/
theorem exists_find?_of_wider (ranked : gates'.IsRanked)
    (wider : List.Forall₂
      (fun gate gate' => gate.judgment = gate'.judgment ∧ width' gate' ≤ width gate)
        gates gates')
    {gate' : Timegate Float} (found : gates'.find? (isWithin width' hit) = some gate') :
    ∃ gate, gates.find? (isWithin width hit) = some gate ∧
      gate.judgment.rank ≤ gate'.judgment.rank := by
  induction wider with
  | nil => cases found
  | @cons first first' rest rest' pair wider ih =>
      obtain ⟨judgments, le⟩ := pair
      obtain ⟨lowest, ascending⟩ := List.pairwise_cons.mp ranked.ascending
      by_cases here : isWithin width hit first = true
      · refine ⟨first, List.find?_cons_of_pos here, ?_⟩
        rw [judgments]
        rcases List.mem_cons.mp (List.mem_of_find?_eq_some found) with same | later
        · rw [same]
        · exact Int.le_of_lt (lowest gate' later)
      · have notHere : ¬isWithin width' hit first' = true :=
          fun within => here (isWithin_of_width_le le within)
        rw [List.find?_cons_of_neg notHere] at found
        rw [List.find?_cons_of_neg here]
        apply ih ⟨?_, ascending⟩ found
        exact fun gate member => ranked.positive gate (List.mem_cons_of_mem first' member)

theorem find?_eq_none_of_bounded
    (bounded : ∀ gate ∈ gates, ∃ gate' ∈ gates', width gate ≤ width' gate')
    (outside : gates'.find? (isWithin width' hit) = none) :
    gates.find? (isWithin width hit) = none := by
  rw [List.find?_eq_none] at outside ⊢
  intro gate member within
  obtain ⟨gate', member', le⟩ := bounded gate member
  exact outside gate' member' (isWithin_of_width_le le within)

theorem Widens.noWorse (widens : Widens width width' gates gates')
    (ranked : gates.IsRanked) (ranked' : gates'.IsRanked) (hit : Hit) :
    (judgeBy width gates hit.game hit.note).NoWorse
    (judgeBy width' gates' hit.game hit.note) := by
  obtain ⟨wider, bounded⟩ := widens
  cases found' : gates'.find? (isWithin width' hit) with
  | none =>
      have found := find?_eq_none_of_bounded bounded found'
      rw [judgeBy_of_none found, judgeBy_of_none found']
      exact .refl _
  | some gate' =>
      obtain ⟨gate, found, le⟩ := exists_find?_of_wider ranked' wider found'
      rw [judgeBy_of_some found', judgeBy_of_some found]
      exact .of_ranks (ranked.positive gate (List.mem_of_find?_eq_some found)) le

/-- Tables in milliseconds are ranked by their rows. -/
theorem isRanked_ofMilliseconds (rows : List (Nat × Nat)) :
    (ofMilliseconds rows : Timegates Float).IsRanked := by
  constructor
  · intro gate member
    obtain ⟨⟨row, rank⟩, listed, rfl⟩ := List.mem_map.mp member
    have positive := List.le_snd_of_mem_zipIdx listed
    simpa using positive
  · apply List.pairwise_map.mpr
    apply List.pairwise_iff_getElem.mpr
    intro i j _ _ less
    simpa using less

/-! ## Levels -/

/-- Whether a table gives as much room as another one for presses and for releases, and
both as much altogether. -/
def Roomier (gates gates' : Timegates Float) : Prop :=
  Widens Timegate.gate Timegate.gate gates gates' ∧
    Widens Timegate.endGate Timegate.endGate gates gates'

instance (gates gates' : Timegates Float) : Decidable (Roomier gates gates') :=
  inferInstanceAs (Decidable (_ ∧ _))

theorem forLevel_of_lt {level : Int} (high : 5 < level) :
    (forLevel level : Timegates Float) = normal := by
  unfold forLevel
  rw [if_neg (by omega), if_neg (by omega), if_neg (by omega), if_neg (by omega)]

theorem isRanked_forLevel (level : Int) :
    (forLevel level : Timegates Float).IsRanked := by
  unfold forLevel
  split_ifs <;> apply isRanked_ofMilliseconds

theorem roomier_forLevel {level : Int} (first : 1 ≤ level) :
    Roomier (forLevel level) (forLevel (level + 1)) := by
  have cases : level = 1 ∨ level = 2 ∨ level = 3 ∨ level = 4 ∨ level = 5 ∨ 5 < level := by
    omega
  rcases cases with rfl | rfl | rfl | rfl | rfl | high
  · decide
  · decide
  · decide
  · decide
  · decide
  · rw [forLevel_of_lt high, forLevel_of_lt (by omega)]
    decide

/-- Judged no worse, whether the hit is a press or a release. -/
def JudgesNoWorse (gates gates' : Timegates Float) (hit : Hit) : Prop :=
  (judgeTime gates hit.game hit.note).NoWorse (judgeTime gates' hit.game hit.note) ∧
    (judgeEndTime gates hit.game hit.note).NoWorse (judgeEndTime gates' hit.game hit.note)

theorem judgesNoWorse_forLevel {level higher : Int} (first : 1 ≤ level)
    (le : level ≤ higher)
    (hit : Hit) : JudgesNoWorse (forLevel level) (forLevel higher) hit := by
  induction higher, le using Int.leInduction with
  | base => exact ⟨.refl _, .refl _⟩
  | succ higher le ih =>
      obtain ⟨presses, releases⟩ := roomier_forLevel (Int.le_trans first le)
      have ranked := isRanked_forLevel higher
      have ranked' := isRanked_forLevel (higher + 1)
      constructor
      · exact ih.1.trans (presses.noWorse ranked ranked' hit)
      · exact ih.2.trans (releases.noWorse ranked ranked' hit)

/-- Releases get at least the room of presses in every table. -/
theorem widens_endGate_forSong (difficulty level : Int) (tutorial : Bool)
    (noteTime : Option Float) :
    Widens Timegate.endGate Timegate.gate (forSong difficulty level tutorial noteTime)
      (forSong difficulty level tutorial noteTime) := by
  unfold forSong forLevel
  split_ifs <;> decide

theorem isRanked_forSong (difficulty level : Int) (tutorial : Bool)
    (noteTime : Option Float) :
    (forSong difficulty level tutorial noteTime).IsRanked := by
  unfold forSong
  split_ifs
  · apply isRanked_ofMilliseconds
  · apply isRanked_ofMilliseconds
  · apply isRanked_ofMilliseconds
  · exact isRanked_forLevel level

/-! ## What is given for a song -/

def givenTime : Option Float → Field Float
  | none => .absent
  | some time => .number time

theorem noteTime_givenTime (time : Option Float) :
    (noteTime (givenTime time)).map isEarly = .ok (isEarly time) := by
  cases time with
  | none => rfl
  | some time =>
      have truthy : (Field.number time).isTruthy = !Scalar.isZero time := rfl
      simp only [givenTime, noteTime, truthy]
      cases zero : Scalar.isZero time with
      | false => rfl
      | true =>
          have early : isEarly (some time) = true := by simp [isEarly, zero]
          rw [early]
          rfl

theorem forNote_integer (difficulty level : Int) (tutorial : Bool) (time : Option Float) :
    forNote (.integer difficulty) (.integer level) (.flag tutorial) (givenTime time) =
      .ok (forSong difficulty level tutorial time) := by
  cases tutorial with
  | false =>
      by_cases insane : insaneDifficulty ≤ difficulty <;>
        simp [forNote, forSong, Field.isTruthy, Judgment.reaches, Field.wholeNumber?,
          insane] <;> rfl
  | true =>
      have early := noteTime_givenTime time
      change (noteTime (givenTime time)).map (forSong 0 0 true) = _
      cases read : noteTime (givenTime time) with
      | error fault => rw [read] at early; cases early
      | ok time' =>
          rw [read] at early
          change Except.ok (if isEarly time' then absolute else normal) = _
          rw [Except.ok.inj early]
          rfl

/-- Whatever is given, a table that is answered is the table for some song. -/
theorem exists_forSong_of_forNote {difficulty level tutorial time : Field Float}
    (found : forNote difficulty level tutorial time = .ok gates) :
    ∃ difficulty level tutorial time, gates = forSong difficulty level tutorial time := by
  have ordinary : normal = (forSong 5 0 false none : Timegates Float) := rfl
  unfold forNote at found
  split at found
  · cases read : noteTime time with
    | error fault => rw [read] at found; cases found
    | ok time => rw [read] at found; cases found; exact ⟨0, 0, true, time, rfl⟩
  · cases reached : Judgment.reaches difficulty insaneDifficulty with
    | error fault => rw [reached] at found; cases found
    | ok insane =>
        rw [reached] at found
        cases insane with
        | true => cases found; exact ⟨5, 0, false, none, ordinary⟩
        | false =>
            change forGivenLevel level = .ok gates at found
            unfold forGivenLevel at found
            split at found
            · cases found
            · cases found
            · cases found
              cases level.wholeNumber? with
              | none => exact ⟨5, 0, false, none, ordinary⟩
              | some level => exact ⟨0, level, false, none, rfl⟩

/-- For songs that differ only in their level, a hit is judged no worse on the lower
level. Whatever is given for a song, a release is judged no worse than a press. -/
theorem judging_is_fair (hit : Hit) :
    (∀ (difficulty level higher : Int) (time : Option Float), 1 ≤ level → level ≤ higher →
      ∃ gates gates',
        forNote (.integer difficulty) (.integer level) (.flag false)
          (givenTime time) = .ok gates ∧
          forNote (.integer difficulty) (.integer higher) (.flag false) (givenTime time) =
            .ok gates' ∧
          JudgesNoWorse gates gates' hit) ∧
      ∀ (difficulty level tutorial time : Field Float) (gates : Timegates Float),
        forNote difficulty level tutorial time = .ok gates →
          (judgeEndTime gates hit.game hit.note).NoWorse
    (judgeTime gates hit.game hit.note) := by
  constructor
  · intro difficulty level higher time first le
    refine ⟨_, _, forNote_integer _ _ _ _, forNote_integer _ _ _ _, ?_⟩
    unfold forSong
    rw [if_neg Bool.false_ne_true, if_neg Bool.false_ne_true]
    split_ifs
    · exact ⟨.refl _, .refl _⟩
    · exact judgesNoWorse_forLevel first le hit
  · intro difficulty level tutorial time gates found
    obtain ⟨difficulty, level, tutorial, time, rfl⟩ := exists_forSong_of_forNote found
    have ranked := isRanked_forSong difficulty level tutorial time
    exact (widens_endGate_forSong difficulty level tutorial time).noWorse ranked
      ranked hit

/-- A hit that is twenty-three milliseconds late. -/
def lateHit : Hit where
  game := milliseconds 1023
  note := milliseconds 1000
  finiteGame := by decide
  finiteNote := by decide

/-- The press has the best rank on level two and not any more on level five,
where a release has it. -/
theorem judging_is_fair_lateHit :
    JudgesNoWorse absolute levelFive lateHit ∧
      judgeTime absolute lateHit.game lateHit.note = .pgreat ∧
      judgeTime levelFive lateHit.game lateHit.note = .great ∧
      judgeEndTime levelFive lateHit.game lateHit.note = .pgreat ∧
      (judgeEndTime levelFive lateHit.game lateHit.note).NoWorse
        (judgeTime levelFive lateHit.game lateHit.note) := by
  obtain ⟨levels, releases⟩ := judging_is_fair lateHit
  obtain ⟨gates, gates', low, high, better⟩ := levels 3 2 5 none (by decide) (by decide)
  cases low
  cases high
  refine ⟨better, by decide, by decide, by decide, ?_⟩
  exact releases (.integer 3) (.integer 5) (.flag false) .absent _ rfl

end Timegates

end RhythmChart
