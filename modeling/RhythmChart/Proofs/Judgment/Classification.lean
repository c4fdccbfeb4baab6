import RhythmChart.Judgment.Timegates
import RhythmChart.Proofs.Number.Differences
import RhythmChart.Proofs.Number.Nonnegative

/-!
# Classifying hits

A hit is judged by the first gate that is wider than its distance, in whatever order of
size the gates are. As the gates are ranked upwards, a nearer hit finds its gate no later,
and so is judged no worse. It makes no difference whether a hit is early or late, unless
it is outside of all gates.
-/

namespace RhythmChart

/-- A finite time that is compared with the finite time of a note. -/
structure Hit where
  game : Float
  note : Float
  finiteGame : Scalar.isFinite game = true
  finiteNote : Scalar.isFinite note = true

namespace Hit

def distance (hit : Hit) : Float :=
  Timegates.distance hit.game hit.note

/-- The distance before it is rounded. -/
def exactDistance (hit : Hit) : Rat :=
  |Double.value (Double.parts hit.game) - Double.value (Double.parts hit.note)|

theorem becomes_distance (hit : Hit) :
    ((0 : Nat) : Float) ≤ hit.distance ∧
      Double.Becomes hit.exactDistance (Double.extent hit.distance) := by
  have sized := Double.isSized_sub hit.finiteGame hit.finiteNote
  unfold distance Timegates.distance
  dsimp only
  split
  · rename_i negative
    exact sized.becomes_zero_sub_of_neg negative
  · rename_i notNegative
    exact sized.becomes_of_not_neg notNegative

theorem distance_nonneg (hit : Hit) : ((0 : Nat) : Float) ≤ hit.distance :=
  hit.becomes_distance.1

/-- Rounding does not make a nearer hit the farther one. -/
theorem distance_le {hit nearer : Hit} (le : nearer.exactDistance ≤ hit.exactDistance) :
    nearer.distance ≤ hit.distance := by
  rw [Double.le_iff_extent nearer.distance_nonneg hit.distance_nonneg]
  exact nearer.becomes_distance.2.mono hit.becomes_distance.2 (WithTop.coe_le_coe.mpr le)

end Hit

namespace Timegates

variable {α : Type}

/-- The gates belong to judgments of hits, from the best one on. -/
structure IsRanked (gates : Timegates α) : Prop where
  positive : ∀ gate ∈ gates, 1 ≤ gate.judgment.rank
  ascending : gates.Pairwise fun a b => a.judgment.rank < b.judgment.rank

/-- What passes more gates is no worse. -/
theorem IsRanked.exists_find?_of_imp {gates : Timegates α} {p q : Timegate α → Bool}
    (ranked : gates.IsRanked) (imp : ∀ gate, p gate = true → q gate = true)
    {gate : Timegate α} (found : gates.find? p = some gate) :
    ∃ better, gates.find? q = some better ∧
      better.judgment.rank ≤ gate.judgment.rank := by
  obtain ⟨passed, before, after, rfl, -⟩ := List.find?_eq_some_iff_append.mp found
  rw [List.find?_append, List.find?_cons_of_pos (imp gate passed)]
  cases earlier : before.find? q with
  | none => exact ⟨gate, rfl, Int.le_refl _⟩
  | some better =>
      refine ⟨better, rfl, Int.le_of_lt ?_⟩
      have ordered := (List.pairwise_append.mp ranked.ascending).2.2
      exact ordered better (List.mem_of_find?_eq_some earlier) gate List.mem_cons_self

/-- How a table judges hits, when each gate has one width. -/
structure Classifies (width : Timegate Float → Float) (gates : Timegates Float)
    (judge : Float → Float → Judgment) : Prop where
  first : ∀ (hit : Hit) before gate after, gates = before ++ gate :: after →
    (∀ earlier ∈ before, width earlier ≤ hit.distance) → hit.distance < width gate →
      judge hit.game hit.note = gate.judgment
  nearer : ∀ hit nearer : Hit, nearer.distance ≤ hit.distance →
    ∀ gate ∈ gates, judge hit.game hit.note = gate.judgment →
      ∃ better ∈ gates, judge nearer.game nearer.note = better.judgment ∧
        better.judgment.rank ≤ gate.judgment.rank
  unjudged_iff : ∀ hit : Hit, judge hit.game hit.note = .unjudged ↔
    (∀ gate ∈ gates, width gate ≤ hit.distance) ∧ hit.game < hit.note
  missed_iff : ∀ hit : Hit, judge hit.game hit.note = .missed ↔
    (∀ gate ∈ gates, width gate ≤ hit.distance) ∧ ¬hit.game < hit.note

variable {gates : Timegates Float} {width : Timegate Float → Float} {hit : Hit}

def isWithin (width : Timegate Float → Float) (hit : Hit)
    (gate : Timegate Float) : Bool :=
  decide (hit.distance < width gate)

theorem isWithin_eq_false_iff {gate : Timegate Float}
    (finite : Scalar.isFinite (width gate) = true) :
    isWithin width hit gate = false ↔ width gate ≤ hit.distance := by
  rw [isWithin, decide_eq_false_iff_not]
  exact Double.not_lt_iff hit.distance_nonneg finite

theorem isWithin_of_le {nearer : Hit} (le : nearer.distance ≤ hit.distance)
    {gate : Timegate Float}
    (within : isWithin width hit gate = true) : isWithin width nearer gate = true := by
  have less := of_decide_eq_true within
  exact decide_eq_true
    (Double.le_trans_lt nearer.distance_nonneg hit.distance_nonneg le less)

theorem judgeBy_of_some {gate : Timegate Float}
    (found : gates.find? (isWithin width hit) = some gate) :
    judgeBy width gates hit.game hit.note = gate.judgment := by
  change gates.find? (fun gate => decide (distance hit.game hit.note < width gate)) =
    _ at found
  rw [judgeBy, found]

theorem judgeBy_of_none (none : gates.find? (isWithin width hit) = none) :
    judgeBy width gates hit.game hit.note =
      if hit.game < hit.note then .unjudged else .missed := by
  change gates.find? (fun gate => decide (distance hit.game hit.note < width gate)) =
    _ at none
  rw [judgeBy, none]

theorem exists_gate_of_rank_pos
    (positive : 1 ≤ (judgeBy width gates hit.game hit.note).rank) :
    ∃ gate, gates.find? (isWithin width hit) = some gate := by
  cases found : gates.find? (isWithin width hit) with
  | some gate => exact ⟨gate, rfl⟩
  | none =>
      rw [judgeBy_of_none found] at positive
      split at positive <;> exact absurd positive (by decide)

/-- Only outside of all gates a hit gets a judgment that is not ranked. -/
theorem judgeBy_eq_iff (ranked : gates.IsRanked)
    (finite : ∀ gate ∈ gates, Scalar.isFinite (width gate) = true) {judgment : Judgment}
    (unranked : judgment.rank < 1) :
    judgeBy width gates hit.game hit.note = judgment ↔
      (∀ gate ∈ gates, width gate ≤ hit.distance) ∧
        (if hit.game < hit.note then .unjudged else .missed) = judgment := by
  have outside : gates.find? (isWithin width hit) = none ↔
      ∀ gate ∈ gates, width gate ≤ hit.distance := by
    rw [List.find?_eq_none]
    refine forall₂_congr fun gate member => ?_
    rw [Bool.not_eq_true, isWithin_eq_false_iff (finite gate member)]
  rw [← outside]
  cases found : gates.find? (isWithin width hit) with
  | none => simp [judgeBy_of_none found]
  | some gate =>
      have positive := ranked.positive gate (List.mem_of_find?_eq_some found)
      rw [judgeBy_of_some found]
      refine iff_of_false ?_ (by simp)
      rintro rfl
      omega

theorem classifies_judgeBy (ranked : gates.IsRanked)
    (finite : ∀ gate ∈ gates, Scalar.isFinite (width gate) = true) :
    Classifies width gates (judgeBy width gates) := by
  constructor
  · rintro hit before gate after rfl outside within
    apply judgeBy_of_some
    apply List.find?_eq_some_iff_append.mpr
    refine ⟨decide_eq_true within, before, after, rfl, ?_⟩
    intro earlier member
    have finite' := finite earlier (List.mem_append_left _ member)
    simp [(isWithin_eq_false_iff finite').mpr (outside earlier member)]
  · intro hit nearer le gate member judged
    have positive := ranked.positive gate member
    rw [← judged] at positive ⊢
    obtain ⟨first, found⟩ := exists_gate_of_rank_pos positive
    obtain ⟨better, found', noWorse⟩ :=
      ranked.exists_find?_of_imp (fun gate => isWithin_of_le le) found
    refine ⟨better, List.mem_of_find?_eq_some found', judgeBy_of_some found', ?_⟩
    rwa [judgeBy_of_some found]
  · intro hit
    rw [judgeBy_eq_iff ranked finite (by decide)]
    by_cases early : hit.game < hit.note <;>
      simp [early, Judgment.missed, Judgment.unjudged]
  · intro hit
    rw [judgeBy_eq_iff ranked finite (by decide)]
    by_cases early : hit.game < hit.note <;>
      simp [early, Judgment.missed, Judgment.unjudged]

/-- Presses and releases are classified by their distances, and these are in the order of
the exact distances, which do not tell early from late. -/
theorem judges_by_distance (ranked : gates.IsRanked)
    (finite : ∀ gate ∈ gates, Scalar.isFinite gate.gate = true ∧
      Scalar.isFinite gate.endGate = true) :
    Classifies Timegate.gate gates (judgeTime gates) ∧
      Classifies Timegate.endGate gates (judgeEndTime gates) ∧
      ∀ hit nearer : Hit, nearer.exactDistance ≤ hit.exactDistance →
        nearer.distance ≤ hit.distance := by
  refine ⟨?_, ?_, ?_⟩
  · exact classifies_judgeBy ranked fun gate member => (finite gate member).1
  · exact classifies_judgeBy ranked fun gate member => (finite gate member).2
  · intro hit nearer
    exact Hit.distance_le

/-- The second gate is the narrowest for presses, and the last one for releases. -/
def unevenGates : Timegates Float := [
  ⟨.pgreat, (3 : Nat), (4 : Nat)⟩, ⟨.great, (1 : Nat), (6 : Nat)⟩,
    ⟨.offbeat, (5 : Nat), (2 : Nat)⟩]

/-- Four seconds early, four seconds late, and five seconds early, which is
outside of all gates. -/
theorem judges_by_distance_unevenGates :
    judgeTime unevenGates ((6 : Nat) : Float) ((10 : Nat) : Float) = .offbeat ∧
      judgeEndTime unevenGates ((6 : Nat) : Float) ((10 : Nat) : Float) = .great ∧
      (∃ better ∈ unevenGates,
        judgeTime unevenGates ((14 : Nat) : Float)
          ((10 : Nat) : Float) = better.judgment ∧
          better.judgment.rank ≤ 4) ∧
      judgeTime unevenGates ((5 : Nat) : Float) ((10 : Nat) : Float) = .unjudged := by
  have ranked : unevenGates.IsRanked := ⟨by decide, by decide⟩
  have finite : ∀ gate ∈ unevenGates, Scalar.isFinite gate.gate = true ∧
      Scalar.isFinite gate.endGate = true := by
    simp only [unevenGates, List.forall_mem_cons]
    decide
  let early : Hit := ⟨(6 : Nat), (10 : Nat), by decide, by decide⟩
  let late : Hit := ⟨(14 : Nat), (10 : Nat), by decide, by decide⟩
  let farther : Hit := ⟨(5 : Nat), (10 : Nat), by decide, by decide⟩
  obtain ⟨presses, releases, -⟩ := judges_by_distance ranked finite
  have offbeat : judgeTime unevenGates early.game early.note = .offbeat := by
    apply presses.first early (unevenGates.take 2) _ [] rfl <;> decide
  refine ⟨offbeat, ?_, ?_, ?_⟩
  · apply releases.first early (unevenGates.take 1) _ (unevenGates.drop 2) rfl <;> decide
  · exact presses.nearer early late (by decide) ⟨.offbeat, (5 : Nat), (2 : Nat)⟩
      (by simp [unevenGates]) offbeat
  · refine (presses.unjudged_iff farther).mpr ⟨?_, by decide⟩
    simp only [unevenGates, List.forall_mem_cons]
    decide

end Timegates

end RhythmChart
