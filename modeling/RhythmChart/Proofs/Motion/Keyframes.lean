import RhythmChart.Proofs.Motion.Linked
import RhythmChart.Proofs.Motion.Tracks

/-!
# Spacing between keyframes

Keyframes on one beat make the factor jump to the last of them, and from there it changes
evenly up to the first keyframe on the next beat. Before the first keyframe and after the
last one it stays what it is there, so it never leaves the range of the keyframes.
-/

namespace RhythmChart

namespace Spacing

/-- A factor that stays the same from beat zero on. -/
def held (factor : Rat) : Segment Rat Unit :=
  ⟨0, factor, 0, true, ()⟩

def through (first : Rat × Rat) (rest : List (Rat × Rat)) : Spacing Rat :=
  ⟨some ⟨held first.2, segmentsOf (first :: rest)⟩⟩

theorem ofKeyframes_eq_ok (first : Rat × Rat) (rest : List (Rat × Rat)) :
    ofKeyframes (first :: rest) = .ok (through first rest) := by
  unfold ofKeyframes
  rw [checked_eq_ok]
  rfl

/-- The segments at the keyframes before some keyframe do not hang on what comes after it,
apart from their slopes. -/
theorem exists_segmentsOf_append (before : List (Rat × Rat)) (key : Rat × Rat)
    (after : List (Rat × Rat)) :
    ∃ earlier, segmentsOf (before ++ key :: after) = earlier ++ segmentsOf
      (key :: after) ∧
      ∀ segment ∈ earlier,
        segment.inclusive = true ∧ ∃ keyframe ∈ before, keyframe.1 = segment.t := by
  induction before with
  | nil => exact ⟨[], rfl, List.forall_mem_nil _⟩
  | cons keyframe before ih =>
      obtain ⟨earlier, behind, starts⟩ := ih
      refine ⟨⟨keyframe.1, keyframe.2, _, true, ()⟩ :: earlier, congrArg _ behind,
        List.forall_mem_cons.mpr ⟨⟨rfl, keyframe, List.mem_cons_self, rfl⟩, ?_⟩⟩
      intro segment member
      obtain ⟨inclusive, start, listed, there⟩ := starts segment member
      exact ⟨inclusive, start, List.mem_cons_of_mem keyframe listed, there⟩

theorem head?_segmentsOf_ahead {after : List (Rat × Rat)} {beat : Rat}
    (ahead : ∀ next ∈ after.head?, beat < next.1) :
    ∀ segment ∈ (segmentsOf after).head?, segment.reached Segment.t beat = false := by
  cases after with
  | nil => exact fun _ member => nomatch member
  | cons next after =>
      intro segment member
      cases Option.some.inj member
      exact decide_eq_false (not_le_of_gt (ahead next rfl))

variable {first key : Rat × Rat} {rest before after : List (Rat × Rat)} {beat : Rat}

theorem factor_of_lt (early : beat < first.1) :
    (through first rest).factor beat = first.2 := by
  have there : (Motion.mk (held first.2) (segmentsOf (first :: rest))).segmentAtT beat =
      held first.2 :=
    Motion.select_of_ahead (head?_segmentsOf_ahead fun _ member =>
      Option.some.inj member ▸ early)
  change Segment.xAt (Motion.segmentAtT _ beat) beat = _
  rw [there, Segment.xAt, held, mul_zero, add_zero]

/-- From a keyframe up to the next one the factor is on the line between the two. -/
theorem factor_eq (split : first :: rest = before ++ key :: after)
    (passed : ∀ earlier ∈ before, earlier.1 ≤ beat) (reached : key.1 ≤ beat)
    (ahead : ∀ next ∈ after.head?, beat < next.1) :
    (through first rest).factor beat = key.2 + (beat - key.1) *
      slope key.1 key.2 after := by
  obtain ⟨earlier, segments, starts⟩ := exists_segmentsOf_append before key after
  have there : (Motion.mk (held first.2) (segmentsOf (first :: rest))).segmentAtT beat =
      ⟨key.1, key.2, slope key.1 key.2 after, true, ()⟩ := by
    rw [split, segments]
    refine Motion.select_append ?_ (decide_eq_true reached) (head?_segmentsOf_ahead ahead)
    intro segment member
    obtain ⟨inclusive, keyframe, listed, start⟩ := starts segment member
    rw [Segment.reached, if_pos inclusive, ← start]
    exact decide_eq_true (passed keyframe listed)
  change Segment.xAt (Motion.segmentAtT _ beat) beat = _
  rw [there, Segment.xAt]

theorem factor_of_last (split : first :: rest = before ++ [key])
    (passed : ∀ earlier ∈ before, earlier.1 ≤ beat) (reached : key.1 ≤ beat) :
    (through first rest).factor beat = key.2 := by
  rw [factor_eq split passed reached fun _ member => nomatch member]
  exact (congrArg _ (mul_zero _)).trans (add_zero _)

theorem slope_of_lt {next : Rat × Rat} (later : key.1 < next.1) :
    slope key.1 key.2 (next :: after) = (next.2 - key.2) / (next.1 - key.1) :=
  if_neg fun same => ne_of_gt later (beq_iff_eq.mp same)

/-- On the way from one factor to another nothing is beyond both of them. -/
theorem between_of_line {next : Rat × Rat} (reached : key.1 ≤ beat)
    (ahead : beat < next.1) :
    (key.2 ≤ key.2 + (beat - key.1) * ((next.2 - key.2) / (next.1 - key.1)) ∧
      key.2 + (beat - key.1) * ((next.2 - key.2) / (next.1 - key.1)) ≤ next.2) ∨
    (next.2 ≤ key.2 + (beat - key.1) * ((next.2 - key.2) / (next.1 - key.1)) ∧
      key.2 + (beat - key.1) * ((next.2 - key.2) / (next.1 - key.1)) ≤ key.2) := by
  have length : 0 < next.1 - key.1 := sub_pos.mpr (lt_of_le_of_lt reached ahead)
  have started : 0 ≤ (beat - key.1) / (next.1 - key.1) :=
    div_nonneg (sub_nonneg.mpr reached) (le_of_lt length)
  have unfinished : (beat - key.1) / (next.1 - key.1) ≤ 1 :=
    (div_le_one length).mpr (sub_le_sub_right (le_of_lt ahead) _)
  have portion : (beat - key.1) * ((next.2 - key.2) / (next.1 - key.1)) =
      (beat - key.1) / (next.1 - key.1) * (next.2 - key.2) := by
    rw [mul_div_assoc', mul_div_right_comm]
  rw [portion]
  rcases le_total key.2 next.2 with up | down
  · have rise : 0 ≤ next.2 - key.2 := sub_nonneg.mpr up
    have least := mul_nonneg started rise
    have most := mul_le_of_le_one_left rise unfinished
    exact .inl ⟨by linarith, by linarith⟩
  · have fall : 0 ≤ key.2 - next.2 := sub_nonneg.mpr down
    have least := mul_nonneg started fall
    have most := mul_le_of_le_one_left fall unfinished
    exact .inr ⟨by linarith, by linarith⟩

/-- A beat that is not before the first keyframe comes behind one
keyframe and before the next. -/
theorem exists_split (inOrder : (first :: rest).Pairwise fun a b => a.1 ≤ b.1)
    (started : first.1 ≤ beat) :
    ∃ before key after, first :: rest = before ++ key :: after ∧
      (∀ earlier ∈ before, earlier.1 ≤ beat) ∧ key.1 ≤ beat ∧
      ∀ next ∈ after.head?, beat < next.1 := by
  induction rest generalizing first with
  | nil =>
      exact ⟨[], first, [], rfl, List.forall_mem_nil _, started, fun _ member =>
        nomatch member⟩
  | cons next rest ih =>
      rcases le_or_gt next.1 beat with passed | ahead
      · obtain ⟨before, key, after, split, earlier, reached, later⟩ :=
          ih (List.pairwise_cons.mp inOrder).2 passed
        exact ⟨first :: before, key, after, congrArg _ split,
          List.forall_mem_cons.mpr ⟨started, earlier⟩, reached, later⟩
      · exact ⟨[], first, next :: rest, rfl, List.forall_mem_nil _, started,
          fun _ member => Option.some.inj member ▸ ahead⟩

theorem exists_bounds (inOrder : (first :: rest).Pairwise fun a b => a.1 ≤ b.1)
    (beat : Rat) :
    ∃ low ∈ first :: rest, ∃ high ∈ first :: rest,
      low.2 ≤ (through first rest).factor beat ∧
        (through first rest).factor beat ≤ high.2 := by
  rcases lt_or_ge beat first.1 with early | started
  · rw [factor_of_lt early]
    exact ⟨first, List.mem_cons_self, first, List.mem_cons_self, le_refl _, le_refl _⟩
  · obtain ⟨before, key, after, split, earlier, reached, ahead⟩ :=
      exists_split inOrder started
    have listed : ∀ {keyframe}, keyframe ∈ key :: after → keyframe ∈ first :: rest :=
      fun member => split ▸ List.mem_append_right before member
    have keyListed := listed List.mem_cons_self
    cases after with
    | nil =>
        rw [factor_of_last split earlier reached]
        exact ⟨key, keyListed, key, keyListed, le_refl _, le_refl _⟩
    | cons next after =>
        have nextListed := listed (List.mem_cons_of_mem key List.mem_cons_self)
        have nextAhead := ahead next rfl
        rw [factor_eq split earlier reached ahead,
          slope_of_lt (lt_of_le_of_lt reached nextAhead)]
        rcases between_of_line reached nextAhead with ⟨least, most⟩ | ⟨least, most⟩
        · exact ⟨key, keyListed, next, nextListed, least, most⟩
        · exact ⟨next, nextListed, key, keyListed, least, most⟩

theorem le_of_split (inOrder : (first :: rest).Pairwise fun a b => a.1 ≤ b.1)
    (split : first :: rest = before ++ key :: after) :
    ∀ earlier ∈ before, earlier.1 ≤ key.1 := by
  rw [split, List.pairwise_append] at inOrder
  exact fun earlier member => inOrder.2.2 earlier member key List.mem_cons_self

/-- The factor is that of the first keyframe before it, that of the last keyframe on each
beat with a keyframe, on the line between two neighbours in between, and that of the last
keyframe behind it. So it never leaves the range of the keyframes. -/
theorem factor_interpolates (inOrder : (first :: rest).Pairwise fun a b => a.1 ≤ b.1) :
    ∃ spacing, ofKeyframes (first :: rest) = .ok spacing ∧
      (∀ beat, beat < first.1 → spacing.factor beat = first.2) ∧
      (∀ before key after, first :: rest = before ++ key :: after →
        (∀ later ∈ after, key.1 < later.1) → spacing.factor key.1 = key.2) ∧
      (∀ before key next after, first :: rest = before ++ key :: next :: after →
        ∀ beat, key.1 < beat → beat < next.1 →
          spacing.factor beat =
            key.2 + (beat - key.1) * ((next.2 - key.2) / (next.1 - key.1))) ∧
      (∀ beat, (∀ key ∈ first :: rest, key.1 < beat) →
        spacing.factor beat = (rest.getLastD first).2) ∧
      ∀ beat, ∃ low ∈ first :: rest, ∃ high ∈ first :: rest,
        low.2 ≤ spacing.factor beat ∧ spacing.factor beat ≤ high.2 := by
  refine ⟨through first rest, ofKeyframes_eq_ok first rest, fun _ => factor_of_lt,
    ?_, ?_, ?_, exists_bounds inOrder⟩
  · intro before key after split ahead
    rw [factor_eq split (le_of_split inOrder split) (le_refl key.1) fun next member =>
      ahead next (List.mem_of_mem_head? member), sub_self, zero_mul, add_zero]
  · intro before key next after split beat reached ahead
    have passed : ∀ earlier ∈ before, earlier.1 ≤ beat := fun earlier member =>
      le_trans (le_of_split inOrder split earlier member) (le_of_lt reached)
    rw [factor_eq split passed (le_of_lt reached) fun _ member =>
      Option.some.inj member ▸ ahead, slope_of_lt (lt_trans reached ahead)]
  · intro beat passed
    obtain ⟨before, key, after, split, earlier, reached, ahead⟩ :=
      exists_split inOrder (le_of_lt (passed first List.mem_cons_self))
    cases after with
    | nil =>
        have last : rest.getLastD first = key := by
          have ends := congrArg List.getLast? split
          rw [List.getLast?_cons, List.getLast?_concat] at ends
          rw [List.getLastD_eq_getLast?]
          exact Option.some.inj ends
        rw [factor_of_last split earlier reached, last]
    | cons next after =>
        have listed : next ∈ first :: rest := by
          rw [split]
          exact List.mem_append_right before (List.mem_cons_of_mem key List.mem_cons_self)
        exact absurd (passed next listed) (lt_asymm (ahead next rfl))

/-- Two keyframes on beat four, where the factor jumps, and one on beat eight. -/
theorem factor_interpolates_jump :
    [((4 : Rat), (1 : Rat)), (4, 2), (8, 3)].Pairwise (fun a b => a.1 ≤ b.1) ∧
      ∃ spacing, ofKeyframes [((4 : Rat), (1 : Rat)), (4, 2), (8, 3)] = .ok spacing ∧
        spacing.factor 3 = 1 ∧ spacing.factor 4 = 2 ∧ spacing.factor 6 = 5 / 2 ∧
        spacing.factor 9 = 3 := by
  have inOrder :
      [((4 : Rat), (1 : Rat)), (4, 2), (8, 3)].Pairwise (fun a b => a.1 ≤ b.1) := by
    decide +kernel
  obtain ⟨spacing, made, before, onBeat, between, behind, -⟩ :=
    factor_interpolates inOrder
  refine ⟨inOrder, spacing, made, before 3 (by norm_num), ?_, ?_, ?_⟩
  · exact onBeat [(4, 1)] (4, 2) [(8, 3)] rfl (by norm_num)
  · rw [between [(4, 1)] (4, 2) (8, 3) [] rfl 6 (by norm_num) (by norm_num)]
    norm_num
  · exact behind 9 (by norm_num)

end Spacing

end RhythmChart
