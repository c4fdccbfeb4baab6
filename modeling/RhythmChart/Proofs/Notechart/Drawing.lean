import Mathlib.Data.List.Range
import Mathlib.Data.Nat.Find
import RhythmChart.Notechart.BarLines
import RhythmChart.Proofs.Chart.Beats

/-!
# Drawing bar lines without a horizon

`Drawn` says which bar lines are drawn when the search goes on for as long as it takes. It
need not come to an end, and then nothing is drawn. The search up to a horizon finds these
lines whenever it finds any, and it finds them if the horizon is not too close. The lines
are the starts of the measures up to the first one that starts after the last note.
-/

namespace RhythmChart.BarLines

theorem foldl_max_lt_iff {σ : Type} [LinearOrder σ] {first bound : σ} {values : List σ} :
    values.foldl max first < bound ↔ first < bound ∧ ∀ value ∈ values, value < bound := by
  induction values generalizing first with
  | nil => simp
  | cons value rest ih =>
      rw [List.foldl_cons, ih, max_lt_iff, and_assoc, List.forall_mem_cons]

variable {α : Type}

theorem object_before_horizon {chart : Chart α} {object : ChartObject α}
    (listed : object ∈ chart.objects.toList) : object.measure + 3 ≤ horizon chart := by
  refine Nat.add_le_add_right (Nat.le_of_lt_succ ?_) 3
  refine (foldl_max_lt_iff.mp (Nat.lt_succ_self _)).2 object.measure ?_
  exact List.mem_append_left _ (List.mem_map_of_mem listed)

theorem size_before_horizon {chart : Chart α} {entry : Int × α}
    (listed : entry ∈ chart.sizes.entries) : entry.1.toNat + 3 ≤ horizon chart := by
  refine Nat.add_le_add_right (Nat.le_of_lt_succ ?_) 3
  refine (foldl_max_lt_iff.mp (Nat.lt_succ_self _)).2 entry.1.toNat ?_
  exact List.mem_append_right _ (List.mem_map_of_mem listed)

theorem three_le_horizon (chart : Chart α) : 3 ≤ horizon chart :=
  Nat.le_add_left 3 _

variable [Scalar α]

/-- The bar lines from the start of a measure to the first one after
`last`, if there is one. -/
inductive Drawn (sizes : MeasureSizes α) (last : α) : Nat → α → List α → Prop
  | done {measure : Nat} {beat : α} (after : last < beat + sizes.beats measure) :
      Drawn sizes last measure beat [beat, beat + sizes.beats measure]
  | more {measure : Nat} {beat : α} {lines : List α}
      (notAfter : ¬last < beat + sizes.beats measure)
      (later : Drawn sizes last (measure + 1) (beat + sizes.beats measure) lines) :
      Drawn sizes last measure beat (beat :: lines)

variable {sizes : MeasureSizes α} {last : α}

theorem from?_eq_some_iff {steps measure : Nat} {beat : α} {lines : List α} :
    from? sizes last steps measure beat = some lines ↔
      Drawn sizes last measure beat lines ∧ lines.length ≤ steps + 1 := by
  induction steps generalizing measure beat lines with
  | zero =>
      refine ⟨nofun, fun ⟨drawn, short⟩ => ?_⟩
      cases drawn with
      | done after => simp at short
      | more notAfter later =>
          cases later <;> simp at short
  | succ steps ih =>
      rw [from?]
      split
      · rename_i after
        constructor
        · rintro ⟨⟩
          exact ⟨.done after, by simp⟩
        · rintro ⟨drawn, -⟩
          cases drawn with
          | done _ => rfl
          | more notAfter _ => exact absurd after notAfter
      · rename_i notAfter
        rw [Option.map_eq_some_iff]
        constructor
        · rintro ⟨rest, found, rfl⟩
          obtain ⟨later, short⟩ := ih.mp found
          exact ⟨.more notAfter later, Nat.succ_le_succ short⟩
        · rintro ⟨drawn, short⟩
          cases drawn with
          | done after => exact absurd after notAfter
          | more _ later => exact ⟨_, ih.mpr ⟨later, Nat.le_of_succ_le_succ short⟩, rfl⟩

theorem Drawn.unique {measure : Nat} {beat : α} {lines lines' : List α}
    (drawn : Drawn sizes last measure beat lines)
    (drawn' : Drawn sizes last measure beat lines') : lines = lines' := by
  induction drawn generalizing lines' with
  | done after =>
      cases drawn' with
      | done _ => rfl
      | more notAfter _ => exact absurd after notAfter
  | more notAfter _ ih =>
      cases drawn' with
      | done after => exact absurd after notAfter
      | more _ later => rw [ih later]

theorem ofChart_eq_ok_iff {chart : Chart α} {notes : List (Note α)} {lines : List α} :
    ofChart chart notes = .ok lines ↔
      Drawn chart.sizes (lastBeat notes) 0 ((0 : Nat) : α) lines ∧
        lines.length ≤ horizon chart + 1 := by
  rw [← from?_eq_some_iff, ofChart]
  cases from? chart.sizes (lastBeat notes) (horizon chart) 0 ((0 : Nat) : α) with
  | none => exact ⟨nofun, nofun⟩
  | some found => exact ⟨fun same => by cases same; rfl, fun same => by cases same; rfl⟩

def starts (sizes : MeasureSizes α) (measure count : Nat) : List α :=
  (List.range count).map fun index => sizes.start (measure + index : Nat)

theorem starts_succ (sizes : MeasureSizes α) (measure count : Nat) :
    starts sizes measure (count + 1) = sizes.start measure ::
      starts sizes (measure + 1) count := by
  rw [starts, List.range_succ_eq_map, List.map_cons, List.map_map]
  congr 1
  refine List.map_congr_left fun index _ => ?_
  rw [Function.comp_apply, Nat.succ_eq_one_add, Nat.add_assoc]

theorem length_starts (sizes : MeasureSizes α) (measure count : Nat) :
    (starts sizes measure count).length = count := by
  rw [starts, List.length_map, List.length_range]

/-- The lines from the start of a measure on are the starts of the measures, up to the
first one after `last`. -/
theorem drawn_start_iff {measure : Nat} {lines : List α} :
    Drawn sizes last measure (sizes.start measure) lines ↔
      ∃ count, lines = starts sizes measure (count + 2) ∧
        last < sizes.start (measure + count + 1 : Nat) ∧
        ∀ index < count, ¬last < sizes.start (measure + index + 1 : Nat) := by
  constructor
  · generalize beat : sizes.start measure = first
    intro drawn
    induction drawn with
    | @done measure _ after =>
        subst beat
        rw [← MeasureSizes.start_succ] at after ⊢
        exact ⟨0, by
          rw [starts_succ, starts_succ]; rfl, after, fun _ none => absurd none (by simp)⟩
    | @more measure _ lines notAfter _ ih =>
        subst beat
        rw [← MeasureSizes.start_succ] at notAfter ih
        obtain ⟨count, rfl, after, notAfters⟩ := ih rfl
        refine ⟨count + 1, (starts_succ ..).symm, ?_, fun index less => ?_⟩
        · rwa [← Nat.add_assoc, Nat.add_right_comm measure count 1]
        · cases index with
          | zero => exact notAfter
          | succ index =>
              have earlier := notAfters index (Nat.lt_of_succ_lt_succ less)
              rwa [← Nat.add_assoc, Nat.add_right_comm measure index 1]
  · rintro ⟨count, rfl, after, notAfters⟩
    induction count generalizing measure with
    | zero =>
        rw [starts_succ, starts_succ]
        have after' : last < sizes.start measure + sizes.beats measure := by
          rw [← MeasureSizes.start_succ]
          exact after
        have drawn := Drawn.done after'
        rwa [← MeasureSizes.start_succ] at drawn
    | succ count ih =>
        rw [starts_succ]
        refine .more ?_ ?_
        · rw [← MeasureSizes.start_succ]
          exact notAfters 0 (Nat.succ_pos count)
        · rw [← MeasureSizes.start_succ]
          refine ih ?_ fun index less => ?_
          · rwa [Nat.add_right_comm measure 1 count]
          · have later := notAfters (index + 1) (Nat.succ_lt_succ less)
            rwa [Nat.add_right_comm measure 1 index]

/-- The lines come to an end at the latest with a measure known to start after `last`. -/
theorem exists_drawn_of_lt_start {measure : Nat}
    (after : last < sizes.start (measure + 1 : Nat)) :
    ∃ lines, Drawn sizes last 0 ((0 : Nat) : α) lines ∧ lines.length ≤ measure + 2 := by
  have ends : ∃ index : Nat, last < sizes.start (index + 1 : Nat) := ⟨measure, after⟩
  have drawn := drawn_start_iff.mpr ⟨Nat.find ends, rfl,
    by rw [Nat.zero_add]; exact Nat.find_spec ends,
    fun index less => by rw [Nat.zero_add]; exact Nat.find_min ends less⟩
  refine ⟨_, drawn, ?_⟩
  rw [length_starts]
  exact Nat.add_le_add_right (Nat.find_min' ends after) 2

theorem exists_drawn_iff :
    (∃ lines, Drawn sizes last 0 ((0 : Nat) : α) lines) ↔
      ∃ measure : Nat, last < sizes.start (measure + 1 : Nat) := by
  constructor
  · rintro ⟨lines, drawn⟩
    obtain ⟨count, -, after, -⟩ := drawn_start_iff.mp drawn
    rw [Nat.zero_add] at after
    exact ⟨count, after⟩
  · rintro ⟨measure, after⟩
    obtain ⟨lines, drawn, -⟩ := exists_drawn_of_lt_start after
    exact ⟨lines, drawn⟩

end RhythmChart.BarLines
