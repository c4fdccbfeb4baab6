import Mathlib.Data.List.Basic
import Mathlib.Data.List.Induction
import RhythmChart.Compilation.Effect

/-!
# The slots of channel data

The slot of an index is the two characters at twice the index. Half as many slots
as characters fit into the data, and the filled ones among them are the objects
of the sentence, in order.
-/

namespace RhythmChart

namespace Content

def slot? (data : Text) (i : Nat) : Option Code :=
  data[2 * i]?.bind fun first => data[2 * i + 1]?.map fun second => ⟨first, second⟩

/-- The value in a slot, unless the slot is empty. -/
def filled? (data : Text) (i : Nat) : Option Code :=
  (slot? data i).filter fun value => value != Code.empty

theorem length_slots (data : Text) : (slots data).length = data.length / 2 := by
  fun_induction slots data with
  | case1 first second rest ih =>
      simp only [List.length_cons, ih]
      omega
  | case2 data short =>
      cases data with
      | nil => rfl
      | cons first rest =>
          cases rest with
          | nil => simp
          | cons second rest => exact absurd rfl (short first second rest)

theorem getElem?_slots (data : Text) (i : Nat) : (slots data)[i]? = slot? data i := by
  fun_induction slots data generalizing i with
  | case1 first second rest ih =>
      cases i with
      | zero => rfl
      | succ i => exact ih i
  | case2 data short =>
      cases data with
      | nil => rfl
      | cons first rest =>
          cases rest with
          | nil => cases i <;> rfl
          | cons second rest => exact absurd rfl (short first second rest)

theorem lt_of_slot? {data : Text} {i : Nat} {value : Code}
    (found : slot? data i = some value) : i < data.length / 2 := by
  rw [← getElem?_slots] at found
  rw [← length_slots]
  exact (List.getElem?_eq_some_iff.mp found).1

theorem subset_of_slot? {data : Text} {i : Nat} {value : Code}
    (found : slot? data i = some value) : value.text ⊆ data := by
  obtain ⟨first, firstAt, found⟩ := Option.bind_eq_some_iff.mp found
  obtain ⟨second, secondAt, rfl⟩ := Option.map_eq_some_iff.mp found
  intro c member
  rcases List.mem_cons.mp member with rfl | member
  · exact List.mem_of_getElem? firstAt
  · rw [List.mem_singleton.mp member]
    exact List.mem_of_getElem? secondAt

theorem filled?_eq_some_iff {data : Text} {i : Nat} {value : Code} :
    filled? data i = some value ↔ slot? data i = some value ∧ value ≠ Code.empty := by
  rw [filled?, Option.filter_eq_some_iff, bne_iff_ne]

end Content

theorem filterMap_zipIdx {σ τ : Type} (f : σ × Nat → Option τ) (xs : List σ) :
    xs.zipIdx.filterMap f =
      (List.range xs.length).filterMap fun i => xs[i]?.bind fun x => f (x, i) := by
  induction xs using List.reverseRecOn with
  | nil => rfl
  | append_singleton xs x ih =>
      have before : ((List.range xs.length).filterMap fun i =>
            (xs ++ [x])[i]?.bind fun x => f (x, i)) =
          (List.range xs.length).filterMap fun i => xs[i]?.bind fun x => f (x, i) := by
        refine List.filterMap_congr fun i member => ?_
        rw [List.getElem?_append_left (List.mem_range.mp member)]
      rw [List.zipIdx_append, List.filterMap_append, ih, List.length_append,
        List.length_singleton, List.range_succ, List.filterMap_append, before]
      simp [List.filterMap_cons]

namespace Content

variable {α : Type} [Scalar α]

/-- The filled slots of channel data as objects, each at its part of the measure. -/
def filledSlots (α : Type) [Scalar α] (line measure : Nat) (channel : Code)
    (data : Text) : List (ChartObject α) :=
  (List.range (data.length / 2)).filterMap fun i => (filled? data i).map fun value =>
    ⟨channel, measure, (i : α) / ((data.length / 2 : Nat) : α), value, some (line : Int)⟩

theorem objects_eq (line measure : Nat) (channel : Code) (data : Text) :
    (objects line measure channel data : List (ChartObject α)) =
      filledSlots α line measure channel data := by
  unfold objects filledSlots
  dsimp only
  rw [filterMap_zipIdx, length_slots]
  congr
  funext i
  rw [getElem?_slots]
  unfold filled?
  cases slot? data i with
  | none => rfl
  | some value => by_cases empty : value = Code.empty <;> simp [empty, Option.filter]

theorem mem_objects_iff {line measure : Nat} {channel : Code} {data : Text}
    {object : ChartObject α} :
    object ∈ objects line measure channel data ↔
      ∃ i value, slot? data i = some value ∧ value ≠ Code.empty ∧
        object = ⟨channel, measure, (i : α) / ((data.length / 2 : Nat) : α), value,
          some (line : Int)⟩ := by
  rw [objects_eq, filledSlots, List.mem_filterMap]
  constructor
  · rintro ⟨i, -, made⟩
    obtain ⟨value, filled, rfl⟩ := Option.map_eq_some_iff.mp made
    obtain ⟨found, nonempty⟩ := filled?_eq_some_iff.mp filled
    exact ⟨i, value, found, nonempty, rfl⟩
  · rintro ⟨i, value, found, nonempty, rfl⟩
    refine ⟨i, List.mem_range.mpr (lt_of_slot? found), ?_⟩
    rw [filled?_eq_some_iff.mpr ⟨found, nonempty⟩]
    rfl

def placed (α : Type) [Scalar α] (line : Nat) : Content → List (ChartObject α)
  | channel measure code data => objects line measure code data
  | _ => []

theorem objects_apply (line : Nat) (chart : Chart α) (content : Content) :
    (content.apply line chart).objects =
      (content.placed α line).foldl Objects.add chart.objects := by
  cases content with
  | measureSize measure text =>
      rw [apply]
      split <;> rfl
  | channel measure code data => exact (List.foldl_hom Chart.objects fun _ _ => rfl).symm
  | header name value => rfl

end Content

end RhythmChart
