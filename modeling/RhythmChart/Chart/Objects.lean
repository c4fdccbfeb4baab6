import RhythmChart.Chart.Code
import RhythmChart.Fault
import RhythmChart.Sorting

/-!
# Objects

An object stands on a channel at a fraction of a measure and has a two-character value. On
every channel but the background channel there is at most one object at each place: a
later one replaces the earlier one and takes its rank in the list.
-/

namespace RhythmChart

/-- An object of a chart. The line is that of the sentence it came
from, if it came from one. -/
structure ChartObject (α : Type) where
  channel : Code
  measure : Nat
  fraction : α
  value : Code
  line : Option Int
  deriving DecidableEq

namespace ChartObject

variable {α : Type} [Scalar α]

/-- The place of an object on the scale of measures, which is meant for measures that the
scale can hold, such as those of three digits in a source. A draft checks this first. -/
def position (object : ChartObject α) : α :=
  (object.measure : α) + object.fraction

/-- Whether two objects compete for the same place. -/
def samePlace (a b : ChartObject α) : Bool :=
  a.channel == b.channel && a.measure == b.measure && a.fraction == b.fraction

def precedes (a b : ChartObject α) : Bool :=
  decide (a.position < b.position)

/-- What the types leave to be known of an object: its fraction is in range. -/
def Valid (object : ChartObject α) : Prop :=
  ((0 : Nat) : α) ≤ object.fraction ∧ object.fraction < ((1 : Nat) : α)

end ChartObject

/-- The objects of a chart in the order of their ranks. -/
structure Objects (α : Type) where
  toList : List (ChartObject α)

namespace Objects

variable {α : Type}

/-- Replaces the first entry at the same place, or appends the new one. -/
def place {σ : Type} (samePlace : σ → σ → Bool) (entry : σ) : List σ → List σ
  | [] => [entry]
  | other :: rest =>
      if samePlace other entry then entry :: rest else other :: place samePlace entry rest

def empty : Objects α := ⟨[]⟩

def size (objects : Objects α) : Nat :=
  objects.toList.length

variable [Scalar α]

/-- Adds an object. Background objects accumulate. -/
def add (objects : Objects α) (object : ChartObject α) : Objects α :=
  if object.channel = Code.background then ⟨objects.toList ++ [object]⟩
  else ⟨place ChartObject.samePlace object objects.toList⟩

/-- The objects in the order of their positions; objects at the same
position keep their order. -/
def sorted (objects : Objects α) : List (ChartObject α) :=
  sortBy ChartObject.precedes objects.toList

theorem sorted_perm (objects : Objects α) : objects.sorted.Perm objects.toList :=
  sortBy_perm _ _

end Objects

end RhythmChart
