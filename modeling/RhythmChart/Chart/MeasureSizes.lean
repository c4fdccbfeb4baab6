import RhythmChart.Fault

/-!
# Measure sizes

A measure of size one holds four beats. Sizes that were not set are one. Beats are counted
from the start of measure zero.
-/

namespace RhythmChart

/-- The sizes that were set, with measures in ascending order. -/
structure MeasureSizes (α : Type) where
  entries : List (Int × α)

namespace MeasureSizes

variable {α : Type}

def empty : MeasureSizes α := ⟨[]⟩

/-- Replaces the size of a measure, or inserts it at its place. -/
def insertEntry (measure : Int) (size : α) : List (Int × α) → List (Int × α)
  | [] => [(measure, size)]
  | (other, otherSize) :: rest =>
      if measure < other then (measure, size) :: (other, otherSize) :: rest
      else if measure = other then (measure, size) :: rest
      else (other, otherSize) :: insertEntry measure size rest

def insert (sizes : MeasureSizes α) (measure : Int) (size : α) : MeasureSizes α :=
  ⟨insertEntry measure size sizes.entries⟩

variable [Scalar α]

/-- The size given for a measure, which must be a number and not zero or less. -/
def checked (given : Field α) : Except (Fault α) α := do
  let size ← given.quantity
  if size ≤ ((0 : Nat) : α) then .error (.sizeNotPositive given) else return size

def set (sizes : MeasureSizes α) (measure : Int) (given : Field α) :
    Except (Fault α) (MeasureSizes α) :=
  (checked given).map (sizes.insert measure)

/-- The size of measures for which none was set. -/
def standard : α := ((1 : Nat) : α)

def size (sizes : MeasureSizes α) (measure : Int) : α :=
  (sizes.entries.lookup measure).getD standard

def beatsOfSize (size : α) : α :=
  size * ((4 : Nat) : α)

def beats (sizes : MeasureSizes α) (measure : Int) : α :=
  beatsOfSize (sizes.size measure)

/-- The beat on which a measure starts: the beats of all measures before it. -/
def start (sizes : MeasureSizes α) (measure : Int) : α :=
  (List.range measure.toNat).foldl (fun total (index : Nat) => total + sizes.beats index)
    ((0 : Nat) : α)

def beatAt (sizes : MeasureSizes α) (measure : Int) (fraction : α) : α :=
  sizes.start measure + sizes.beats measure * fraction

/-- The beat at a fraction of a measure, both of which are still to be checked. Only whole
numbers count measures. -/
def lookUpBeat (sizes : MeasureSizes α) (measure fraction : Field α) :
    Except (Fault α) α :=
  match measure with
  | .integer number => fraction.quantity.map (sizes.beatAt number)
  | .flag number => fraction.quantity.map (sizes.beatAt number.toNat)
  | _ => .error .incomparable

end MeasureSizes

end RhythmChart
