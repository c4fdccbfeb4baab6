import RhythmChart.Chart.Basic
import RhythmChart.Sorting.Adaptive

/-!
# Drafts

A draft is a chart that is put together step by step from unchecked records. Its objects
may stand at any number that is not negative as their measure, and have a position there
unless the number is too large for the scale of positions. A measure is kept in the form
in which it was given. Only objects in measures that can be counted have a beat, and only
they can be objects of a chart. Sizes may be set for whatever can be looked up again, but
only those of whole measures count beats.
-/

namespace RhythmChart

inductive Measure (α : Type) where
  | whole (number : Nat)
  /-- A measure by a flag, which stands for the first or the second one. -/
  | flag (second : Bool)
  /-- A number on a continuous scale, which counts no measures even where it is whole. -/
  | loose (number : α)

namespace Measure

variable {α : Type}

def count? : Measure α → Option Nat
  | whole number => some number
  | flag second => some second.toNat
  | loose _ => none

def field : Measure α → Field α
  | whole number => .integer number
  | flag second => .flag second
  | loose number => .number number

variable [Scalar α]

def same : Measure α → Measure α → Bool
  | loose x, loose y => x == y
  | a, b => a.field.wholeNumber? == b.field.wholeNumber?

/-- The measure given for an object, which must not be negative. -/
def ofField (given : Field α) : Except (Fault α) (Measure α) :=
  match given with
  | .integer number =>
      if number < 0 then .error (.negativeMeasure given) else .ok (.whole number.toNat)
  | .number number =>
      if number < ((0 : Nat) : α) then .error (.negativeMeasure given)
      else .ok (.loose number)
  | .flag second => .ok (.flag second)
  | _ => .error .incomparable

end Measure

inductive Place (α : Type) where
  | start (number : Nat)
  | point (number : α)

namespace Place

variable {α : Type} [Scalar α]

def precedes : Place α → Place α → Bool
  | start m, start n => decide (m < n)
  | start m, point y => Scalar.wholeLt m y
  | point x, start n => Scalar.ltWhole x n
  | point x, point y => decide (x < y)

/-- Whether a place has no order. -/
def isUndefined : Place α → Bool
  | start _ => false
  | point x => Scalar.isUndefined x

/-- The place as a number on the continuous scale, unless it is too large for that. -/
def number (place : Place α) : Except (Fault α) α :=
  match place with
  | start number => Field.quantity (.integer number)
  | point number => .ok number

end Place

structure DraftObject (α : Type) where
  channel : Code
  measure : Measure α
  fraction : α
  /-- Whether the fraction is a flag, which counts as zero and does
  not leave whole numbers. -/
  atStart : Bool
  value : Code
  line : Field α

namespace DraftObject

variable {α : Type} [Scalar α]

/-- The place of an object in a measure that can be counted. A fraction makes a point of
the start of the measure, which must not be too large for that. -/
def placeIn (object : DraftObject α) (number : Nat) : Except (Fault α) (Place α) :=
  if object.atStart then .ok (.start number)
  else (Field.quantity (.integer number)).map fun start =>
    .point (start + object.fraction)

def place (object : DraftObject α) : Except (Fault α) (Place α) :=
  match object.measure with
  | .whole number => object.placeIn number
  | .flag second => object.placeIn second.toNat
  | .loose number => .ok (.point (number + object.fraction))

def position (object : DraftObject α) : Except (Fault α) α := do
  (← object.place).number

def samePlace (a b : DraftObject α) : Bool :=
  a.channel == b.channel && a.measure.same b.measure && a.fraction == b.fraction

/-- An object with nothing checked yet. -/
structure Record (α : Type) where
  channel : Field α
  measure : Field α
  fraction : Field α
  value : Field α
  line : Field α

def code (field : CodeField) (given : Field α) : Except (Fault α) Code :=
  match given with
  | .text text =>
      match Code.ofText? text with
      | some code => .ok code
      | none => .error (.notACode field given)
  | _ => .error (.notACode field given)

/-- The fraction given for an object: at least zero and less than one. -/
def fractionNumber (given : Field α) : Except (Fault α) α := do
  let fraction ← given.quantity
  if ((0 : Nat) : α) ≤ fraction ∧ fraction < ((1 : Nat) : α) then .ok fraction
  else .error (.fractionOutOfRange given)

/-- Checks a record: the channel first, then the value, the measure and the fraction. -/
def ofRecord (record : Record α) : Except (Fault α) (DraftObject α) := do
  let channel ← code .channel record.channel
  let value ← code .value record.value
  let measure ← Measure.ofField record.measure
  let fraction ← fractionNumber record.fraction
  let atStart := match record.fraction with
    | .flag _ => true
    | _ => false
  return ⟨channel, measure, fraction, atStart, value, record.line⟩

/-- The object of a chart that an object of a draft is, if it stands
in a whole measure. -/
def toObject? (object : DraftObject α) : Option (ChartObject α) :=
  object.measure.count?.map fun measure =>
    ⟨object.channel, measure, object.fraction, object.value, object.line.wholeNumber?⟩

def ofObject (object : ChartObject α) : DraftObject α :=
  ⟨object.channel, .whole object.measure, object.fraction, false, object.value,
    (object.line.map Field.integer).getD .absent⟩

end DraftObject

/-- A chart that is put together step by step. -/
structure Draft (α : Type) where
  headers : Headers
  objects : List (DraftObject α)
  sizes : MeasureSizes α
  /-- The sizes of what is no whole measure, the latest first. -/
  looseSizes : List (Field α × α)

namespace Draft

variable {α : Type}

def empty : Draft α := ⟨.empty, [], .empty, []⟩

def ofChart (chart : Chart α) : Draft α :=
  ⟨chart.headers, chart.objects.toList.map DraftObject.ofObject, chart.sizes, []⟩

def setHeader (draft : Draft α) (name : Text) (value : Option Text) : Draft α :=
  { draft with headers := draft.headers.set name value }

variable [Scalar α]

/-- Whether two fields that are no whole numbers name the same measure. -/
def sameName : Field α → Field α → Bool
  | .number x, .number y => x == y
  | .text a, .text b => a == b
  | .absent, .absent => true
  | _, _ => false

def measureName (given : Field α) : Except (Fault α) (Field α) :=
  match given with
  | .list _ => .error .incomparable
  | .record _ => .error .incomparable
  | _ => .ok given

/-- Sets the size of a measure; the size is checked before the measure. -/
def setSize (draft : Draft α) (measure given : Field α) : Except (Fault α) (Draft α) := do
  let size ← MeasureSizes.checked given
  let name ← measureName measure
  match name.wholeNumber? with
  | some number => return { draft with sizes := draft.sizes.insert number size }
  | none => return { draft with looseSizes := (name, size) :: draft.looseSizes }

def size (draft : Draft α) (measure : Field α) : Except (Fault α) α := do
  let name ← measureName measure
  match name.wholeNumber? with
  | some number => return draft.sizes.size number
  | none =>
      let found := draft.looseSizes.find? fun entry => sameName entry.1 name
      return (found.map Prod.snd).getD MeasureSizes.standard

def beats (draft : Draft α) (measure : Field α) : Except (Fault α) α :=
  (draft.size measure).map MeasureSizes.beatsOfSize

def addObject (draft : Draft α) (object : DraftObject α) : Draft α :=
  if object.channel = Code.background then
    { draft with objects := draft.objects ++ [object] }
  else { draft with objects := Objects.place DraftObject.samePlace object draft.objects }

def addRecord (draft : Draft α) (record : DraftObject.Record α) :
    Except (Fault α) (Draft α) :=
  (DraftObject.ofRecord record).map draft.addObject

def positions (draft : Draft α) : Except (Fault α) (List α) :=
  draft.objects.mapM DraftObject.position

/-- The objects in the order of their places, of which all must have one. -/
def sorted (draft : Draft α) : Except (Fault α) (List (DraftObject α)) := do
  let placed ← draft.objects.mapM fun object => object.place.map (·, object)
  let ordered := sortPartly (fun entry => entry.1.isUndefined)
    (fun a b => a.1.precedes b.1) placed
  return ordered.map Prod.snd

def chartOf (draft : Draft α) (objects : List (DraftObject α)) :
    Except (Fault α) (Chart α) :=
  match objects.mapM DraftObject.toObject? with
  | some objects => .ok ⟨draft.headers, ⟨objects⟩, draft.sizes⟩
  | none => .error .incomparable

def toChart (draft : Draft α) : Except (Fault α) (Chart α) :=
  draft.chartOf draft.objects

end Draft

end RhythmChart
