import RhythmChart.Chart.Basic
import RhythmChart.Compilation.Warning

/-!
# The effect of content sentences

The data of a channel sentence is a row of slots of two characters each, spread evenly
over the measure. A slot that holds `00` is empty; every other slot places an object.
-/

namespace RhythmChart.Content

/-- The slots of channel data; a last character without a partner is dropped. -/
def slots : Text → List Code
  | first :: second :: rest => ⟨first, second⟩ :: slots rest
  | _ => []

/-- The size of a measure as a positive finite number. -/
def size? {α : Type} [Scalar α] (text : Text) : Option α :=
  (Text.number? text).filter fun size => decide (((0 : Nat) : α) < size)

variable {α : Type} [Scalar α]

/-- The objects that a channel sentence places. -/
def objects (line measure : Nat) (channel : Code) (data : Text) : List (ChartObject α) :=
  let row := slots data
  row.zipIdx.filterMap fun (value, index) =>
    if value = Code.empty then none
    else some ⟨channel, measure, (index : α) / (row.length : α), value, some (line : Int)⟩

def apply (line : Nat) (chart : Chart α) : Content → Chart α
  | measureSize measure text =>
      match size? text with
      | some size => chart.setSize measure size
      | none => chart
  | channel measure code data =>
      (objects line measure code data).foldl Chart.addObject chart
  | header name value => chart.setHeader name value

def issue? (α : Type) [Scalar α] : Content → Option Issue
  | measureSize _ text =>
      if (size? text : Option α).isSome then none else some (.invalidSize text)
  | channel _ _ data => if data.length % 2 = 0 then none else some (.oddData data)
  | header _ _ => none

end RhythmChart.Content
