import RhythmChart.Draft.Basic
import RhythmChart.Note.Extraction

/-!
# The notes of drafts

Notes are extracted from a draft like from a chart, in columns of which nothing is checked
yet. The objects are taken in the order of their positions, and each is checked when its
turn comes: it must stand in a whole measure, and what it begins must be put into a
column. The first fault counts.
-/

namespace RhythmChart

namespace Extraction

variable {α : Type} [Scalar α]

/-- The map with unchecked columns, of which only texts are columns. -/
def mapOf (columns : List (Text × Field α)) : LaneMap :=
  .ofEntries <| columns.map fun (channel, column) =>
    (channel, match column with
      | .text name => some name
      | _ => none)

def mayBeColumn : Field α → Bool
  | .text _ => true
  | .absent => true
  | _ => false

def badColumn? (columns : List (Text × Field α)) (channel : Text) : Option (Field α) :=
  let upper := columns.map fun (key, column) => (Text.upper key, column)
  (upper.reverse.lookup channel).filter fun column => !mayBeColumn column

/-- The fault of an object of a draft that takes part in an extraction. -/
def faultOf? (marker : Text) (columns : List (Text × Field α)) (object : DraftObject α) :
    Option (Fault α) :=
  if object.toObject?.isNone then some .incomparable
  else if role object.channel = .head ∧ isMarker marker object.value then none
  else (badColumn? columns (noteChannel object.channel)).map .columnNotText

end Extraction

/-- The notes of a draft with columns that are still to be checked. -/
def Draft.notesIn {α : Type} [Scalar α] (draft : Draft α)
    (columns : List (Text × Field α)) : Except (Fault α) (List (Note α)) := do
  let map := Extraction.mapOf columns
  let objects :=
    (← draft.sorted).filter fun object => Extraction.takesPart map object.channel
  match
    objects.findSome? (Extraction.faultOf? (Extraction.marker draft.headers) columns) with
  | some fault => .error fault
  | none => return (← draft.chartOf objects).notes map

end RhythmChart
