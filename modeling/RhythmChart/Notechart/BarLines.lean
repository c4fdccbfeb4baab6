import RhythmChart.Chart.Basic
import RhythmChart.Note.Basic

/-!
# Bar lines

There is a bar line at the start of every measure up to the first one that starts after
the last note. With exact arithmetic such a measure always exists; with floating point,
beats can be so large that another measure does not move them, and then there is none.

Sizes that were set end at some measure, and from there on every measure adds the same
four beats. A chart with a measure that starts after its last note therefore has one
within `horizon` measures, and the search for it goes no further.
-/

namespace RhythmChart.BarLines

variable {α : Type} [Scalar α]

/-- The beat on which a note is over; an end on beat zero does not count. -/
def lastBeatOf (note : Note α) : α :=
  match note.endBeat with
  | some endBeat => if Scalar.isZero endBeat then note.beat else endBeat
  | none => note.beat

/-- The greatest beat on which a note is over; zero without notes. -/
def lastBeat (notes : List (Note α)) : α :=
  match notes.map lastBeatOf with
  | [] => ((0 : Nat) : α)
  | first :: rest =>
      rest.foldl (fun latest beat => if latest < beat then beat else latest) first

/-- The bar lines from the start of a measure to the first one after `last`, among at most
`steps` more measures. -/
def from? (sizes : MeasureSizes α) (last : α) :
    (steps : Nat) → (measure : Nat) → (beat : α) → Option (List α)
  | 0, _, _ => none
  | steps + 1, measure, beat =>
      let next := beat + sizes.beats measure
      if last < next then some [beat, next]
      else (from? sizes last steps (measure + 1) next).map (beat :: ·)

/-- More measures than have an object or a size, and two more. -/
def horizon (chart : Chart α) : Nat :=
  let measures := chart.objects.toList.map ChartObject.measure ++
    chart.sizes.entries.map fun (measure, _) => measure.toNat
  measures.foldl max 0 + 3

/-- The bar lines of a chart for notes taken from it; a fault when none
comes after the last note. -/
def ofChart (chart : Chart α) (notes : List (Note α)) : Except (Fault α) (List α) :=
  match from? chart.sizes (lastBeat notes) (horizon chart) 0 ((0 : Nat) : α) with
  | some lines => .ok lines
  | none => .error .endlessBarLines

end RhythmChart.BarLines
