import RhythmChart.Chart.Headers
import RhythmChart.Chart.MeasureSizes
import RhythmChart.Chart.Objects
import RhythmChart.Number.Numeral

/-!
# Charts

A chart is what remains of its source once all random choices are made: header fields,
timed objects and measure sizes.
-/

namespace RhythmChart

/-- The number that a header field holds, if it holds a finite one. -/
def Headers.number? {α : Type} [Scalar α] (headers : Headers) (name : Text) : Option α :=
  (headers.get? name).bind Text.number?

structure Chart (α : Type) where
  headers : Headers
  objects : Objects α
  sizes : MeasureSizes α

namespace Chart

variable {α : Type}

def empty : Chart α := ⟨.empty, .empty, .empty⟩

def setHeader (chart : Chart α) (name : Text) (value : Option Text) : Chart α :=
  { chart with headers := chart.headers.set name value }

/-- Sets the size of a measure, without a check. -/
def setSize (chart : Chart α) (measure : Int) (size : α) : Chart α :=
  { chart with sizes := chart.sizes.insert measure size }

variable [Scalar α]

def addObject (chart : Chart α) (object : ChartObject α) : Chart α :=
  { chart with objects := chart.objects.add object }

def beatOf (chart : Chart α) (object : ChartObject α) : α :=
  chart.sizes.beatAt object.measure object.fraction

def number? (chart : Chart α) (name : Text) : Option α :=
  chart.headers.number? name

end Chart

end RhythmChart
