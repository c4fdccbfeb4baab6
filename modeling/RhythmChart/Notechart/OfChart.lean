import RhythmChart.Compilation.Source
import RhythmChart.Note.Extraction
import RhythmChart.Notechart.Basic

/-!
# From charts to notecharts

The parts of a notechart are all derived from one chart. A source is compiled in the
dialect that is named, or else in the one it seems to be written in.
-/

namespace RhythmChart.Notechart

variable {α : Type} [Scalar α]

/-- The window of the best two judgments, which the rank of a chart
makes narrower or wider. -/
def windowOf (chart : Chart α) : Int × Int :=
  match (chart.number? "rank".toList : Option α) with
  | none => standardWindow
  | some rank =>
      if rank == ((0 : Nat) : α) then (8, 24)
      else if rank == ((1 : Nat) : α) then (15, 30)
      else if rank == ((3 : Nat) : α) then (21, 60)
      else standardWindow

def lanes (options : PlayerOptions) : Lanes.Table :=
  if options.double then Lanes.double else Lanes.first

def ingredients (chart : Chart α) (options : PlayerOptions) :
    Except (Fault α) (Ingredients α) := do
  let notes := chart.notes (lanes options).toMap
  let timing ← Timing.ofChart chart
  let scroll ← Scroll.ofChart chart
  let spacing ← Spacing.ofChart chart
  let barLines ← BarLines.ofChart chart notes
  return {
    notes := some notes
    timing := some timing
    keysounds := some (Keysounds.ofHeaders chart.headers)
    songInfo := some (SongInfo.ofHeaders α chart.headers)
    scroll := some scroll
    spacing := some spacing
    barLines := some barLines
    landmines := chart.notes (Lanes.landmines (lanes options)).toMap
    window := windowOf chart
    images := ⟨none, none⟩ }

def ofChart (chart : Chart α) (options : PlayerOptions) :
    Except (Fault α) (Notechart α) := do
  assemble (← ingredients chart options) options

def guessDialect (source : Text) : Dialect :=
  (Dialect.detect? source).getD .bms

/-- The compilation of a source; a name that counts as no leaves the
dialect to be guessed. -/
def compile (dialect : Field α) (generator : Generator α) (source : Text) :
    Except (Fault α) (Compilation α) :=
  if dialect.isTruthy then Compilation.ofGiven dialect generator source
  else Compilation.ofSource (guessDialect source) generator source

/-- The notechart of a source, with the numbers that a generator draws. -/
def ofSource (dialect : Field α) (generator : Generator α) (options : PlayerOptions)
    (source : Text) : Except (Fault α) (Notechart α) := do
  ofChart (← compile dialect generator source).chart options

/-- The notechart of a source, with draws that are given beforehand. -/
def ofText (dialect : Field α) (draws : List Int) (options : PlayerOptions)
    (source : Text) : Except (Fault α) (Notechart α) :=
  ofSource dialect (.given draws) options source

end RhythmChart.Notechart
