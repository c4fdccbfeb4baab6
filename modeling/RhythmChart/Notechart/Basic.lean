import RhythmChart.Notechart.BarLines
import RhythmChart.Song.Keysounds
import RhythmChart.Notechart.Event
import RhythmChart.Player.Arrangement
import RhythmChart.Song.Info
import RhythmChart.Motion.Spacing

/-!
# Notecharts

A notechart is everything that is needed to play a chart: the notes of one
player, the landmines, the keysounds of the background and the bar lines, all
placed in time and in scroll position, together with the sound files in the order
in which they are first needed.

Notes in a column become playable notes, all others background events, both
in the order of the notes.
-/

namespace RhythmChart

structure Images where
  eyecatch : Option Text
  background : Option Text
  deriving DecidableEq, Repr

/-- What a notechart is assembled from; every part may be missing at first. -/
structure Ingredients (α : Type) where
  notes : Option (List (Note α))
  timing : Option (Timing α)
  keysounds : Option Keysounds
  songInfo : Option SongInfo
  scroll : Option (Scroll α)
  spacing : Option (Spacing α)
  barLines : Option (List α)
  landmines : List (Note α)
  window : Int × Int
  images : Images

/-- A chart ready to be played. -/
structure Notechart (α : Type) where
  timing : Timing α
  scroll : Scroll α
  spacing : Spacing α
  keysounds : Keysounds
  songInfo : SongInfo
  window : Int × Int
  images : Images
  notes : List (GameNote α)
  landmines : List (Landmine α)
  autos : List (AutoEvent α)
  barLines : List (GameEvent α)

namespace Notechart

variable {α : Type}

def require {β : Type} (part : Ingredient) (given : Option β) : Except (Fault α) β :=
  match given with
  | some value => .ok value
  | none => .error (.missingIngredient part)

/-- The window of the best two judgments where a chart does not choose
one, in milliseconds. -/
def standardWindow : Int × Int := (18, 40)

def playableNotes (place : α → GameEvent α) (notes : List (Note α)) : List (GameNote α) :=
  let inLanes := notes.filterMap fun note => note.lane?.map fun column => (note, column)
  (inLanes.zipIdx 1).map fun ((note, column), id) =>
    { id := id
      event := place note.beat
      column := column
      keysound := note.keysound
      keysoundStart := note.keysoundStart
      keysoundEnd := note.keysoundEnd
      finish := note.endBeat.map place }

def landminesOf (place : α → GameEvent α) (notes : List (Note α)) : List (Landmine α) :=
  let inLanes := notes.filterMap fun note => note.lane?.map fun column => (note, column)
  (inLanes.zipIdx 1).map fun ((note, column), id) => ⟨id, place note.beat, column⟩

def autosOf (place : α → GameEvent α) (notes : List (Note α)) : List (AutoEvent α) :=
  (notes.filter fun note => note.lane?.isNone).map fun note =>
    ⟨place note.beat, note.keysound, note.keysoundStart, note.keysoundEnd⟩

def samplesOf (keysounds : Keysounds) (used : List Text) : List Text :=
  dedupe (· == ·) ((used.filterMap keysounds.get?).filter fun file => !file.isEmpty)

/-- The sound files that are needed, in the order of their first use by notes and
then by the background. -/
def samples (chart : Notechart α) : List Text :=
  samplesOf chart.keysounds
    (chart.notes.map GameNote.keysound ++ chart.autos.map AutoEvent.keysound)

def columns : List Text :=
  Note.turntable :: Note.keyColumns

def imageOr (default : String) (given : Option Text) : Text :=
  (given.filter fun name => !name.isEmpty).getD default.toList

def eyecatch (chart : Notechart α) : Text :=
  imageOr "eyecatch_image.png" chart.images.eyecatch

def background (chart : Notechart α) : Text :=
  imageOr "back_image.png" chart.images.background

def combos? (chart : Notechart α) (id : Int) : Option Nat :=
  (chart.notes.find? fun note => decide ((note.id : Int) = id)).map GameNote.combos

/-- The beat of the bar line of a measure; the last bar line stands in for
every measure without one. -/
def measureToBeat (chart : Notechart α) (measure : Int) : Except (Fault α) α :=
  let line := if measure < 0 then none else chart.barLines[measure.toNat]?
  match line.or chart.barLines.getLast? with
  | some event => .ok event.beat
  | none => .error .noSuchIndex

def usesColumn (chart : Notechart α) (column : Char) : Bool :=
  chart.notes.any fun note => note.column == [column]

/-- Whether a chart is for five keys or seven, with the turntable where `scratch` says. -/
def keyMode (chart : Notechart α) (scratch : Text) : String :=
  let unused := match Scratch.ofName? scratch with
    | some .off => some ('1', '7')
    | some .left => some ('6', '7')
    | some .right => some ('1', '2')
    | none => none
  match unused with
  | some (a, b) => if chart.usesColumn a || chart.usesColumn b then "7K" else "5K"
  | none => "7K"

variable [Scalar α]

/-- Assembles a notechart. The first part that is missing is a fault. -/
def assemble (ingredients : Ingredients α) (options : PlayerOptions) :
    Except (Fault α) (Notechart α) := do
  let notes ← require .notes ingredients.notes
  let timing ← require .timing ingredients.timing
  let keysounds ← require .keysounds ingredients.keysounds
  let songInfo ← require .songInfo ingredients.songInfo
  let scroll ← require .scroll ingredients.scroll
  let spacing ← require .spacing ingredients.spacing
  let barLines ← require .barLines ingredients.barLines
  let arranged ← Note.arrange options.scratch notes
  let place := GameEvent.at timing scroll
  return {
    timing, scroll, spacing, keysounds, songInfo
    window := ingredients.window
    images := ingredients.images
    notes := playableNotes place arranged
    landmines := landminesOf place ingredients.landmines
    autos := autosOf place arranged
    barLines := barLines.map place }

/-- Assembles a notechart with bar lines that are still to be checked. They are placed
last, so that every other fault comes before theirs. -/
def assembleWith (barLines : Option (List (Field α))) (ingredients : Ingredients α)
    (options : PlayerOptions) : Except (Fault α) (Notechart α) := do
  let beats := barLines.map fun given => given.filterMap Field.scalar?
  let chart ← assemble { ingredients with barLines := beats } options
  let _ ← (barLines.getD []).mapM Field.quantity
  return chart

/-- The beat of the bar line of a measure that is still to be checked: a number that
counts no measures must not be among those that have a bar line. -/
def lookUpMeasure (chart : Notechart α) (given : Field α) : Except (Fault α) α :=
  match given with
  | .integer measure => chart.measureToBeat measure
  | .flag measure => chart.measureToBeat measure.toNat
  | .number measure =>
      if ((0 : Nat) : α) ≤ measure ∧ measure < (chart.barLines.length : α) then
        .error .incomparable
      else chart.measureToBeat chart.barLines.length
  | _ => .error .incomparable

def lookUpCombos (chart : Notechart α) (given : Field α) :
    Except (Fault α) (Option Nat) :=
  match given with
  | .list _ => .error .incomparable
  | .record _ => .error .incomparable
  | _ => .ok (given.wholeNumber?.bind chart.combos?)

/-- The times of everything that has to be played or avoided: notes and their
ends, then landmines. -/
def playedTimes (chart : Notechart α) : List α :=
  (chart.notes.flatMap fun note =>
    note.event.time :: (note.finish.map GameEvent.time).toList) ++
    chart.landmines.map (·.event.time)

/-- The time of the last event that has to be played or avoided; never less than zero. -/
def duration (chart : Notechart α) : α :=
  chart.playedTimes.foldl (fun latest time => if latest < time then time else latest)
    ((0 : Nat) : α)

def beatToSeconds (chart : Notechart α) (beat : α) : α :=
  chart.timing.beatToSeconds beat

def secondsToBeat (chart : Notechart α) (seconds : α) : α :=
  chart.timing.secondsToBeat seconds

def beatToPosition (chart : Notechart α) (beat : α) : α :=
  chart.scroll.position beat

def secondsToPosition (chart : Notechart α) (seconds : α) : α :=
  chart.beatToPosition (chart.secondsToBeat seconds)

def bpmAtBeat (chart : Notechart α) (beat : α) : α :=
  chart.timing.bpmAtBeat beat

def scrollSpeedAtBeat (chart : Notechart α) (beat : α) : α :=
  chart.scroll.speed beat

def spacingAtBeat (chart : Notechart α) (beat : α) : α :=
  chart.spacing.factor beat

end Notechart

end RhythmChart
