import RhythmChart.Catalog.Summary
import RhythmChart.Encoding.Charset
import RhythmChart.Text.Order

/-!
# Catalogs

The chart files of a directory are summarised in the order of their names. Each summary is
kept under the name of its level, which is the title of the song as far as it may stand in
the name of a directory. A later chart with the same level name takes the place of an
earlier one. The first chart that cannot be assembled, or for whose level no directory can
be made, ends the run; what was done before it is kept.

Every level has a directory of its own, in which a file holds its summary, unless its name
is that of the directory of all levels or of the one above it: then the file lies there.
-/

namespace RhythmChart

structure ChartFile where
  name : Text
  bytes : List Nat

namespace ChartFile

/-- The name of a file without its suffix, and the suffix with its point. A point at
either end of a name starts no suffix. -/
def splitSuffix (name : Text) : Text × Text :=
  let reversed := name.reverse
  let suffix := (reversed.takeWhile (· ≠ '.')).reverse
  match (reversed.dropWhile (· ≠ '.')).tail.reverse with
  | [] => (name, [])
  | stem => if suffix.isEmpty then (name, []) else (stem, '.' :: suffix)

def suffixes : List Text :=
  [".bms".toList, ".bme".toList, ".bml".toList, ".pms".toList, ".dtx".toList]

def isChart (file : ChartFile) : Bool :=
  suffixes.contains (Text.lower (splitSuffix file.name).2)

def source (file : ChartFile) : Text :=
  Charset.textOf file.name file.bytes

end ChartFile

/-- Summaries by level name, the messages of a run, and what ended it. -/
structure Catalog (α : Type) where
  levels : List (Text × Summary α)
  messages : List Text
  failure : Option (Fault α)

namespace Catalog

variable {α : Type}

def empty : Catalog α := ⟨[], [], none⟩

def isLevelChar (c : Char) : Bool :=
  Text.isLatinLetter c || c.isDigit || c = ' ' || c = '_' || c = '-'

def levelName (title fileName : Text) : Text :=
  let kept := title.filter isLevelChar
  if kept.isEmpty then (ChartFile.splitSuffix fileName).1 else kept

def longestName : Nat := 255

def summaryFile : Text := "notechart.json".toList

/-- The level name that stands for the directory of all levels. -/
def hereName : Text := ['.']

def aboveName : Text := ['.', '.']

/-- Why there can be no directory for a level beside earlier ones, if so: its name may be
too long, or that of a summary that lies in the directory of all levels. -/
def obstacle? {α : Type} (levels : List (Text × Summary α)) (level : Text) :
    Option (Fault α) :=
  if longestName < level.length then some .nameTooLong
  else if level = summaryFile ∧ (levels.lookup hereName).isSome then some .nameTaken
  else none

/-- Keeps a summary under a level name, in place of an earlier one. -/
def put (name : Text) (summary : Summary α) : List (Text × Summary α) →
      List (Text × Summary α)
  | [] => [(name, summary)]
  | (other, kept) :: rest =>
      if other = name then (name, summary) :: rest
      else (other, kept) :: put name summary rest

def messageFor (file : ChartFile) (summary : Summary α) : Text :=
  "Compiled ".toList ++ file.name ++ " (".toList ++ decimalText summary.warnings.length ++
    " warnings)".toList

def listing (catalog : Catalog α) : List (Text × Summary α) :=
  sortBy (fun a b => Text.precedes a.1 b.1) catalog.levels

/-- What lies in the directory of all levels, in order: directories of levels with their
summaries, and perhaps a file, which is no level. -/
def entries (catalog : Catalog α) : List (Text × Option (Summary α)) :=
  let found := catalog.levels.filterMap fun (name, summary) =>
    if name = aboveName then none
    else if name = hereName then some (summaryFile, none)
    else some (name, some summary)
  sortBy (fun a b => Text.precedes a.1 b.1) found

/-- The lines that are printed; a name may spread over several of them. -/
def printedLines (catalog : Catalog α) : List Text :=
  catalog.messages.flatMap (Text.pieces (· == '\n'))

variable [Scalar α]

def summarise (draws : List Int) (file : ChartFile) : Except (Fault α) (Summary α) := do
  let source := file.source
  Summary.ofCompilation
    (← Compilation.ofSource (Notechart.guessDialect source) (.scaled draws) source)

/-- Takes the next chart file, unless the run has ended. -/
def step (draws : ChartFile → List Int) (catalog : Catalog α) (file : ChartFile) :
    Catalog α :=
  if catalog.failure.isSome then catalog
  else match summarise (draws file) file with
    | .ok summary =>
        let level := levelName summary.songInfo.title file.name
        match obstacle? catalog.levels level with
        | some fault => { catalog with failure := some fault }
        | none =>
            { catalog with
              levels := put level summary catalog.levels
              messages := catalog.messages ++ [messageFor file summary] }
    | .error fault => { catalog with failure := some fault }

def charts (files : List ChartFile) : List ChartFile :=
  (sortBy (fun a b => Text.precedes a.name b.name) files).filter ChartFile.isChart

/-- The catalog of a directory, with the numbers drawn for each of its files. -/
def ofFiles (draws : ChartFile → List Int) (files : List ChartFile) : Catalog α :=
  (charts files).foldl (step draws) empty

end Catalog

end RhythmChart
