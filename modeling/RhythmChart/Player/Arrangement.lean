import RhythmChart.Note.Basic
import RhythmChart.Player.Options

/-!
# Arranging notes for a player

With the turntable off, its notes are played in the background. A chart that uses only
five keys is moved across the seven so that the keys in use lie together on the side
away from the turntable.
-/

namespace RhythmChart

namespace Note

/-- The columns across which notes are shifted. -/
def keyColumns : List Text :=
  [['1'], ['2'], ['3'], ['4'], ['5'], ['6'], ['7']]

def turntable : Text := ['S', 'C']

variable {α : Type} [Scalar α]

/-- Moves a note by some key columns. Notes in other columns stay; a shift below the first
column counts from the last one. -/
def shift (amount : Int) (note : Note α) : Except (Fault α) (Note α) :=
  match note.column with
  | none => .ok note
  | some column =>
    match keyColumns.idxOf? column with
    | none => .ok note
    | some index =>
        let target := (index : Int) + amount
        let count := (keyColumns.length : Int)
        if count ≤ target then .error (.shiftedPastLast column (.integer amount))
        else
          match keyColumns[(if target < 0 then target + count else target).toNat]? with
          | some column =>
              if target < -count then .error .noSuchIndex
              else note.withColumn (some column)
          | none => .error .noSuchIndex

/-- Moves a note by an amount that is still to be checked: only whole numbers count
columns, but any other number is refused like one that is too large, if it is. -/
def shiftBy (given : Field α) (note : Note α) : Except (Fault α) (Note α) :=
  match note.column.bind keyColumns.idxOf?, given with
  | none, _ => .ok note
  | _, .integer amount => note.shift amount
  | some index, .flag amount =>
      if keyColumns.length ≤ index + amount.toNat then
        .error (.shiftedPastLast (note.column.getD []) given)
      else note.shift amount.toNat
  | some index, .number amount =>
      if (keyColumns.length : α) ≤ (index : α) + amount then
        .error (.shiftedPastLast (note.column.getD []) given)
      else .error .incomparable
  | _, _ => .error .incomparable

/-- Takes a note off the turntable, so that it is played in the background. -/
def offTurntable (note : Note α) : Except (Fault α) (Note α) :=
  if note.column = some turntable then note.withColumn none else .ok note

/-- Whether notes use more than the first five keys. -/
def usesSevenKeys (notes : List (Note α)) : Bool :=
  notes.any fun note => note.column = some ['6'] || note.column = some ['7']

def fiveKeyShift : Scratch → Int
  | .off => 1
  | .left => 0
  | .right => 2

/-- The notes as the options lay them out: first the turntable is emptied if it is off,
then a chart of five keys is shifted. -/
def arrange (scratch : Scratch) (notes : List (Note α)) :
    Except (Fault α) (List (Note α)) := do
  let playable ← match scratch with
    | .off => notes.mapM offTurntable
    | _ => pure notes
  if usesSevenKeys notes || fiveKeyShift scratch = 0 then return playable
  else playable.mapM (shift (fiveKeyShift scratch))

end Note

end RhythmChart
