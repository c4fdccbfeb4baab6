import RhythmChart.Fault

/-!
# Notes

A note sounds a keysound on a beat. With a column it is there to be played, without one it
is played in the background. A long note also has the beat on which it ends, which must
not come before its own beat.
-/

namespace RhythmChart

/-- A note of a chart. Start and end of the keysound are in seconds of the sound; they are
handed on to whoever plays it, as they were given. -/
structure Note (α : Type) where
  beat : α
  keysound : Text
  endBeat : Option α
  column : Option Text
  keysoundStart : Field α
  keysoundEnd : Field α

namespace Note

variable {α : Type}

def isLong (note : Note α) : Bool :=
  note.endBeat.isSome

/-- The column a note is played in; an empty name is no column. -/
def lane? (note : Note α) : Option Text :=
  note.column.filter fun column => !column.isEmpty

variable [Scalar α]

def checked (note : Note α) : Except (Fault α) (Note α) :=
  match note.endBeat with
  | some endBeat =>
      if endBeat < note.beat then
        .error (.endBeforeBeat (.number endBeat) (.number note.beat))
      else .ok note
  | none => .ok note

def withColumn (note : Note α) (column : Option Text) : Except (Fault α) (Note α) :=
  checked { note with column := column }

structure Record (α : Type) where
  beat : Field α
  keysound : Field α
  endBeat : Field α
  column : Field α
  keysoundStart : Field α
  keysoundEnd : Field α

/-- The beat given for a note; flags are not numbers here. -/
def beatNumber (given : Field α) : Except (Fault α) α :=
  match given with
  | .number beat => .ok beat
  | .integer _ => given.quantity
  | _ => .error (.beatNotNumeric given)

def endNumber (given beatGiven : Field α) (beat : α) : Except (Fault α) (Option α) :=
  match given with
  | .absent => .ok none
  | _ => do
      let endBeat ← given.quantity
      if endBeat < beat then .error (.endBeforeBeat given beatGiven)
      else return some endBeat

/-- Checks a record: the beat first, then the keysound, the end and the column. -/
def ofRecord (record : Record α) : Except (Fault α) (Note α) := do
  let beat ← beatNumber record.beat
  let keysound ← match record.keysound with
    | .text keysound => pure keysound
    | given => .error (.keysoundNotText given)
  let endBeat ← endNumber record.endBeat record.beat beat
  let column ← match record.column with
    | .text column => pure (some column)
    | .absent => pure none
    | given => .error (.columnNotText given)
  return ⟨beat, keysound, endBeat, column, record.keysoundStart, record.keysoundEnd⟩

def allPresent (notes : List (Option (Note α))) : Except (Fault α) (List (Note α)) :=
  notes.mapM fun
    | some note => .ok note
    | none => .error .missingNote

end Note

end RhythmChart
