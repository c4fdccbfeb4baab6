import RhythmChart.Field

/-!
# Faults

Everything the library refuses, by cause. The wording of each fault is in `Fault.message`;
faults of plain arithmetic, look-up and comparison have no words of their own.
-/

namespace RhythmChart

/-- The two fields of an object that hold a two-character code. -/
inductive CodeField where
  | channel
  | value
  deriving DecidableEq, Repr

inductive SegmentField where
  | t
  | x
  | dx
  deriving DecidableEq, Repr

/-- The parts that an assembly needs. -/
inductive Ingredient where
  | notes
  | timing
  | keysounds
  | songInfo
  | scroll
  | spacing
  | barLines
  deriving DecidableEq, Repr

/-- What may be given in place of a channel mapping. -/
inductive NotAMapping where
  | list
  | text
  | integer
  | number
  | flag
  deriving DecidableEq, Repr

inductive Fault.Kind where
  | invalidValue
  | wrongType
  | indexOutOfRange
  | divisionByZero
  | outOfRange
  | unsupported
  | refusedBySystem
  | alreadyThere
  deriving DecidableEq, Repr

/-- What was refused, and what was given. -/
inductive Fault (α : Type) where
  | unknownDialect (given : Field α)
  /-- A channel or value that is not a text of two characters. -/
  | notACode (field : CodeField) (given : Field α)
  | negativeMeasure (given : Field α)
  | fractionOutOfRange (given : Field α)
  | sizeNotPositive (given : Field α)
  | segmentNotNumeric (field : SegmentField) (given : Field α)
  | segmentUndefined (field : SegmentField)
  | segmentFlag (given : Field α)
  | noSegments
  | missingSegment
  | beatNotNumeric (given : Field α)
  | keysoundNotText (given : Field α)
  | endBeforeBeat (endBeat beat : Field α)
  | columnNotText (given : Field α)
  | missingNote
  | notAMapping (given : NotAMapping)
  | shiftedPastLast (column : Text) (amount : Field α)
  | unknownScratch (given : Field α)
  | missingIngredient (part : Ingredient)
  | gatesNotPositive (gate endGate : Field α)
  | noGate (name : Text) (rank : Int)
  | unknownJudgment
  /-- A text that is not a number in the base asked for, or one of too many digits. -/
  | notANumeral
  /-- Bar lines of which none comes after the last note. -/
  | endlessBarLines
  /-- Values that cannot be compared or calculated with, or cannot be looked up. -/
  | incomparable
  | noSuchIndex
  | divisionByZero
  /-- A whole number that is too large for the scale on which it is used. -/
  | tooLarge
  /-- A value without letters where a text is used. -/
  | notAText
  /-- A name that is too long for a directory. -/
  | nameTooLong
  /-- The name of a file, for which there can be no directory. -/
  | nameTaken

namespace Fault

def kind {α : Type} : Fault α → Kind
  | notAMapping _ => .wrongType
  | incomparable => .wrongType
  | noSuchIndex => .indexOutOfRange
  | divisionByZero => .divisionByZero
  | tooLarge => .outOfRange
  | notAText => .unsupported
  | nameTooLong => .refusedBySystem
  | nameTaken => .alreadyThere
  | _ => .invalidValue

end Fault

def CodeField.name : CodeField → String
  | channel => "channel"
  | value => "value"

def SegmentField.name : SegmentField → String
  | t => "t"
  | x => "x"
  | dx => "dx"

def Ingredient.name : Ingredient → String
  | notes => "notes"
  | timing => "timing"
  | keysounds => "keysounds"
  | songInfo => "song_info"
  | scroll => "positioning"
  | spacing => "spacing"
  | barLines => "bar_lines"

def NotAMapping.name : NotAMapping → String
  | list => "list"
  | text => "str"
  | integer => "int"
  | number => "float"
  | flag => "bool"

namespace Fault

def message : Fault Float → String
  | unknownDialect given =>
      "Unknown chart format " ++ .ofList given.shown ++ " (expected one of bms, dtx)"
  | notACode field given =>
      field.name ++ " must be a 2-character code, got " ++ .ofList given.shown
  | negativeMeasure given => "measure must be non-negative, got " ++ .ofList given.shown
  | fractionOutOfRange given => "fraction must be in [0, 1), got " ++ .ofList given.shown
  | sizeNotPositive given => "measure size must be positive, got " ++ .ofList given.bare
  | segmentNotNumeric field given =>
      "Segment." ++ field.name ++ " must be a number, got " ++ .ofList given.shown
  | segmentUndefined field => "Segment." ++ field.name ++ " must not be NaN"
  | segmentFlag given =>
      "Segment.inclusive must be a boolean, got " ++ .ofList given.shown
  | noSegments => "Speedcore needs at least one segment"
  | missingSegment => "Expected a Segment, got None"
  | beatNotNumeric given => "beat must be a number, got " ++ .ofList given.shown
  | keysoundNotText given => "keysound must be a string, got " ++ .ofList given.shown
  | endBeforeBeat endBeat beat =>
      "end_beat " ++ .ofList endBeat.shown ++ " is before beat " ++ .ofList beat.shown
  | columnNotText given => "column must be a string, got " ++ .ofList given.shown
  | missingNote => "Expected a BMSNote, got None"
  | notAMapping given => "mapping must be a dict, got " ++ given.name
  | shiftedPastLast column amount =>
      "Column " ++ .ofList column ++ " cannot be shifted by " ++ .ofList amount.bare ++
        ": past the last column"
  | unknownScratch given =>
      "scratch must be 'off', 'left' or 'right', got " ++ .ofList given.shown
  | missingIngredient part => "Expected \"data." ++ part.name ++ "\""
  | gatesNotPositive gate endGate =>
      "timegates must be positive, got " ++ .ofList gate.bare ++ "/" ++
        .ofList endGate.bare
  | noGate name rank =>
      "No timegate for <Judgment." ++ .ofList name ++ ": " ++
        .ofList (decimalText rank) ++ ">"
  | endlessBarLines => "no bar line comes after the last note"
  | unknownJudgment => ""
  | notANumeral => ""
  | incomparable => ""
  | noSuchIndex => ""
  | divisionByZero => ""
  | tooLarge => ""
  | notAText => ""
  | nameTooLong => ""
  | nameTaken => ""

end Fault

namespace Field

variable {α : Type} [Scalar α]

/-- The number in a field that is calculated with or compared. -/
def quantity (given : Field α) : Except (Fault α) α :=
  match given.scalar?, given with
  | some value, _ => .ok value
  | none, .integer _ => .error .tooLarge
  | none, _ => .error .incomparable

/-- The field on a continuous scale, where whole numbers are numbers like all others. -/
def onScale (given : Field α) : Except (Fault α) (Field α) :=
  match given with
  | .integer _ => given.quantity.map .number
  | _ => .ok given

end Field

end RhythmChart
