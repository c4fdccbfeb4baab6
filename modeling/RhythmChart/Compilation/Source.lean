import RhythmChart.Compilation.Basic
import RhythmChart.Number.Radix

/-!
# Compilation of sources

A source is compiled unless the number of one of its control sentences is too long
to be read, or no number can be drawn for one of its random choices. The first such
line decides. Control sentences count in skipped blocks too, so the rest of the
source has no say in it.
-/

namespace RhythmChart

/-- What draws the numbers of random choices: the numbers in order, and the
bounds that it refuses. -/
structure Generator (α : Type) where
  draws : List Int
  refusal? : Nat → Option (Fault α)

namespace Generator

variable {α : Type}

/-- Numbers that are given beforehand; no bound is refused. -/
def given (draws : List Int) : Generator α :=
  ⟨draws, fun _ => none⟩

/-- The generator that is used when none is chosen. It scales a fraction by the bound,
which must not be too large for that. -/
def scaled [Scalar α] (draws : List Int) : Generator α :=
  ⟨draws, fun bound =>
    match (Field.quantity (.integer bound) : Except (Fault α) α) with
    | .ok _ => none
    | .error fault => some fault⟩

end Generator

namespace Sentence

/-- Whether a control word is followed by a number of more digits than are read. -/
def isOverlong (word text : Text) : Bool :=
  ((afterWord? word text).bind afterBlanks?).any fun digits =>
    (Text.natural? digits).isSome && !Radix.isReadable 10 digits.length

def numberedWords : List Text :=
  [['R', 'A', 'N', 'D', 'O', 'M'], ['I', 'F']]

/-- Whether a trimmed line is a control sentence whose number is too long to be read. -/
def isUnreadable (line : Text) : Bool :=
  match line with
  | '#' :: text => numberedWords.any (isOverlong · text)
  | _ => false

def bound? (line : Text) : Option Nat :=
  match line with
  | '#' :: text => wordNumber? ['R', 'A', 'N', 'D', 'O', 'M'] text
  | _ => none

def refusal? {α : Type} (generator : Generator α) (line : Text) : Option (Fault α) :=
  if isUnreadable line then some .notANumeral else (bound? line).bind generator.refusal?

end Sentence

namespace Compilation

variable {α : Type}

/-- Why a source cannot be compiled, if so. -/
def refusal? (generator : Generator α) (source : Text) : Option (Fault α) :=
  (Text.numberedLines source).findSome? fun entry =>
    Sentence.refusal? generator (Text.trim entry.2)

variable [Scalar α]

def ofSource (dialect : Dialect) (generator : Generator α) (source : Text) :
    Except (Fault α) (Compilation α) :=
  match refusal? generator source with
  | some fault => .error fault
  | none => .ok (ofText dialect generator.draws source)

def ofNamed (name : Text) (generator : Generator α) (source : Text) :
    Except (Fault α) (Compilation α) :=
  match Dialect.ofName? name with
  | some dialect => ofSource dialect generator source
  | none => .error (.unknownDialect (.text name))

/-- Compiles a source in a dialect whose name is still to be checked. -/
def ofGiven (name : Field α) (generator : Generator α) (source : Text) :
    Except (Fault α) (Compilation α) :=
  match name with
  | .text name => ofNamed name generator source
  | .list _ => .error .incomparable
  | .record _ => .error .incomparable
  | _ => .error (.unknownDialect name)

end Compilation

end RhythmChart
