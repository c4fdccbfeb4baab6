import RhythmChart.Chart.Basic
import RhythmChart.Number.Radix
import RhythmChart.Text.Order

/-!
# Keysounds

Two-character ids name sound files. Ids are compared in lower case and are numbers in base
thirty-six, which gives them an order.
-/

namespace RhythmChart

/-- Sound files by lower-case id. -/
structure Keysounds where
  entries : List (Text × Text)
  deriving DecidableEq, Repr

namespace Keysounds

/-- Replaces the file of an id, or adds a new id at the end. -/
def insertEntry (id file : Text) : List (Text × Text) → List (Text × Text)
  | [] => [(id, file)]
  | (other, otherFile) :: rest =>
      if other = id then (id, file) :: rest
      else (other, otherFile) :: insertEntry id file rest

/-- Keysounds from ids in any case; the last file for an id counts. -/
def ofEntries (entries : List (Text × Text)) : Keysounds :=
  ⟨entries.foldl (fun kept (id, file) => insertEntry (Text.lower id) file kept) []⟩

def get? (keysounds : Keysounds) (id : Text) : Option Text :=
  keysounds.entries.lookup (Text.lower id)

def size (keysounds : Keysounds) : Nat :=
  keysounds.entries.length

def index? (id : Text) : Option Int :=
  Radix.integer? 36 (Text.lower id)

def indexOf {α : Type} (id : Text) : Except (Fault α) Int :=
  match index? id with
  | some index => .ok index
  | none => .error .notANumeral

/-- The order of ids: numbers by value and then by text, then all other ids by text. -/
def idPrecedes (a b : Text) : Bool :=
  match index? a, index? b with
  | some i, some j => decide (i < j) || (i == j && Text.precedes a b)
  | some _, none => true
  | none, some _ => false
  | none, none => Text.precedes a b

/-- The files in the order of their least ids, each once. -/
def files (keysounds : Keysounds) : List Text :=
  dedupe (· == ·) ((sortBy (fun a b => idPrecedes a.1 b.1) keysounds.entries).map (·.2))

def listing (keysounds : Keysounds) : List (Text × Text) :=
  sortBy (fun a b => Text.precedes a.1 b.1) keysounds.entries

/-- The id in the name of a header that declares a sound. A line feed after
the name is passed over. -/
def idOfHeader? (name : Text) : Option Text :=
  match name with
  | 'w' :: 'a' :: 'v' :: first :: second :: rest =>
      if !Text.isBlank first && !Text.isBlank second &&
          (rest == [] || rest == ['\n']) then
        some [first, second]
      else none
  | _ => none

/-- The keysounds that headers declare with a value. -/
def ofHeaders (headers : Headers) : Keysounds :=
  ofEntries <| headers.items.filterMap fun (name, value) => do
    let id ← idOfHeader? name
    let file ← value
    return (id, file)

end Keysounds

end RhythmChart
