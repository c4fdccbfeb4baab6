import RhythmChart.Text.Case

/-!
# Headers

Header sentences name a field and may give it a value. Names are compared in lower case. A
field may be set several times: its latest value counts, and every value is kept in the
order it was set. Fields are listed in the order they were first set.
-/

namespace RhythmChart

/-- The header fields of a chart, each under its lower-case name with all its values. -/
structure Headers where
  entries : List (Text × List (Option Text))
  deriving DecidableEq, Repr

namespace Headers

def empty : Headers := ⟨[]⟩

/-- Adds a value to the field of that key, or a new field at the end. -/
def record (key : Text) (value : Option Text) :
    List (Text × List (Option Text)) → List (Text × List (Option Text))
  | [] => [(key, [value])]
  | (name, values) :: rest =>
      if name = key then (name, values ++ [value]) :: rest
      else (name, values) :: record key value rest

def set (headers : Headers) (name : Text) (value : Option Text) : Headers :=
  ⟨record (Text.lower name) value headers.entries⟩

/-- All values of a field in the order they were set; `none` for a
field that was never set. -/
def getAll? (headers : Headers) (name : Text) : Option (List (Option Text)) :=
  headers.entries.lookup (Text.lower name)

/-- The latest value of a field, if there is one. -/
def get? (headers : Headers) (name : Text) : Option Text :=
  ((headers.getAll? name).bind List.getLast?).join

def contains (headers : Headers) (name : Text) : Bool :=
  (headers.getAll? name).isSome

/-- Every field with its latest value, in the order the fields were first set. -/
def items (headers : Headers) : List (Text × Option Text) :=
  headers.entries.map fun (name, values) => (name, values.getLast?.join)

def each {m : Type → Type} [Monad m] (headers : Headers)
    (visit : Text → Option Text → m Unit) : m Unit :=
  headers.entries.forM fun (name, values) => visit name values.getLast?.join

def size (headers : Headers) : Nat :=
  headers.entries.length

end Headers

end RhythmChart
