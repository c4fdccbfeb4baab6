import RhythmChart.Text.Basic

/-!
# Two-character codes

Channels and object values are codes of exactly two characters.
-/

namespace RhythmChart

structure Code where
  first : Char
  second : Char
  deriving DecidableEq, Repr

namespace Code

def text (code : Code) : Text :=
  [code.first, code.second]

def ofText? : Text → Option Code
  | [first, second] => some ⟨first, second⟩
  | _ => none

theorem ofText?_eq_some_iff {text : Text} {code : Code} :
    ofText? text = some code ↔ text = code.text := by
  constructor
  · intro found
    unfold ofText? at found
    split at found
    · cases found; rfl
    · cases found
  · rintro rfl; rfl

/-- The channel of background keysounds, on which objects never replace each other. -/
def background : Code := ⟨'0', '1'⟩

def measureSize : Code := ⟨'0', '2'⟩

/-- The channel of tempo changes written as hexadecimal values. -/
def plainTempo : Code := ⟨'0', '3'⟩

/-- The channel of tempo changes that refer to a header. -/
def namedTempo : Code := ⟨'0', '8'⟩

def stop : Code := ⟨'0', '9'⟩

def scroll : Code := ⟨'S', 'C'⟩

def spacing : Code := ⟨'S', 'P'⟩

/-- The value that marks an empty slot. -/
def empty : Code := ⟨'0', '0'⟩

end Code

end RhythmChart
