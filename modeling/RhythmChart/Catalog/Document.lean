import RhythmChart.Field

/-!
# Documents

Summaries are written as documents of nested lists and records. Written out,
every entry of a list or record stands on a line of its own, four spaces further
in than what it belongs to.
-/

namespace RhythmChart

inductive Document (α : Type) where
  | integer (value : Int)
  | number (value : α)
  | text (value : Text)
  | list (entries : List (Document α))
  | record (entries : List (Text × Document α))

namespace Document

def escaped (c : Char) : Text :=
  if c = '"' ∨ c = '\\' then ['\\', c]
  else if c = '\n' then ['\\', 'n']
  else if c = '\r' then ['\\', 'r']
  else if c = '\t' then ['\\', 't']
  else if c.toNat = 8 then ['\\', 'b']
  else if c.toNat = 12 then ['\\', 'f']
  else if c.toNat < 0x20 then '\\' :: 'u' :: Text.hexadecimal 4 c.toNat
  else [c]

def quoted (text : Text) : Text :=
  '"' :: text.flatMap escaped ++ ['"']

def numberText (x : Float) : Text :=
  if x.isNaN then "NaN".toList
  else if x.isFinite then Shortest.text x
  else if x < 0 then "-Infinity".toList
  else "Infinity".toList

def newLine (depth : Nat) : Text :=
  '\n' :: List.replicate (4 * depth) ' '

mutual

/-- The document written out at a depth. -/
def render (depth : Nat) : Document Float → Text
  | integer value => decimalText value
  | number value => numberText value
  | text value => quoted value
  | list [] => ['[', ']']
  | list (entry :: rest) =>
      '[' :: newLine (depth + 1) ++ render (depth + 1) entry ++
          renderList (depth + 1) rest ++ newLine depth ++ [']']
  | record [] => ['\x7b', '\x7d']
  | record ((key, entry) :: rest) =>
      '\x7b' :: newLine (depth + 1) ++ quoted key ++ [':', ' '] ++
          render (depth + 1) entry ++
        renderRecord (depth + 1) rest ++ newLine depth ++ ['\x7d']

def renderList (depth : Nat) : List (Document Float) → Text
  | [] => []
  | entry :: rest => ',' :: newLine depth ++ render depth entry ++ renderList depth rest

def renderRecord (depth : Nat) : List (Text × Document Float) → Text
  | [] => []
  | (key, entry) :: rest =>
      ',' :: newLine depth ++ quoted key ++ [':', ' '] ++ render depth entry ++
        renderRecord depth rest

end

end Document

end RhythmChart
