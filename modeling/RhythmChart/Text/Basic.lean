/-!
# Texts

Chart sources, header values and channel codes are all read character by character, so a
text is the list of its characters. Properties of characters that need a table are given
as ascending ranges of code points, and `inRanges` looks a code point up in such a table.
-/

namespace RhythmChart

/-- A text, as the list of its characters. -/
abbrev Text := List Char

namespace Text

-- Statements about the characters of a text are decided along the text. Mathlib would try
-- every character there is.
instance decidableForallMem (text : Text) (p : Char → Prop) [DecidablePred p] :
    Decidable (∀ c ∈ text, p c) :=
  List.decidableBAll p text

instance decidableExistsMem (text : Text) (p : Char → Prop) [DecidablePred p] :
    Decidable (∃ c ∈ text, p c) :=
  List.decidableBEx p text

/-- Membership in a table of inclusive ranges that ascend; the search stops at the first
range that starts beyond the code point. -/
def inRanges : List (Nat × Nat) → Nat → Bool
  | [], _ => false
  | (first, last) :: rest, code =>
      if code < first then false else decide (code ≤ last) || inRanges rest code

/-- Whether the text starts with `lead`, and if so what follows it. -/
def after? : (lead : Text) → Text → Option Text
  | [], text => some text
  | _ :: _, [] => none
  | l :: lead, c :: text => if l = c then after? lead text else none

theorem after?_append (lead text : Text) : after? lead (lead ++ text) = some text := by
  induction lead with
  | nil => rfl
  | cons l lead ih => simp [after?, ih]

theorem eq_append_of_after? {lead text rest : Text}
    (found : after? lead text = some rest) : text = lead ++ rest := by
  induction lead generalizing text with
  | nil => simpa [after?] using found
  | cons l lead ih =>
      cases text with
      | nil => simp [after?] at found
      | cons c text =>
          by_cases same : l = c
          · simp [after?, same] at found
            simp [same, ih found]
          · simp [after?, same] at found

/-- Splits a text in front of every character that breaks it; the breaking characters
belong to no piece, and a text without one is a single piece. -/
def piecesFrom (breaks : Char → Bool) (current : Text) : Text → List Text
  | [] => [current.reverse]
  | c :: rest =>
      if breaks c then current.reverse :: piecesFrom breaks [] rest
      else piecesFrom breaks (c :: current) rest

def pieces (breaks : Char → Bool) (text : Text) : List Text :=
  piecesFrom breaks [] text

end Text

end RhythmChart
