import RhythmChart.Text.Basic
import RhythmChart.Text.CaseRuns
import RhythmChart.Text.CasedRanges
import RhythmChart.Text.CaseIgnorableRanges

/-!
# Lower and upper case

Header names and keysound ids are compared in lower case, channel codes in upper case.
Both mappings are the full ones: a letter may become several characters, and a capital
sigma becomes the final small sigma at the end of a word.
-/

namespace RhythmChart.Text

/-- Moves a character by the run it belongs to, if any. -/
def shiftCase : List CaseRun → Char → Char
  | [], c => c
  | run :: rest, c =>
      if c.toNat < run.first then c
      else if c.toNat ≤ run.last then
        if (c.toNat - run.first) % run.stride = 0 then
          Char.ofNat (c.toNat + run.shift).toNat
        else c
      else shiftCase rest c

/-- The lower case of a character whose neighbours do not matter. -/
def lowerChar (c : Char) : Text :=
  if c = 'İ' then ['i', '\u0307'] else [shiftCase lowerRuns c]

def upperChar (c : Char) : Text :=
  match longUppers.find? (·.1 == c.toNat) with
  | some (_, codes) => codes.map Char.ofNat
  | none => [shiftCase upperRuns c]

/-- Whether the first character that counts is a cased one. -/
def meetsCased (text : Text) : Bool :=
  match text.dropWhile (fun c => inRanges caseIgnorableRanges c.toNat) with
  | [] => false
  | c :: _ => inRanges casedRanges c.toNat

/-- Lower case of the rest of a text, after the characters `before` in reverse: a capital
sigma with a cased character before it and none after it is final. -/
def lowerFrom : (before : Text) → Text → Text
  | _, [] => []
  | before, c :: rest =>
      (if c = 'Σ' then (if meetsCased before && !meetsCased rest then ['ς'] else ['σ'])
        else lowerChar c) ++ lowerFrom (c :: before) rest

def lower (text : Text) : Text :=
  lowerFrom [] text

def upper (text : Text) : Text :=
  text.flatMap upperChar

end RhythmChart.Text
