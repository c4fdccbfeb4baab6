import RhythmChart.Encoding.KsBlocks

/-!
# EUC-KR

A character takes one byte if it is ASCII, and two otherwise. A syllable may also be spelt
out in eight bytes: a filler, and then a first consonant, a vowel and a last consonant, or
one more filler where there is none.
-/

namespace RhythmChart.EucKr

def cell? (first second : Nat) : Option Nat :=
  if 0xA1 ≤ first ∧ first ≤ 0xFE ∧ 0xA1 ≤ second ∧ second ≤ 0xFE then
    some (94 * (first - 0xA1) + (second - 0xA1))
  else none

def pair? (first second : Nat) : Option Char :=
  (cell? first second).bind (CharBlock.find? ksBlocks)

/-- The byte in front of each part of a syllable. -/
def mark : Nat := 0xA4

def filler : Nat := 0xD4

/-- The consonants and vowels in the order of their second bytes. -/
def letters : Text :=
  ("ㄱㄲㄳㄴㄵㄶㄷㄸㄹㄺㄻㄼㄽㄾㄿㅀㅁㅂㅃㅄㅅㅆㅇㅈㅉㅊㅋㅌㅍㅎ" ++
    "ㅏㅐㅑㅒㅓㅔㅕㅖㅗㅘㅙㅚㅛㅜㅝㅞㅟㅠㅡㅢㅣ").toList

def initials : Text := "ㄱㄲㄴㄷㄸㄹㅁㅂㅃㅅㅆㅇㅈㅉㅊㅋㅌㅍㅎ".toList

def vowels : Text := "ㅏㅐㅑㅒㅓㅔㅕㅖㅗㅘㅙㅚㅛㅜㅝㅞㅟㅠㅡㅢㅣ".toList

def finals : Text := "ㄱㄲㄳㄴㄵㄶㄷㄹㄺㄻㄼㄽㄾㄿㅀㅁㅂㅄㅅㅆㅇㅈㅊㅋㅌㅍㅎ".toList

def place? (alphabet : Text) (byte : Nat) : Option Nat :=
  if byte < 0xA1 then none else (letters[byte - 0xA1]?).bind (alphabet.idxOf? ·)

def final? (byte : Nat) : Option Nat :=
  if byte = filler then some 0 else (place? finals byte).map (· + 1)

/-- The syllable that is spelt by three parts, each of which has its own mark. -/
def syllable? (marks : List Nat) (initial vowel final : Nat) : Option Char := do
  if marks.all (· == mark) then
    let initial ← place? initials initial
    let vowel ← place? vowels vowel
    let final ← final? final
    return Char.ofNat (0xAC00 + 588 * initial + 28 * vowel + final)
  else none

def ascii? (byte : Nat) : Option Char :=
  if byte < 0x80 then some (Char.ofNat byte) else none

/-- Decodes bytes; `none` stands for an invalid place. A syllable that is not spelt to its
end is a single one with all that follows. -/
def decode : List Nat → List (Option Char)
  | [] => []
  | [byte] => [ascii? byte]
  | first :: second :: rest =>
      if first < 0x80 then ascii? first :: decode (second :: rest)
      else if first = mark ∧ second = filler then
        match rest with
        | a :: initial :: b :: vowel :: c :: final :: others =>
            match syllable? [a, b, c] initial vowel final with
            | some syllable => some syllable :: decode others
            | none => none ::
              decode (second :: a :: initial :: b :: vowel :: c :: final :: others)
        | _ => [none]
      else
        match pair? first second with
        | some c => some c :: decode rest
        | none => none :: decode (second :: rest)

end RhythmChart.EucKr
