import RhythmChart.Judgment.Basic

/-!
# Timegates

A hit is judged by how far it is from its note. A table of timegates lists judgments from
the best to the worst, each with the distance below which a press, or the release of a
long note, earns it. Beginners' songs have wider gates, the wider the lower their level.
-/

namespace RhythmChart

/-- The distances in seconds below which a press and a release earn a judgment. -/
structure Timegate (α : Type) where
  judgment : Judgment
  gate : α
  endGate : α

namespace Timegate

variable {α : Type} [Scalar α]

/-- A timegate, whose distances must be numbers and not zero or less. A first distance of
zero or less is refused before the second one is looked at. -/
def make (judgment : Judgment) (gate endGate : Field α) :
    Except (Fault α) (Timegate α) := do
  let press ← gate.quantity
  if press ≤ ((0 : Nat) : α) then .error (.gatesNotPositive gate endGate)
  else
    let release ← endGate.quantity
    if release ≤ ((0 : Nat) : α) then .error (.gatesNotPositive gate endGate)
    else return ⟨judgment, press, release⟩

end Timegate

/-- Timegates from the best judgment to the worst. -/
abbrev Timegates (α : Type) := List (Timegate α)

namespace Timegates

variable {α : Type} [Scalar α]

def milliseconds (count : Nat) : α :=
  (Scalar.ofDecimal? false count (-3)).getD ((0 : Nat) : α)

/-- The table with these pairs of gates in milliseconds, ranked from one. -/
def ofMilliseconds (rows : List (Nat × Nat)) : Timegates α :=
  (rows.zipIdx 1).map fun ((gate, endGate), rank) =>
    ⟨⟨rank⟩, milliseconds gate, milliseconds endGate⟩

def normal : Timegates α :=
  ofMilliseconds [(20, 40), (50, 100), (100, 200), (200, 200)]

def levelFive : Timegates α :=
  ofMilliseconds [(21, 42), (60, 120), (120, 200), (200, 200)]

def levelFour : Timegates α :=
  ofMilliseconds [(22, 44), (70, 140), (140, 200), (200, 200)]

def levelThree : Timegates α :=
  ofMilliseconds [(23, 46), (80, 160), (160, 200), (200, 200)]

def absolute : Timegates α :=
  ofMilliseconds [(24, 48), (100, 180), (180, 200), (200, 200)]

def named? (name : String) : Option (Timegates α) :=
  [("normal", normal), ("lv5", levelFive), ("lv4", levelFour), ("lv3", levelThree),
    ("absolute", absolute)].lookup name

/-- In a tutorial, notes before this many seconds are judged as for absolute beginners. -/
def tutorialCutoff : α := ((100 : Nat) : α)

/-- The table for a level of a song that is not too difficult for beginners. -/
def forLevel (level : Int) : Timegates α :=
  if level = 1 ∨ level = 2 then absolute
  else if level = 3 then levelThree
  else if level = 4 then levelFour
  else if level = 5 then levelFive
  else normal

/-- Whether a note of a tutorial is among its easy ones; a note without a time is. -/
def isEarly (noteTime : Option α) : Bool :=
  match noteTime with
  | none => true
  | some time => Scalar.isZero time || decide (time < tutorialCutoff)

def insaneDifficulty : Int := 5

/-- The table for a song. Only tutorials look at the time of the note, and songs of the
highest difficulty are never judged as for beginners. -/
def forSong (difficulty level : Int) (tutorial : Bool) (noteTime : Option α) :
    Timegates α :=
  if tutorial then
    if isEarly noteTime then absolute else normal
  else if insaneDifficulty ≤ difficulty then normal
  else forLevel level

/-- The time given for a note. What counts as no is no time. -/
def noteTime (given : Field α) : Except (Fault α) (Option α) :=
  if given.isTruthy then given.quantity.map some else .ok none

/-- The table for a given level. What is no whole number is no level of beginners. -/
def forGivenLevel (level : Field α) : Except (Fault α) (Timegates α) :=
  match level with
  | .list _ => .error .incomparable
  | .record _ => .error .incomparable
  | _ => .ok ((level.wholeNumber?.map forLevel).getD normal)

/-- The table for a song of which nothing is checked yet. The time of the note is checked
only in tutorials, difficulty and level only outside of them. -/
def forNote (difficulty level tutorial time : Field α) : Except (Fault α) (Timegates α) :=
  if tutorial.isTruthy then (noteTime time).map (forSong 0 0 true)
  else do
    if ← Judgment.reaches difficulty insaneDifficulty then return normal
    else forGivenLevel level

def distance (a b : α) : α :=
  let difference := a - b
  if difference < ((0 : Nat) : α) then ((0 : Nat) : α) - difference else difference

/-- Judges a hit by one of the distances of each gate: the first gate that is wider
than the distance of the hit. Outside all gates, an early hit leaves the note unjudged
and any other misses it. -/
def judgeBy (width : Timegate α → α) (gates : Timegates α) (gameTime noteTime : α) :
    Judgment :=
  match gates.find? fun gate => decide (distance gameTime noteTime < width gate) with
  | some gate => gate.judgment
  | none => if gameTime < noteTime then .unjudged else .missed

def judgeTime : Timegates α → α → α → Judgment :=
  judgeBy Timegate.gate

def judgeEndTime : Timegates α → α → α → Judgment :=
  judgeBy Timegate.endGate

def gateOf (gates : Timegates α) (judgment : Judgment) : Except (Fault α) α :=
  match gates.find? fun gate => gate.judgment == judgment with
  | some gate => .ok gate.gate
  | none => .error (.noGate (judgment.name?.getD []) judgment.rank)

end Timegates

end RhythmChart
