import RhythmChart.Fault

/-!
# Player options

The player chooses where the turntable is, or to have it played automatically, and
whether to play both sides.
-/

namespace RhythmChart

inductive Scratch where
  /-- The turntable is played automatically. -/
  | off
  | left
  | right
  deriving DecidableEq, Repr

def Scratch.ofName? (name : Text) : Option Scratch :=
  if name = ['o', 'f', 'f'] then some off
  else if name = ['l', 'e', 'f', 't'] then some left
  else if name = ['r', 'i', 'g', 'h', 't'] then some right
  else none

structure PlayerOptions where
  scratch : Scratch
  double : Bool
  deriving DecidableEq, Repr

namespace PlayerOptions

def standard : PlayerOptions := ⟨.left, false⟩

def make {α : Type} (scratch : Field α) (double : Bool) :
    Except (Fault α) PlayerOptions :=
  match scratch with
  | .text name =>
      match Scratch.ofName? name with
      | some scratch => .ok ⟨scratch, double⟩
      | none => .error (.unknownScratch (.text name))
  | given => .error (.unknownScratch given)

end PlayerOptions

end RhythmChart
