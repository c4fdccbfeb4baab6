import RhythmChart.Fault
import RhythmChart.Number.Numeral

/-!
# Finite numbers

A value that is given as a number in any form stands for a finite number or for
none: texts are read as numerals, numbers stand for themselves, and infinite and
undefined ones for none.
-/

namespace RhythmChart

variable {α : Type} [Scalar α]

/-- Whether a value is neither infinite nor undefined. -/
def Scalar.isFinite (x : α) : Bool :=
  !isUndefined (x - x)

/-- The finite number that a field stands for, if there is one. Only numbers, flags and
texts may be given, or nothing. -/
def Field.finite? (given : Field α) : Except (Fault α) (Option α) :=
  match given with
  | .text numeral => .ok (Text.number? numeral)
  | .absent => .ok none
  | _ =>
      given.quantity.map fun value => if Scalar.isFinite value then some value else none

end RhythmChart
