import RhythmChart.Compilation.Gate

/-!
# Open blocks and choices

Which blocks a sentence stands in, which of their branches are taken and which random
choice decided them is settled by the control sentences before it. Reading these
backwards, every closing sentence takes the nearest opening one of its kind that is still
unmatched; a closing sentence that finds none takes nothing. A gate keeps two stacks
instead, and they hold exactly what is found in this way.

A history lists control sentences, the latest first. Open blocks and open choices are
counted from the innermost one, which has depth zero.
-/

namespace RhythmChart

namespace Control

def isRandom : Control → Bool
  | .random _ => true
  | _ => false

def nextDraw (draws : List Int) (history : List Control) : Int :=
  draws.getD (history.countP isRandom) 1

/-- The number drawn by the open random choice at a depth. -/
def openDraw? (draws : List Int) : (depth : Nat) → List Control → Option Int
  | _, [] => none
  | depth, control :: earlier =>
      match control, depth with
      | .random _, 0 => some (nextDraw draws earlier)
      | .random _, depth + 1 => openDraw? draws depth earlier
      | .endRandom, depth => openDraw? draws (depth + 1) earlier
      | _, depth => openDraw? draws depth earlier

/-- Whether the open block at a depth is in its taken branch. It starts taken if its
number was drawn by the innermost random choice that was open then; every swap while it is
innermost turns it over. -/
def openBlock? (draws : List Int) : (depth : Nat) → List Control → Option Bool
  | _, [] => none
  | depth, control :: earlier =>
      match control, depth with
      | .ifDrawn value, 0 => some (openDraw? draws 0 earlier == some (value : Int))
      | .ifDrawn _, depth + 1 => openBlock? draws depth earlier
      | .orElse, 0 => (openBlock? draws 0 earlier).map not
      | .endIf, depth => openBlock? draws (depth + 1) earlier
      | _, depth => openBlock? draws depth earlier

/-- Whether a block is open does not depend on what was drawn. -/
theorem isSome_openBlock? (draws others : List Int) (depth : Nat)
    (history : List Control) :
    (openBlock? draws depth history).isSome =
      (openBlock? others depth history).isSome := by
  induction history generalizing depth with
  | nil => rfl
  | cons control earlier ih =>
      cases control with
      | random bound => exact ih depth
      | ifDrawn value =>
          cases depth with
          | zero => rfl
          | succ depth => exact ih depth
      | orElse =>
          cases depth with
          | zero => simpa [openBlock?] using ih 0
          | succ depth => exact ih (depth + 1)
      | endIf => exact ih (depth + 1)
      | endRandom => exact ih depth

end Control

namespace Gate

def after (draws : List Int) (history : List Control) : Gate :=
  history.foldr (fun control gate => gate.step control) (start draws)

@[simp]
theorem after_nil (draws : List Int) : after draws [] = start draws := rfl

@[simp]
theorem after_cons (draws : List Int) (control : Control) (earlier : List Control) :
    after draws (control :: earlier) = (after draws earlier).step control := rfl

theorem draws_after (draws : List Int) (history : List Control) :
    (after draws history).draws = draws.drop (history.countP Control.isRandom) := by
  induction history with
  | nil => rfl
  | cons control earlier ih =>
      cases control <;> simp [step, Control.isRandom, List.countP_cons, ih]

/-- The stack of drawn numbers holds those of the open choices. -/
theorem drawn_after (draws : List Int) (depth : Nat) (history : List Control) :
    (after draws history).drawn[depth]? = Control.openDraw? draws depth history := by
  induction history generalizing depth with
  | nil => rfl
  | cons control earlier ih =>
      cases control with
      | random bound =>
          cases depth with
          | zero =>
              simp [step, Control.openDraw?, Control.nextDraw, draws_after,
                List.head?_drop, List.headD_eq_head?_getD, List.getD_eq_getElem?_getD]
          | succ depth => simpa [step, Control.openDraw?] using ih depth
      | ifDrawn value => simpa [step, Control.openDraw?] using ih depth
      | orElse => simpa [step, Control.openDraw?] using ih depth
      | endIf => simpa [step, Control.openDraw?] using ih depth
      | endRandom => simpa [step, Control.openDraw?] using ih (depth + 1)

private theorem swapBranch_getElem?_zero (blocks : List Bool) :
    (swapBranch blocks)[0]? = blocks[0]?.map not := by
  cases blocks <;> rfl

private theorem swapBranch_getElem?_succ (blocks : List Bool) (depth : Nat) :
    (swapBranch blocks)[depth + 1]? = blocks[depth + 1]? := by
  cases blocks <;> rfl

/-- The stack of blocks holds the branches of the open blocks. -/
theorem blocks_after (draws : List Int) (depth : Nat) (history : List Control) :
    (after draws history).blocks[depth]? =
      (Control.openBlock? draws depth history).map not := by
  induction history generalizing depth with
  | nil => rfl
  | cons control earlier ih =>
      cases control with
      | random bound => simpa [step, Control.openBlock?] using ih depth
      | ifDrawn value =>
          cases depth with
          | zero =>
              have innermost := drawn_after draws 0 earlier
              rw [← List.head?_eq_getElem?] at innermost
              simp [step, Control.openBlock?, innermost, bne]
          | succ depth => simpa [step, Control.openBlock?] using ih depth
      | orElse =>
          cases depth with
          | zero => simp [step, Control.openBlock?, swapBranch_getElem?_zero, ih 0]
          | succ depth =>
              simpa [step, Control.openBlock?, swapBranch_getElem?_succ] using ih
                (depth + 1)
      | endIf => simpa [step, Control.openBlock?] using ih (depth + 1)
      | endRandom => simpa [step, Control.openBlock?] using ih depth

/-- Content is skipped exactly when the innermost open block is in its other branch. -/
theorem skips_after (draws : List Int) (history : List Control) :
    (after draws history).skips = (Control.openBlock? draws 0 history == some false) := by
  have innermost := blocks_after draws 0 history
  rw [← List.head?_eq_getElem?] at innermost
  unfold skips
  rw [List.headD_eq_head?_getD, innermost]
  rcases Control.openBlock? draws 0 history with _ | taken
  · rfl
  · cases taken <;> rfl

end Gate

end RhythmChart
