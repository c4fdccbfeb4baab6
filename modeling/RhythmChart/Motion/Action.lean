import RhythmChart.Number.Scalar
import RhythmChart.Sorting.Adaptive

/-!
# Timing actions

Tempo changes and stops are what changes the flow of time. They are put in the order of
their beats; on one beat, tempo changes come before stops.
-/

namespace RhythmChart

/-- A change of the flow of time on a beat. -/
inductive TimingAction (α : Type) where
  | tempo (beat bpm : α)
  /-- Time goes on while the beat stands still, for the length of some beats. -/
  | stop (beat length : α)

namespace TimingAction

variable {α : Type}

def beat : TimingAction α → α
  | tempo beat _ => beat
  | stop beat _ => beat

inductive Kind where
  | tempo
  | stop
  deriving DecidableEq, Repr

/-- On one beat, tempo changes come first. -/
def Kind.rank : Kind → Nat
  | tempo => 1
  | stop => 2

def kind : TimingAction α → Kind
  | tempo _ _ => .tempo
  | stop _ _ => .stop

variable [Scalar α]

def comesBefore (a b : α × Kind) : Bool :=
  if a.1 == b.1 then decide (a.2.rank < b.2.rank) else decide (a.1 < b.1)

/-- Entries in the order of their beats and kinds. An undefined beat has no order. -/
def inOrder {σ : Type} (beat : σ → α) (kind : σ → Kind) (entries : List σ) : List σ :=
  sortPartly (fun entry => Scalar.isUndefined (beat entry))
    (fun a b => comesBefore (beat a, kind a) (beat b, kind b)) entries

theorem inOrder_perm {σ : Type} (beat : σ → α) (kind : σ → Kind) (entries : List σ) :
    (inOrder beat kind entries).Perm entries :=
  sortPartly_perm _ _ _

def same : TimingAction α → TimingAction α → Bool
  | tempo beat bpm, tempo beat' bpm' => Scalar.same beat beat' && Scalar.same bpm bpm'
  | stop beat length, stop beat' length' =>
      Scalar.same beat beat' && Scalar.same length length'
  | _, _ => false

def isBadTempo : TimingAction α → Bool
  | tempo _ bpm => decide (bpm ≤ ((0 : Nat) : α))
  | stop _ _ => false

/-- Takes bad tempo changes out: for each one, the first action that
is the same is erased. -/
def dropBadTempos (actions : List (TimingAction α)) : List (TimingAction α) :=
  actions.foldl (fun rest action =>
    if action.isBadTempo then rest.eraseP action.same else rest) actions

end TimingAction

end RhythmChart
