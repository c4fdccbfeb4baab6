import RhythmChart.Fault

/-!
# Judgments

A judgment says how well a note was hit. The four judgments of hits are ranked from one,
the best, to four; lower ranks stand for notes that were not hit.

A rank that is given from outside need not be that of a judgment. Every number has
its place among the ranks.
-/

namespace RhythmChart

/-- A judgment by its rank; among the ranks of gates, a lower one is better. -/
structure Judgment where
  rank : Int
  deriving DecidableEq, Repr

namespace Judgment

def missed : Judgment := ⟨-1⟩

def unjudged : Judgment := ⟨0⟩

def pgreat : Judgment := ⟨1⟩

def great : Judgment := ⟨2⟩

def good : Judgment := ⟨3⟩

/-- A hit that is out of time. -/
def offbeat : Judgment := ⟨4⟩

def names : List (Judgment × String) :=
  [(missed, "MISSED"), (unjudged, "UNJUDGED"), (pgreat, "PGREAT"), (great, "GREAT"),
    (good, "GOOD"), (offbeat, "OFFBEAT")]

def name? (judgment : Judgment) : Option Text :=
  (names.lookup judgment).map String.toList

def ofRank {α : Type} (rank : Int) : Except (Fault α) Judgment :=
  if (names.lookup ⟨rank⟩).isSome then .ok ⟨rank⟩ else .error .unknownJudgment

/-- Whether a judgment is as bad as a hit out of time, or worse. -/
def isBad (judgment : Judgment) : Bool :=
  decide (offbeat.rank ≤ judgment.rank)

def breaksCombo (judgment : Judgment) : Bool :=
  judgment == missed || judgment.isBad

/-- What a judgment counts in the score, in percent. -/
def weight (judgment : Judgment) : Int :=
  if judgment = pgreat then 100
  else if judgment = great then 80
  else if judgment = good then 50
  else 0

variable {α : Type} [Scalar α]

def ofGiven (given : Field α) : Except (Fault α) Judgment :=
  match given.wholeNumber? with
  | some rank => ofRank rank
  | none => .error .unknownJudgment

def reaches (given : Field α) (rank : Int) : Except (Fault α) Bool :=
  match given.wholeNumber?, given with
  | some number, _ => .ok (decide (rank ≤ number))
  | none, .number value =>
      .ok ((Scalar.ofInteger? rank).any fun rank => decide (rank ≤ value))
  | none, _ => .error .incomparable

def isBadGiven (given : Field α) : Except (Fault α) Bool :=
  reaches given offbeat.rank

def breaksComboGiven (given : Field α) : Except (Fault α) Bool :=
  if given.wholeNumber? = some missed.rank then .ok true else isBadGiven given

def weightGiven (given : Field α) : Int :=
  (given.wholeNumber?.map fun rank => weight ⟨rank⟩).getD 0

end Judgment

end RhythmChart
