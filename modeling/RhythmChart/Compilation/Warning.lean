import RhythmChart.Sentence.Basic
import RhythmChart.Text.Quoted

/-!
# Warnings

Compilation never fails on a sentence. What it cannot use it reports
with the number of the line.
-/

namespace RhythmChart

/-- Why a sentence was not used, or not used in full. -/
inductive Issue where
  | malformed (line : Text)
  | invalidSize (size : Text)
  | oddData (data : Text)
  | unmatchedElse
  | unmatchedEndIf
  deriving DecidableEq, Repr

namespace Issue

def message : Issue → String
  | malformed line => "Invalid command: " ++ .ofList line
  | invalidSize size => "Invalid measure size: " ++ .ofList size.quoted
  | oddData data =>
      "Channel data has an odd length, ignoring the last character: " ++ .ofList data
  | unmatchedElse => "#ELSE without a matching #IF, ignoring"
  | unmatchedEndIf => "#ENDIF without a matching #IF, ignoring"

def ofUnmatched? : Control → Option Issue
  | .orElse => some unmatchedElse
  | .endIf => some unmatchedEndIf
  | _ => none

end Issue

structure Warning where
  line : Nat
  issue : Issue
  deriving DecidableEq, Repr

end RhythmChart
