import RhythmChart.Proofs.Text.Upper

/-!
# Lower case stays as it is

No run of the table moves a character to one that a run moves again, and capital sigma
does not become a capital of another letter. So a text in lower case, and any part of it,
is its own lower case. A text without a capital sigma is lowered character by character.
-/

namespace RhythmChart.Text

def CaseRun.moved (run : CaseRun) (code : Nat) : Nat :=
  ((code : Int) + run.shift).toNat

/-- Whether runs leave alone the code points from `first` to `last`, or
every second of them. -/
def leaveAlone (first last : Nat) (everySecond : Bool) : List CaseRun → Bool
  | [] => true
  | run :: rest =>
      Nat.ble (last + 1) run.first ||
        (Nat.ble (run.last + 1) first ||
          (everySecond && Nat.beq run.stride 2 && Nat.beq ((first + run.first) % 2) 1)) &&
        leaveAlone first last everySecond rest

theorem shiftCase_of_leaveAlone {runs : List CaseRun} {first last : Nat}
    {everySecond : Bool}
    (alone : leaveAlone first last everySecond runs = true) {c : Char}
    (ge : first ≤ c.toNat)
    (le : c.toNat ≤ last) (second : everySecond = true → (c.toNat - first) % 2 = 0) :
    shiftCase runs c = c := by
  induction runs with
  | nil => rfl
  | cons run rest ih =>
      unfold shiftCase
      split
      · rfl
      · rename_i reached
        simp only [leaveAlone, Bool.or_eq_true, Bool.and_eq_true, Nat.ble_eq, Nat.beq_eq]
          at alone
        rcases alone with ahead | ⟨behind | ⟨⟨everySecond, stride⟩, odd⟩, alone⟩
        · omega
        · rw [if_neg (by omega)]
          exact ih alone
        · have even := second everySecond
          split
          · rw [stride, if_neg (by omega)]
          · exact ih alone

theorem shiftCase_eq_or_moved (runs : List CaseRun) (c : Char) :
    shiftCase runs c = c ∨ ∃ run ∈ runs, run.first ≤ c.toNat ∧ c.toNat ≤ run.last ∧
      (c.toNat - run.first) % run.stride = 0 ∧
        shiftCase runs c = Char.ofNat (run.moved c.toNat) := by
  induction runs with
  | nil => exact .inl rfl
  | cons run rest ih =>
      unfold shiftCase
      split
      · exact .inl rfl
      · rename_i reached
        split
        · rename_i inside
          split
          · rename_i onStride
            exact .inr ⟨run, List.mem_cons_self, by omega, inside, onStride, rfl⟩
          · exact .inl rfl
        · refine ih.imp_right ?_
          rintro ⟨run', member, found⟩
          exact ⟨run', List.mem_cons_of_mem run member, found⟩

/-- The code points to which a run moves its own are left alone by the table. -/
def isSettled (run : CaseRun) : Bool :=
  decide (0 ≤ (run.first : Int) + run.shift) &&
    leaveAlone (run.moved run.first) (run.moved run.last)
      (Nat.beq run.stride 2 || Nat.beq run.first run.last) lowerRuns

theorem shiftCase_shiftCase (c : Char) :
    shiftCase lowerRuns (shiftCase lowerRuns c) = shiftCase lowerRuns c := by
  have table : ∀ run ∈ lowerRuns, isSettled run = true := by decide +kernel
  rcases shiftCase_eq_or_moved lowerRuns c with same
    | ⟨run, member, ge, le, onStride, moved⟩
  · rw [same, same]
  · have settled := table run member
    rw [isSettled, Bool.and_eq_true, decide_eq_true_eq] at settled
    obtain ⟨positive, alone⟩ := settled
    rw [moved]
    by_cases nul : Char.ofNat (run.moved c.toNat) = Char.ofNat 0
    · rw [nul]
      decide
    · have code := toNat_eq_of_ofNat_eq rfl nul
      apply shiftCase_of_leaveAlone alone
      · rw [← code, CaseRun.moved, CaseRun.moved]
        omega
      · rw [← code, CaseRun.moved, CaseRun.moved]
        omega
      · rw [← code, CaseRun.moved, CaseRun.moved, Bool.or_eq_true, Nat.beq_eq, Nat.beq_eq]
        rintro (stride | single)
        · rw [stride] at onStride
          omega
        · omega

/-- A character that is no capital. -/
def IsLowered (c : Char) : Prop :=
  c ≠ 'Σ' ∧ lowerChar c = [c]

theorem eq_of_shiftCase_of_untouched {c d : Char} (shifted : shiftCase lowerRuns c = d)
    (untouched : lowerRuns.filterMap (movedOnto? d) = []) (notNul : d ≠ Char.ofNat 0) :
    c = d := by
  rcases shiftCase_mem shifted notNul with same | member
  · exact same
  · rw [untouched] at member
    cases member

theorem isLowered_of_mem_lowerChar {c d : Char} (notSigma : c ≠ 'Σ')
    (member : d ∈ lowerChar c) : IsLowered d := by
  unfold lowerChar at member
  split at member
  · rcases List.mem_cons.mp member with rfl | last
    · exact ⟨by decide, by decide⟩
    · rw [List.mem_singleton.mp last]
      exact ⟨by decide, by decide⟩
  · rename_i notDotted
    have shifted := (List.mem_singleton.mp member).symm
    constructor
    · rintro rfl
      exact notSigma (eq_of_shiftCase_of_untouched shifted (by decide) (by decide))
    · unfold lowerChar
      rw [if_neg, ← shifted, shiftCase_shiftCase]
      rintro rfl
      exact notDotted (eq_of_shiftCase_of_untouched shifted (by decide) (by decide))

theorem mem_lowerFrom {before text : Text} {d : Char}
    (member : d ∈ lowerFrom before text) :
    d = 'ς' ∨ d = 'σ' ∨ ∃ c ∈ text, c ≠ 'Σ' ∧ d ∈ lowerChar c := by
  induction text generalizing before with
  | nil => cases member
  | cons c rest ih =>
      rw [lowerFrom, List.mem_append] at member
      rcases member with first | later
      · by_cases sigma : c = 'Σ'
        · rw [if_pos sigma] at first
          split at first
          · exact .inl (List.mem_singleton.mp first)
          · exact .inr (.inl (List.mem_singleton.mp first))
        · rw [if_neg sigma] at first
          exact .inr (.inr ⟨c, List.mem_cons_self, sigma, first⟩)
      · refine (ih later).imp_right (Or.imp_right ?_)
        rintro ⟨c', member, found⟩
        exact ⟨c', List.mem_cons_of_mem c member, found⟩

theorem isLowered_of_mem_lower {text : Text} {d : Char} (member : d ∈ lower text) :
    IsLowered d := by
  rcases mem_lowerFrom member with rfl | rfl | ⟨c, -, notSigma, member⟩
  · exact ⟨by decide, by decide⟩
  · exact ⟨by decide, by decide⟩
  · exact isLowered_of_mem_lowerChar notSigma member

theorem lowerFrom_eq_flatMap {text : Text} (noSigma : ∀ c ∈ text, c ≠ 'Σ')
    (before : Text) : lowerFrom before text = text.flatMap lowerChar := by
  induction text generalizing before with
  | nil => rfl
  | cons c rest ih =>
      obtain ⟨first, others⟩ := List.forall_mem_cons.mp noSigma
      rw [lowerFrom, if_neg first, ih others, List.flatMap_cons]

theorem lower_eq_flatMap {text : Text} (noSigma : ∀ c ∈ text, c ≠ 'Σ') :
    lower text = text.flatMap lowerChar :=
  lowerFrom_eq_flatMap noSigma []

theorem lower_eq_self {text : Text} (lowered : ∀ c ∈ text, IsLowered c) :
    lower text = text := by
  rw [lower_eq_flatMap fun c member => (lowered c member).1]
  induction text with
  | nil => rfl
  | cons c rest ih =>
      obtain ⟨first, others⟩ := List.forall_mem_cons.mp lowered
      rw [List.flatMap_cons, first.2, ih others]
      rfl

/-- Only a line feed is a line feed in lower case. -/
theorem lineFeed_mem_of_lower {text : Text} (member : '\n' ∈ lower text) :
    '\n' ∈ text := by
  rcases mem_lowerFrom member with final | plain | ⟨c, listed, -, member⟩
  · exact absurd final (by decide)
  · exact absurd plain (by decide)
  · unfold lowerChar at member
    split at member
    · exact absurd member (by decide)
    · have shifted := (List.mem_singleton.mp member).symm
      have same := eq_of_shiftCase_of_untouched shifted (by decide) (by decide)
      exact same ▸ listed

end RhythmChart.Text
