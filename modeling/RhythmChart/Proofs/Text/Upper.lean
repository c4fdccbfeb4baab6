import RhythmChart.Text.Case

/-!
# What becomes a capital

Only few characters have a given single character as their upper case: that character
itself, and those that one of the runs moves onto it. For the leading characters of
channels nothing outside the ASCII range is among them.
-/

namespace RhythmChart.Text

/-- The character that a run moves onto `d`, if it lies between the ends of the run. -/
def movedOnto? (d : Char) (run : CaseRun) : Option Char :=
  let source := (d.toNat : Int) - run.shift
  if (run.first : Int) ≤ source ∧ source ≤ run.last then some (Char.ofNat source.toNat)
  else none

/-- The characters that may have `d` as their upper case. -/
def upperSources (d : Char) : List Char :=
  d :: upperRuns.filterMap (movedOnto? d)

theorem toNat_eq_of_ofNat_eq {code : Nat} {d : Char} (made : Char.ofNat code = d)
    (notNul : d ≠ Char.ofNat 0) : code = d.toNat := by
  subst made
  by_cases valid : code.isValidChar
  · rw [Char.ofNat, dif_pos valid]
    rfl
  · rw [Char.ofNat, dif_neg valid] at notNul
    exact absurd rfl notNul

theorem shiftCase_mem {runs : List CaseRun} {c d : Char} (shifted : shiftCase runs c = d)
    (notNul : d ≠ Char.ofNat 0) : c = d ∨ c ∈ runs.filterMap (movedOnto? d) := by
  induction runs with
  | nil => exact .inl shifted
  | cons run rest ih =>
      unfold shiftCase at shifted
      split at shifted
      · exact .inl shifted
      · split at shifted
        · split at shifted
          · have moved := toNat_eq_of_ofNat_eq shifted notNul
            have positive : 0 < d.toNat := by
              rcases Nat.eq_zero_or_pos d.toNat with zero | positive
              · exact absurd (by rw [← Char.ofNat_toNat d, zero]) notNul
              · exact positive
            have source : (d.toNat : Int) - run.shift = c.toNat := by omega
            refine .inr (List.mem_filterMap.mpr ⟨run, List.mem_cons_self, ?_⟩)
            simp only [movedOnto?, source, Int.toNat_natCast, Char.ofNat_toNat]
            exact if_pos ⟨by omega, by omega⟩
          · exact .inl shifted
        · rcases ih shifted with same | member
          · exact .inl same
          · rw [List.filterMap_cons]
            split
            · exact .inr member
            · exact .inr (List.mem_cons_of_mem _ member)

/-- No single character is listed as a long upper case. -/
theorem mem_upperSources {c d : Char} (upper : upperChar c = [d])
    (notNul : d ≠ Char.ofNat 0) : c ∈ upperSources d := by
  have long : ∀ entry ∈ longUppers, entry.2.length ≠ 1 := by decide
  unfold upperChar at upper
  split at upper
  · rename_i codes found
    have entry := long _ (List.mem_of_find?_eq_some found)
    have length := congrArg List.length upper
    rw [List.length_map] at length
    exact absurd length entry
  · rcases shiftCase_mem (List.cons.inj upper).1 notNul with same | member
    · rw [same]
      exact List.mem_cons_self
    · exact List.mem_cons_of_mem _ member

theorem upperChar_ne_nil (c : Char) : upperChar c ≠ [] := by
  have long : ∀ entry ∈ longUppers, entry.2 ≠ [] := by decide
  unfold upperChar
  split
  · rename_i codes found
    have entry := long _ (List.mem_of_find?_eq_some found)
    simpa using entry
  · exact List.cons_ne_nil _ _

/-- Two characters have two capitals only if each has one of them. -/
theorem upper_pair {c d first second : Char}
    (upper : Text.upper [c, d] = [first, second]) :
    upperChar c = [first] ∧ upperChar d = [second] := by
  have parts : upperChar c ++ upperChar d = [first, second] := by
    simpa [Text.upper] using upper
  rcases List.append_eq_cons_iff.mp parts with ⟨none, -⟩ | ⟨rest, starts, ends⟩
  · exact absurd none (upperChar_ne_nil c)
  · rcases List.append_eq_singleton_iff.mp ends.symm with ⟨none, all⟩ | ⟨-, none⟩
    · exact ⟨none ▸ starts, all⟩
    · exact absurd none (upperChar_ne_nil d)

end RhythmChart.Text
