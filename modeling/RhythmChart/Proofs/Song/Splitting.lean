import Mathlib.Data.List.Induction
import Mathlib.Order.WellFounded
import RhythmChart.Proofs.Text.Margins
import RhythmChart.Song.Subtitle

/-!
# Splitting titles

A title may be taken apart in several styles, and in one style at several places. The
search goes backwards from the end of the title and takes the first place that will do,
which is the one with the shortest subtitle. Since the character that opens a subtitle is
visible, it is also the one that leaves the longest heading.
-/

namespace RhythmChart.SubtitleStyle

/-- A title is a heading that ends visibly, blanks, and a subtitle between the
characters of a style. -/
structure Decomposes (style : SubtitleStyle) (title heading subtitle : Text) : Prop where
  ends : Text.EndsVisibly heading
  written : ∃ gap, (∀ c ∈ gap, Text.isBlank c = true) ∧
    title = heading ++ gap ++ style.opening :: subtitle ++ [style.closing]
  nonempty : subtitle ≠ []

/-- No other decomposition in the style has a longer heading. -/
structure IsLongest (style : SubtitleStyle) (title heading subtitle : Text) : Prop where
  decomposes : style.Decomposes title heading subtitle
  longest : ∀ {heading' subtitle'}, style.Decomposes title heading' subtitle' →
    heading'.length ≤ heading.length

/-- The decomposition with the longest heading in the first style that
has a decomposition. -/
def IsPreferred (title heading subtitle : Text) : Prop :=
  ∃ before style after, all = before ++ style :: after ∧
    style.IsLongest title heading subtitle ∧
      ∀ earlier ∈ before, ∀ heading' subtitle',
        ¬earlier.Decomposes title heading' subtitle'

/-- A subtitle is opened in what stands before the closing character. -/
structure Opens (style : SubtitleStyle) (body heading subtitle : Text) : Prop where
  split : ∃ before, body = before ++ style.opening :: subtitle ∧
    heading = Text.trimEnd before
  headed : heading ≠ []
  nonempty : subtitle ≠ []

variable {style : SubtitleStyle} {title body heading subtitle heading' subtitle' : Text}

theorem decomposes_iff_opens :
    style.Decomposes title heading subtitle ↔
      ∃ body, title = body ++ [style.closing] ∧ style.Opens body heading subtitle := by
  constructor
  · rintro ⟨ends, ⟨gap, blank, written⟩, nonempty⟩
    refine ⟨heading ++ gap ++ style.opening :: subtitle, written, ?_⟩
    have trimmed := Text.trimEnd_append_gap ends blank
    exact ⟨⟨heading ++ gap, rfl, trimmed.symm⟩, ends.ne_nil, nonempty⟩
  · rintro ⟨body, written, ⟨before, split, rfl⟩, headed, nonempty⟩
    obtain ⟨gap, blank, margin⟩ := Text.exists_margin before
    refine ⟨Text.endsVisibly_trimEnd headed, ⟨gap, blank, ?_⟩, nonempty⟩
    rw [written, split, ← margin]

theorem Decomposes.length_le (decomposes : style.Decomposes title heading subtitle) :
    heading.length ≤ title.length := by
  obtain ⟨gap, -, written⟩ := decomposes.written
  simp only [written, List.length_append]
  omega

theorem exists_isLongest (decomposes : style.Decomposes title heading subtitle) :
    ∃ heading subtitle, style.IsLongest title heading subtitle := by
  obtain ⟨⟨longest, rest⟩, decomposes, least⟩ :=
    (measure fun parts : Text × Text => title.length - parts.1.length).wf.has_min
      {parts | style.Decomposes title parts.1 parts.2} ⟨(heading, subtitle), decomposes⟩
  refine ⟨longest, rest, decomposes, ?_⟩
  intro other subtitle' decomposes'
  have notLess : ¬title.length - other.length < title.length - longest.length :=
    least (other, subtitle') decomposes'
  have inTitle := decomposes'.length_le
  have inTitle' : longest.length ≤ title.length := Decomposes.length_le decomposes
  omega

theorem visible_opening : ∀ style ∈ all, Text.isBlank style.opening = false := by
  decide

/-! ## The search for the opening character -/

theorem Opens.here_iff {c : Char} {before passed : Text} :
    style.Opens (before ++ c :: passed) heading passed ↔
      c = style.opening ∧ passed ≠ [] ∧ heading ≠ [] ∧ heading = Text.trimEnd before := by
  constructor
  · rintro ⟨⟨before', split, trimmed⟩, headed, nonempty⟩
    obtain ⟨rfl, same⟩ := List.append_inj' split rfl
    exact ⟨(List.cons.inj same).1, nonempty, headed, trimmed⟩
  · rintro ⟨rfl, nonempty, headed, trimmed⟩
    exact ⟨⟨before, rfl, trimmed⟩, headed, nonempty⟩

theorem opens_of_openingFrom? {passed before : Text}
    (found : openingFrom? style passed before = some (heading, subtitle)) :
    style.Opens (before.reverse ++ passed) heading subtitle := by
  induction before generalizing passed with
  | nil => cases found
  | cons c before ih =>
      rw [List.reverse_cons, List.append_assoc, List.singleton_append]
      simp only [openingFrom?] at found
      split at found
      · rename_i fits
        cases found
        exact Opens.here_iff.mpr ⟨fits.1, fits.2.1, fits.2.2.1, rfl⟩
      · split at found
        · cases found
        · exact ih found

/-- Of the subtitles that begin no later than what was passed, the
shortest one is found. -/
theorem openingFrom?_of_shortest {passed before : Text} (noFeed : '\n' ∉ before)
    (opens : style.Opens (before.reverse ++ passed) heading subtitle)
    (behind : passed.length ≤ subtitle.length)
    (shortest : ∀ heading' subtitle',
      style.Opens (before.reverse ++ passed) heading' subtitle' →
      passed.length ≤ subtitle'.length → subtitle.length ≤ subtitle'.length) :
    openingFrom? style passed before = some (heading, subtitle) := by
  induction before generalizing passed with
  | nil =>
      obtain ⟨before, split, -⟩ := opens.split
      have length := congrArg List.length split
      simp only [List.reverse_nil, List.nil_append, List.length_append, List.length_cons]
        at length
      omega
  | cons c before ih =>
      rw [List.reverse_cons, List.append_assoc, List.singleton_append] at opens shortest
      obtain ⟨notFeed, noFeed⟩ := List.ne_and_not_mem_of_not_mem_cons noFeed
      have inLine : '\n' ∉ Text.trimEnd before.reverse := fun member =>
        noFeed (List.mem_reverse.mp (Text.trimEnd_subset _ member))
      have fits_iff :
          (c = style.opening ∧ passed ≠ [] ∧ Text.trimEnd before.reverse ≠ [] ∧
          '\n' ∉ Text.trimEnd before.reverse) ↔
          style.Opens (before.reverse ++ c :: passed) (Text.trimEnd before.reverse)
            passed := by
        simp [Opens.here_iff, inLine]
      simp only [openingFrom?]
      by_cases here : subtitle.length = passed.length
      · obtain ⟨before', split, -⟩ := opens.split
        obtain ⟨-, same⟩ := List.append_inj' split (by simp [here])
        obtain rfl : passed = subtitle := (List.cons.inj same).2
        obtain ⟨opening, nonempty, headed, rfl⟩ := Opens.here_iff.mp opens
        exact if_pos ⟨opening, nonempty, headed, inLine⟩
      · have later : (c :: passed).length ≤ subtitle.length := by
          simp only [List.length_cons]
          omega
        rw [if_neg, if_neg (Ne.symm notFeed)]
        · apply ih noFeed opens later
          intro heading' subtitle' opens' later'
          exact shortest heading' subtitle' opens'
            (by simp only [List.length_cons] at later'; omega)
        · -- A fit here would be a shorter subtitle.
          intro fits
          have shorter := shortest _ _ (fits_iff.mp fits) le_rfl
          omega

/-- Where the opening character is visible, shorter subtitles come
with longer headings. -/
theorem Opens.length_heading_lt (visible : Text.isBlank style.opening = false)
    (opens : style.Opens body heading subtitle)
    (opens' : style.Opens body heading' subtitle')
    (shorter : subtitle'.length < subtitle.length) :
    heading.length < heading'.length := by
  obtain ⟨before, split, rfl⟩ := opens.split
  obtain ⟨before', split', rfl⟩ := opens'.split
  rcases List.append_eq_append_iff.mp (split.symm.trans split') with
    ⟨inside, longer, rest⟩ | ⟨inside, -, rest⟩
  · cases inside with
    | nil =>
        have length := congrArg List.length rest
        simp only [List.nil_append, List.length_cons] at length
        omega
    | cons c inside =>
        obtain ⟨rfl, -⟩ := List.cons.inj rest
        rw [longer]
        exact Text.length_trimEnd_lt visible before inside
  · have length := congrArg List.length rest
    simp only [List.length_append, List.length_cons] at length
    omega

/-! ## Splitting in one style -/

theorem beforeClosing?_eq_some_iff (noFeed : '\n' ∉ title) :
    beforeClosing? style title = some body ↔ title = body ++ [style.closing] := by
  induction title using List.reverseRecOn with
  | nil => simp [beforeClosing?]
  | append_singleton rest last _ =>
      have notFeed : last ≠ '\n' := by
        rintro rfl
        exact noFeed (by simp)
      simp only [beforeClosing?, List.reverse_append, List.reverse_singleton,
        List.singleton_append, List.reverse_reverse, notFeed, false_and, if_false]
      constructor
      · intro found
        split at found
        · rename_i closed
          rw [closed, Option.some.inj found]
        · cases found
      · intro written
        obtain ⟨rfl, closed⟩ := List.append_inj' written rfl
        exact if_pos (List.cons.inj closed).1

section Style

variable (noFeed : '\n' ∉ title)

include noFeed

theorem decomposes_of_split? (found : split? style title = some (heading, subtitle)) :
    style.Decomposes title heading subtitle := by
  obtain ⟨body, closed, opened⟩ := Option.bind_eq_some_iff.mp found
  have opens := opens_of_openingFrom? opened
  rw [List.reverse_reverse, List.append_nil] at opens
  exact decomposes_iff_opens.mpr
    ⟨body, (beforeClosing?_eq_some_iff noFeed).mp closed, opens⟩

theorem split?_of_isLongest (visible : Text.isBlank style.opening = false)
    (longest : style.IsLongest title heading subtitle) :
    split? style title = some (heading, subtitle) := by
  obtain ⟨body, written, opens⟩ := decomposes_iff_opens.mp longest.decomposes
  rw [split?, (beforeClosing?_eq_some_iff noFeed).mpr written, Option.bind_some]
  apply openingFrom?_of_shortest
  · intro member
    exact noFeed (by simp [written, List.mem_reverse.mp member])
  · simpa using opens
  · exact Nat.zero_le _
  · intro heading' subtitle' opens' _
    rw [List.reverse_reverse, List.append_nil] at opens'
    by_contra shorter
    have longer := opens.length_heading_lt visible opens' (Nat.lt_of_not_le shorter)
    have atMost := longest.longest (decomposes_iff_opens.mpr ⟨body, written, opens'⟩)
    omega

theorem split?_eq_some_iff (visible : Text.isBlank style.opening = false) :
    split? style title = some (heading, subtitle) ↔
      style.IsLongest title heading subtitle := by
  constructor
  · intro found
    obtain ⟨heading', subtitle', longest⟩ :=
      exists_isLongest (decomposes_of_split? noFeed found)
    have same := (split?_of_isLongest noFeed visible longest).symm.trans found
    cases same
    exact longest
  · exact split?_of_isLongest noFeed visible

theorem split?_eq_none_iff (visible : Text.isBlank style.opening = false) :
    split? style title = none ↔ ∀ heading subtitle,
      ¬style.Decomposes title heading subtitle := by
  constructor
  · intro notFound heading subtitle decomposes
    obtain ⟨heading', subtitle', longest⟩ := exists_isLongest decomposes
    rw [split?_of_isLongest noFeed visible longest] at notFound
    cases notFound
  · intro unfit
    cases found : split? style title with
    | none => rfl
    | some parts =>
        exact absurd (decomposes_of_split? noFeed found) (unfit parts.1 parts.2)

/-! ## The first style that fits -/

theorem findSome?_split?_eq_some_iff (heading subtitle : Text) :
    all.findSome? (·.split? title) = some (heading, subtitle) ↔
      IsPreferred title heading subtitle := by
  have visible := visible_opening
  rw [List.findSome?_eq_some_iff]
  constructor
  · rintro ⟨before, style, after, listed, found, unfit⟩
    rw [listed] at visible
    refine ⟨before, style, after, listed, ?_, ?_⟩
    · exact (split?_eq_some_iff noFeed (visible style (by simp))).mp found
    · intro earlier member
      exact (split?_eq_none_iff noFeed
        (visible earlier (by simp [member]))).mp (unfit earlier member)
  · rintro ⟨before, style, after, listed, longest, unfit⟩
    rw [listed] at visible
    refine ⟨before, style, after, listed, ?_, ?_⟩
    · exact (split?_eq_some_iff noFeed (visible style (by simp))).mpr longest
    · intro earlier member
      exact (split?_eq_none_iff noFeed
        (visible earlier (by simp [member]))).mpr (unfit earlier member)

/-- A title is split where the first style that fits leaves the longest heading, and there
is only one such place. Without a style that fits it is not changed. -/
theorem splitTitle_decomposes :
    ((∃ style ∈ all, ∃ heading subtitle, style.Decomposes title heading subtitle) →
      ∃ heading subtitle, splitTitle title = (heading, some [subtitle]) ∧
        ∀ heading' subtitle', IsPreferred title heading' subtitle' ↔
          heading' = heading ∧ subtitle' = subtitle) ∧
    ((∀ style ∈ all, ∀ heading subtitle, ¬style.Decomposes title heading subtitle) →
      splitTitle title = (title, none)) := by
  have preferred_iff := findSome?_split?_eq_some_iff noFeed
  cases found : all.findSome? (·.split? title) with
  | none =>
      refine ⟨?_, fun _ => by rw [splitTitle, found]⟩
      rintro ⟨style, listed, heading, subtitle, decomposes⟩
      have unfit := List.findSome?_eq_none_iff.mp found style listed
      exact absurd decomposes
        ((split?_eq_none_iff noFeed
          (visible_opening style listed)).mp unfit heading subtitle)
  | some parts =>
      obtain ⟨heading, subtitle⟩ := parts
      have preferred := (preferred_iff heading subtitle).mp found
      constructor
      · intro _
        refine ⟨heading, subtitle, by rw [splitTitle, found], ?_⟩
        intro heading' subtitle'
        rw [← preferred_iff, found, Option.some_inj, Prod.mk.injEq]
        exact and_congr eq_comm eq_comm
      · intro unfit
        obtain ⟨before, style, after, listed, longest, -⟩ := preferred
        exact absurd longest.decomposes (unfit style (by simp [listed]) heading subtitle)

end Style

/-- A title with hyphens of its own and two closing ones, behind brackets. -/
def offLine : Text := "Off-Line [EX] -mix--".toList

/-- Brackets with nothing in front of them set no subtitle off. -/
def bare : Text := "(mix)".toList

theorem splitTitle_decomposes_offLine :
    '\n' ∉ offLine ∧
        (∃ style ∈ all, ∃ heading subtitle, style.Decomposes offLine heading subtitle) ∧
      splitTitle offLine = ("Off-Line [EX]".toList, some ["mix-".toList]) ∧
      IsPreferred offLine "Off-Line [EX]".toList "mix-".toList ∧
    '\n' ∉ bare ∧
        (∀ style ∈ all, ∀ heading subtitle, ¬style.Decomposes bare heading subtitle) ∧
      splitTitle bare = (bare, none) := by
  have noFeed : '\n' ∉ offLine := by decide
  have noFeed' : '\n' ∉ bare := by decide
  have fits :
      ∃ style ∈ all, ∃ heading subtitle, style.Decomposes offLine heading subtitle :=
    ⟨⟨'-', '-'⟩, by decide, _, _, decomposes_of_split? noFeed
      (by
        decide : split? ⟨'-', '-'⟩ offLine =
          some ("Off-Line [EX]".toList, "mix-".toList))⟩
  have unfit :
      ∀ style ∈ all, ∀ heading subtitle, ¬style.Decomposes bare heading subtitle := by
    have notFound : ∀ style ∈ all, split? style bare = none := by decide
    exact fun style listed =>
      (split?_eq_none_iff noFeed' (visible_opening style listed)).mp
        (notFound style listed)
  have computed : splitTitle offLine =
    ("Off-Line [EX]".toList, some ["mix-".toList]) := by decide
  obtain ⟨heading, subtitle, split, unique⟩ := (splitTitle_decomposes noFeed).1 fits
  obtain ⟨same, same'⟩ := Prod.mk.inj (computed.symm.trans split)
  obtain ⟨same', -⟩ := List.cons.inj (Option.some.inj same')
  exact ⟨noFeed, fits, computed, (unique _ _).mpr ⟨same, same'⟩, noFeed', unfit,
    (splitTitle_decomposes noFeed').2 unfit⟩

end RhythmChart.SubtitleStyle
