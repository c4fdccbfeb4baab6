import Mathlib.Algebra.Group.Nat.Defs
import RhythmChart.Proofs.Sentence.Control

/-!
# How channel sentences are written

A sentence that was read as channel data tells how its line is written: a number sign,
three digits that denote the measure, the two characters of the channel, a colon and the
data. In front there may be the mark of an extended sentence.
-/

namespace RhythmChart

namespace Text

private theorem lt_of_foldlM_digits {start value : Nat} {text : Text}
    (read : text.foldlM (fun value c => (digitValue? c).map (value * 10 + ·)) start =
      some value) :
    value < (start + 1) * 10 ^ text.length := by
  induction text generalizing start with
  | nil =>
      cases read
      exact Nat.lt_of_lt_of_eq (Nat.lt_succ_self _) (Nat.mul_one _).symm
  | cons c rest ih =>
      rw [List.foldlM_cons] at read
      obtain ⟨next, digit, read⟩ := Option.bind_eq_some_iff.mp read
      obtain ⟨last, found, rfl⟩ := Option.map_eq_some_iff.mp digit
      have small := digitValue?_lt found
      calc value
        _ < (start * 10 + last + 1) * 10 ^ rest.length := ih read
        _ ≤ ((start + 1) * 10) * 10 ^ rest.length := Nat.mul_le_mul_right _ (by omega)
        _ = (start + 1) * 10 ^ (c :: rest).length := by
            rw [List.length_cons, Nat.pow_succ', Nat.mul_assoc]

/-- A number has no more digits than its text. -/
theorem natural?_lt {text : Text} {value : Nat} (read : natural? text = some value) :
    value < 10 ^ text.length := by
  unfold natural? at read
  split at read
  · cases read
  · exact Nat.lt_of_lt_of_eq (lt_of_foldlM_digits read) (Nat.one_mul _)

end Text

namespace Sentence

/-- What may stand in front of a channel sentence. -/
inductive IsMark : Text → Prop where
  | none : IsMark []
  | extension {gap : Text} (some : gap ≠ []) (blank : ∀ c ∈ gap, Text.isBlank c = true) :
      IsMark ('#' :: 'E' :: 'X' :: 'T' :: gap)

/-- The parts of a line that holds the data of a channel in a measure. -/
structure ChannelParts (dialect : Dialect) (measure : Nat) (channel : Code) (data : Text)
    (mark digits gap : Text) : Prop where
  marked : IsMark mark
  three : digits.length = 3
  number : Text.natural? digits = some measure
  blank : ∀ c ∈ gap, Text.isBlank c = true
  noGap : dialect = .bms → gap = []
  channelVisible : ∀ c ∈ channel.text, Text.isBlank c = false
  dataVisible : ∀ c ∈ data, Text.isBlank c = false

/-- A line that holds the data of a channel in a measure. -/
def HoldsChannel (dialect : Dialect) (line : Text) (measure : Nat) (channel : Code)
    (data : Text) : Prop :=
  ∃ mark digits gap, ChannelParts dialect measure channel data mark digits gap ∧
    line = mark ++ '#' :: (digits ++ (channel.text ++ ':' :: (gap ++ data)))

theorem exists_of_measure? {text rest : Text} {measure : Nat}
    (found : measure? text = some (measure, rest)) :
    ∃ digits, digits.length = 3 ∧ Text.natural? digits = some measure ∧
      text = digits ++ rest := by
  unfold measure? at found
  split at found
  · rename_i a b c rest
    obtain ⟨measure, number, same⟩ := Option.map_eq_some_iff.mp found
    cases same
    exact ⟨[a, b, c], rfl, number, rfl⟩
  · cases found

theorem exists_of_skipExtension (text : Text) :
    ∃ mark, IsMark mark ∧ '#' :: text = mark ++ '#' :: skipExtension text := by
  unfold skipExtension
  split
  · rename_i rest found
    obtain ⟨numbered, marked, number⟩ := Option.bind_eq_some_iff.mp found
    obtain ⟨tail, extension, spaced⟩ := Option.bind_eq_some_iff.mp marked
    obtain ⟨gap, some, blank, rfl⟩ := exists_of_afterBlanks? spaced
    refine ⟨_, .extension some blank, ?_⟩
    rw [Text.eq_append_of_after? extension, Text.eq_append_of_after? number]
    rfl
  · exact ⟨[], .none, rfl⟩

theorem eq_of_data?_bms {text data : Text} (found : data? .bms text = some data) :
    text = data ∧ ∀ c ∈ data, Text.isBlank c = false := by
  unfold data? at found
  dsimp only at found
  split at found
  · rename_i visible
    cases found
    refine ⟨rfl, fun c member => ?_⟩
    rw [← Bool.not_eq_true']
    exact List.all_eq_true.mp visible c member
  · cases found

theorem exists_of_data? {dialect : Dialect} {text data : Text}
    (found : data? dialect text = some data) :
    ∃ gap, (∀ c ∈ gap, Text.isBlank c = true) ∧ (dialect = .bms → gap = []) ∧
      (∀ c ∈ data, Text.isBlank c = false) ∧ text = gap ++ data := by
  cases dialect with
  | bms =>
      obtain ⟨same, visible⟩ := eq_of_data?_bms found
      exact ⟨[], fun _ member => (nomatch member), fun _ => rfl, visible, same⟩
  | dtx =>
      have trimmed : data? .bms (Text.trimStart text) = some data := found
      obtain ⟨same, visible⟩ := eq_of_data?_bms trimmed
      refine ⟨text.takeWhile Text.isBlank, List.all_eq_true.mp List.all_takeWhile, nofun,
        visible, ?_⟩
      rw [← same]
      exact List.takeWhile_append_dropWhile.symm

theorem holdsChannel_of_channel? {dialect : Dialect} {text : Text} {measure : Nat}
    {channel : Code}
    {data : Text} (found : channel? dialect text = some (.channel measure channel data)) :
    HoldsChannel dialect ('#' :: text) measure channel data := by
  obtain ⟨⟨measure, rest⟩, numbered, found⟩ := Option.bind_eq_some_iff.mp found
  obtain ⟨digits, three, number, here⟩ := exists_of_measure? numbered
  obtain ⟨mark, marked, written⟩ := exists_of_skipExtension text
  dsimp only at found
  split at found
  · rename_i first second after
    split at found
    · cases found
    · rename_i visible
      obtain ⟨data, taken, same⟩ := Option.bind_eq_some_iff.mp found
      cases same
      obtain ⟨gap, blank, noGap, dataVisible, rfl⟩ := exists_of_data? taken
      rw [Bool.or_eq_true, not_or, Bool.not_eq_true, Bool.not_eq_true] at visible
      refine ⟨mark, digits, gap, ⟨marked, three, number, blank, noGap, ?_, dataVisible⟩,
        ?_⟩
      · intro c member
        rcases List.mem_cons.mp member with rfl | member
        · exact visible.1
        · rw [List.mem_singleton.mp member]
          exact visible.2
      · rw [written, here]
        rfl
  · cases found

theorem content_of_header? {dialect : Dialect} {text : Text} {content : Content}
    (found : header? dialect text = some content) :
    ∃ name value, content = .header name value := by
  obtain ⟨rest, -, found⟩ := Option.bind_eq_some_iff.mp found
  split at found
  · cases found
  · split at found
    · cases found
      exact ⟨_, _, rfl⟩
    · obtain ⟨value, -, found⟩ := Option.bind_eq_some_iff.mp found
      split at found
      · cases found
      · cases found
        exact ⟨_, _, rfl⟩

/-- Only a line that is written as channel data is read as such. -/
theorem holdsChannel_of_read? {dialect : Dialect} {line : Text} {measure : Nat}
    {channel : Code} {data : Text}
    (read : read? dialect line = some (.content (.channel measure channel data))) :
    HoldsChannel dialect line measure channel data := by
  unfold read? at read
  split at read
  · rename_i text
    split at read
    · cases read
    · split at read
      · rename_i content found
        cases read
        rcases Option.or_eq_some_iff.mp found with sized | ⟨-, found⟩
        · obtain ⟨_, -, sized⟩ := Option.bind_eq_some_iff.mp sized
          obtain ⟨_, -, sized⟩ := Option.bind_eq_some_iff.mp sized
          obtain ⟨_, -, same⟩ := Option.bind_eq_some_iff.mp sized
          cases same
        · rcases Option.or_eq_some_iff.mp found with found | ⟨-, named⟩
          · exact holdsChannel_of_channel? found
          · obtain ⟨name, value, same⟩ := content_of_header? named
            cases same
      · cases read
  · cases read

/-- Three digits count measures up to 999. -/
theorem HoldsChannel.measure_lt {dialect : Dialect} {line : Text} {measure : Nat}
    {channel : Code}
    {data : Text} (holds : HoldsChannel dialect line measure channel data) :
    measure < 1000 := by
  obtain ⟨mark, digits, gap, parts, -⟩ := holds
  have bound := Text.natural?_lt parts.number
  rwa [parts.three] at bound

theorem HoldsChannel.visible {dialect : Dialect} {line : Text} {measure : Nat}
    {channel : Code}
    {data : Text} (holds : HoldsChannel dialect line measure channel data) :
    ∀ c ∈ channel.text ++ data, Text.isBlank c = false := by
  obtain ⟨mark, digits, gap, parts, -⟩ := holds
  intro c member
  rcases List.mem_append.mp member with inChannel | inData
  · exact parts.channelVisible c inChannel
  · exact parts.dataVisible c inData

end Sentence

end RhythmChart
