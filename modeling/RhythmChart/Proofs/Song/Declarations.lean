import RhythmChart.Proofs.Compilation.Fields
import RhythmChart.Proofs.Song.SoundTable
import RhythmChart.Proofs.Text.Characters

/-!
# Declared keysounds

A header that declares a sound is kept under its name in lower case, its id is lowered
once more, and ids are looked up in lower case. In a compiled chart no name holds a line
feed, and lowering twice is lowering once, so each declaration keeps an id of its own: a
sound is found under an id exactly if it is the latest value of the header.
-/

namespace RhythmChart

namespace Headers

/-- Every name stands once, in lower case and without a line feed,
with its latest value. -/
structure IsTidy (headers : Headers) : Prop where
  distinct : (headers.items.map Prod.fst).Nodup
  lowered : ∀ item ∈ headers.items, ∀ c ∈ item.1, Text.IsLowered c
  unbroken : ∀ item ∈ headers.items, '\n' ∉ item.1
  get?_iff : ∀ name file,
    headers.get? name = some file ↔ (Text.lower name, some file) ∈ headers.items

theorem isTidy_ofSettings {settings : List (Text × Option Text)}
    (words : ∀ setting ∈ settings, ∀ c ∈ setting.1, Text.isWord c = true) :
    (ofSettings settings).IsTidy := by
  have named : ∀ item ∈ (ofSettings settings).items,
      ∃ setting ∈ settings, Text.lower setting.1 = item.1 := by
    intro item member
    exact List.mem_map.mp ((mem_items settings).mp member).1
  constructor
  case distinct => exact nodup_map_fst_items settings
  case lowered =>
    intro item member c letter
    obtain ⟨setting, -, name⟩ := named item member
    rw [← name] at letter
    exact Text.isLowered_of_mem_lower letter
  case unbroken =>
    intro item member lineFeed
    obtain ⟨setting, listed, name⟩ := named item member
    rw [← name] at lineFeed
    have word := words setting listed '\n' (Text.lineFeed_mem_of_lower lineFeed)
    exact absurd word (by decide)
  case get?_iff =>
    intro name file
    rw [get?_ofSettings, mem_items, ← not_not (a := Text.lower name ∈ _),
      ← valuesOf_eq_nil_iff]
    by_cases absent : valuesOf settings (Text.lower name) = []
    · simp [absent]
    · simp [absent, eq_comm]

end Headers

namespace Keysounds

/-- The names that declare a sound: the letters `wav` in any case, and two visible
characters. A line feed may follow. -/
def declaresSound : Text → Bool
  | w :: a :: v :: first :: second :: rest =>
      ['w', 'W'].contains w && ['a', 'A'].contains a && ['v', 'V'].contains v &&
        (!Text.isBlank first && !Text.isBlank second && (rest == [] || rest == ['\n']))
  | _ => false

def headerOf (id : Text) : Text :=
  'w' :: 'a' :: 'v' :: id

/-- An id of two visible characters. -/
def IsId (id : Text) : Prop :=
  ∃ first second, id = [first, second] ∧ Text.isBlank first = false ∧
    Text.isBlank second = false

section Names

variable {name id : Text}

theorem idOfHeader?_headerOf (isId : IsId id) : idOfHeader? (headerOf id) = some id := by
  obtain ⟨first, second, rfl, visible, visible'⟩ := isId
  simp [headerOf, idOfHeader?, visible, visible']

theorem eq_headerOf_of_idOfHeader? (unbroken : '\n' ∉ name)
    (found : idOfHeader? name = some id) : name = headerOf id ∧ IsId id := by
  unfold idOfHeader? at found
  split at found
  · rename_i first second rest
    split at found
    · rename_i declares
      cases found
      simp only [Bool.and_eq_true, Bool.not_eq_true', Bool.or_eq_true, beq_iff_eq]
        at declares
      obtain ⟨⟨visible, visible'⟩, ends⟩ := declares
      have nothing : rest = [] := by
        rcases ends with nothing | lineFeed
        · exact nothing
        · rw [lineFeed] at unbroken
          simp at unbroken
      rw [nothing]
      exact ⟨rfl, first, second, rfl, visible, visible'⟩
    · cases found
  · cases found

theorem contains_of_isLowered {c capital : Char} (lowered : Text.IsLowered c)
    (isCapital : Text.lowerChar capital ≠ [capital]) (letter : Char) :
    [letter, capital].contains c = (c == letter) := by
  have other : (c == capital) = false := by
    apply beq_eq_false_iff_ne.mpr
    rintro rfl
    exact isCapital lowered.2
  rw [List.contains_cons, List.contains_cons, other, List.contains_nil, Bool.or_self,
    Bool.or_false]

theorem idOfHeader?_eq_none {w a v : Char} {rest : Text}
    (other : (w == 'w' && a == 'a' && v == 'v') = false) :
    idOfHeader? (w :: a :: v :: rest) = none := by
  unfold idOfHeader?
  split
  · rename_i same
    cases same
    cases other
  · rfl

/-- In lower case the names of declarations are those from which an id is read. -/
theorem isSome_idOfHeader? (lowered : ∀ c ∈ name, Text.IsLowered c) :
    (idOfHeader? name).isSome = declaresSound name := by
  unfold declaresSound
  split
  · rename_i w a v first second rest
    simp only [List.forall_mem_cons] at lowered
    obtain ⟨lowered, lowered', lowered'', -⟩ := lowered
    rw [contains_of_isLowered lowered
      (by decide), contains_of_isLowered lowered' (by decide),
      contains_of_isLowered lowered'' (by decide)]
    cases letters : (w == 'w' && a == 'a' && v == 'v') with
    | false => rw [idOfHeader?_eq_none letters, Bool.false_and, Option.isSome_none]
    | true =>
        simp only [Bool.and_eq_true, beq_iff_eq] at letters
        obtain ⟨⟨rfl, rfl⟩, rfl⟩ := letters
        rw [idOfHeader?, Bool.true_and]
        split
        · rename_i declares
          rw [declares, Option.isSome_some]
        · rename_i other
          rw [Bool.eq_false_iff.mpr other, Option.isSome_none]
  · rename_i short
    unfold idOfHeader?
    split
    · exact absurd rfl (short _ _ _ _ _ _)
    · rfl

end Names

def soundOf? (item : Text × Option Text) : Option (Text × Text) := do
  let id ← idOfHeader? item.1
  let file ← item.2
  return (id, file)

theorem soundOf?_eq_some_iff {item : Text × Option Text} {sound : Text × Text} :
    soundOf? item = some sound ↔ idOfHeader? item.1 = some sound.1 ∧
      item.2 = some sound.2 := by
  obtain ⟨name, value⟩ := item
  unfold soundOf?
  cases idOfHeader? name with
  | none => simp
  | some id =>
      cases value with
      | none => simp
      | some file => simp [Prod.ext_iff]

section Tidy

variable {headers : Headers} (tidy : headers.IsTidy)
include tidy

theorem eq_headerOf_of_soundOf? {item : Text × Option Text} {sound : Text × Text}
    (member : item ∈ headers.items) (declared : soundOf? item = some sound) :
    item = (headerOf sound.1, some sound.2) ∧ IsId sound.1 := by
  obtain ⟨found, value⟩ := soundOf?_eq_some_iff.mp declared
  obtain ⟨name, isId⟩ := eq_headerOf_of_idOfHeader? (tidy.unbroken item member) found
  exact ⟨Prod.ext name value, isId⟩

theorem entries_ofHeaders : (ofHeaders headers).entries =
      headers.items.filterMap soundOf? := by
  apply entries_ofEntries_of_lowered
  · apply List.pairwise_map.mpr
    apply List.pairwise_filterMap.mpr
    apply (List.pairwise_map.mp tidy.distinct).imp_of_mem
    intro item other member member' apart sound declared sound' declared' same
    obtain ⟨rfl, -⟩ := eq_headerOf_of_soundOf? tidy member declared
    obtain ⟨rfl, -⟩ := eq_headerOf_of_soundOf? tidy member' declared'
    exact apart (congrArg headerOf same)
  · intro sound listed
    obtain ⟨item, member, declared⟩ := List.mem_filterMap.mp listed
    obtain ⟨rfl, -⟩ := eq_headerOf_of_soundOf? tidy member declared
    apply Text.lower_eq_self
    intro c letter
    apply tidy.lowered _ member
    exact List.mem_cons_of_mem 'w'
      (List.mem_cons_of_mem 'a' (List.mem_cons_of_mem 'v' letter))

theorem mem_entries_ofHeaders {id file : Text} :
    (id, file) ∈ (ofHeaders headers).entries ↔
      IsId id ∧ (headerOf id, some file) ∈ headers.items := by
  rw [entries_ofHeaders tidy, List.mem_filterMap]
  constructor
  · rintro ⟨item, member, declared⟩
    obtain ⟨rfl, isId⟩ := eq_headerOf_of_soundOf? tidy member declared
    exact ⟨isId, member⟩
  · rintro ⟨isId, member⟩
    exact ⟨_, member, soundOf?_eq_some_iff.mpr ⟨idOfHeader?_headerOf isId, rfl⟩⟩

theorem get?_ofHeaders {id : Text} (isId : IsId (Text.lower id))
    (name : Text.lower (headerOf id) = headerOf (Text.lower id)) :
    (ofHeaders headers).get? id = headers.get? (headerOf id) := by
  apply Option.ext
  intro file
  have distinct : ((ofHeaders headers).entries.map Prod.fst).Nodup :=
    nodup_map_fst_entries _
  rw [get?, ← mem_iff_lookup distinct, mem_entries_ofHeaders tidy, tidy.get?_iff, name]
  exact and_iff_right isId

theorem size_ofHeaders : (ofHeaders headers).size =
    headers.items.countP fun item => declaresSound item.1 && item.2.isSome := by
  rw [size, entries_ofHeaders tidy, List.length_filterMap_eq_countP]
  apply List.countP_congr
  intro item member
  rw [← isSome_idOfHeader? (tidy.lowered item member)]
  unfold soundOf?
  cases idOfHeader? item.1 with
  | none => simp
  | some id => cases item.2 <;> simp

end Tidy

/-- A visible character of the ASCII range. -/
def IsPrintable (c : Char) : Prop :=
  0x21 ≤ c.toNat ∧ c.toNat ≤ 0x7E

instance (c : Char) : Decidable (IsPrintable c) :=
  inferInstanceAs (Decidable (_ ∧ _))

/-- A visible character of the ASCII range stays one character in
lower case, and visible. -/
theorem lowerChar_of_isPrintable {c : Char} (printable : IsPrintable c) :
    c ≠ 'Σ' ∧ ∃ d, Text.lowerChar c = [d] ∧ Text.isBlank d = false := by
  have table : ∀ d ∈ Text.listed [(0x21, 0x7E)], d ≠ 'Σ' ∧
      Text.lowerChar d = [Text.shiftCase Text.lowerRuns d] ∧
      Text.isBlank (Text.shiftCase Text.lowerRuns d) = false := by decide +kernel
  have listed : c ∈ Text.listed [(0x21, 0x7E)] := by
    apply Text.mem_listed
    simp [Text.inRanges, printable.1, printable.2]
  obtain ⟨notSigma, single, visible⟩ := table c listed
  exact ⟨notSigma, _, single, visible⟩

theorem isId_lower {first second : Char} (printable : IsPrintable first)
    (printable' : IsPrintable second) :
    IsId (Text.lower [first, second]) ∧
      Text.lower (headerOf [first, second]) = headerOf (Text.lower [first, second]) := by
  obtain ⟨notSigma, lowered, single, visible⟩ := lowerChar_of_isPrintable printable
  obtain ⟨notSigma', lowered', single', visible'⟩ := lowerChar_of_isPrintable printable'
  have id : Text.lower [first, second] = [lowered, lowered'] := by
    rw [Text.lower_eq_flatMap (by simp [notSigma, notSigma'])]
    simp [single, single']
  have name : Text.lower (headerOf [first, second]) = headerOf [lowered, lowered'] := by
    have letters : ['w', 'a', 'v'].flatMap Text.lowerChar = ['w', 'a', 'v'] := by decide
    have parts : headerOf [first, second] = ['w', 'a', 'v'] ++ [first, second] := rfl
    rw [Text.lower_eq_flatMap
      (by simp [headerOf, notSigma, notSigma']), parts, List.flatMap_append, letters]
    simp [headerOf, single, single']
  rw [id, name]
  exact ⟨⟨lowered, lowered', rfl, visible, visible'⟩, rfl⟩

variable {α : Type} [Scalar α]

/-- A compiled chart has the same sound under an id as under the header of the id, and one
sound for each header that declares one with a value. -/
theorem agrees_with_headers (dialect : Dialect) (draws : List Int) (source : Text) :
    let headers := (Compilation.ofText dialect draws source : Compilation α).chart.headers
    (∀ first second, IsPrintable first → IsPrintable second →
      (ofHeaders headers).get? [first, second] =
        headers.get? (headerOf [first, second])) ∧
    (ofHeaders headers).size =
      headers.items.countP fun item => declaresSound item.1 && item.2.isSome := by
  intro headers
  obtain ⟨settings, same, words⟩ :=
    Compilation.exists_settings_ofText (α := α) dialect draws source
  have tidy : headers.IsTidy := by
    have set := Headers.isTidy_ofSettings words
    rwa [← same] at set
  constructor
  · intro first second printable printable'
    obtain ⟨isId, name⟩ := isId_lower printable printable'
    exact get?_ofHeaders tidy isId name
  · exact size_ofHeaders tidy

/-- Sounds that are declared again in another case, one of them without a value in the
end, and one whose id becomes ASCII in lower case. -/
def respelledSource : Text :=
  "#WAVAa first\n#wavaA second\n#WAVzz gone\n#WavZZ\n#WAV0\u212A kelvin".toList

theorem agrees_with_headers_respelled :
    IsPrintable '0' ∧ IsPrintable 'K' ∧
      (ofHeaders
        (Compilation.ofText .bms [] respelledSource : Compilation Rat).chart.headers).get?
        ['0', 'K'] = some "kelvin".toList ∧
      (ofHeaders (Compilation.ofText .bms [] respelledSource :
        Compilation Rat).chart.headers).size = 2 := by
  have visible : IsPrintable '0' := by decide
  have visible' : IsPrintable 'K' := by decide
  have agreement := agrees_with_headers (α := Rat) .bms [] respelledSource
  refine ⟨visible, visible', ?_, ?_⟩
  · rw [agreement.1 '0' 'K' visible visible']
    decide +kernel
  · rw [agreement.2]
    decide +kernel

end Keysounds

end RhythmChart
