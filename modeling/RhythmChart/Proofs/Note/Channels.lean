import RhythmChart.Note.Extraction
import RhythmChart.Proofs.Text.Upper

/-!
# Roles of channels

What an object stands for is settled by the first character of its channel. Long notes
are on the channels that start with five or six. Heads are on the background channel, on
the channels that start with one or two, and on those landmine channels that are mapped;
there only an object with the declared marker as its value is no head. Everything else
takes no part in an extraction.
-/

namespace RhythmChart.Extraction

def isLong (channel : Code) : Bool :=
  ['5', '6'].contains channel.first

def isLandmine (channel : Code) : Bool :=
  ['D', 'd', 'E', 'e'].contains channel.first

def holdsHeads (map : LaneMap) (channel : Code) : Bool :=
  channel == Code.background || ['1', '2'].contains channel.first ||
    (isLandmine channel && map.contains (Text.upper channel.text))

/-- A kind of channels is recognised by all characters that have its capital. -/
theorem kind_mem_iff (channel : Code) (capitals : List Char) {sources : List Char}
    (into : ∀ c ∈ sources, ∃ d ∈ capitals, Text.upperChar c = [d])
    (back : ∀ d ∈ capitals, d ≠ Char.ofNat 0 ∧ ∀ c ∈ Text.upperSources d, c ∈ sources) :
    kind channel ∈ capitals.map (fun d => [d]) ↔ channel.first ∈ sources := by
  constructor
  · intro member
    obtain ⟨d, listed, upper⟩ := List.mem_map.mp member
    obtain ⟨notNul, covered⟩ := back d listed
    exact covered _ (Text.mem_upperSources upper.symm notNul)
  · intro member
    obtain ⟨d, listed, upper⟩ := into _ member
    exact List.mem_map.mpr ⟨d, listed, upper.symm⟩

theorem isForeignLandmine_eq (map : LaneMap) (channel : Code) :
    isForeignLandmine map channel =
      (isLandmine channel && !map.contains (Text.upper channel.text)) := by
  have landmines : kind channel ∈ [['D'], ['E']] ↔ channel.first ∈ ['D', 'd', 'E', 'e'] :=
    kind_mem_iff channel ['D', 'E'] (by decide) (by decide)
  unfold isForeignLandmine isLandmine
  rw [decide_eq_decide.mpr landmines, List.contains_eq_mem]

theorem role_eq (channel : Code) :
    role channel =
      if channel = Code.background ∨ channel.first ∈ ['1', '2', 'D', 'd', 'E', 'e'] then
        .head
      else if isLong channel then .pair
      else .other := by
  have heads : kind channel ∈ [['1'], ['2'], ['D'], ['E']] ↔
      channel.first ∈ ['1', '2', 'D', 'd', 'E', 'e'] :=
    kind_mem_iff channel ['1', '2', 'D', 'E'] (by decide) (by decide)
  have longs : kind channel ∈ [['5'], ['6']] ↔ channel.first ∈ ['5', '6'] :=
    kind_mem_iff channel ['5', '6'] (by decide) (by decide)
  simp only [role, heads, longs, isLong, List.contains_eq_mem, decide_eq_true_eq]

theorem role_of_isLong {channel : Code} (long : isLong channel = true) :
    role channel = .pair := by
  have notHead : ¬(channel = Code.background ∨
      channel.first ∈ ['1', '2', 'D', 'd', 'E', 'e']) := by
    rintro (rfl | member)
    · revert long
      decide
    · have disjoint :
          ∀ c ∈ ['1', '2', 'D', 'd', 'E', 'e'], ['5', '6'].contains c = false := by
        decide
      rw [isLong, disjoint _ member] at long
      cases long
  rw [role_eq, if_neg notHead, if_pos long]

theorem not_isForeignLandmine_of_isLong {channel : Code} (long : isLong channel = true)
    (map : LaneMap) : isForeignLandmine map channel = false := by
  have disjoint : ∀ c ∈ ['5', '6'], ['D', 'd', 'E', 'e'].contains c = false := by decide
  rw [isForeignLandmine_eq, isLandmine,
    disjoint _ (by simpa [isLong] using long), Bool.false_and]

theorem first_of_holdsHeads {map : LaneMap} {channel : Code}
    (holds : holdsHeads map channel = true) :
    channel.first ∈ ['0', '1', '2', 'D', 'd', 'E', 'e'] := by
  have plainListed : ∀ c ∈ ['1', '2'], c ∈ ['0', '1', '2', 'D', 'd', 'E', 'e'] := by
    decide
  have landmineListed : ∀ c ∈ ['D', 'd', 'E', 'e'],
      c ∈ ['0', '1', '2', 'D', 'd', 'E', 'e'] := by decide
  simp only [holdsHeads, isLandmine, Bool.or_eq_true, Bool.and_eq_true, beq_iff_eq,
    List.contains_iff_mem] at holds
  rcases holds with (rfl | plain) | ⟨landmine, -⟩
  · decide
  · exact plainListed _ plain
  · exact landmineListed _ landmine

theorem not_isLong_of_holdsHeads {map : LaneMap} {channel : Code}
    (holds : holdsHeads map channel = true) : isLong channel = false := by
  have disjoint :
      ∀ c ∈ ['0', '1', '2', 'D', 'd', 'E', 'e'], ['5', '6'].contains c = false := by
    decide
  exact disjoint _ (first_of_holdsHeads holds)

theorem role_of_holdsHeads {map : LaneMap} {channel : Code}
    (holds : holdsHeads map channel = true) : role channel = .head := by
  rw [role_eq, if_pos]
  simp only [holdsHeads, isLandmine, Bool.or_eq_true, Bool.and_eq_true, beq_iff_eq,
    List.contains_iff_mem] at holds
  rcases holds with (background | plain) | ⟨landmine, -⟩
  · exact .inl background
  · exact .inr (List.mem_append_left ['D', 'd', 'E', 'e'] plain)
  · exact .inr (List.mem_append_right ['1', '2'] landmine)

theorem not_isForeignLandmine_of_holdsHeads {map : LaneMap} {channel : Code}
    (holds : holdsHeads map channel = true) : isForeignLandmine map channel = false := by
  rw [isForeignLandmine_eq]
  simp only [holdsHeads, Bool.or_eq_true, Bool.and_eq_true, beq_iff_eq] at holds
  rcases holds with (rfl | plain) | ⟨-, mapped⟩
  · rfl
  · have disjoint : ∀ c ∈ ['1', '2'], ['D', 'd', 'E', 'e'].contains c = false := by decide
    rw [isLandmine, disjoint _ (List.contains_iff_mem.mp plain), Bool.false_and]
  · rw [mapped, Bool.not_true, Bool.and_false]

theorem noteChannel_of_isLong {channel : Code} (long : isLong channel = true) :
    ∃ c ∈ ['1', '2'], ∃ rest, noteChannel channel = c :: rest := by
  obtain ⟨first, second⟩ := channel
  have member : first ∈ ['5', '6'] := List.contains_iff_mem.mp long
  have capital : ∀ c ∈ ['5', '6'], Text.upperChar c = [c] := by decide
  have upper : Text.upper (Code.mk first second).text = first :: Text.upper [second] := by
    change Text.upperChar first ++ Text.upper [second] = _
    rw [capital first member, List.singleton_append]
  unfold noteChannel
  rw [upper]
  rcases List.mem_cons.mp member with rfl | member
  · exact ⟨'1', by decide, _, rfl⟩
  · obtain rfl := List.mem_singleton.mp member
    exact ⟨'2', by decide, _, rfl⟩

/-- Only the channels of long notes are renamed. -/
theorem noteChannel_of_holdsHeads {map : LaneMap} {channel : Code}
    (holds : holdsHeads map channel = true) :
    noteChannel channel = Text.upper channel.text := by
  have capital : ∀ c ∈ ['0', '1', '2', 'D', 'd', 'E', 'e'],
      Text.upperChar c ≠ [] ∧
        ['5', '6'].contains ((Text.upperChar c).headD ' ') = false := by
    decide
  obtain ⟨nonempty, kept⟩ := capital _ (first_of_holdsHeads holds)
  have upper : Text.upper channel.text =
      Text.upperChar channel.first ++ Text.upper [channel.second] := rfl
  unfold noteChannel
  rw [upper]
  cases start : Text.upperChar channel.first with
  | nil => exact absurd start nonempty
  | cons d rest =>
      rw [start] at kept
      split
      · rename_i same
        rw [(List.cons.inj same).1] at kept
        cases kept
      · rename_i same
        rw [(List.cons.inj same).1] at kept
        cases kept
      · rfl

/-- Apart from heads and long notes a channel holds nothing that is extracted. -/
theorem role_of_neither {map : LaneMap} {channel : Code}
    (noHeads : holdsHeads map channel = false) (notLong : isLong channel = false) :
    isForeignLandmine map channel = true ∨ role channel = .other := by
  simp only [holdsHeads, Bool.or_eq_false_iff, Bool.and_eq_false_iff, beq_eq_false_iff_ne]
    at noHeads
  obtain ⟨⟨notBackground, notPlain⟩, notMapped⟩ := noHeads
  by_cases landmine : isLandmine channel = true
  · left
    rw [isForeignLandmine_eq, landmine, Bool.true_and]
    rcases notMapped with impossible | unmapped
    · rw [landmine] at impossible
      cases impossible
    · rw [unmapped, Bool.not_false]
  · right
    have notHead : ¬(channel = Code.background ∨
        channel.first ∈ ['1', '2', 'D', 'd', 'E', 'e']) := by
      rintro (background | member)
      · exact notBackground background
      · rcases List.mem_append.mp
          (show channel.first ∈ ['1', '2'] ++ ['D', 'd', 'E', 'e'] from member)
            with plain | other
        · rw [List.contains_iff_mem.mpr plain] at notPlain
          cases notPlain
        · exact landmine (List.contains_iff_mem.mpr other)
    rw [role_eq, if_neg notHead, notLong]
    rfl

section Steps

variable {α : Type} {chart : Chart α} {map : LaneMap}

/-- Whether an object is the head of a note: it is on a channel of heads and no marker. -/
def begins (chart : Chart α) (map : LaneMap) (object : ChartObject α) : Bool :=
  holdsHeads map object.channel && !isMarker (marker chart.headers) object.value

theorem holdsHeads_of_begins {object : ChartObject α}
    (head : begins chart map object = true) : holdsHeads map object.channel = true :=
  (Bool.and_eq_true_iff.mp head).1

theorem not_begins_of_isLong {object : ChartObject α}
    (long : isLong object.channel = true) : begins chart map object = false := by
  cases head : begins chart map object with
  | false => rfl
  | true =>
      rw [not_isLong_of_holdsHeads (holdsHeads_of_begins head)] at long
      cases long

variable [Scalar α]

theorem step_of_begins {object : ChartObject α} (head : begins chart map object = true)
    (state : State α) :
    step chart map state object =
      addHead (noteAt map (chart.beatOf object) object) (noteChannel object.channel)
        state := by
  obtain ⟨holds, noMarker⟩ := Bool.and_eq_true_iff.mp head
  rw [Bool.not_eq_true'] at noMarker
  simp only [step, not_isForeignLandmine_of_holdsHeads holds, role_of_holdsHeads holds,
    noMarker, Bool.false_eq_true, if_false]

theorem step_of_isLong {object : ChartObject α} (long : isLong object.channel = true)
    (state : State α) :
    step chart map state object =
      addPair (chart.beatOf object) (noteAt map (chart.beatOf object) object)
        (noteChannel object.channel) state := by
  simp only [step, not_isForeignLandmine_of_isLong long, role_of_isLong long,
    Bool.false_eq_true, if_false]

theorem step_of_marks {object : ChartObject α}
    (holds : holdsHeads map object.channel = true)
    (marks : isMarker (marker chart.headers) object.value = true) (state : State α) :
    step chart map state object =
      mark (chart.beatOf object) (noteChannel object.channel) state := by
  simp only [step, not_isForeignLandmine_of_holdsHeads holds,
    role_of_holdsHeads holds, marks, Bool.false_eq_true, if_false, if_true]

theorem step_of_apart {object : ChartObject α}
    (noHeads : holdsHeads map object.channel = false)
    (notLong : isLong object.channel = false) (state : State α) :
    step chart map state object = state := by
  rcases role_of_neither noHeads notLong with foreign | other
  · simp only [step, foreign, if_true]
  · simp only [step, other]
    split <;> rfl

/-- An object that is neither a head nor on a channel of long notes at most
ends an earlier note. -/
theorem step_of_neither {object : ChartObject α}
    (noHead : begins chart map object = false)
    (notLong : isLong object.channel = false) (state : State α) :
    step chart map state object = state ∨
      step chart map state object =
        mark (chart.beatOf object) (noteChannel object.channel) state := by
  by_cases holds : holdsHeads map object.channel = true
  · have marks : isMarker (marker chart.headers) object.value = true := by
      simpa [begins, holds] using noHead
    exact .inr (step_of_marks holds marks state)
  · exact .inl (step_of_apart (Bool.eq_false_iff.mpr holds) notLong state)

end Steps

end RhythmChart.Extraction
