import RhythmChart.Proofs.Note.Followers
import RhythmChart.Proofs.Note.LongNotes

/-!
# Where markers end notes

The heads and markers of a channel say by themselves how its plain notes end. A note
ends at the last marker before the next head of the channel: a further marker moves the
end that an earlier one has set. So the first marker is the end exactly if the last one
is on the same beat. Nothing on other channels has a part in this, and markers before
the first head end nothing.
-/

namespace RhythmChart

section Lists

variable {σ : Type}

/-- A change to the last of the entries that a filter keeps is a
change to the last entry. -/
theorem filter_modify_last {f : σ → σ} {p : σ → Bool} {xs : List σ} {rank : Nat} {x : σ}
    {later : List σ} (atRank : xs.drop rank = x :: later) (filters : ∀ x, p (f x) = p x)
    (kept : p x = true) (dropped : ∀ y ∈ later, p y = false) :
    xs.filter p = (xs.take rank).filter p ++ [x] ∧
      (xs.modify rank f).filter p = (xs.take rank).filter p ++ [f x] := by
  have none : later.filter p = [] := List.filter_eq_nil_iff.mpr fun y member => by
    simp [dropped y member]
  constructor
  · conv_lhs => rw [← List.take_append_drop rank xs, atRank]
    simp [kept, none]
  · rw [List.modify_eq_take_drop, atRank]
    simp [filters, kept, none]

/-- An entry that a filter drops leaves the last kept one where it is. -/
theorem drop_append_dropped {p : σ → Bool} {xs later : List σ} {rank : Nat} {x y : σ}
    (atRank : xs.drop rank = x :: later) (others : ∀ z ∈ later, p z = false)
    (dropped : p y = false) :
    (xs ++ [y]).drop rank = x :: (later ++ [y]) ∧ ∀ z ∈ later ++ [y], p z = false := by
  have inside : rank ≤ xs.length := by
    refine Nat.le_of_lt (Nat.lt_of_not_le fun beyond => ?_)
    rw [List.drop_eq_nil_iff.mpr beyond] at atRank
    cases atRank
  rw [List.drop_append_of_le_length inside, atRank]
  refine ⟨rfl, fun z member => ?_⟩
  rcases List.mem_append.mp member with earlier | this
  · exact others z earlier
  · rw [List.mem_singleton.mp this]
    exact dropped

end Lists

namespace Extraction

variable {α : Type} {chart : Chart α} {map : LaneMap} {before : List (ChartObject α)}
  {object : ChartObject α}

def marks (chart : Chart α) (object : ChartObject α) : Bool :=
  isMarker (marker chart.headers) object.value

/-- Whether an object is a head or a marker on a channel of plain notes. -/
def isPlainOn (map : LaneMap) (channel : Text) (object : ChartObject α) : Bool :=
  holdsHeads map object.channel && Text.upper object.channel.text == channel

def isHeadOn (chart : Chart α) (map : LaneMap) (channel : Text)
    (object : ChartObject α) : Bool :=
  isPlainOn map channel object && !marks chart object

theorem isHeadOn_of_begins (head : begins chart map object = true) (channel : Text) :
    isHeadOn chart map channel object = isPlainOn map channel object := by
  have noMarker := (Bool.and_eq_true_iff.mp head).2
  rw [isHeadOn, marks, noMarker, Bool.and_true]

theorem isPlainOn_of_holdsHeads (holds : holdsHeads map object.channel = true)
    (channel : Text) :
    isPlainOn map channel object = (noteChannel object.channel == channel) := by
  rw [isPlainOn, holds, Bool.true_and, noteChannel_of_holdsHeads holds]

theorem not_isPlainOn_of_apart (apart : holdsHeads map object.channel = false)
    (channel : Text) : isPlainOn map channel object = false := by
  rw [isPlainOn, apart, Bool.false_and]

theorem not_isHeadOn_of_not_isPlainOn {channel : Text}
    (notPlain : isPlainOn map channel object = false) :
    isHeadOn chart map channel object = false := by
  rw [isHeadOn, notPlain, Bool.false_and]

theorem not_isHeadOn_of_ne {channel other : Text}
    (head : isHeadOn chart map channel object = true)
    (different : channel ≠ other) : isHeadOn chart map other object = false := by
  have here := (Bool.and_eq_true_iff.mp (Bool.and_eq_true_iff.mp head).1).2
  have elsewhere : isPlainOn map other object = false := by
    rw [isPlainOn, beq_iff_eq.mp here, beq_eq_false_iff_ne.mpr different, Bool.and_false]
  exact not_isHeadOn_of_not_isPlainOn elsewhere

variable [Scalar α]

namespace Trace

/-- A head and its markers as the note that they make. -/
def held (chart : Chart α) (map : LaneMap)
    (entry : ChartObject α × List (ChartObject α)) : ChartObject α × Note α :=
  (entry.1, { noteAt map (chart.beatOf entry.1) entry.1 with
    endBeat := entry.2.getLast?.map chart.beatOf })

/-- How the plain notes in the trace of some objects end, and which note a
marker would end next. -/
structure Ends (chart : Chart α) (map : LaneMap) (before : List (ChartObject α))
    (trace : Trace α) : Prop where
  heads : ∀ channel, trace.entriesOf (isHeadOn chart map channel) =
    (withFollowers (marks chart) (before.filter (isPlainOn map channel))).map
      (held chart map)
  untouched : ∀ channel, trace.state.latest.lookup channel = none →
    trace.entriesOf (isHeadOn chart map channel) = []
  latest : ∀ channel rank, trace.state.latest.lookup channel = some rank →
    ∃ head later, trace.completers.drop rank = head :: later ∧
      isHeadOn chart map channel head = true ∧
      ∀ other ∈ later, isHeadOn chart map channel other = false

variable {trace : Trace α}

theorem ends_nil : Ends chart map [] ⟨start, []⟩ where
  heads _ := rfl
  untouched _ _ := rfl
  latest _ _ found := by cases found

/-- A head begins a note without an end. -/
theorem Ends.step_begins (ends : Ends chart map before trace)
    (aligned : trace.completers.length = trace.state.notes.length)
    (head : begins chart map object = true) :
    Ends chart map (before ++ [object]) (step chart map trace object) := by
  have plain := isPlainOn_of_holdsHeads (holdsHeads_of_begins head)
  have leads : marks chart object = false := by
    simpa [begins, marks, holdsHeads_of_begins head] using head
  rw [step_of_completed (step_of_begins head trace.state) rfl]
  constructor
  · intro channel
    by_cases here : noteChannel object.channel = channel
    · have onChannel : isPlainOn map channel object = true := by simp [plain, here]
      rw [entriesOf_of_completed_kept aligned rfl
        (isHeadOn_of_begins head channel ▸ onChannel),
        filter_append_kept before onChannel, withFollowers_append_cons _ leads (by simp),
        List.map_append, ends.heads]
      rfl
    · have elsewhere : isPlainOn map channel object = false := by simp [plain, here]
      rw [entriesOf_of_completed_dropped aligned rfl
        (not_isHeadOn_of_not_isPlainOn elsewhere), filter_append_dropped before elsewhere]
      exact ends.heads channel
  · intro channel untouched
    simp only [addHead, List.lookup_cons] at untouched
    split at untouched
    · cases untouched
    · rename_i other
      have elsewhere : isPlainOn map channel object = false := by
        rw [plain, ← other]
        exact Bool.beq_comm
      rw [entriesOf_of_completed_dropped aligned rfl
        (not_isHeadOn_of_not_isPlainOn elsewhere)]
      exact ends.untouched channel untouched
  · intro channel rank found
    simp only [addHead, List.lookup_cons] at found
    split at found
    · rename_i same
      cases found
      have onChannel : isPlainOn map channel object = true := by
        rw [plain, ← same]
        exact Bool.beq_comm
      refine ⟨object, [], ?_, isHeadOn_of_begins head channel ▸ onChannel, by simp⟩
      rw [← aligned, List.drop_left]
    · rename_i other
      have elsewhere : isPlainOn map channel object = false := by
        rw [plain, ← other]
        exact Bool.beq_comm
      obtain ⟨first, later, atRank, onChannel, others⟩ := ends.latest channel rank found
      obtain ⟨atRank', others'⟩ := drop_append_dropped atRank others
        (not_isHeadOn_of_not_isPlainOn elsewhere)
      exact ⟨first, later ++ [object], atRank', onChannel, others'⟩

/-- Objects on other channels than those of plain notes leave the
plain notes as they are. -/
theorem Ends.step_apart (ends : Ends chart map before trace)
    (aligned : trace.completers.length = trace.state.notes.length)
    (apart : holdsHeads map object.channel = false) :
    Ends chart map (before ++ [object]) (step chart map trace object) := by
  have elsewhere : ∀ channel, isPlainOn map channel object = false :=
    not_isPlainOn_of_apart apart
  have notHead : ∀ channel, isHeadOn chart map channel object = false :=
    fun channel => not_isHeadOn_of_not_isPlainOn (elsewhere channel)
  have heads : ∀ channel, trace.entriesOf (isHeadOn chart map channel) =
      (withFollowers (marks chart)
        ((before ++ [object]).filter (isPlainOn map channel))).map (held chart map) := by
    intro channel
    rw [filter_append_dropped before (elsewhere channel)]
    exact ends.heads channel
  by_cases long : isLong object.channel = true
  · cases waits : trace.state.pending.lookup (noteChannel object.channel) with
    | none =>
        have stepped : Extraction.step chart map trace.state object = _ :=
          step_of_isLong long trace.state
        rw [addPair, waits] at stepped
        rw [step_of_kept stepped rfl]
        exact ⟨heads, ends.untouched, ends.latest⟩
    | some waiting =>
        have stepped : Extraction.step chart map trace.state object = _ :=
          step_of_isLong long trace.state
        rw [addPair, waits] at stepped
        rw [step_of_completed stepped rfl]
        constructor
        · intro channel
          rw [entriesOf_of_completed_dropped aligned rfl (notHead channel)]
          exact heads channel
        · intro channel untouched
          rw [entriesOf_of_completed_dropped aligned rfl (notHead channel)]
          exact ends.untouched channel untouched
        · intro channel rank found
          obtain ⟨first, later, atRank, onChannel, others⟩ :=
            ends.latest channel rank found
          obtain ⟨atRank', others'⟩ := drop_append_dropped atRank others (notHead channel)
          exact ⟨first, later ++ [object], atRank', onChannel, others'⟩
  · rw [Bool.not_eq_true] at long
    rw [step_of_kept (step_of_apart apart long trace.state) rfl]
    exact ⟨heads, ends.untouched, ends.latest⟩

/-- A marker before any head of its channel ends nothing. -/
theorem Ends.step_marks_untouched (ends : Ends chart map before trace)
    (holds : holdsHeads map object.channel = true) (marker : marks chart object = true)
    (untouched : trace.state.latest.lookup (noteChannel object.channel) = none) :
    Ends chart map (before ++ [object]) (step chart map trace object) := by
  have plain := isPlainOn_of_holdsHeads holds
  have stepped : Extraction.step chart map trace.state object = _ :=
    step_of_marks holds marker trace.state
  rw [mark, untouched] at stepped
  rw [step_of_kept stepped rfl]
  refine ⟨fun channel => ?_, ends.untouched, ends.latest⟩
  by_cases here : noteChannel object.channel = channel
  · subst here
    have onChannel : isPlainOn map (noteChannel object.channel) object = true := by
      simp [plain]
    have none := ends.untouched _ untouched
    rw [filter_append_kept before onChannel, none]
    have heads := ends.heads (noteChannel object.channel)
    rw [none, eq_comm, List.map_eq_nil_iff] at heads
    rw [withFollowers_append_of_nil heads marker]
    rfl
  · have elsewhere : isPlainOn map channel object = false := by simp [plain, here]
    rw [filter_append_dropped before elsewhere]
    exact ends.heads channel

omit [Scalar α] in
theorem entries_drop (aligned : trace.completers.length = trace.state.notes.length)
    {rank : Nat} {later : List (ChartObject α)}
    (atRank : trace.completers.drop rank = object :: later) :
    ∃ note others, trace.entries.drop rank = (object, note) :: others ∧
      ∀ entry ∈ others, entry.1 ∈ later := by
  have zipped :
      trace.entries.drop rank = (object :: later).zip (trace.state.notes.drop rank) := by
    rw [← atRank]
    exact List.drop_zipWith
  cases rest : trace.state.notes.drop rank with
  | nil =>
      have length := congrArg List.length atRank
      have length' := congrArg List.length rest
      simp only [List.length_drop, List.length_cons, List.length_nil] at length length'
      omega
  | cons note others =>
      rw [rest] at zipped
      exact ⟨note, later.zip others, zipped, fun entry member =>
        (List.of_mem_zip member).1⟩

/-- A marker ends the note of the last head on its channel, also if
that has an end already. -/
theorem Ends.step_marks_latest (ends : Ends chart map before trace)
    (aligned : trace.completers.length = trace.state.notes.length)
    (holds : holdsHeads map object.channel = true) (marker : marks chart object = true)
    {rank : Nat}
    (found : trace.state.latest.lookup (noteChannel object.channel) = some rank) :
    Ends chart map (before ++ [object]) (step chart map trace object) := by
  have plain := isPlainOn_of_holdsHeads holds
  have stepped : Extraction.step chart map trace.state object = _ :=
    step_of_marks holds marker trace.state
  rw [mark, found] at stepped
  rw [step_of_kept stepped (List.length_modify ..)]
  obtain ⟨head, later, atRank, onChannel, others⟩ := ends.latest _ rank found
  obtain ⟨note, rest, entriesAtRank, restLater⟩ := entries_drop aligned atRank
  have there : trace.completers[rank]? = some head := by
    rw [← List.head?_drop, atRank]
    rfl
  refine ⟨fun channel => ?_, fun channel untouched => ?_, ends.latest⟩
  · by_cases here : noteChannel object.channel = channel
    · subst here
      have kept : isPlainOn map (noteChannel object.channel) object = true := by
        simp [plain]
      obtain ⟨earlierEntries, laterEntries⟩ := filter_modify_last
        (f := fun entry => (entry.1, endAt (chart.beatOf object) entry.2))
        (p := fun entry => isHeadOn chart map (noteChannel object.channel) entry.1)
        entriesAtRank (fun _ => rfl) onChannel fun entry member =>
          others _ (restLater entry member)
      have heads := ends.heads (noteChannel object.channel)
      rw [entriesOf, earlierEntries] at heads
      obtain ⟨front, lasts, split, earlier, last⟩ := List.map_eq_append_iff.mp heads.symm
      obtain ⟨⟨leader, followers⟩, rfl, same⟩ := List.map_eq_singleton_iff.mp last
      obtain ⟨rfl, rfl⟩ := Prod.mk.inj same
      rw [entriesOf, entries_modify, laterEntries, filter_append_kept before kept,
        withFollowers_append_of_last split marker, List.map_append, earlier]
      simp [held, endAt]
    · have elsewhere : isPlainOn map channel object = false := by simp [plain, here]
      rw [filter_append_dropped before elsewhere, ← ends.heads channel]
      exact entriesOf_modify_of_dropped there (not_isHeadOn_of_ne onChannel here)
  · have elsewhere : noteChannel object.channel ≠ channel := by
      rintro rfl
      rw [found] at untouched
      cases untouched
    rw [← ends.untouched channel untouched]
    exact entriesOf_modify_of_dropped there (not_isHeadOn_of_ne onChannel elsewhere)

theorem Ends.step (ends : Ends chart map before trace)
    (aligned : trace.completers.length = trace.state.notes.length)
    (object : ChartObject α) :
    Ends chart map (before ++ [object]) (step chart map trace object) := by
  by_cases holds : holdsHeads map object.channel = true
  · by_cases marker : marks chart object = true
    · cases found : trace.state.latest.lookup (noteChannel object.channel) with
      | none => exact ends.step_marks_untouched holds marker found
      | some rank => exact ends.step_marks_latest aligned holds marker found
    · exact ends.step_begins aligned (by simpa [begins, marks, holds] using marker)
  · exact ends.step_apart aligned (Bool.eq_false_iff.mpr holds)

theorem ends_run (chart : Chart α) (map : LaneMap) (objects : List (ChartObject α)) :
    Ends chart map objects (run chart map objects) := by
  induction objects using List.reverseRecOn with
  | nil => exact ends_nil
  | append_singleton before object ih =>
      rw [run_append_singleton]
      exact ih.step (follows_run chart map before).aligned object

end Trace

end Extraction

namespace Chart

open Extraction

variable {α : Type} [Scalar α]

def plainObjects (chart : Chart α) (map : LaneMap) (channel : Text) :
    List (ChartObject α) :=
  chart.objects.sorted.filter (isPlainOn map channel)

/-- The heads on a channel, each with the markers between it and the next head. -/
def holds (chart : Chart α) (map : LaneMap) (channel : Text) :
    List (ChartObject α × List (ChartObject α)) :=
  withFollowers (marks chart) (chart.plainObjects map channel)

/-- The note of a head on a channel that lasts until an object, if until any. -/
def noteUntil (chart : Chart α) (map : LaneMap) (channel : Text) (head : ChartObject α)
    (last : Option (ChartObject α)) : Note α where
  beat := chart.beatOf head
  keysound := head.value.text
  endBeat := last.map chart.beatOf
  column := map.column? channel
  keysoundStart := .absent
  keysoundEnd := .absent

/-- Those notes of a chart that heads on a channel begin. -/
def headNotes (chart : Chart α) (map : LaneMap) (channel : Text) : List (Note α) :=
  ((chart.completions map).filter fun entry => isHeadOn chart map channel entry.1).map
    Prod.snd

theorem completions_heads_on (chart : Chart α) (map : LaneMap) (channel : Text) :
    ((chart.completions map).filter fun entry => isHeadOn chart map channel entry.1) =
      (chart.holds map channel).map fun hold =>
        (hold.1, chart.noteUntil map channel hold.1 hold.2.getLast?) := by
  refine ((Trace.ends_run chart map chart.objects.sorted).heads channel).trans
    (List.map_congr_left ?_)
  intro hold member
  have onChannel := (List.mem_filter.mp (mem_of_mem_withFollowers member).1).2
  obtain ⟨holds, here⟩ := Bool.and_eq_true_iff.mp onChannel
  simp only [Trace.held, noteUntil, noteAt, noteChannel_of_holdsHeads holds,
    beq_iff_eq.mp here]

theorem headNotes_eq (chart : Chart α) (map : LaneMap) (channel : Text) :
    chart.headNotes map channel = (chart.holds map channel).map fun hold =>
      chart.noteUntil map channel hold.1 hold.2.getLast? := by
  rw [headNotes, completions_heads_on, List.map_map]
  rfl

theorem map_noteUntil_inj {chart : Chart α} {map : LaneMap} {channel : Text}
    {holds : List (ChartObject α × List (ChartObject α))} :
    (holds.map fun hold => chart.noteUntil map channel hold.1 hold.2.getLast?) =
        (holds.map fun hold => chart.noteUntil map channel hold.1 hold.2.head?) ↔
      ∀ hold ∈ holds,
        hold.2.head?.map chart.beatOf = hold.2.getLast?.map chart.beatOf := by
  rw [List.map_inj_left]
  refine forall₂_congr fun hold _ => ⟨fun same => ?_, fun same => ?_⟩
  · exact (congrArg Note.endBeat same).symm
  · rw [noteUntil, noteUntil, same]

/-- The note of a head ends at the last marker before the next head of its channel, and is
a long note if there is one. That is the first such marker exactly if both are on the same
beat. All notes of the chart are those that its objects complete, so these are all of the
heads. Charts that agree in the heads and markers of the channel and in their measures
agree in these notes, whatever stands on their other channels. -/
theorem headNotes_end_at_last_marker (chart : Chart α) (map : LaneMap) (channel : Text) :
    ((chart.completions map).map Prod.snd = chart.notes map) ∧
    (chart.headNotes map channel).Sublist (chart.notes map) ∧
    (chart.headNotes map channel = (chart.holds map channel).map fun hold =>
      chart.noteUntil map channel hold.1 hold.2.getLast?) ∧
    ((chart.headNotes map channel).map Note.isLong =
      (chart.holds map channel).map fun hold => !hold.2.isEmpty) ∧
    ((chart.headNotes map channel = (chart.holds map channel).map fun hold =>
        chart.noteUntil map channel hold.1 hold.2.head?) ↔
      ∀ hold ∈ chart.holds map channel,
        hold.2.head?.map chart.beatOf = hold.2.getLast?.map chart.beatOf) ∧
    ∀ other : Chart α, other.sizes = chart.sizes → marks other = marks chart →
      other.plainObjects map channel = chart.plainObjects map channel →
      other.headNotes map channel = chart.headNotes map channel := by
  refine ⟨map_snd_completions chart map, ?_, headNotes_eq chart map channel, ?_, ?_, ?_⟩
  · rw [← map_snd_completions]
    exact List.filter_sublist.map Prod.snd
  · rw [headNotes_eq, List.map_map]
    refine List.map_congr_left fun (head, markers) _ => ?_
    cases markers with
    | nil => rfl
    | cons first rest => simp [Note.isLong, noteUntil]
  · rw [headNotes_eq]
    exact map_noteUntil_inj
  · intro other sizes markers objects
    have beats : other.beatOf = chart.beatOf := by
      unfold beatOf
      rw [sizes]
    have notes : other.noteUntil map channel = chart.noteUntil map channel := by
      funext head last
      rw [noteUntil, noteUntil, beats]
    rw [headNotes_eq, headNotes_eq, holds, holds, markers, objects, notes]

/-- A head with two markers after it. -/
def remarkedNote : List (ChartObject Rat) :=
  [⟨⟨'1', '1'⟩, 0, 0, ⟨'0', '1'⟩, none⟩, ⟨⟨'1', '1'⟩, 1, 0, ⟨'Z', 'Z'⟩, none⟩,
    ⟨⟨'1', '1'⟩, 2, 0, ⟨'z', 'z'⟩, none⟩]

/-- A head on another channel with a marker of its own, and a long note that is folded
onto the channel of the remarked one. -/
def bystanders : List (ChartObject Rat) :=
  [⟨⟨'1', '2'⟩, 0, 1 / 2, ⟨'0', '2'⟩, none⟩, ⟨⟨'1', '2'⟩, 3, 0, ⟨'Z', 'Z'⟩, none⟩,
    ⟨⟨'5', '1'⟩, 1, 1 / 2, ⟨'Z', 'Z'⟩, none⟩, ⟨⟨'5', '1'⟩, 2, 1 / 2, ⟨'0', '3'⟩, none⟩]

def markedHeaders : Headers := Headers.empty.set "LNOBJ".toList (some "ZZ".toList)

def remarkedChart : Chart Rat := ⟨markedHeaders, ⟨remarkedNote⟩, .empty⟩

/-- The second marker moves the end from beat four to beat eight. -/
theorem headNotes_ne_first_marker :
    remarkedChart.headNotes Lanes.first.toMap ['1', '1'] ≠
      (remarkedChart.holds Lanes.first.toMap ['1', '1']).map fun hold =>
        remarkedChart.noteUntil Lanes.first.toMap ['1', '1'] hold.1 hold.2.head? := by
  intro same
  have ends := congrArg (List.map Note.endBeat) same
  revert ends
  decide +kernel

/-- Bystanders leave the note and its end as they are. -/
theorem headNotes_end_at_last_marker_bystanders :
    (remarkedChart.holds Lanes.first.toMap ['1', '1']).length = 1 ∧
      (remarkedChart.headNotes Lanes.first.toMap ['1', '1']).map Note.isLong = [true] ∧
      (⟨markedHeaders, ⟨bystanders ++ remarkedNote⟩, .empty⟩ : Chart Rat).headNotes
          Lanes.first.toMap ['1', '1'] =
        remarkedChart.headNotes Lanes.first.toMap ['1', '1'] :=
  ⟨by decide +kernel,
    (headNotes_end_at_last_marker remarkedChart Lanes.first.toMap
      ['1', '1']).2.2.2.1.trans (by decide +kernel),
    (headNotes_end_at_last_marker remarkedChart Lanes.first.toMap ['1', '1']).2.2.2.2.2
      ⟨markedHeaders, ⟨bystanders ++ remarkedNote⟩, .empty⟩ rfl rfl (by decide +kernel)⟩

end Chart

end RhythmChart
