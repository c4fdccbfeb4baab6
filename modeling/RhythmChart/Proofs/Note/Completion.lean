import Mathlib.Data.List.Induction
import RhythmChart.Proofs.Note.Channels
import RhythmChart.Proofs.Note.Pairing

/-!
# What completes the notes

Each note of an extraction is completed by one object: a plain note by its head, a long
note by the object that closes it. A trace is a run of the extraction that also writes
down these objects, in the order of the notes. The invariant `Trace.Follows` says what the
trace of any objects holds: the heads in their order, each with the note it begins, and on
every lane of long notes the pairs of that lane and the object that is left over.
-/

namespace RhythmChart

section Lists

variable {σ τ κ : Type}

theorem lookup_filter_key [BEq κ] [LawfulBEq κ] (keep : κ → Bool) (entries : List (κ × τ))
    (key : κ) :
    (entries.filter fun entry => keep entry.1).lookup key =
      if keep key then entries.lookup key else none := by
  induction entries with
  | nil => simp
  | cons entry rest ih =>
      obtain ⟨other, value⟩ := entry
      by_cases same : key = other
      · subst same
        cases kept : keep key <;> simp [kept, ih]
      · have different : (key == other) = false := beq_eq_false_iff_ne.mpr same
        cases kept : keep other <;> simp [kept, List.lookup_cons, different, ih]

theorem zip_modify_right (xs : List σ) (ys : List τ) (rank : Nat) (f : τ → τ) :
    xs.zip (ys.modify rank f) = (xs.zip ys).modify rank fun entry =>
      (entry.1, f entry.2) := by
  induction xs generalizing ys rank with
  | nil => simp
  | cons x xs ih =>
      cases ys with
      | nil => simp
      | cons y ys =>
          cases rank with
          | zero => simp
          | succ rank => simp [ih]

/-- A change to an entry that a filter drops before and after does not show. -/
theorem filter_modify_of_dropped {f : σ → σ} {p : σ → Bool} {xs : List σ} {rank : Nat}
    (dropped : ∀ x, xs[rank]? = some x → p x = false ∧ p (f x) = false) :
    (xs.modify rank f).filter p = xs.filter p := by
  induction xs generalizing rank with
  | nil => simp
  | cons x xs ih =>
      cases rank with
      | zero =>
          obtain ⟨before, after⟩ := dropped x rfl
          simp [before, after]
      | succ rank =>
          have tail : (xs.modify rank f).filter p = xs.filter p := ih dropped
          simp [List.filter_cons, tail]

/-- A change that neither a filter nor a view sees does not show. -/
theorem map_filter_modify {f : σ → σ} {p : σ → Bool} {view : σ → τ}
    (filters : ∀ x, p (f x) = p x)
    (views : ∀ x, view (f x) = view x) (xs : List σ) (rank : Nat) :
    ((xs.modify rank f).filter p).map view = (xs.filter p).map view := by
  induction xs generalizing rank with
  | nil => simp
  | cons x xs ih =>
      cases rank with
      | zero => cases kept : p x <;> simp [kept, filters, views]
      | succ rank => cases kept : p x <;> simp [kept, ih]

theorem filter_append_kept {p : σ → Bool} (xs : List σ) {x : σ} (kept : p x = true) :
    (xs ++ [x]).filter p = xs.filter p ++ [x] := by
  simp [kept]

theorem filter_append_dropped {p : σ → Bool} (xs : List σ) {x : σ}
    (dropped : p x = false) : (xs ++ [x]).filter p = xs.filter p := by
  simp [dropped]

theorem getElem?_append_of_some {xs ys : List σ} {rank : Nat} {x : σ}
    (there : xs[rank]? = some x) : (xs ++ ys)[rank]? = some x := by
  rw [List.getElem?_append_left (List.getElem?_eq_some_iff.mp there).1, there]

end Lists

namespace Extraction

/-- A run of the extraction with the objects that completed its notes, in
the order of the notes. -/
structure Trace (α : Type) where
  state : State α
  completers : List (ChartObject α)

/-- Whether an object is one of the long notes of a lane. -/
def isOnLane {α : Type} (lane : Text) (object : ChartObject α) : Bool :=
  isLong object.channel && noteChannel object.channel == lane

variable {α : Type} {chart : Chart α} {map : LaneMap} {before : List (ChartObject α)}
  {object : ChartObject α}

namespace Trace

def entries (trace : Trace α) : List (ChartObject α × Note α) :=
  trace.completers.zip trace.state.notes

theorem entries_modify (trace : Trace α) (rank : Nat) (f : Note α → Note α) :
    entries ⟨{ trace.state with notes := trace.state.notes.modify rank f },
      trace.completers⟩ = trace.entries.modify rank fun entry => (entry.1, f entry.2) :=
  zip_modify_right _ _ _ _

/-- The entries that objects of some kind completed. -/
def entriesOf (trace : Trace α) (p : ChartObject α → Bool) :
    List (ChartObject α × Note α) :=
  trace.entries.filter fun entry => p entry.1

def withoutEnd (note : Note α) : Note α :=
  { note with endBeat := none }

/-- A change to a note does not show among notes of another kind. -/
theorem entriesOf_modify_of_dropped {trace : Trace α} {rank : Nat} {f : Note α → Note α}
    {p : ChartObject α → Bool} {completer : ChartObject α}
    (there : trace.completers[rank]? = some completer) (dropped : p completer = false) :
    entriesOf ⟨{ trace.state with notes := trace.state.notes.modify rank f },
      trace.completers⟩ p = trace.entriesOf p := by
  rw [entriesOf, entries_modify]
  apply filter_modify_of_dropped
  intro entry atRank
  have completes : entry.1 = completer := by
    rw [(List.getElem?_zip_eq_some.mp atRank).1] at there
    exact Option.some.inj there
  have dropped : p entry.1 = false := completes ▸ dropped
  exact ⟨dropped, dropped⟩

section Completed

variable {trace : Trace α} {next : State α} {note : Note α} {p : ChartObject α → Bool}
  (aligned : trace.completers.length = trace.state.notes.length)
  (notes : next.notes = trace.state.notes ++ [note])

include aligned notes

theorem entries_of_completed :
    entries ⟨next, trace.completers ++ [object]⟩ = trace.entries ++ [(object, note)] := by
  simp only [entries, notes, List.zip_append aligned, List.zip_cons_cons,
    List.zip_nil_right]

theorem entriesOf_of_completed_kept (kept : p object = true) :
    entriesOf ⟨next, trace.completers ++ [object]⟩ p = trace.entriesOf p ++
      [(object, note)] := by
  rw [entriesOf, entries_of_completed aligned notes]
  exact filter_append_kept trace.entries kept

theorem entriesOf_of_completed_dropped (dropped : p object = false) :
    entriesOf ⟨next, trace.completers ++ [object]⟩ p = trace.entriesOf p := by
  rw [entriesOf, entries_of_completed aligned notes]
  exact filter_append_dropped trace.entries dropped

end Completed

variable [Scalar α]

/-- Takes one object, which completes a note if there is one more note afterwards. -/
def step (chart : Chart α) (map : LaneMap) (trace : Trace α) (object : ChartObject α) :
    Trace α :=
  let next := Extraction.step chart map trace.state object
  { state := next
    completers :=
      if trace.state.notes.length < next.notes.length then trace.completers ++ [object]
      else trace.completers }

def run (chart : Chart α) (map : LaneMap) (objects : List (ChartObject α)) : Trace α :=
  objects.foldl (step chart map) ⟨start, []⟩

theorem run_append_singleton (chart : Chart α) (map : LaneMap)
    (before : List (ChartObject α)) (object : ChartObject α) :
    run chart map (before ++ [object]) =
      step chart map (run chart map before) object := by
  rw [run, List.foldl_append]
  rfl

/-- The state of a trace is that of the extraction itself. -/
theorem state_run (chart : Chart α) (map : LaneMap) (objects : List (ChartObject α)) :
    (run chart map objects).state = objects.foldl (Extraction.step chart map) start :=
  (List.foldl_hom Trace.state fun _ _ => rfl).symm

/-- The head of a long note and the object that closes it, as the note that they make. -/
def closed (chart : Chart α) (map : LaneMap) (pair : ChartObject α × ChartObject α) :
    ChartObject α × Note α :=
  (pair.2, endAt (chart.beatOf pair.2) (noteAt map (chart.beatOf pair.1) pair.1))

/-- What the trace of some objects holds. -/
structure Follows (chart : Chart α) (map : LaneMap) (before : List (ChartObject α))
    (trace : Trace α) : Prop where
  aligned : trace.completers.length = trace.state.notes.length
  inOrder : trace.completers.Sublist before
  completes : ∀ object ∈ trace.completers,
    begins chart map object = true ∨ isLong object.channel = true
  latest : ∀ channel rank, trace.state.latest.lookup channel = some rank →
    ∃ object, trace.completers[rank]? = some object ∧ isLong object.channel = false
  heads : ((trace.entriesOf (begins chart map)).map fun entry =>
    (entry.1, withoutEnd entry.2)) = (before.filter (begins chart map)).map fun object =>
      (object, noteAt map (chart.beatOf object) object)
  pending : ∀ lane, trace.state.pending.lookup lane =
    (leftOver? (before.filter (isOnLane lane))).map fun object =>
      noteAt map (chart.beatOf object) object
  lanes : ∀ lane, trace.entriesOf (isOnLane lane) =
    (pairUp (before.filter (isOnLane lane))).map (closed chart map)

theorem follows_nil : Follows chart map [] ⟨start, []⟩ where
  aligned := rfl
  inOrder := .slnil
  completes _ member := by cases member
  latest _ _ found := by cases found
  heads := rfl
  pending _ := rfl
  lanes _ := rfl

variable {trace : Trace α}

theorem step_of_completed {next : State α} {note : Note α}
    (same : Extraction.step chart map trace.state object = next)
    (notes : next.notes = trace.state.notes ++ [note]) :
    step chart map trace object = ⟨next, trace.completers ++ [object]⟩ := by
  subst same
  simp [step, notes]

theorem step_of_kept {next : State α}
    (same : Extraction.step chart map trace.state object = next)
    (length : next.notes.length = trace.state.notes.length) :
    step chart map trace object = ⟨next, trace.completers⟩ := by
  subst same
  simp [step, length]

/-- A head completes its own note. -/
theorem Follows.step_begins (follows : Follows chart map before trace)
    (head : begins chart map object = true) :
    Follows chart map (before ++ [object]) (step chart map trace object) := by
  have aligned := follows.aligned
  have notLong := not_isLong_of_holdsHeads (holdsHeads_of_begins head)
  have notOnLane : ∀ lane, isOnLane lane object = false := by simp [isOnLane, notLong]
  rw [step_of_completed (step_of_begins head trace.state) rfl]
  constructor
  · simp [addHead, aligned]
  · exact follows.inOrder.append_right [object]
  · intro other member
    rcases List.mem_append.mp member with earlier | this
    · exact follows.completes other earlier
    · rw [List.mem_singleton.mp this]
      exact .inl head
  · intro channel rank found
    simp only [addHead, List.lookup_cons] at found
    split at found
    · cases found
      exact ⟨object, by simp [← aligned], notLong⟩
    · obtain ⟨other, there, otherNotLong⟩ := follows.latest channel rank found
      exact ⟨other, getElem?_append_of_some there, otherNotLong⟩
  · rw [entriesOf_of_completed_kept aligned rfl head, filter_append_kept before head,
      List.map_append, List.map_append, follows.heads]
    rfl
  · intro lane
    rw [filter_append_dropped before (notOnLane lane)]
    exact follows.pending lane
  · intro lane
    rw [entriesOf_of_completed_dropped aligned rfl (notOnLane lane),
      filter_append_dropped before (notOnLane lane)]
    exact follows.lanes lane

/-- A long note that finds none waiting on its lane waits itself. -/
theorem Follows.step_opening (follows : Follows chart map before trace)
    (long : isLong object.channel = true)
    (noneWaits : trace.state.pending.lookup (noteChannel object.channel) = none) :
    Follows chart map (before ++ [object]) (step chart map trace object) := by
  have notHead : begins chart map object = false := not_begins_of_isLong long
  have onLane : isOnLane (noteChannel object.channel) object = true := by
    simp [isOnLane, long]
  have noneLeft :
      leftOver? (before.filter (isOnLane (noteChannel object.channel))) = none := by
    rw [follows.pending] at noneWaits
    exact Option.map_eq_none_iff.mp noneWaits
  have stepped : Extraction.step chart map trace.state object =
      ⟨trace.state.notes, trace.state.latest,
        (noteChannel object.channel, noteAt map (chart.beatOf object) object) ::
          trace.state.pending⟩ := by
    rw [step_of_isLong long, addPair, noneWaits]
  rw [step_of_kept stepped rfl]
  constructor
  · exact follows.aligned
  · exact follows.inOrder.trans (List.sublist_append_left before [object])
  · exact follows.completes
  · exact follows.latest
  · rw [filter_append_dropped before notHead]
    exact follows.heads
  · intro lane
    by_cases same : noteChannel object.channel = lane
    · subst same
      rw [filter_append_kept before onLane, leftOver?_append_singleton, noneLeft]
      simp
    · have other : isOnLane lane object = false := by simp [isOnLane, same]
      rw [filter_append_dropped before other, ← follows.pending lane, List.lookup_cons,
        beq_eq_false_iff_ne.mpr (Ne.symm same)]
  · intro lane
    by_cases same : noteChannel object.channel = lane
    · subst same
      rw [filter_append_kept before onLane, pairUp_append_singleton, noneLeft,
        Option.toList_none, List.map_nil, List.append_nil]
      exact follows.lanes (noteChannel object.channel)
    · have other : isOnLane lane object = false := by simp [isOnLane, same]
      rw [filter_append_dropped before other]
      exact follows.lanes lane

/-- A long note that finds one waiting on its lane completes it. -/
theorem Follows.step_closing (follows : Follows chart map before trace)
    (long : isLong object.channel = true) {waiting : Note α}
    (waits : trace.state.pending.lookup (noteChannel object.channel) = some waiting) :
    Follows chart map (before ++ [object]) (step chart map trace object) := by
  have aligned := follows.aligned
  have notHead : begins chart map object = false := not_begins_of_isLong long
  have onLane : isOnLane (noteChannel object.channel) object = true := by
    simp [isOnLane, long]
  obtain ⟨opening, left, rfl⟩ :
      ∃ opening,
        leftOver? (before.filter (isOnLane (noteChannel object.channel))) = some opening ∧
        noteAt map (chart.beatOf opening) opening = waiting := by
    rw [follows.pending] at waits
    exact Option.map_eq_some_iff.mp waits
  have stepped : Extraction.step chart map trace.state object =
      ⟨trace.state.notes ++
          [endAt (chart.beatOf object) (noteAt map (chart.beatOf opening) opening)],
        trace.state.latest,
        trace.state.pending.filter fun entry => entry.1 !=
          noteChannel object.channel⟩ := by
    rw [step_of_isLong long, addPair, waits]
  rw [step_of_completed stepped rfl]
  constructor
  · simp [aligned]
  · exact follows.inOrder.append_right [object]
  · intro other member
    rcases List.mem_append.mp member with earlier | this
    · exact follows.completes other earlier
    · rw [List.mem_singleton.mp this]
      exact .inr long
  · intro channel rank found
    obtain ⟨other, there, otherNotLong⟩ := follows.latest channel rank found
    exact ⟨other, getElem?_append_of_some there, otherNotLong⟩
  · rw [entriesOf_of_completed_dropped aligned rfl notHead,
    filter_append_dropped before notHead]
    exact follows.heads
  · intro lane
    rw [lookup_filter_key (fun key => key != noteChannel object.channel)]
    by_cases same : noteChannel object.channel = lane
    · subst same
      rw [filter_append_kept before onLane, leftOver?_append_singleton, left]
      simp
    · have other : isOnLane lane object = false := by simp [isOnLane, same]
      rw [filter_append_dropped before other, ← follows.pending lane]
      simp [Ne.symm same]
  · intro lane
    by_cases same : noteChannel object.channel = lane
    · subst same
      rw [entriesOf_of_completed_kept aligned rfl onLane,
        filter_append_kept before onLane,
        pairUp_append_singleton, left, List.map_append, follows.lanes]
      rfl
    · have other : isOnLane lane object = false := by simp [isOnLane, same]
      rw [entriesOf_of_completed_dropped aligned rfl other,
        filter_append_dropped before other]
      exact follows.lanes lane

/-- An object that completes nothing leaves what a trace holds as it is, but for
the ends of plain notes. -/
theorem Follows.step_neither (follows : Follows chart map before trace)
    (notHead : begins chart map object = false) (notLong : isLong object.channel = false)
    {notes : List (Note α)}
    (stepped : Extraction.step chart map trace.state object =
      { trace.state with notes := notes })
    (length : notes.length = trace.state.notes.length)
    (heads : (entriesOf ⟨{ trace.state with notes := notes }, trace.completers⟩
        (begins chart map)).map (fun entry => (entry.1, withoutEnd entry.2)) =
      (trace.entriesOf (begins chart map)).map fun entry => (entry.1, withoutEnd entry.2))
    (lanes : ∀ lane, entriesOf ⟨{ trace.state with notes := notes }, trace.completers⟩
      (isOnLane lane) = trace.entriesOf (isOnLane lane)) :
    Follows chart map (before ++ [object]) (step chart map trace object) := by
  have notOnLane : ∀ lane, isOnLane lane object = false := by simp [isOnLane, notLong]
  rw [step_of_kept stepped length]
  constructor
  · exact follows.aligned.trans length.symm
  · exact follows.inOrder.trans (List.sublist_append_left before [object])
  · exact follows.completes
  · exact follows.latest
  · rw [heads, filter_append_dropped before notHead]
    exact follows.heads
  · intro lane
    rw [filter_append_dropped before (notOnLane lane)]
    exact follows.pending lane
  · intro lane
    rw [lanes, filter_append_dropped before (notOnLane lane)]
    exact follows.lanes lane

/-- A marker ends the latest plain note of its channel, which no long note is. -/
theorem Follows.step_mark (follows : Follows chart map before trace)
    (notHead : begins chart map object = false) (notLong : isLong object.channel = false)
    (marks : Extraction.step chart map trace.state object =
      mark (chart.beatOf object) (noteChannel object.channel) trace.state) :
    Follows chart map (before ++ [object]) (step chart map trace object) := by
  cases found : trace.state.latest.lookup (noteChannel object.channel) with
  | none =>
      rw [mark, found] at marks
      exact follows.step_neither notHead notLong marks rfl rfl fun _ => rfl
  | some rank =>
      rw [mark, found] at marks
      obtain ⟨marked, there, markedNotLong⟩ := follows.latest _ rank found
      apply follows.step_neither notHead notLong marks
      · exact List.length_modify ..
      · rw [entriesOf, entries_modify]
        refine map_filter_modify ?_ ?_ trace.entries rank
        · exact fun _ => rfl
        · exact fun _ => rfl
      · intro lane
        refine entriesOf_modify_of_dropped there ?_
        rw [isOnLane, markedNotLong, Bool.false_and]

/-- What a trace of some objects holds carries over to one more object. -/
theorem Follows.step (follows : Follows chart map before trace) (object : ChartObject α) :
    Follows chart map (before ++ [object]) (step chart map trace object) := by
  by_cases head : begins chart map object = true
  · exact follows.step_begins head
  · rw [Bool.not_eq_true] at head
    by_cases long : isLong object.channel = true
    · cases waits : trace.state.pending.lookup (noteChannel object.channel) with
      | none => exact follows.step_opening long waits
      | some waiting => exact follows.step_closing long waits
    · rw [Bool.not_eq_true] at long
      rcases step_of_neither head long trace.state with same | marks
      · exact follows.step_neither head long same rfl rfl fun _ => rfl
      · exact follows.step_mark head long marks

theorem follows_run (chart : Chart α) (map : LaneMap) (objects : List (ChartObject α)) :
    Follows chart map objects (run chart map objects) := by
  induction objects using List.reverseRecOn with
  | nil => exact follows_nil
  | append_singleton before object ih =>
      rw [run_append_singleton]
      exact ih.step object

end Trace

end Extraction

end RhythmChart
