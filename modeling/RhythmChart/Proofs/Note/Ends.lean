import RhythmChart.Player.Arrangement
import RhythmChart.Proofs.Motion.Faults
import RhythmChart.Proofs.Note.Channels

/-!
# Ends of notes

A note is ended by an object that comes after the one that began it. If objects in order
have beats in order, then no note ends before it starts, and this is all that can be
refused when notes are arranged.
-/

namespace RhythmChart

variable {α : Type} [Scalar α]

theorem mem_modify {σ : Type} {f : σ → σ} {xs : List σ} {rank : Nat} {x : σ}
    (member : x ∈ xs.modify rank f) : x ∈ xs ∨ ∃ y ∈ xs, x = f y := by
  induction xs generalizing rank with
  | nil => simp at member
  | cons first rest ih =>
      cases rank with
      | zero =>
          rw [List.modify_zero_cons] at member
          rcases List.mem_cons.mp member with changed | kept
          · exact .inr ⟨first, List.mem_cons_self, changed⟩
          · exact .inl (List.mem_cons_of_mem first kept)
      | succ rank =>
          rw [List.modify_succ_cons] at member
          rcases List.mem_cons.mp member with kept | later
          · exact .inl (kept ▸ List.mem_cons_self)
          · rcases ih later with kept | ⟨y, listed, changed⟩
            · exact .inl (List.mem_cons_of_mem first kept)
            · exact .inr ⟨y, List.mem_cons_of_mem first listed, changed⟩

/-- A note does not end before it starts. -/
def Note.EndsInTime (note : Note α) : Prop :=
  ∀ endBeat, note.endBeat = some endBeat → ¬endBeat < note.beat

namespace Extraction

/-- No object that is still to come is before the notes so far. -/
structure Precedes (chart : Chart α) (objects : List (ChartObject α)) (state : State α) :
    Prop where
  notes : ∀ note ∈ state.notes,
    note.EndsInTime ∧ ∀ object ∈ objects, ¬chart.beatOf object < note.beat
  pending : ∀ entry ∈ state.pending, ∀ object ∈ objects, ¬chart.beatOf object <
    entry.2.beat

variable {chart : Chart α} {map : LaneMap} {object : ChartObject α}
  {objects : List (ChartObject α)} {state : State α}

namespace Precedes

theorem later (precedes : Precedes chart (object :: objects) state) :
    Precedes chart objects state where
  notes note member :=
    ⟨(precedes.notes note member).1, fun other listed =>
      (precedes.notes note member).2 other (List.mem_cons_of_mem object listed)⟩
  pending entry member other listed :=
    precedes.pending entry member other (List.mem_cons_of_mem object listed)

theorem mark (precedes : Precedes chart (object :: objects) state) (channel : Text) :
    Precedes chart objects (mark (chart.beatOf object) channel state) := by
  unfold Extraction.mark
  split
  · rename_i rank found
    refine ⟨fun note member => ?_, precedes.later.pending⟩
    rcases mem_modify member with kept | ⟨earlier, listed, rfl⟩
    · exact precedes.later.notes note kept
    · refine ⟨?_, (precedes.later.notes earlier listed).2⟩
      rintro _ ⟨⟩
      exact (precedes.notes earlier listed).2 object List.mem_cons_self
  · exact precedes.later

theorem addHead (precedes : Precedes chart (object :: objects) state)
    (inOrder : ∀ other ∈ objects, ¬chart.beatOf other < chart.beatOf object)
    (channel : Text) :
    Precedes chart objects
      (addHead (noteAt map (chart.beatOf object) object) channel state) where
  notes := by
    intro note member
    rcases List.mem_append.mp member with old | new
    · exact precedes.later.notes note old
    · rw [List.mem_singleton.mp new]
      exact ⟨nofun, inOrder⟩
  pending := precedes.later.pending

theorem addPair (precedes : Precedes chart (object :: objects) state)
    (inOrder : ∀ other ∈ objects, ¬chart.beatOf other < chart.beatOf object)
    (channel : Text) :
    Precedes chart objects
      (addPair (chart.beatOf object) (noteAt map (chart.beatOf object) object) channel
        state) := by
  unfold Extraction.addPair
  split
  · rename_i waiting found
    obtain ⟨before, after, entries, -⟩ := List.lookup_eq_some_iff.mp found
    have waits : (channel, waiting) ∈ state.pending := by simp [entries]
    refine ⟨fun note member => ?_, fun entry member => ?_⟩
    · rcases List.mem_append.mp member with old | new
      · exact precedes.later.notes note old
      · rw [List.mem_singleton.mp new]
        refine ⟨?_, precedes.later.pending _ waits⟩
        rintro _ ⟨⟩
        exact precedes.pending _ waits object List.mem_cons_self
    · exact precedes.later.pending entry (List.mem_filter.mp member).1
  · refine ⟨precedes.later.notes, fun entry member => ?_⟩
    rcases List.mem_cons.mp member with rfl | old
    · exact inOrder
    · exact precedes.later.pending entry old

theorem step (precedes : Precedes chart (object :: objects) state)
    (inOrder : ∀ other ∈ objects, ¬chart.beatOf other < chart.beatOf object) :
    Precedes chart objects (step chart map state object) := by
  by_cases head : begins chart map object = true
  · rw [step_of_begins head]
    exact precedes.addHead inOrder _
  · by_cases long : isLong object.channel = true
    · rw [step_of_isLong long]
      exact precedes.addPair inOrder _
    · rw [Bool.not_eq_true] at head long
      rcases step_of_neither head long state with same | marks
      · rw [same]
        exact precedes.later
      · rw [marks]
        exact precedes.mark _

theorem foldl (precedes : Precedes chart objects state)
    (inOrder : objects.Pairwise fun a b => ¬chart.beatOf b < chart.beatOf a) :
    Precedes chart [] (objects.foldl (Extraction.step chart map) state) := by
  induction objects generalizing state with
  | nil => exact precedes
  | cons object rest ih =>
      obtain ⟨first, others⟩ := List.pairwise_cons.mp inOrder
      exact ih (precedes.step first) others

end Precedes

end Extraction

theorem Chart.endsInTime_of_mem_notes {chart : Chart α} {map : LaneMap}
    (inOrder : chart.objects.sorted.Pairwise fun a b => ¬chart.beatOf b < chart.beatOf a)
    {note : Note α} (member : note ∈ chart.notes map) : note.EndsInTime := by
  have start : Extraction.Precedes chart chart.objects.sorted Extraction.start :=
    { notes := fun _ member => (nomatch member), pending := fun _ member =>
      nomatch member }
  exact ((start.foldl inOrder).notes note member).1

namespace Note

/-- A note that ends before it starts is refused with both of its beats. -/
def Refuses (note : Note α) (fault : Fault α) : Prop :=
  ∃ endBeat, note.endBeat = some endBeat ∧ endBeat < note.beat ∧
    fault = .endBeforeBeat (.number endBeat) (.number note.beat)

theorem EndsInTime.not_refuses {note : Note α} (inTime : note.EndsInTime)
    (fault : Fault α) : ¬note.Refuses fault := by
  rintro ⟨endBeat, ends, early, -⟩
  exact inTime endBeat ends early

theorem yields_checked (note : Note α) :
    Yields (fun result => result = note) note.Refuses (checked note) := by
  unfold checked
  split
  · rename_i endBeat ends
    split
    · rename_i early
      exact ⟨endBeat, ends, early, rfl⟩
    · rfl
  · rfl

theorem yields_withColumn (note : Note α) (column : Option Text) :
    Yields (fun result => result = { note with column := column }) note.Refuses
      (note.withColumn column) :=
  yields_checked { note with column := column }

theorem yields_offTurntable (note : Note α) :
    Yields (fun result => result = note ∨ result = { note with column := none })
      note.Refuses (offTurntable note) := by
  unfold offTurntable
  split
  · exact (yields_withColumn note none).mono (fun _ => .inr) fun _ => id
  · exact .inl rfl

theorem index_lt_five {column : Text} {index : Nat}
    (key : keyColumns.idxOf? column = some index)
    (notSix : column ≠ ['6']) (notSeven : column ≠ ['7']) : index < 5 := by
  obtain ⟨bound, here, -⟩ := List.idxOf?_eq_some_iff.mp key
  have bound : index < 7 := bound
  refine Nat.lt_of_not_le fun large => ?_
  have last : index = 5 ∨ index = 6 := by omega
  rcases last with rfl | rfl
  · exact notSix here.symm
  · exact notSeven here.symm

/-- There is a key that one of the first five is moved to. -/
theorem yields_shift {note : Note α} {amount : Nat} (small : amount ≤ 2)
    (notSix : note.column ≠ some ['6']) (notSeven : note.column ≠ some ['7']) :
    Yields (fun _ => True) note.Refuses (shift amount note) := by
  unfold shift
  cases column : note.column with
  | none => trivial
  | some name =>
      rw [column, ne_eq, Option.some_inj] at notSix notSeven
      cases key : keyColumns.idxOf? name with
      | none =>
          dsimp only
          rw [key]
          trivial
      | some index =>
          have first := index_lt_five key notSix notSeven
          -- The key moved to is the seventh at most, so its index is within bounds on
          -- both sides.
          have inside :
              ¬((keyColumns.length : Int) ≤ (index : Int) + (amount : Int)) := by
            change ¬((7 : Int) ≤ _)
            omega
          have upwards : ¬((index : Int) + (amount : Int) < 0) := by omega
          have notFar :
              ¬((index : Int) + (amount : Int) < -(keyColumns.length : Int)) := by omega
          have target : keyColumns[((index : Int) + (amount : Int)).toNat]? ≠ none := by
            rw [ne_eq, List.getElem?_eq_none_iff]
            omega
          obtain ⟨moved, found⟩ := Option.ne_none_iff_exists'.mp target
          simp only [key, if_neg inside, if_neg upwards, found, if_neg notFar]
          exact (yields_withColumn note (some moved)).mono (fun _ _ => trivial) fun _ =>
            id

omit [Scalar α] in
theorem column_of_not_usesSevenKeys {notes : List (Note α)}
    (five : usesSevenKeys notes = false) {note : Note α} (member : note ∈ notes) :
    note.column ≠ some ['6'] ∧ note.column ≠ some ['7'] := by
  have unused := List.any_eq_false.mp five note member
  rwa [Bool.or_eq_true, decide_eq_true_iff, decide_eq_true_iff, not_or] at unused

/-- The notes that are shifted are those of the chart, some of which may
have left their column. -/
theorem yields_shiftKeys (scratch : Scratch) {notes playable : List (Note α)}
    (sources : ∀ moved ∈ playable, ∃ note ∈ notes,
      moved = note ∨ moved = { note with column := none }) :
    Yields (fun _ => True) (fun fault => ∃ note ∈ notes, note.Refuses fault)
      (if usesSevenKeys notes || fiveKeyShift scratch = 0 then Except.ok playable
        else playable.mapM (shift (fiveKeyShift scratch))) := by
  obtain ⟨amount, small, shifts⟩ :
      ∃ amount : Nat, amount ≤ 2 ∧ fiveKeyShift scratch = (amount : Int) := by
    cases scratch with
    | off => exact ⟨1, by decide, rfl⟩
    | left => exact ⟨0, by decide, rfl⟩
    | right => exact ⟨2, by decide, rfl⟩
  split
  · trivial
  · rename_i moves
    rw [Bool.or_eq_true, not_or, Bool.not_eq_true] at moves
    rw [shifts]
    have each : ∀ moved ∈ playable,
        Yields (fun _ => True) (fun fault => ∃ note ∈ notes, note.Refuses fault)
          (shift amount moved) := by
      intro moved member
      obtain ⟨note, listed, source⟩ := sources moved member
      obtain ⟨notSix, notSeven⟩ := column_of_not_usesSevenKeys moves.1 listed
      rcases source with rfl | rfl
      · exact (yields_shift small notSix notSeven).mono (fun _ _ => trivial)
          fun _ refuses => ⟨_, listed, refuses⟩
      · have gone : ∀ name : Text, (none : Option Text) ≠ some name := fun _ => nofun
        exact (yields_shift small (gone _) (gone _)).mono (fun _ _ => trivial)
          fun _ refuses => ⟨_, listed, refuses⟩
    exact (Yields.mapM each).mono (fun _ _ => trivial) fun _ => id

/-- Arranging notes refuses nothing but a note that ends before it starts. -/
theorem yields_arrange (scratch : Scratch) (notes : List (Note α)) :
    Yields (fun _ => True) (fun fault => ∃ note ∈ notes, note.Refuses fault)
      (arrange scratch notes) := by
  cases scratch with
  | off =>
      have emptied : Yields
          (fun playable => ∀ moved ∈ playable, ∃ note ∈ notes,
            moved = note ∨ moved = { note with column := none })
          (fun fault => ∃ note ∈ notes, note.Refuses fault) (notes.mapM offTurntable) :=
        Yields.mapM fun note member => (yields_offTurntable note).mono
          (fun _ kept => ⟨note, member, kept⟩) fun _ refuses => ⟨note, member, refuses⟩
      exact emptied.bind fun playable => yields_shiftKeys .off
  | left => exact yields_shiftKeys .left fun note member => ⟨note, member, .inl rfl⟩
  | right => exact yields_shiftKeys .right fun note member => ⟨note, member, .inl rfl⟩

end Note

end RhythmChart
