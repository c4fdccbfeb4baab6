import RhythmChart.Draft.Basic
import RhythmChart.Proofs.Compilation.Source
import RhythmChart.Proofs.Compilation.Validity
import RhythmChart.Proofs.Number.Levels
import RhythmChart.Proofs.Sentence.Channels
import RhythmChart.Proofs.Timing.Actions

/-!
# Compilation passes every check

Records that are put together by hand are checked: a code has two characters, a measure is
not negative, a fraction is proper and a size is positive. Compilation line by line, which
cuts its records out of the data and has them checked, fails for no such check. It fails
at a number that is too long to be read, and gives the same chart as compilation without
checks otherwise. So each object is what some slot of some line says.
-/

namespace RhythmChart

variable {α : Type} [Scalar α]

def ChartObject.record (object : ChartObject α) : DraftObject.Record α :=
  ⟨.text object.channel.text, .integer object.measure, .number object.fraction,
    .text object.value.text, (object.line.map Field.integer).getD .absent⟩

namespace Chart

def addDraft (chart : Chart α) (object : DraftObject α) : Except (Fault α) (Chart α) :=
  match object.toObject? with
  | some object => .ok (chart.addObject object)
  | none => .error .incomparable

def addRecord (chart : Chart α) (record : DraftObject.Record α) :
    Except (Fault α) (Chart α) := do
  chart.addDraft (← DraftObject.ofRecord record)

def setSizeChecked (chart : Chart α) (measure : Int) (size : α) :
    Except (Fault α) (Chart α) :=
  (chart.sizes.set measure (.number size)).map fun sizes => { chart with sizes := sizes }

end Chart

namespace Content

/-- The records that channel data is cut into: two characters each, as
often as they fit. -/
def records (line measure : Nat) (channel data : Text) : List (DraftObject.Record α) :=
  (List.range (data.length / 2)).filterMap fun slot =>
    let value := (data.drop (2 * slot)).take 2
    if value = Code.empty.text then none
    else some ⟨.text channel, .integer measure,
      .number ((slot : α) / ((data.length / 2 : Nat) : α)), .text value, .integer line⟩

/-- The chart with a content sentence applied, where everything that is
stored is checked first. -/
def applyChecked (line : Nat) (chart : Chart α) : Content → Except (Fault α) (Chart α)
  | measureSize measure text =>
      match size? text with
      | some size => chart.setSizeChecked measure size
      | none => .ok chart
  | channel measure code data =>
      (records line measure code.text data).foldlM Chart.addRecord chart
  | header name value => .ok (chart.setHeader name value)

end Content

namespace Compilation

def stepChecked (state : State α) (entry : Nat × Sentence) : Except (Fault α) (State α) :=
  let next := step state entry
  match entry with
  | (line, .content content) =>
      if state.gate.skips then .ok next
      else (content.applyChecked line state.result.chart).map fun chart =>
        { next with result := { next.result with chart := chart } }
  | _ => .ok next

/-- Takes one line: its number must be readable, and its sentence is taken with checks. -/
def lineChecked (dialect : Dialect) (generator : Generator α) (state : State α)
    (entry : Nat × Text) : Except (Fault α) (State α) :=
  match Sentence.refusal? generator (Text.trim entry.2) with
  | some fault => .error fault
  | none =>
      match Sentence.read? dialect (Text.trim entry.2) with
      | some sentence => stepChecked state (entry.1, sentence)
      | none => .ok state

def ofSourceChecked (dialect : Dialect) (generator : Generator α) (source : Text) :
    Except (Fault α) (Compilation α) :=
  ((Text.numberedLines source).foldlM (lineChecked dialect generator)
    ⟨.start generator.draws, empty⟩).map State.result

end Compilation

/-! ## No check fails -/

theorem foldlM_eq_ok {σ τ ε : Type} {f : σ → τ → Except ε σ} {g : σ → τ → σ} {xs : List τ}
    (each : ∀ state, ∀ x ∈ xs, f state x = .ok (g state x)) (start : σ) :
    xs.foldlM f start = .ok (xs.foldl g start) := by
  induction xs generalizing start with
  | nil => rfl
  | cons x rest ih =>
      rw [List.foldlM_cons, each start x List.mem_cons_self]
      exact ih (fun state y member => each state y (List.mem_cons_of_mem x member))
        (g start x)

/-- The record of an object with a proper fraction passes its checks and
describes the object. -/
theorem Chart.addRecord_record (chart : Chart α) {object : ChartObject α}
    (valid : object.Valid) :
    chart.addRecord object.record = .ok (chart.addObject object) := by
  have measured :
      Measure.ofField (.integer object.measure : Field α) =
        .ok (.whole object.measure) := by
    rw [Measure.ofField, if_neg (Int.not_lt.mpr (Int.natCast_nonneg object.measure)),
      Int.toNat_natCast]
  have proper :
      DraftObject.fractionNumber (.number object.fraction) = .ok object.fraction :=
    if_pos valid
  have made : DraftObject.ofRecord object.record = .ok (DraftObject.ofObject object) := by
    unfold DraftObject.ofRecord ChartObject.record
    dsimp only
    rw [measured, proper]
    rfl
  have back : (DraftObject.ofObject object).toObject? = some object := by
    obtain ⟨channel, measure, fraction, value, line⟩ := object
    cases line <;> rfl
  unfold addRecord
  rw [made]
  change chart.addDraft (DraftObject.ofObject object) = _
  rw [addDraft, back]

/-- A channel of one character is refused. -/
example :
    (Chart.empty.addRecord ⟨.text ['1'], .integer 0, .number 0, .text ['0', '1'],
      .absent⟩ :
    Except (Fault Rat) (Chart Rat)) = .error (.notACode .channel (.text ['1'])) := rfl

theorem Chart.setSizeChecked_of_pos [HasLevel α] (chart : Chart α) (measure : Int)
    {size : α} (positive : ((0 : Nat) : α) < size) :
    chart.setSizeChecked measure size = .ok (chart.setSize measure size) := by
  have accepted : (MeasureSizes.checked (.number size) : Except (Fault α) α) = .ok size :=
    if_neg (HasLevel.not_le_of_lt positive)
  rw [setSizeChecked, MeasureSizes.set, accepted]
  rfl

theorem Code.text_injective : Function.Injective Code.text :=
  fun _ _ same => Option.some.inj (ofText?_eq_some_iff.mpr same)

namespace Content

theorem exists_slot?_of_lt {data : Text} {slot : Nat} (inRange : slot < data.length / 2) :
    ∃ value, slot? data slot = some value ∧
      (data.drop (2 * slot)).take 2 = value.text := by
  have first : 2 * slot < data.length := by omega
  have second : 2 * slot + 1 < data.length := by omega
  refine ⟨⟨data[2 * slot], data[2 * slot + 1]⟩, ?_, ?_⟩
  · rw [slot?, List.getElem?_eq_getElem first, List.getElem?_eq_getElem second]
    rfl
  · rw [List.drop_eq_getElem_cons first, List.drop_eq_getElem_cons second]
    rfl

theorem records_eq (line measure : Nat) (channel : Code) (data : Text) :
    (records line measure channel.text data : List (DraftObject.Record α)) =
      (objects line measure channel data).map ChartObject.record := by
  rw [objects_eq, filledSlots, List.map_filterMap]
  refine List.filterMap_congr fun slot member => ?_
  obtain ⟨value, found, cut⟩ := exists_slot?_of_lt (List.mem_range.mp member)
  dsimp only
  rw [cut]
  by_cases filled : value = Code.empty
  · have notFilled : filled? data slot = none := by
      rw [filled?, found, filled]
      rfl
    rw [if_pos (congrArg Code.text filled), notFilled]
    rfl
  · have kept : filled? data slot = some value := filled?_eq_some_iff.mpr ⟨found, filled⟩
    have texts : value.text ≠ Code.empty.text :=
      fun same => filled (Code.text_injective same)
    rw [if_neg texts, kept]
    rfl

theorem applyChecked_eq [HasLevel α] {line : Nat} {content : Content}
    (valid : ∀ object ∈ content.placed α line, object.Valid) (chart : Chart α) :
    content.applyChecked line chart = .ok (content.apply line chart) := by
  cases content with
  | header name value => rfl
  | measureSize measure text =>
      rw [applyChecked, apply]
      cases read : (size? text : Option α) with
      | none => rfl
      | some size => exact chart.setSizeChecked_of_pos measure (pos_of_size? read)
  | channel measure code data =>
      rw [applyChecked, apply, records_eq, List.foldlM_map]
      exact foldlM_eq_ok (fun chart object member =>
        chart.addRecord_record (valid object member)) chart

end Content

namespace Compilation

theorem stepChecked_eq [HasLevel α]
    (valid : ∀ (content : Content) line, ∀ object ∈ content.placed α line, object.Valid)
    (state : State α) (entry : Nat × Sentence) :
    stepChecked state entry = .ok (step state entry) := by
  obtain ⟨line, sentence⟩ := entry
  cases sentence with
  | control control => rfl
  | malformed text => rfl
  | content content =>
      unfold stepChecked
      dsimp only
      rw [Content.applyChecked_eq (valid content line)]
      split
      · rfl
      · rename_i taken
        unfold step
        dsimp only
        rw [if_neg taken]
        rfl

/-- Lines are taken until one is refused; without checks, their sentences are taken. -/
theorem foldlM_lineChecked [HasLevel α]
    (valid : ∀ (content : Content) line, ∀ object ∈ content.placed α line, object.Valid)
    (dialect : Dialect) (generator : Generator α) (lines : List (Nat × Text))
    (state : State α) :
    lines.foldlM (lineChecked dialect generator) state =
      match lines.findSome? fun entry =>
          Sentence.refusal? generator (Text.trim entry.2) with
      | some fault => .error fault
      | none => .ok ((lines.filterMap fun entry =>
          (Sentence.read? dialect (Text.trim entry.2)).map
            (entry.1, ·)).foldl step state) := by
  induction lines generalizing state with
  | nil => rfl
  | cons entry rest ih =>
      obtain ⟨number, line⟩ := entry
      rw [List.foldlM_cons, List.findSome?_cons, lineChecked]
      cases Sentence.refusal? generator (Text.trim line) with
      | some fault => rfl
      | none =>
          cases read : Sentence.read? dialect (Text.trim line) with
          | none =>
              rw [List.filterMap_cons_none (by rw [read]; rfl)]
              exact ih state
          | some sentence =>
              rw [List.filterMap_cons_some (by rw [read]; rfl), List.foldl_cons]
              dsimp only
              rw [stepChecked_eq valid]
              exact ih (step state (number, sentence))

theorem ofSourceChecked_eq [HasLevel α]
    (valid : ∀ (content : Content) line, ∀ object ∈ content.placed α line, object.Valid)
    (dialect : Dialect) (generator : Generator α) (source : Text) :
    ofSourceChecked dialect generator source = ofSource dialect generator source := by
  unfold ofSourceChecked ofSource refusal?
  rw [foldlM_lineChecked valid]
  cases (Text.numberedLines source).findSome? fun entry =>
    Sentence.refusal? generator (Text.trim entry.2) <;> rfl

end Compilation

/-! ## What is stored -/

/-- What is known of an object that was compiled: some line of the source holds its
channel and its measure, and some slot of that line its value. -/
structure ChartObject.IsWritten (dialect : Dialect) (source : Text)
    (object : ChartObject α) : Prop where
  visible : ∀ c ∈ object.channel.text ++ object.value.text, Text.isBlank c = false
  filled : object.value ≠ Code.empty
  measure_lt : object.measure < 1000
  slot : ∃ number line data slot, (number, line) ∈ Text.numberedLines source ∧
    object.line = some (number : Int) ∧
    Sentence.HoldsChannel dialect (Text.trim line) object.measure object.channel data ∧
    slot < data.length / 2 ∧ Content.slot? data slot = some object.value ∧
    object.fraction = (slot : α) / ((data.length / 2 : Nat) : α)

namespace Compilation

theorem isWritten_ofText (dialect : Dialect) (draws : List Int) (source : Text) :
    ∀ object ∈ (ofText dialect draws source : Compilation α).chart.objects.toList,
      object.IsWritten dialect source := by
  apply objects_ofText
  intro number measure channel data member object placed
  obtain ⟨line, numbered, read⟩ := Sentence.mem_ofText_iff.mp member
  obtain ⟨slot, value, found, filled, rfl⟩ := Content.mem_objects_iff.mp placed
  have holds := Sentence.holdsChannel_of_read? read
  refine ⟨?_, filled, holds.measure_lt, number, line, data, slot, numbered, rfl, holds,
    Content.lt_of_slot? found, found, rfl⟩
  intro c member
  apply holds.visible
  rcases List.mem_append.mp member with inChannel | inValue
  · exact List.mem_append_left data inChannel
  · exact List.mem_append_right channel.text (Content.subset_of_slot? found inValue)

theorem valid_of_mem_placed (content : Content) (line : Nat) :
    ∀ object ∈ content.placed Rat line, object.Valid := by
  intro object placed
  cases content with
  | channel measure code data => exact Content.valid_of_mem_objects placed
  | header name value => cases placed
  | measureSize measure text => cases placed

theorem isFinite_of_size? {text : Text} {size : Float}
    (read : Content.size? text = some size) : Scalar.isFinite size = true := by
  obtain ⟨number, -⟩ := Option.filter_eq_some_iff.mp read
  obtain ⟨negative, digits, exponent, decimal⟩ := Text.exists_ofDecimal?_of_number? number
  exact Double.isFinite_of_ofDecimal? decimal

/-- Compilation in exact arithmetic passes all checks of records, whatever draws its
numbers. With draws that are given it fails only if the number of a control sentence is
too long. The chart holds nothing but what is written in the source: proper objects, one
at most at each place in the foreground, and positive sizes. Sizes that are kept as
doubles pass their check too, and are finite. -/
theorem ofSource_passes_checks (dialect : Dialect) (draws : List Int) (source : Text) :
    (∀ generator : Generator Rat,
        ofSourceChecked dialect generator source = ofSource dialect generator source) ∧
      (ofSource dialect (.given draws) source : Except (Fault Rat) (Compilation Rat)) =
        (if Sentence.HasUnreadable source then .error .notANumeral
          else .ok (ofText dialect draws source)) ∧
      (∀ object ∈ (ofText dialect draws source : Compilation Rat).chart.objects.toList,
        object.IsWritten dialect source) ∧
      ((ofText dialect draws source : Compilation Rat).chart.objects.toList.Pairwise
        fun a b => a.channel = b.channel → a.measure = b.measure →
          a.fraction = b.fraction → a.channel = Code.background) ∧
      (∀ entry ∈ (ofText dialect draws source : Compilation Rat).chart.sizes.entries,
        0 < entry.2) ∧
      (∀ (chart : Chart Float) line measure text,
        (Content.measureSize measure text).applyChecked line chart =
          .ok ((Content.measureSize measure text).apply line chart)) ∧
      ∀ entry ∈ (ofText dialect draws source : Compilation Float).chart.sizes.entries,
        ((0 : Nat) : Float) < entry.2 ∧ Scalar.isFinite entry.2 = true := by
  refine ⟨fun generator =>
    ofSourceChecked_eq valid_of_mem_placed dialect generator source,
    ofSource_given dialect draws source, isWritten_ofText dialect draws source, ?_,
    (wellFormed_ofText dialect draws source).sizes, ?_, ?_⟩
  · refine (wellFormed_ofText dialect draws source).pairwise_places.imp ?_
    intro a b apart channels measures fractions
    by_contra foreground
    refine apart foreground ?_
    rw [channels, measures, fractions]
    exact b.isAt_self
  · intro chart line measure text
    apply Content.applyChecked_eq
    intro object placed
    cases placed
  · apply sizes_ofText
      (P := fun size : Float => ((0 : Nat) : Float) < size ∧ Scalar.isFinite size = true)
    intro text size read
    exact ⟨Content.pos_of_size? read, isFinite_of_size? read⟩

/-- A block for a drawn number of so many ones. -/
def longBlock (digits : Nat) : Text :=
  '#' :: 'I' :: 'F' :: ' ' :: List.replicate digits '1'

theorem numberedLines_longBlock (digits : Nat) :
    Text.numberedLines (longBlock digits) = [(1, longBlock digits)] := by
  have isLine : Text.IsLine (longBlock digits) := by
    simp [Text.IsLine, longBlock]
  have single : Text.joinLines [longBlock digits] = longBlock digits := by
    simp [Text.joinLines, List.intercalate]
  have lines :=
    Text.lines_joinLines (List.cons_ne_nil _ []) (List.forall_mem_singleton.mpr isLine)
  rw [single] at lines
  rw [Text.numberedLines, lines]
  rfl

theorem trim_longBlock (digits : Nat) :
    Text.trim (longBlock (digits + 1)) = longBlock (digits + 1) := by
  rw [longBlock, Text.trim_cons (by decide), Text.trimEnd_eq_self]
  intro c last
  rw [List.replicate_succ', ← List.cons_append, ← List.cons_append, ← List.cons_append,
    List.getLast?_concat] at last
  obtain rfl : '1' = c := Option.some.inj last
  decide

theorem isUnreadable_longBlock {digits : Nat} (many : Radix.digitLimit ≤ digits) :
    Sentence.isUnreadable (longBlock (digits + 1)) = true := by
  have spaced : Sentence.afterBlanks? (' ' :: List.replicate (digits + 1) '1') =
      some (List.replicate (digits + 1) '1') := rfl
  have isNumber : (Text.natural? (List.replicate (digits + 1) '1')).isSome = true := by
    refine (Text.isSome_natural?_iff _).mpr ⟨List.cons_ne_nil _ _, fun c member => ?_⟩
    rw [List.eq_of_mem_replicate member]
    decide
  have tooLong : Radix.isReadable 10 (digits + 1) = false := by
    simpa [Radix.isReadable] using Nat.lt_succ_of_le many
  refine List.any_eq_true.mpr ⟨['I', 'F'], by decide, ?_⟩
  change (Sentence.afterBlanks? (' ' :: List.replicate (digits + 1) '1')).any _ = true
  rw [spaced, Option.any_some, List.length_replicate, isNumber, tooLong]
  rfl

theorem not_forall_compiled :
    ¬∀ source, ∃ compilation,
      (ofSource .bms (.given []) source : Except (Fault Rat) (Compilation Rat)) =
        .ok compilation := by
  intro compiled
  obtain ⟨compilation, made⟩ := compiled (longBlock (Radix.digitLimit + 1))
  have unreadable : Sentence.HasUnreadable (longBlock (Radix.digitLimit + 1)) := by
    refine ⟨(1, longBlock (Radix.digitLimit + 1)), ?_, ?_⟩
    · rw [numberedLines_longBlock]
      exact List.mem_singleton_self _
    · rw [trim_longBlock]
      exact isUnreadable_longBlock le_rfl
  rw [ofSource_given, if_pos unreadable] at made
  cases made

end Compilation

end RhythmChart
