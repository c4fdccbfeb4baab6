import RhythmChart.Chart.Basic
import RhythmChart.Note.Basic
import RhythmChart.Note.Lanes

/-!
# Extracting notes

Objects are taken in the order of their positions. An object on a note channel is the head
of a note. A chart may declare a value that marks the end of the latest note on its
channel instead. On the channels of long notes the objects pair up, each even one ending
the note that the odd one before it began; a note without an end is dropped. Landmine
channels count only where they are mapped.
-/

namespace RhythmChart

namespace Extraction

/-- What the objects of a channel stand for. -/
inductive Role where
  | head
  | pair
  | other
  deriving DecidableEq, Repr

def kind (channel : Code) : Text :=
  Text.upperChar channel.first

def role (channel : Code) : Role :=
  if channel = Code.background ∨ kind channel ∈ [['1'], ['2'], ['D'], ['E']] then .head
  else if kind channel ∈ [['5'], ['6']] then .pair
  else .other

/-- Whether a channel holds landmines that the map does not know. -/
def isForeignLandmine (map : LaneMap) (channel : Code) : Bool :=
  decide (kind channel ∈ [['D'], ['E']]) && !map.contains (Text.upper channel.text)

def takesPart (map : LaneMap) (channel : Code) : Bool :=
  !isForeignLandmine map channel && role channel != .other

/-- The channel of notes that a channel belongs to: long notes have the
columns of the plain ones. -/
def noteChannel (channel : Code) : Text :=
  match Text.upper channel.text with
  | '5' :: rest => '1' :: rest
  | '6' :: rest => '2' :: rest
  | upper => upper

structure State (α : Type) where
  notes : List (Note α)
  /-- The rank of the latest head on each channel; the first entry for
  a channel counts. -/
  latest : List (Text × Nat)
  /-- The long notes that wait for their ends. -/
  pending : List (Text × Note α)

variable {α : Type} [Scalar α]

def start : State α := ⟨[], [], []⟩

def noteAt (map : LaneMap) (beat : α) (object : ChartObject α) : Note α :=
  ⟨beat, object.value.text, none, map.column? (noteChannel object.channel), .absent,
    .absent⟩

def endAt (beat : α) (note : Note α) : Note α :=
  { note with endBeat := some beat }

/-- Takes a marker: the latest note on the channel ends here. -/
def mark (beat : α) (channel : Text) (state : State α) : State α :=
  match state.latest.lookup channel with
  | some rank => { state with notes := state.notes.modify rank (endAt beat) }
  | none => state

def addHead (note : Note α) (channel : Text) (state : State α) : State α :=
  { state with
    notes := state.notes ++ [note]
    latest := (channel, state.notes.length) :: state.latest }

def addPair (beat : α) (note : Note α) (channel : Text) (state : State α) : State α :=
  match state.pending.lookup channel with
  | some waiting =>
      { state with
        notes := state.notes ++ [endAt beat waiting]
        pending := state.pending.filter fun entry => entry.1 != channel }
  | none => { state with pending := (channel, note) :: state.pending }

/-- The declared value that marks ends, in lower case; empty when none is declared. -/
def marker (headers : Headers) : Text :=
  Text.lower ((headers.get? ['l', 'n', 'o', 'b', 'j']).getD [])

def isMarker (marker : Text) (value : Code) : Bool :=
  !marker.isEmpty && Text.lower value.text == marker

def step (chart : Chart α) (map : LaneMap) (state : State α) (object : ChartObject α) :
    State α :=
  let channel := noteChannel object.channel
  let beat := chart.beatOf object
  if isForeignLandmine map object.channel then state
  else match role object.channel with
    | .head =>
        if isMarker (marker chart.headers) object.value then mark beat channel state
        else addHead (noteAt map beat object) channel state
    | .pair => addPair beat (noteAt map beat object) channel state
    | .other => state

end Extraction

/-- The notes of a chart, in the order in which the objects in the order of their
positions complete them. -/
def Chart.notes {α : Type} [Scalar α] (chart : Chart α) (map : LaneMap) : List (Note α) :=
  (chart.objects.sorted.foldl (Extraction.step chart map) Extraction.start).notes

end RhythmChart
