import RhythmChart.Notechart.OfChart

/-!
# What a notechart is made of

A notechart that is made consists of the views of one chart: the notes as the
options arrange them, the landmines as they are, and bar lines, all placed by the
same timing and the same scrolling.
-/

namespace RhythmChart

theorem exists_of_bind_eq_ok {σ τ ε : Type} {first : Except ε σ} {next : σ → Except ε τ}
    {result : τ} (made : first >>= next = .ok result) :
    ∃ value, first = .ok value ∧ next value = .ok result := by
  cases first with
  | error fault => cases made
  | ok value => exact ⟨value, rfl, made⟩

namespace Note

variable {α : Type}

def inLanes (notes : List (Note α)) : List (Note α × Text) :=
  notes.filterMap fun note => note.lane?.map fun column => (note, column)

theorem map_fst_inLanes (notes : List (Note α)) :
    (inLanes notes).map Prod.fst = notes.filter fun note => note.lane?.isSome := by
  induction notes with
  | nil => rfl
  | cons note rest ih =>
      unfold inLanes at ih ⊢
      cases lane : note.lane? with
      | none => simp [lane, ih]
      | some column => simp [lane, ih]

theorem map_snd_inLanes (notes : List (Note α)) :
    (inLanes notes).map Prod.snd = notes.filterMap lane? := by
  rw [inLanes, List.map_filterMap]
  congr
  funext note
  cases note.lane? <;> rfl

theorem lane?_of_mem_inLanes {notes : List (Note α)} {entry : Note α × Text}
    (member : entry ∈ inLanes notes) : entry.1 ∈ notes ∧
      entry.1.lane? = some entry.2 := by
  obtain ⟨note, listed, found⟩ := List.mem_filterMap.mp member
  obtain ⟨column, lane, rfl⟩ := Option.map_eq_some_iff.mp found
  exact ⟨listed, lane⟩

end Note

namespace Notechart

variable {α : Type}

/-- Numbering the notes that have a column leaves their columns in order. -/
theorem column_numbered (notes : List (Note α)) :
    (((Note.inLanes notes).zipIdx 1).map fun entry => entry.1.2) =
      notes.filterMap Note.lane? := by
  have unnumbered :=
    congrArg (List.map Prod.snd) (List.zipIdx_map_fst 1 (Note.inLanes notes))
  rw [List.map_map] at unnumbered
  exact unnumbered.trans (Note.map_snd_inLanes notes)

theorem column_playableNotes (place : α → GameEvent α) (notes : List (Note α)) :
    (playableNotes place notes).map GameNote.column = notes.filterMap Note.lane? := by
  rw [playableNotes, List.map_map]
  exact column_numbered notes

theorem column_landminesOf (place : α → GameEvent α) (notes : List (Note α)) :
    (landminesOf place notes).map Landmine.column = notes.filterMap Note.lane? := by
  rw [landminesOf, List.map_map]
  exact column_numbered notes

/-- Ingredients of which none is missing. -/
structure Parts (α : Type) where
  notes : List (Note α)
  timing : Timing α
  keysounds : Keysounds
  songInfo : SongInfo
  scroll : Scroll α
  spacing : Spacing α
  barLines : List α
  landmines : List (Note α)
  window : Int × Int
  images : Images

def Parts.ingredients (parts : Parts α) : Ingredients α where
  notes := some parts.notes
  timing := some parts.timing
  keysounds := some parts.keysounds
  songInfo := some parts.songInfo
  scroll := some parts.scroll
  spacing := some parts.spacing
  barLines := some parts.barLines
  landmines := parts.landmines
  window := parts.window
  images := parts.images

variable [Scalar α]

def Parts.place (parts : Parts α) (beat : α) : GameEvent α :=
  .at parts.timing parts.scroll beat

def Parts.withNotes (parts : Parts α) (arranged : List (Note α)) : Notechart α where
  timing := parts.timing
  scroll := parts.scroll
  spacing := parts.spacing
  keysounds := parts.keysounds
  songInfo := parts.songInfo
  window := parts.window
  images := parts.images
  notes := playableNotes parts.place arranged
  landmines := landminesOf parts.place parts.landmines
  autos := autosOf parts.place arranged
  barLines := parts.barLines.map parts.place

theorem assemble_ingredients (parts : Parts α) (options : PlayerOptions) :
    assemble parts.ingredients options =
      (Note.arrange options.scratch parts.notes).map parts.withNotes := by
  change Note.arrange options.scratch parts.notes >>= _ = _
  cases Note.arrange options.scratch parts.notes <;> rfl

omit [Scalar α] in
theorem eq_some_of_require {β : Type} {part : Ingredient} {given : Option β} {value : β}
    (made : (require part given : Except (Fault α) β) = .ok value) :
    given = some value := by
  cases given with
  | none => cases made
  | some given =>
      cases made
      rfl

/-- Nothing is assembled as long as something is missing. -/
theorem exists_parts_of_assemble {ingredients : Ingredients α} {options : PlayerOptions}
    {notechart : Notechart α} (made : assemble ingredients options = .ok notechart) :
    ∃ parts : Parts α, parts.ingredients = ingredients := by
  obtain ⟨notes, hasNotes, made⟩ := exists_of_bind_eq_ok made
  obtain ⟨timing, hasTiming, made⟩ := exists_of_bind_eq_ok made
  obtain ⟨keysounds, hasKeysounds, made⟩ := exists_of_bind_eq_ok made
  obtain ⟨songInfo, hasSongInfo, made⟩ := exists_of_bind_eq_ok made
  obtain ⟨scroll, hasScroll, made⟩ := exists_of_bind_eq_ok made
  obtain ⟨spacing, hasSpacing, made⟩ := exists_of_bind_eq_ok made
  obtain ⟨barLines, hasBarLines, -⟩ := exists_of_bind_eq_ok made
  refine ⟨⟨notes, timing, keysounds, songInfo, scroll, spacing, barLines,
    ingredients.landmines, ingredients.window, ingredients.images⟩, ?_⟩
  rw [Parts.ingredients, ← eq_some_of_require hasNotes, ← eq_some_of_require hasTiming,
    ← eq_some_of_require hasKeysounds, ← eq_some_of_require hasSongInfo,
    ← eq_some_of_require hasScroll, ← eq_some_of_require hasSpacing,
    ← eq_some_of_require hasBarLines]

theorem ofChart_eq_ok {chart : Chart α} {options : PlayerOptions}
    {notechart : Notechart α} (made : ofChart chart options = .ok notechart) :
    ∃ timing scroll spacing barLines arranged,
      Timing.ofChart chart = .ok timing ∧
      Scroll.ofChart chart = .ok scroll ∧
      Spacing.ofChart chart = .ok spacing ∧
      BarLines.ofChart chart (chart.notes (lanes options).toMap) = .ok barLines ∧
      Note.arrange options.scratch (chart.notes (lanes options).toMap) = .ok arranged ∧
      notechart = {
        timing, scroll, spacing
        keysounds := Keysounds.ofHeaders chart.headers
        songInfo := SongInfo.ofHeaders α chart.headers
        window := windowOf chart
        images := ⟨none, none⟩
        notes := playableNotes (.at timing scroll) arranged
        landmines := landminesOf (.at timing scroll)
          (chart.notes (Lanes.landmines (lanes options)).toMap)
        autos := autosOf (.at timing scroll) arranged
        barLines := barLines.map (.at timing scroll) } := by
  obtain ⟨parts, gathered, assembled⟩ := exists_of_bind_eq_ok made
  obtain ⟨timing, hasTiming, gathered⟩ := exists_of_bind_eq_ok gathered
  obtain ⟨scroll, hasScroll, gathered⟩ := exists_of_bind_eq_ok gathered
  obtain ⟨spacing, hasSpacing, gathered⟩ := exists_of_bind_eq_ok gathered
  obtain ⟨barLines, hasBarLines, gathered⟩ := exists_of_bind_eq_ok gathered
  cases gathered
  have arranges : Note.arrange options.scratch _ >>= _ = .ok notechart := assembled
  obtain ⟨arranged, hasArranged, finished⟩ := exists_of_bind_eq_ok arranges
  cases finished
  exact ⟨timing, scroll, spacing, barLines, arranged, hasTiming, hasScroll, hasSpacing,
    hasBarLines, hasArranged, rfl⟩

end Notechart

end RhythmChart
