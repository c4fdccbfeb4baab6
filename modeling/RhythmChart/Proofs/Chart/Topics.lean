import Mathlib.Data.List.Basic
import RhythmChart.Proofs.Chart.Beats
import RhythmChart.Proofs.Chart.HeaderTable
import RhythmChart.Proofs.Chart.Overlay
import RhythmChart.Proofs.Compilation.Slots

/-!
# Topics

Every content sentence is about one part of a chart: a header field, the cell that a
channel has in a measure, or the size of a measure. It changes what is seen of that part,
in a way that depends only on what was seen there before, and nothing that is seen of any
other part. So each part can be followed through a source on its own.
-/

namespace RhythmChart

/-- A part of a chart that sentences are about. Names of fields are in lower case. -/
inductive Topic where
  | field (name : Text)
  | cell (measure : Nat) (channel : Code)
  | size (measure : Int)
  deriving DecidableEq

def Content.topic : Content → Topic
  | .measureSize measure _ => .size measure
  | .channel measure code _ => .cell measure code
  | .header name _ => .field (Text.lower name)

namespace ChartObject

variable {α : Type}

def isIn (measure : Nat) (channel : Code) (object : ChartObject α) : Bool :=
  object.measure == measure && object.channel == channel

def withoutLine (object : ChartObject α) : ChartObject α :=
  { object with line := none }

theorem isIn_iff {measure : Nat} {channel : Code} {object : ChartObject α} :
    object.isIn measure channel = true ↔ object.measure = measure ∧
      object.channel = channel := by
  simp [isIn]

theorem samePlace_withoutLine [Scalar α] (a b : ChartObject α) :
    samePlace a.withoutLine b.withoutLine = samePlace a b := rfl

theorem isIn_eq_of_samePlace [Scalar α] {measure : Nat} {channel : Code}
    {a b : ChartObject α}
    (same : samePlace a b = true) : a.isIn measure channel = b.isIn measure channel := by
  simp only [samePlace, Bool.and_eq_true, beq_iff_eq] at same
  rw [isIn, isIn, same.1.1, same.1.2]

end ChartObject

namespace Objects

open ChartObject (isIn withoutLine)

section Placing

variable {σ : Type} {samePlace : σ → σ → Bool} {entry : σ} {p : σ → Bool} {xs : List σ}

/-- A filter that keeps an entry and everything that it may replace sees it placed. -/
theorem filter_place (rivals : ∀ x, samePlace x entry = true → p x = true)
    (kept : p entry = true) :
    (place samePlace entry xs).filter p = place samePlace entry (xs.filter p) := by
  induction xs with
  | nil => simp [place, kept]
  | cons x rest ih =>
      rw [place]
      split
      · rename_i same
        rw [List.filter_cons_of_pos kept, List.filter_cons_of_pos (rivals x same), place,
          if_pos same]
      · rename_i different
        by_cases keeps : p x = true
        · rw [List.filter_cons_of_pos keeps, List.filter_cons_of_pos keeps, ih, place,
            if_neg different]
        · rw [List.filter_cons_of_neg keeps, List.filter_cons_of_neg keeps, ih]

end Placing

variable {α : Type}

/-- What a channel has in a measure, whatever lines it comes from. -/
def cell (measure : Nat) (channel : Code) (objects : Objects α) : Objects α :=
  ⟨(objects.toList.filter (isIn measure channel)).map withoutLine⟩

/-- A collection is made of its cells. -/
theorem perm_of_cells {left right : Objects α}
    (cells : ∀ measure channel, left.cell measure channel = right.cell measure channel) :
    (left.toList.map withoutLine).Perm (right.toList.map withoutLine) := by
  classical
  rw [List.perm_iff_count]
  intro object
  have inside : object.isIn object.measure object.channel = true :=
    ChartObject.isIn_iff.mpr ⟨rfl, rfl⟩
  have listed : ∀ objects : Objects α,
      (objects.cell object.measure object.channel).toList =
        (objects.toList.map withoutLine).filter
          (isIn object.measure object.channel) := by
    intro objects
    rw [List.filter_map]
    rfl
  rw [← List.count_filter inside, ← listed, cells, listed, List.count_filter inside]

variable [Scalar α] {measure : Nat} {channel : Code}

theorem cell_add (objects : Objects α) (object : ChartObject α) :
    (objects.add object).cell measure channel =
      if object.isIn measure channel then
        (objects.cell measure channel).add object.withoutLine
      else objects.cell measure channel := by
  unfold add
  cases here : object.isIn measure channel with
  | false =>
      split
      · simp [cell, here]
      · rw [cell, filter_place_of_dropped _ here, if_neg Bool.false_ne_true, cell]
        intro other same
        exact (ChartObject.isIn_eq_of_samePlace same).trans here
  | true =>
      rw [if_pos rfl]
      by_cases background : object.channel = Code.background
      · rw [if_pos background,
        if_pos (show object.withoutLine.channel = _ from background)]
        simp [cell, here]
      · rw [if_neg background,
          if_neg (show object.withoutLine.channel ≠ _ from background), cell,
          filter_place _ here, map_place ChartObject.samePlace_withoutLine, cell]
        intro other same
        exact (ChartObject.isIn_eq_of_samePlace same).trans here

theorem cell_foldl_add (objects : Objects α) (added : List (ChartObject α)) :
    (added.foldl add objects).cell measure channel =
      ((added.filter (isIn measure channel)).map withoutLine).foldl add
        (objects.cell measure channel) := by
  induction added generalizing objects with
  | nil => rfl
  | cons object rest ih =>
      rw [List.foldl_cons, ih, cell_add]
      cases here : object.isIn measure channel with
      | false => rw [List.filter_cons_of_neg (by simp [here]), if_neg Bool.false_ne_true]
      | true =>
          rw [List.filter_cons_of_pos here, if_pos rfl, List.map_cons, List.foldl_cons]

end Objects

namespace Content

open ChartObject (isIn withoutLine)

variable {α : Type} [Scalar α]

theorem map_withoutLine_objects (line other measure : Nat) (channel : Code)
    (data : Text) :
    (objects line measure channel data : List (ChartObject α)).map withoutLine =
      (objects other measure channel data).map withoutLine := by
  rw [objects_eq, objects_eq, filledSlots, filledSlots, List.map_filterMap,
    List.map_filterMap]
  refine List.filterMap_congr fun i _ => ?_
  rw [Option.map_map, Option.map_map]
  rfl

theorem filter_isIn_objects (line measure : Nat) (channel : Code) (data : Text)
    (measure' : Nat) (channel' : Code) :
    (objects line measure channel data : List (ChartObject α)).filter
      (isIn measure' channel') =
      if Topic.cell measure channel = .cell measure' channel' then
        objects line measure channel data
      else [] := by
  have inside : ∀ object ∈ (objects line measure channel data : List (ChartObject α)),
      object.measure = measure ∧ object.channel = channel := by
    intro object member
    obtain ⟨i, value, -, -, rfl⟩ := mem_objects_iff.mp member
    exact ⟨rfl, rfl⟩
  split
  · rename_i same
    cases same
    refine List.filter_eq_self.mpr fun object member => ?_
    exact ChartObject.isIn_iff.mpr (inside object member)
  · rename_i different
    refine List.filter_eq_nil_iff.mpr fun object member there => different ?_
    obtain ⟨measures, channels⟩ := inside object member
    obtain ⟨measures', channels'⟩ := ChartObject.isIn_iff.mp there
    rw [← measures, ← channels, measures', channels']

end Content

/-- What is seen of a part of a chart: the values of a field, the objects of a cell,
or a size that was set. -/
inductive View (α : Type) where
  | field (values? : Option (List (Option Text)))
  | cell (objects : Objects α)
  | size (size? : Option α)

/-- What is seen of a part after a content sentence about it. -/
def View.take {α : Type} [Scalar α] : View α → Content → View α
  | .field values?, .header _ value => .field (some (values?.getD [] ++ [value]))
  | .cell objects, .channel measure code data =>
      .cell (((Content.objects 0 measure code data).map ChartObject.withoutLine).foldl
        Objects.add objects)
  | .size size?, .measureSize _ text => .size ((Content.size? text).or size?)
  | view, _ => view

namespace Chart

variable {α : Type}

def view (topic : Topic) (chart : Chart α) : View α :=
  match topic with
  | .field name => .field (chart.headers.entries.lookup name)
  | .cell measure channel => .cell (chart.objects.cell measure channel)
  | .size measure => .size (chart.sizes.entries.lookup measure)

theorem view_setSize (topic : Topic) (chart : Chart α) (measure : Int) (size : α) :
    (chart.setSize measure size).view topic =
      if Topic.size measure = topic then .size (some size) else chart.view topic := by
  cases topic with
  | field name => rfl
  | cell measure channel => rfl
  | size other =>
      by_cases same : measure = other
      · rw [if_pos (congrArg Topic.size same), ← same]
        exact congrArg View.size
          (MeasureSizes.lookup_insertEntry_self measure size chart.sizes.entries)
      · rw [if_neg fun numbered => same (Topic.size.inj numbered)]
        exact congrArg View.size
          (MeasureSizes.lookup_insertEntry_of_ne (Ne.symm same) size chart.sizes.entries)

variable [Scalar α]

theorem view_setHeader (topic : Topic) (chart : Chart α) (name : Text)
    (value : Option Text) :
    (chart.setHeader name value).view topic =
      if Topic.field (Text.lower name) = topic then
        (chart.view topic).take (.header name value)
      else chart.view topic := by
  cases topic with
  | field other =>
      by_cases same : Text.lower name = other
      · rw [if_pos (congrArg Topic.field same), ← same]
        exact congrArg View.field
          (Headers.lookup_record_self value chart.headers.entries _)
      · rw [if_neg fun named => same (Topic.field.inj named)]
        exact congrArg View.field
          (Headers.lookup_record_of_ne value chart.headers.entries (Ne.symm same))
  | cell measure channel => rfl
  | size measure => rfl

theorem headers_foldl_addObject (chart : Chart α) (added : List (ChartObject α)) :
    (added.foldl addObject chart).headers = chart.headers := by
  induction added generalizing chart with
  | nil => rfl
  | cons object rest ih => exact ih (chart.addObject object)

theorem sizes_foldl_addObject (chart : Chart α) (added : List (ChartObject α)) :
    (added.foldl addObject chart).sizes = chart.sizes := by
  induction added generalizing chart with
  | nil => rfl
  | cons object rest ih => exact ih (chart.addObject object)

theorem view_foldl_addObject (topic : Topic) (chart : Chart α) (line measure : Nat)
    (channel : Code) (data : Text) :
    ((Content.objects line measure channel data).foldl addObject chart).view topic =
      if Topic.cell measure channel = topic then
        (chart.view topic).take (.channel measure channel data)
      else chart.view topic := by
  cases topic with
  | field name =>
      rw [view, headers_foldl_addObject]
      rfl
  | size other =>
      rw [view, sizes_foldl_addObject]
      rfl
  | cell measure' channel' =>
      have objects := Content.objects_apply line chart (.channel measure channel data)
      rw [Content.apply, Content.placed] at objects
      rw [view, view, objects, Objects.cell_foldl_add, Content.filter_isIn_objects]
      split
      · rw [View.take, Content.map_withoutLine_objects line 0]
      · rfl

/-- A content sentence changes the part that it is about, and no other. -/
theorem view_apply (topic : Topic) (line : Nat) (content : Content) (chart : Chart α) :
    (content.apply line chart).view topic =
      if content.topic = topic then (chart.view topic).take content
      else chart.view topic := by
  cases content with
  | header name value => exact chart.view_setHeader topic name value
  | channel measure channel data =>
      exact chart.view_foldl_addObject topic line measure channel data
  | measureSize measure text =>
      rw [Content.apply, Content.topic]
      cases read : (Content.size? text : Option α) with
      | none =>
          dsimp only
          split
          · rename_i about
            rw [← about, view, View.take, read, Option.none_or]
          · rfl
      | some size =>
          refine (chart.view_setSize topic measure size).trans ?_
          split
          · rename_i about
            rw [← about, view, View.take, read, Option.some_or]
          · rfl

/-- Every part of a chart follows from the sentences about it. -/
theorem view_foldl_apply (topic : Topic) (chart : Chart α)
    (entries : List (Nat × Content)) :
    (entries.foldl (fun chart entry => entry.2.apply entry.1 chart) chart).view topic =
      ((entries.map Prod.snd).filter fun content => content.topic = topic).foldl View.take
        (chart.view topic) := by
  induction entries generalizing chart with
  | nil => rfl
  | cons entry rest ih =>
      rw [List.foldl_cons, ih, view_apply, List.map_cons, List.filter_cons]
      simp only [decide_eq_true_eq]
      split <;> rfl

/-- Two charts in which the same is found: the values of all fields, all sizes, and the
same objects, from whatever lines and in whatever ranks. -/
structure SameContent (left right : Chart α) : Prop where
  latest : ∀ name, left.headers.get? name = right.headers.get? name
  values : ∀ name, left.headers.getAll? name = right.headers.getAll? name
  sizes : ∀ measure : Int, left.sizes.size measure = right.sizes.size measure
  objects : (left.objects.toList.map ChartObject.withoutLine).Perm
    (right.objects.toList.map ChartObject.withoutLine)

theorem sameContent_of_view {left right : Chart α}
    (same : ∀ topic, left.view topic = right.view topic) : SameContent left right where
  latest name := by
    have values := View.field.inj (same (.field (Text.lower name)))
    rw [Headers.get?, Headers.get?, Headers.getAll?, Headers.getAll?, values]
  values name := View.field.inj (same (.field (Text.lower name)))
  sizes measure := by
    rw [MeasureSizes.size, MeasureSizes.size, View.size.inj (same (.size measure))]
  objects := Objects.perm_of_cells fun measure channel =>
    View.cell.inj (same (.cell measure channel))

end Chart

end RhythmChart
