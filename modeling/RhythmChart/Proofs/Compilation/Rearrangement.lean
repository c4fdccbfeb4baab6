import RhythmChart.Proofs.Compilation.Draws
import RhythmChart.Proofs.Compilation.Resolution
import RhythmChart.Proofs.Motion.Tracks

/-!
# Rearranging a source

Without control sentences the lines of a source may change places, as long as sentences
about the same part of the chart stay in order. What is found in the compiled chart stays
the same, apart from the lines that objects come from and the ranks they have. Scrolling
and spacing do not depend on these, so they stay the same as well.
-/

namespace RhythmChart

def Sentence.asContent? : Sentence → Option Content
  | .content part => some part
  | _ => none

namespace Compilation

def contentOn? (dialect : Dialect) (line : Text) : Option Content :=
  (Sentence.read? dialect (Text.trim line)).bind Sentence.asContent?

/-- The part of the chart that a line is about, if it is about one. -/
def topicOn? (dialect : Dialect) (line : Text) : Option Topic :=
  (contentOn? dialect line).map Content.topic

def linesAbout (dialect : Dialect) (topic : Topic) (source : Text) : List Text :=
  (Text.lines source).filter fun line => topicOn? dialect line = some topic

/-- A source with its lines in another order, which is the same for lines about the
same part of the chart. -/
structure Rearrangement (dialect : Dialect) (source rearranged : Text) : Prop where
  lines : (Text.lines rearranged).Perm (Text.lines source)
  inOrder : ∀ topic, linesAbout dialect topic rearranged = linesAbout dialect topic source

def tagged (dialect : Dialect) (source : Text) : List (Option Topic × Text) :=
  (Text.lines source).map fun line => (topicOn? dialect line, line)

theorem linesAbout_eq (dialect : Dialect) (topic : Topic) (source : Text) :
    linesAbout dialect topic source =
      ((tagged dialect source).filter fun entry => entry.1 = some topic).map
        Prod.snd := by
  rw [tagged, List.filter_map, List.map_map]
  exact (List.map_id _).symm

/-- It is enough to look at the parts of the chart that some line is about. -/
theorem Rearrangement.ofTagged {dialect : Dialect} {source rearranged : Text}
    {entries entries' : List (Option Topic × Text)}
    (before : tagged dialect source = entries)
    (after : tagged dialect rearranged = entries') (perm : entries'.Perm entries)
    (inOrder : ∀ entry ∈ entries, ∀ topic ∈ entry.1,
      (entries'.filter fun entry => entry.1 = some topic) =
        entries.filter fun entry => entry.1 = some topic) :
    Rearrangement dialect source rearranged := by
  have untagged :
      ∀ text, (tagged dialect text).map Prod.snd = Text.lines text := fun text => by
    rw [tagged, List.map_map]
    exact List.map_id _
  refine ⟨?_, fun topic => ?_⟩
  · rw [← untagged, ← untagged, before, after]
    exact perm.map Prod.snd
  · rw [linesAbout_eq, linesAbout_eq, before, after]
    by_cases mentioned : ∃ entry ∈ entries, entry.1 = some topic
    · obtain ⟨entry, member, about⟩ := mentioned
      rw [inOrder entry member topic about]
    · -- Of a part that no line is about there is nothing on either side.
      have none : (entries.filter fun entry => entry.1 = some topic) = [] :=
        List.filter_eq_nil_iff.mpr fun entry member about =>
          mentioned ⟨entry, member, of_decide_eq_true about⟩
      have same := perm.filter fun entry => entry.1 = some topic
      rw [none] at same ⊢
      rw [same.eq_nil]

theorem filter_contents (dialect : Dialect) (topic : Topic) (source : Text) :
    ((Text.lines source).filterMap (contentOn? dialect)).filter
        (fun content => content.topic = topic) =
      (linesAbout dialect topic source).filterMap (contentOn? dialect) := by
  rw [linesAbout, List.filter_filterMap, List.filterMap_filter]
  refine List.filterMap_congr fun line _ => ?_
  rw [topicOn?]
  cases contentOn? dialect line with
  | none => rfl
  | some content => simp [Option.filter]

section Runs

variable {sentences : List (Nat × Sentence)}
  (uncontrolled : ∀ entry ∈ sentences, entry.2.asControl? = none)

include uncontrolled

theorem history_of_uncontrolled : Sentence.history sentences = [] := by
  rw [Sentence.history, List.reverse_eq_nil_iff, List.filterMap_eq_nil_iff]
  exact uncontrolled

theorem contributions_of_uncontrolled (draws : List Int) :
    contributions draws sentences =
      sentences.filterMap fun entry => entry.2.asContent?.map (entry.1, ·) := by
  induction sentences using List.reverseRecOn with
  | nil => rfl
  | append_singleton before entry ih =>
      have earlier : ∀ entry ∈ before, entry.2.asControl? = none := fun entry member =>
        uncontrolled entry (List.mem_append_left _ member)
      obtain ⟨line, sentence⟩ := entry
      rw [contributions_append_singleton, ih earlier, List.filterMap_append,
        history_of_uncontrolled earlier]
      cases sentence <;> rfl

end Runs

variable {dialect : Dialect} {source : Text}

/-- Every part of a compiled chart follows from the lines about it. -/
theorem view_chart_ofText (α : Type) [Scalar α]
    (uncontrolled : ∀ entry ∈ Sentence.ofText dialect source, entry.2.asControl? = none)
    (draws : List Int) (topic : Topic) :
    (ofText dialect draws source : Compilation α).chart.view topic =
      ((linesAbout dialect topic source).filterMap (contentOn? dialect)).foldl View.take
        (Chart.empty.view topic) := by
  have contents : ((Sentence.ofText dialect source).filterMap fun entry =>
        entry.2.asContent?.map (entry.1, ·)).map Prod.snd =
      (Text.lines source).filterMap (contentOn? dialect) := by
    rw [List.map_filterMap, ofText_eq_sentencesFrom]
    simp only [Option.map_map, Function.comp_def, Option.map_id']
    exact filterMap_sentencesFrom dialect Sentence.asContent? 1 (Text.lines source)
  rw [ofText, chart_ofSentences, contributions_of_uncontrolled uncontrolled,
    Chart.view_foldl_apply, contents, filter_contents]

variable {rearranged : Text}

theorem Rearrangement.uncontrolled
    (rearrangement : Rearrangement dialect source rearranged)
    (uncontrolled : ∀ entry ∈ Sentence.ofText dialect source, entry.2.asControl? = none) :
    ∀ entry ∈ Sentence.ofText dialect rearranged, entry.2.asControl? = none := by
  have onLines :
      ∀ text, (∀ entry ∈ Sentence.ofText dialect text, entry.2.asControl? = none) ↔
        ∀ line ∈ Text.lines text,
          (Sentence.read? dialect (Text.trim line)).bind Sentence.asControl? = none := by
    intro text
    rw [← List.filterMap_eq_nil_iff, ← List.filterMap_eq_nil_iff, ofText_eq_sentencesFrom,
      filterMap_sentencesFrom]
  rw [onLines] at uncontrolled ⊢
  exact fun line member => uncontrolled line (rearrangement.lines.mem_iff.mp member)

/-- Sentences about different parts of a chart commute: a rearranged source has the same
content, and in exact arithmetic it scrolls and is spaced the same at every beat. -/
theorem sameContent_of_rearrangement
    (uncontrolled : ∀ entry ∈ Sentence.ofText dialect source, entry.2.asControl? = none)
    (rearrangement : Rearrangement dialect source rearranged) (draws others : List Int) :
    (∀ (α : Type) [Scalar α],
      Chart.SameContent (ofText dialect draws source : Compilation α).chart
        (ofText dialect others rearranged : Compilation α).chart) ∧
    (∃ scroll scroll' : Scroll Rat,
      Scroll.ofChart (ofText dialect draws source : Compilation Rat).chart = .ok scroll ∧
      Scroll.ofChart (ofText dialect others rearranged : Compilation Rat).chart =
        .ok scroll' ∧
      ∀ beat, scroll.speed beat = scroll'.speed beat ∧
        scroll.position beat = scroll'.position beat) ∧
    ∃ spacing spacing' : Spacing Rat,
      Spacing.ofChart (ofText dialect draws source : Compilation Rat).chart =
        .ok spacing ∧
      Spacing.ofChart (ofText dialect others rearranged : Compilation Rat).chart =
        .ok spacing' ∧
      ∀ beat, spacing.factor beat = spacing'.factor beat := by
  have same : ∀ (α : Type) [Scalar α],
      Chart.SameContent (ofText dialect draws source : Compilation α).chart
        (ofText dialect others rearranged : Compilation α).chart := by
    intro α _
    refine Chart.sameContent_of_view fun topic => ?_
    rw [view_chart_ofText α uncontrolled draws,
      view_chart_ofText α (rearrangement.uncontrolled uncontrolled) others,
      rearrangement.inOrder]
  have wellFormed := wellFormed_ofText dialect draws source
  refine ⟨same, ?_, ?_⟩
  · obtain ⟨scroll, made⟩ := Scroll.exists_ofRates
      (Scroll.rates (ofText dialect draws source : Compilation Rat).chart)
    refine ⟨scroll, scroll, made, ?_, fun beat => ⟨rfl, rfl⟩⟩
    rw [Scroll.ofChart, ← Scroll.rates_eq_of_sameContent wellFormed (same Rat)]
    exact made
  · obtain ⟨spacing, made⟩ := Spacing.exists_ofKeyframes
      (Spacing.keyframes (ofText dialect draws source : Compilation Rat).chart)
    refine ⟨spacing, spacing, made, ?_, fun beat => rfl⟩
    rw [Spacing.ofChart, ← Spacing.keyframes_eq_of_sameContent wellFormed (same Rat)]
    exact made

/-- A rate between two values of the header it names, and a measure size. -/
def scrollingSource : Text :=
  "#SCROLL01 2\n#001SC:01\n#scroll01 3\n#00102:0.5".toList

def scrollingSourceRearranged : Text :=
  "#00102:0.5\n#001SC:01\n#SCROLL01 2\n#scroll01 3".toList

theorem rearrangement_scrollingSource :
    Rearrangement .bms scrollingSource scrollingSourceRearranged := by
  have before : tagged .bms scrollingSource =
      [(some (.field "scroll01".toList), "#SCROLL01 2".toList),
        (some (.cell 1 Code.scroll), "#001SC:01".toList),
        (some (.field "scroll01".toList), "#scroll01 3".toList),
        (some (.size 1), "#00102:0.5".toList)] := by
    decide +kernel
  have after : tagged .bms scrollingSourceRearranged =
      [(some (.size 1), "#00102:0.5".toList),
        (some (.cell 1 Code.scroll), "#001SC:01".toList),
        (some (.field "scroll01".toList), "#SCROLL01 2".toList),
        (some (.field "scroll01".toList), "#scroll01 3".toList)] := by
    decide +kernel
  exact .ofTagged before after (by decide) (by decide)

theorem sameContent_of_rearrangement_scrolling :
    Chart.SameContent (ofText .bms [] scrollingSource : Compilation Rat).chart
        (ofText .bms [] scrollingSourceRearranged : Compilation Rat).chart ∧
      ∃ scroll scroll' : Scroll Rat,
        Scroll.ofChart (ofText .bms [] scrollingSource : Compilation Rat).chart =
          .ok scroll ∧
        Scroll.ofChart
          (ofText .bms [] scrollingSourceRearranged : Compilation Rat).chart =
          .ok scroll' ∧
        ∀ beat, scroll.speed beat = scroll'.speed beat ∧
          scroll.position beat = scroll'.position beat := by
  have uncontrolled : ∀ entry ∈ Sentence.ofText .bms scrollingSource,
      entry.2.asControl? = none := by decide +kernel
  obtain ⟨same, scrolls, -⟩ :=
    sameContent_of_rearrangement uncontrolled rearrangement_scrollingSource [] []
  exact ⟨same Rat, scrolls⟩

end Compilation

end RhythmChart
