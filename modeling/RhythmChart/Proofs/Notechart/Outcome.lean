import RhythmChart.Proofs.Compilation.Source
import RhythmChart.Proofs.Motion.Doubles
import RhythmChart.Proofs.Note.Ends
import RhythmChart.Proofs.Notechart.Assembly

/-!
# What becomes of a source

A source that cannot be compiled is refused. With doubles, so may be a source that leads
to beats out of range, and one whose stops or scroll rates are negative. A steady chart
becomes a notechart as soon as one of its bar lines comes after the last note.
-/

namespace RhythmChart

theorem BarLines.yields_ofChart {α : Type} [Scalar α] (chart : Chart α)
    (notes : List (Note α)) :
    Yields (fun _ => True) (fun fault => fault = .endlessBarLines)
      (ofChart chart notes) := by
  unfold ofChart
  split
  · trivial
  · rfl

namespace Notechart

/-- What is assembled refuses what one of its parts refuses. -/
theorem yields_ofChart {α : Type} [Scalar α] {chart : Chart α} {options : PlayerOptions}
    {Refusal : Fault α → Prop}
    (timing : Yields (fun _ => True) Refusal (Timing.ofChart chart))
    (scroll : Yields (fun _ => True) Refusal (Scroll.ofChart chart))
    (spacing : Yields (fun _ => True) Refusal (Spacing.ofChart chart))
    (barLines : Yields (fun _ => True) Refusal
      (BarLines.ofChart chart (chart.notes (lanes options).toMap)))
    (arranged : Yields (fun _ => True) Refusal
      (Note.arrange options.scratch (chart.notes (lanes options).toMap))) :
    Yields (fun _ => True) Refusal (ofChart chart options) := by
  have gathered : Yields
      (fun parts =>
        ∃ timing keysounds songInfo scroll spacing barLines landmines window images,
        parts = Ingredients.mk (some (chart.notes (lanes options).toMap)) (some timing)
          (some keysounds) (some songInfo) (some scroll) (some spacing) (some barLines)
            landmines
          window images)
      Refusal (ingredients chart options) := by
    refine timing.bind fun timing _ => scroll.bind fun scroll _ =>
      spacing.bind fun spacing _ =>
      barLines.bind fun barLines _ => ?_
    exact ⟨_, _, _, _, _, _, _, _, _, rfl⟩
  refine gathered.bind ?_
  rintro _ ⟨_, _, _, _, _, _, _, _, _, rfl⟩
  exact arranged.bind fun _ _ => trivial

/-- A fault of a chart whose doubles get lost. -/
def IsStray (fault : Fault Float) : Prop :=
  fault.IsUndefined ∨
    ∃ endBeat beat : Float, endBeat < beat ∧
      fault = .endBeforeBeat (.number endBeat) (.number beat)

theorem yields_ofChart_of_steady {chart : Chart Float} (unsigned : chart.Unsigned)
    (steady : chart.Steady) (options : PlayerOptions) :
    Yields (fun _ => True) (fun fault => fault = .endlessBarLines)
      (ofChart chart options) := by
  have inOrder :
      chart.objects.sorted.Pairwise fun a b => ¬chart.beatOf b < chart.beatOf a := by
    refine List.Pairwise.imp_of_mem (fun member member' order less => ?_) steady.inOrder
    have finite := steady.inRange _ (chart.objects.sorted_perm.mem_iff.mp member)
    have finite' := steady.inRange _ (chart.objects.sorted_perm.mem_iff.mp member')
    rw [Double.le_iff_value finite finite'] at order
    rw [Double.lt_iff_value finite' finite] at less
    exact not_lt_of_ge order less
  refine yields_ofChart ?_ ?_ ?_ (BarLines.yields_ofChart _ _) ?_
  · exact (Timing.yields_ofChart_of_steady unsigned steady).mono (fun _ => id) fun _ =>
      False.elim
  · exact (Scroll.yields_ofChart_of_steady unsigned steady).mono (fun _ => id) fun _ =>
      False.elim
  · exact (Spacing.yields_ofChart_of_steady steady).mono (fun _ => id) fun _ => False.elim
  · refine (Note.yields_arrange _ _).mono (fun _ => id) ?_
    rintro fault ⟨note, member, refuses⟩
    exact ((Chart.endsInTime_of_mem_notes inOrder member).not_refuses fault refuses).elim

theorem yields_ofChart_of_double (chart : Chart Float) (options : PlayerOptions) :
    Yields (fun _ => True) (fun fault => fault = .endlessBarLines ∨ IsStray fault)
      (ofChart chart options) := by
  refine yields_ofChart ?_ ?_ ?_ ?_ ?_
  · exact (Timing.yields_ofChart chart).mono (fun _ => id) fun _ undefined =>
      .inr (.inl undefined)
  · exact (Scroll.yields_ofRates _).mono (fun _ => id) fun _ undefined =>
      .inr (.inl undefined)
  · exact (Spacing.yields_ofKeyframes _).mono (fun _ => id)
      fun _ undefined => .inr (.inl undefined)
  · exact (BarLines.yields_ofChart _ _).mono (fun _ => id) fun _ => .inl
  · refine (Note.yields_arrange _ _).mono (fun _ => id) ?_
    rintro fault ⟨note, -, endBeat, -, early, same⟩
    exact .inr (.inr ⟨endBeat, note.beat, early, same⟩)

theorem yields_ofChart_of_unsigned {chart : Chart Float} (unsigned : chart.Unsigned)
    (options : PlayerOptions) :
    Yields (fun _ => True) (fun fault => fault = .endlessBarLines ∨ ¬chart.Steady ∧
      IsStray fault) (ofChart chart options) := by
  by_cases steady : chart.Steady
  · exact (yields_ofChart_of_steady unsigned steady options).mono (fun _ => id) fun _ =>
      .inl
  · exact (yields_ofChart_of_double chart options).mono (fun _ => id)
      fun _ => Or.imp_right fun stray => ⟨steady, stray⟩

/-- A source becomes a notechart unless something hinders its compilation, or
none of its bar lines comes after the last note. Only if its chart is not steady
may it be refused otherwise, for an undefined number in a segment or for a note
that ends before it starts. -/
theorem ofSource_outcome (generator : Generator Float) (options : PlayerOptions)
    (source : Text) :
    (∃ fault, Compilation.Hinders (guessDialect source) generator source fault ∧
      ofSource .absent generator options source = .error fault) ∨
    (∀ fault, ¬Compilation.Hinders (guessDialect source) generator source fault) ∧
      ((∃ notechart, ofSource .absent generator options source = .ok notechart) ∨
        ofSource .absent generator options source = .error .endlessBarLines ∨
        ¬(Compilation.ofText (guessDialect source) generator.draws source :
            Compilation Float).chart.Steady ∧
          ∃ fault, ofSource .absent generator options source = .error fault ∧
            IsStray fault) := by
  have guessed : ofSource .absent generator options source =
      (Compilation.ofSource (guessDialect source) generator source).bind
        (fun compiled => ofChart compiled.chart options) := rfl
  rw [guessed]
  rcases Compilation.ofSource_cases (guessDialect source) generator source with
    ⟨fault, hinders, refused⟩ | ⟨unhindered, compiled⟩
  · rw [refused]
    exact .inl ⟨fault, hinders, rfl⟩
  · rw [compiled]
    refine .inr ⟨unhindered, ?_⟩
    have unsigned :=
      Compilation.unsigned_ofText (guessDialect source) generator.draws source
    rcases (yields_ofChart_of_unsigned unsigned options).cases with
      ⟨notechart, made, -⟩ | ⟨fault, refused, endless | ⟨unsteady, stray⟩⟩
    · exact .inl ⟨notechart, made⟩
    · exact .inr (.inl (endless ▸ refused))
    · exact .inr (.inr ⟨unsteady, fault, refused, stray⟩)

/-- A measure that is too large for its beats to be counted, and an
object at its start. -/
example :
    (match ofText (.absent : Field Float) [] .standard
      "#00002:1e308\n#00003:80".toList with
      | .error (.segmentUndefined .t) => true
      | _ => false) = true := by
  decide +kernel

end Notechart

end RhythmChart
