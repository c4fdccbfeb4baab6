import RhythmChart.Catalog.Document
import RhythmChart.Notechart.OfChart

/-!
# Summaries

A summary says what a chart holds: its song, how many notes of each kind there
are, how long it lasts, where the tempo changes, which sounds it needs, and what
was wrong with its source.
-/

namespace RhythmChart

structure Summary (α : Type) where
  songInfo : SongInfo
  notes : Nat
  playable : Nat
  landmines : Nat
  autos : Nat
  duration : α
  eventBeats : List α
  samples : List Text
  warnings : List Warning

namespace Summary

variable {α : Type}

/-- The summary of a compiled source, for a player who made no choice. -/
def ofCompilation [Scalar α] (compiled : Compilation α) :
    Except (Fault α) (Summary α) := do
  let notechart ← Notechart.ofChart compiled.chart .standard
  let timing ← Timing.ofChart compiled.chart
  return {
    songInfo := SongInfo.ofHeaders α compiled.chart.headers
    notes := (compiled.chart.notes Lanes.first.toMap).length
    playable := notechart.notes.length
    landmines := notechart.landmines.length
    autos := notechart.autos.length
    duration := notechart.duration
    eventBeats := timing.eventBeats
    samples := notechart.samples
    warnings := compiled.warnings }

def songDocument (info : SongInfo) : Document α :=
  .record [
    ("title".toList, .text info.title),
    ("artist".toList, .text info.artist),
    ("genre".toList, .text info.genre),
    ("subtitles".toList, .list (info.subtitles.map .text)),
    ("subartists".toList, .list (info.subartists.map .text)),
    ("difficulty".toList, .integer info.difficulty),
    ("level".toList, .integer info.level)]

def warningDocument (warning : Warning) : Document α :=
  .record [
    ("lineNumber".toList, .integer warning.line),
    ("message".toList, .text warning.issue.message.toList)]

def document (summary : Summary α) : Document α :=
  .record [
    ("songInfo".toList, songDocument summary.songInfo),
    ("notes".toList, .integer summary.notes),
    ("playable".toList, .integer summary.playable),
    ("landmines".toList, .integer summary.landmines),
    ("autos".toList, .integer summary.autos),
    ("duration".toList, .number summary.duration),
    ("bpmEvents".toList, .list (summary.eventBeats.map .number)),
    ("samples".toList, .list (summary.samples.map .text)),
    ("warnings".toList, .list (summary.warnings.map warningDocument))]

end Summary

end RhythmChart
