import RhythmChart.Catalog.Basic

/-!
# Command line

Summarises the charts of a directory, which the environment variable `CHARTS_DIR` names
and which is `charts` otherwise. Each summary is written to `notechart.json` in a
directory of its level name below `out`.
-/

namespace RhythmChart.CommandLine

def readCharts (directory : String) : IO (List ChartFile) := do
  let entries ← (← IO.FS.realPath directory).readDir
  let names := entries.toList.map fun entry => entry.fileName
  let charts := names.filter fun name => ChartFile.isChart ⟨name.toList, []⟩
  charts.mapM fun name => do
    let bytes ← IO.FS.readBinFile s!"{directory}/{name}"
    return ⟨name.toList, bytes.toList.map UInt8.toNat⟩

/-- Draws a number for each random choice in a chart file. The choices do not depend on
what is drawn for earlier ones. -/
def drawFor (file : ChartFile) : IO (List Int) := do
  let source := file.source
  let compilation : Compilation Float := .ofText (Notechart.guessDialect source) [] source
  compilation.bounds.mapM fun bound => return (← IO.rand 1 (max 1 bound) : Nat)

def writeSummary (level : Text) (summary : Summary Float) : IO Unit := do
  let directory := "out/" ++ String.ofList level
  IO.FS.createDirAll directory
  IO.FS.writeFile (directory ++ "/" ++ String.ofList Catalog.summaryFile)
    (String.ofList (Document.render 0 summary.document))

end RhythmChart.CommandLine

open RhythmChart in
/-- Summarises a directory of charts; fails with the first chart that
cannot be assembled. -/
def main : IO UInt32 := do
  let directory := (← IO.getEnv "CHARTS_DIR").getD "charts"
  let files ← CommandLine.readCharts directory
  let drawn ← files.mapM fun file => return (file.name, ← CommandLine.drawFor file)
  let draws := fun (file : ChartFile) => (drawn.lookup file.name).getD []
  let catalog : Catalog Float := .ofFiles draws files
  for (level, summary) in catalog.listing do
    CommandLine.writeSummary level summary
  for message in catalog.messages do
    IO.println (String.ofList message)
  match catalog.failure with
  | none => return 0
  | some fault =>
      IO.eprintln fault.message
      return 1
