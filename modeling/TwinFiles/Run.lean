import TwinFiles.Report.Delivery
import TwinFiles.Reporter.Console
import TwinFiles.Settings.Basic

/-!
# Running a scan

A run scans the folder of its settings and writes the report to a sink. The report for people shares
the sink with the progress lines; JSON and comma-separated text have it for themselves, and progress
goes to the records.
-/

namespace TwinFiles

/-- What a run leaves behind. -/
structure Run where
  /-- The calls of the scan. -/
  calls : List Call
  findings : Findings
  records : List Log.Record
  sink : Sink
  result : Except ReportFailure ExitCode

namespace Run

/-- The reasons that a failed run gives, from the outermost to the cause. -/
def failureTexts (e : ReportFailure) : List Bytes :=
  e.context :: e.texts

/-- Ends well when the report was written. -/
def exit (written : Except ReportFailure Unit) : Except ReportFailure ExitCode :=
  written.map fun _ => .success

/-- Scans the folder of the settings and writes the report. -/
def perform (v : View) (s : Settings) (duration : Duration) (time : Instant) (sink : Sink) :
    Run :=
  let scan := Scan.run v s.selection [] s.folder
  let (groups, summary) := scan.result
  match s.output with
  | .text =>
    let (sink, records) := (Console.reporter s.color v.homePath).perform sink scan.steps
    let (sink, written) := TextReport.deliver sink s.color summary.wanted groups
    ⟨scan.calls, scan.result, records, sink, exit written⟩
  | .json =>
    let ((), records) := (Reporter.forwarding v.homePath).perform () scan.steps
    let (sink, written) :=
      JsonReport.write sink true groups summary ⟨.success, duration, time⟩
    ⟨scan.calls, scan.result, records, sink, exit written⟩
  | .csv =>
    let ((), records) := (Reporter.forwarding v.homePath).perform () scan.steps
    let (sink, written) := CsvReport.write sink groups
    ⟨scan.calls, scan.result, records, sink, exit written⟩

end Run

end TwinFiles
