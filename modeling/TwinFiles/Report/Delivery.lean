import TwinFiles.Report.Csv
import TwinFiles.Report.Json
import TwinFiles.Report.Text
import TwinFiles.Sink

/-!
# Delivering a report

A report goes to a sink piece by piece, up to the first piece that does not fit. A failure is told
by its texts, from the outermost to the cause.
-/

namespace TwinFiles

/-- How writing a report fails. Comma-separated text fails while records are written, when a full
buffer is passed on, or at its end. -/
inductive ReportFailure where
  | text (failure : SinkFailure)
  | json (failure : SinkFailure)
  | csvRecord (failure : SinkFailure)
  | csvEnd (failure : SinkFailure)
  deriving DecidableEq, Repr

namespace ReportFailure

/-- The texts of the failure and its causes. -/
def texts : ReportFailure → List Bytes
  | text f => [f.text]
  | json f => [utf8 "I/O error during JSON generation: " ++ f.text, f.text]
  | csvRecord f => [utf8 "CSV error: " ++ f.text, f.text, f.text]
  | csvEnd f => [utf8 "I/O error: " ++ f.text, f.text]

/-- What was being done. -/
def context : ReportFailure → Bytes
  | text _ => utf8 "Failed to write report"
  | json _ => utf8 "Failed to write JSON report"
  | csvRecord _ => utf8 "Failed to write CSV report"
  | csvEnd _ => utf8 "Failed to write CSV report"

end ReportFailure

namespace TextReport

/-- Writes the report; nothing is flushed. -/
def write (sink : Sink) (color : Bool) (wanted : Bytes) (groups : List Group) :
    Sink × Except ReportFailure Unit :=
  match sink.writeAll (pieces color wanted groups) with
  | (sink, .ok ()) => (sink, .ok ())
  | (sink, .error f) => (sink, .error (.text f))

/-- Writes the report and flushes the sink. -/
def deliver (sink : Sink) (color : Bool) (wanted : Bytes) (groups : List Group) :
    Sink × Except ReportFailure Unit :=
  match write sink color wanted groups with
  | (sink, .ok ()) =>
    match sink.flush with
    | .ok () => (sink, .ok ())
    | .error f => (sink, .error (.text f))
  | (sink, .error e) => (sink, .error e)

end TextReport

namespace JsonReport

/-- Writes the report; nothing is flushed. -/
def write (sink : Sink) (indented : Bool) (groups : List Group) (s : Summary)
    (c : Circumstances) : Sink × Except ReportFailure Unit :=
  match sink.writeAll (pieces indented groups s c) with
  | (sink, .ok ()) => (sink, .ok ())
  | (sink, .error f) => (sink, .error (.json f))

end JsonReport

namespace CsvReport

/-- Passes on a buffer. One that does not fit is kept, and tried once more when writing is given
up; nobody looks at what comes of that. -/
def passOn (sink : Sink) (buffer : Bytes) : Sink × Except SinkFailure Unit :=
  match sink.write buffer with
  | (sink, .ok ()) => (sink, .ok ())
  | (sink, .error f) => ((sink.write buffer).1, .error f)

/-- Passes on the last buffer and flushes the sink. -/
def finish (sink : Sink) (last : Bytes) : Sink × Except ReportFailure Unit :=
  match passOn sink last with
  | (sink, .ok ()) =>
    match sink.flush with
    | .ok () => (sink, .ok ())
    | .error f => (sink, .error (.csvEnd f))
  | (sink, .error f) => (sink, .error (.csvEnd f))

/-- Passes on full buffers, then the last one. -/
def writeBuffers (sink : Sink) : List Bytes → Sink × Except ReportFailure Unit
  | [] => finish sink []
  | [last] => finish sink last
  | buffer :: next :: buffers =>
    match passOn sink buffer with
    | (sink, .ok ()) => writeBuffers sink (next :: buffers)
    | (sink, .error f) => (sink, .error (.csvRecord f))

/-- Writes the report and flushes the sink. -/
def write (sink : Sink) (groups : List Group) : Sink × Except ReportFailure Unit :=
  writeBuffers sink (buffers groups)

end CsvReport

end TwinFiles
