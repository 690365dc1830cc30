import TwinFiles.Proofs.Run.Truncation

/-!
# Runs that write anywhere

A run writes texts, asks for a flush at times and goes by the answers; nothing in it is special to
sinks. A `Destination` answers as it likes, and `Destination.perform` is the run that writes there:
first the progress lines, `Run.progress`, whatever comes of them, then the pieces of the report,
`Run.pieces`. Where a sink answers, that is `Run.perform` (`Destination.perform_sink`).
-/

namespace TwinFiles

/-- What can be written to: how it answers a text, and how it answers a request to flush. -/
structure Destination (σ : Type) where
  write : σ → Bytes → σ × Except SinkFailure Unit
  flush : σ → σ × Except SinkFailure Unit

/-- A sink as a destination. A flush leaves it as it is. -/
def Sink.destination : Destination Sink :=
  ⟨Sink.write, fun s => (s, s.flush)⟩

theorem Sink.destination_write (s : Sink) (text : Bytes) :
    destination.write s text = s.write text :=
  rfl

theorem Sink.destination_flush (s : Sink) : destination.flush s = (s, s.flush) :=
  rfl

namespace Run

/-- The progress lines that share the destination with the report. -/
def progress (v : View) (s : Settings) : List Bytes :=
  match s.output with
  | .text =>
    ((Scan.run v s.selection [] s.folder).calls.flatMap (Console.lines s.color v.homePath)).map
      (· ++ [Ascii.newline])
  | .json => []
  | .csv => []

/-- The pieces that the report is handed over in. -/
def pieces (v : View) (s : Settings) (duration : Duration) (time : Instant) : List Bytes :=
  let (groups, summary) := (Scan.run v s.selection [] s.folder).result
  match s.output with
  | .text => TextReport.pieces s.color summary.wanted groups
  | .json => JsonReport.pieces true groups summary ⟨.success, duration, time⟩
  | .csv => CsvReport.buffers groups

/-- Progress and report are all that a run writes. -/
theorem output_eq (v : View) (s : Settings) (duration : Duration) (time : Instant) :
    output v s duration time = (progress v s).flatten ++ (pieces v s duration time).flatten := by
  rw [output, progress, pieces]
  cases s.output with
  | text => rw [Console.text, List.flatMap_def]; rfl
  | json => rfl
  | csv => exact (CsvReport.flatten_buffers _).symm

end Run

namespace Destination

section

variable {σ : Type} (d : Destination σ)

/-- Writes texts in order, up to the first that is refused. -/
def writeAll : σ → List Bytes → σ × Except SinkFailure Unit
  | state, [] => (state, .ok ())
  | state, text :: texts =>
    match d.write state text with
    | (state, .ok ()) => writeAll state texts
    | (state, .error f) => (state, .error f)

/-- Writes texts in order; nobody looks at the answers. -/
def tryAll : σ → List Bytes → σ
  | state, [] => state
  | state, text :: texts => tryAll (d.write state text).1 texts

/-- Writes a report for people and flushes. -/
def writeText (state : σ) (pieces : List Bytes) : σ × Except ReportFailure Unit :=
  match d.writeAll state pieces with
  | (state, .ok ()) =>
    let (state, flushed) := d.flush state
    (state, flushed.mapError .text)
  | (state, .error f) => (state, .error (.text f))

/-- Writes a report as JSON; nothing is flushed. -/
def writeJson (state : σ) (pieces : List Bytes) : σ × Except ReportFailure Unit :=
  let (state, written) := d.writeAll state pieces
  (state, written.mapError .json)

/-- Passes on a buffer. One that is refused is tried once more, with a flush behind it, when writing
is given up; nobody looks at what comes of that. -/
def passOn (state : σ) (buffer : Bytes) : σ × Except SinkFailure Unit :=
  match d.write state buffer with
  | (state, .ok ()) => (state, .ok ())
  | (state, .error f) =>
    match d.write state buffer with
    | (state, .ok ()) => ((d.flush state).1, .error f)
    | (state, .error _) => (state, .error f)

/-- Passes on the last buffer and flushes, and then flushes again as the writer goes away. -/
def finish (state : σ) (last : Bytes) : σ × Except ReportFailure Unit :=
  match d.passOn state last with
  | (state, .ok ()) =>
    let (state, flushed) := d.flush state
    ((d.flush state).1, flushed.mapError .csvEnd)
  | (state, .error f) => (state, .error (.csvEnd f))

/-- Writes a report as comma-separated text: passes on full buffers, then the last one. -/
def writeCsv : σ → List Bytes → σ × Except ReportFailure Unit
  | state, [] => d.finish state []
  | state, [last] => d.finish state last
  | state, buffer :: next :: buffers =>
    match d.passOn state buffer with
    | (state, .ok ()) => writeCsv state (next :: buffers)
    | (state, .error f) => (state, .error (.csvRecord f))

/-- Writes a report in one of the forms. -/
def writeReport : ReportFormat → σ → List Bytes → σ × Except ReportFailure Unit
  | .text => d.writeText
  | .json => d.writeJson
  | .csv => d.writeCsv

/-- Scans the folder of the settings and writes the report. -/
def perform (v : View) (s : Settings) (duration : Duration) (time : Instant) (state : σ) :
    σ × Except ReportFailure ExitCode :=
  let before := d.tryAll state (Run.progress v s)
  let (after, written) := d.writeReport s.output before (Run.pieces v s duration time)
  (after, Run.exit written)

end

/-! ## A sink as the destination -/

theorem tryAll_append {σ : Type} (d : Destination σ) (state : σ) (texts rest : List Bytes) :
    d.tryAll state (texts ++ rest) = d.tryAll (d.tryAll state texts) rest := by
  induction texts generalizing state with
  | nil => rfl
  | cons text texts ih => exact ih _

theorem writeAll_sink (s : Sink) (texts : List Bytes) :
    Sink.destination.writeAll s texts = s.writeAll texts := by
  induction texts generalizing s with
  | nil => rfl
  | cons text texts ih =>
    rw [writeAll, Sink.writeAll, Sink.destination_write]
    cases hw : s.write text with
    | mk t result =>
      cases result with
      | ok _ => exact ih t
      | error f => rfl

/-- Lines are emitted whatever the answers. -/
theorem emit_sink (s : Sink) (lines : List Bytes) :
    (Console.emit s lines).1 = Sink.destination.tryAll s (lines.map (· ++ [Ascii.newline])) := by
  induction lines generalizing s with
  | nil => rfl
  | cons line lines ih =>
    rw [Console.emit, List.map_cons, tryAll, Sink.destination_write]
    cases hw : s.write (line ++ [Ascii.newline]) with
    | mk t result =>
      cases result with
      | ok _ => exact ih t
      | error f => exact ih t

theorem console_sink (color : Bool) (home : Path) (s : Sink) (steps : List Happening) :
    ((Console.reporter color home).perform s steps).1 =
      Sink.destination.tryAll s
        (((steps.filterMap Happening.call?).flatMap (Console.lines color home)).map
          (· ++ [Ascii.newline])) := by
  induction steps generalizing s with
  | nil => rfl
  | cons step steps ih =>
    cases step with
    | note record => exact ih s
    | call call =>
      rw [List.filterMap_cons_some (rfl : Happening.call? (.call call) = some call),
        List.flatMap_cons, List.map_append, tryAll_append, ← emit_sink s]
      exact ih _

theorem passOn_sink (s : Sink) (buffer : Bytes) :
    Sink.destination.passOn s buffer = CsvReport.passOn s buffer := by
  rw [passOn, CsvReport.passOn, Sink.destination_write]
  cases s.write buffer with
  | mk t result =>
    cases result with
    | ok _ => rfl
    | error f =>
      simp only [Sink.destination_write, Sink.destination_flush]
      cases t.write buffer with
      | mk u again => cases again <;> rfl

theorem finish_sink (s : Sink) (last : Bytes) :
    Sink.destination.finish s last = CsvReport.finish s last := by
  rw [finish, CsvReport.finish, passOn_sink]
  cases CsvReport.passOn s last with
  | mk t result =>
    cases result with
    | ok _ =>
      simp only [Sink.destination_flush]
      cases t.flush <;> rfl
    | error f => rfl

theorem writeCsv_sink (s : Sink) (buffers : List Bytes) :
    Sink.destination.writeCsv s buffers = CsvReport.writeBuffers s buffers := by
  induction buffers generalizing s with
  | nil => exact finish_sink s []
  | cons buffer buffers ih =>
    cases buffers with
    | nil => exact finish_sink s buffer
    | cons next rest =>
      rw [writeCsv, CsvReport.writeBuffers, passOn_sink]
      cases CsvReport.passOn s buffer with
      | mk t result =>
        cases result with
        | ok _ => exact ih t
        | error f => rfl

theorem writeText_sink (s : Sink) (color : Bool) (wanted : Bytes) (groups : List Group) :
    Sink.destination.writeText s (TextReport.pieces color wanted groups) =
      TextReport.deliver s color wanted groups := by
  rw [writeText, TextReport.deliver, TextReport.write, writeAll_sink]
  cases s.writeAll (TextReport.pieces color wanted groups) with
  | mk t result =>
    cases result with
    | ok _ =>
      simp only [Sink.destination_flush]
      cases t.flush <;> rfl
    | error f => rfl

theorem writeJson_sink (sink : Sink) (groups : List Group) (s : Summary)
    (c : JsonReport.Circumstances) :
    Sink.destination.writeJson sink (JsonReport.pieces true groups s c) =
      JsonReport.write sink true groups s c := by
  rw [writeJson, JsonReport.write, writeAll_sink]
  cases sink.writeAll (JsonReport.pieces true groups s c) with
  | mk t result => cases result <;> rfl

/-- A run that writes to a sink. -/
theorem perform_sink (v : View) (s : Settings) (duration : Duration) (time : Instant)
    (sink : Sink) :
    Sink.destination.perform v s duration time sink =
      ((Run.perform v s duration time sink).sink, (Run.perform v s duration time sink).result) := by
  rw [perform, Run.perform, Run.progress, Run.pieces]
  cases s.output with
  | text =>
    simp only [← writeText_sink, console_sink]
    rfl
  | json =>
    simp only [← writeJson_sink]
    rfl
  | csv =>
    simp only [CsvReport.write, ← writeCsv_sink]
    rfl

end Destination

end TwinFiles
