import TwinFiles.Reporter.Basic
import TwinFiles.Sink
import TwinFiles.Style
import TwinFiles.Text.Literal

/-!
# Progress for people

The console reporter writes lines as calls arrive, so that a file that cannot be read shows up next
to its name. A line that does not fit is given up with a record; it never stops the scan.
-/

namespace TwinFiles.Console

/-- The name that an entry is shown by. -/
def entryName (path : Path) : Bytes :=
  match path.fileName? with
  | some name => Utf8.lossy name
  | none => path.display

/-- The lines for a call, without their line ends. -/
def lines (color : Bool) (home : Path) : Call → List Bytes
  | .start folder wanted =>
    [utf8 "Scanning folder: '" ++ Style.bold.paint color (Path.displayAbsolute home folder) ++
        utf8 "'",
      utf8 "Looking for files whose names start with '" ++ Style.bold.paint color wanted ++
        utf8 "'...\n"]
  | .entry path => [utf8 "Examining file: " ++ entryName path]
  | .hashed _ => []
  | .readError e =>
    [Style.red.paint color
      (utf8 "Unable to read file " ++ e.path.display ++ utf8 ": " ++ e.cause.text)]
  | .entryError e => [Style.yellow.paint color (utf8 "Skipped entry: " ++ e.message)]
  | .invalid e =>
    [Style.boldRed.paint color
      (utf8 "Error: the path '" ++ e.path.display ++ utf8 "' is not a valid folder.")]

/-- The record that a call leaves beside its lines. -/
def remarks : Call → List Log.Record
  | .invalid e => [⟨.debug, .progress, utf8 "Invalid directory: " ++ e.message⟩]
  | _ => []

/-- Writes lines one by one, with a record for each that does not fit. -/
def emit (sink : Sink) : List Bytes → Sink × List Log.Record
  | [] => (sink, [])
  | line :: rest =>
    match sink.write (line ++ [Ascii.newline]) with
    | (sink, .ok ()) => emit sink rest
    | (sink, .error failure) =>
      let (sink, records) := emit sink rest
      (sink, ⟨.debug, .progress, utf8 "Failed to write progress line: " ++ failure.text⟩ :: records)

/-- Writes the lines of every call to a sink. -/
def reporter (color : Bool) (home : Path) : Reporter Sink :=
  ⟨fun sink call =>
    let (sink, records) := emit sink (lines color home call)
    (sink, records ++ remarks call)⟩

/-- The reporter in one line for people who look for a fault. -/
def description (color : Bool) : Bytes :=
  utf8 "ConsoleReporter \x7b out: \"<writer>\", color: " ++ Literal.ofBool color ++ utf8 " \x7d"

/-- The progress of calls as one text. -/
def text (color : Bool) (home : Path) (calls : List Call) : Bytes :=
  (calls.flatMap (lines color home)).flatMap (· ++ [Ascii.newline])

end TwinFiles.Console
