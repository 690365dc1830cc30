import TwinFiles.Exit
import TwinFiles.Report.Summary

/-!
# Report as JSON

One object with the groups and the summary, on one line or indented, and a newline behind it. Paths
are shown as text, so that every scan has a report.
-/

namespace TwinFiles.JsonReport

/-- A group with its paths as text. -/
def group (g : Group) : Json :=
  .object [
    (utf8 "hash", .string g.digest.hex),
    (utf8 "size", .nat g.size),
    (utf8 "files", .array (g.paths.map fun p => .string p.display))]

/-- An unreadable file and the cause. -/
def readError (e : ReadError) : Json :=
  .object [(utf8 "path", .string e.path.display), (utf8 "error", .string e.cause.text)]

def status (invalidDirectory : Bool) : Bytes :=
  if invalidDirectory then utf8 "invalid_directory" else utf8 "ok"

/-- The facts beside the scan itself that a report holds. -/
structure Circumstances where
  exit : ExitCode
  duration : Duration
  time : Instant

/-- The summary. -/
def summary (s : Summary) (c : Circumstances) : Json :=
  .object [
    (utf8 "folder", .string s.folder.display),
    (utf8 "prefix", .string s.wanted),
    (utf8 "status", .string (status s.invalidDirectory)),
    (utf8 "entries_examined", .nat s.entriesExamined),
    (utf8 "files_hashed", .nat s.filesHashed),
    (utf8 "bytes_hashed", .nat s.bytesHashed),
    (utf8 "read_errors", .array (s.readErrors.map readError)),
    (utf8 "duplicate_groups", .nat s.duplicateGroups),
    (utf8 "duplicate_files", .nat s.duplicateFiles),
    (utf8 "reclaimable_space", .nat s.reclaimableSpace),
    (utf8 "scan_duration_ms", .nat c.duration.milliseconds),
    (utf8 "exit_code", .nat c.exit.number),
    (utf8 "exit_code_name", .string c.exit.name),
    (utf8 "generated_at", .string c.time.text)]

/-- The whole report. -/
def document (groups : List Group) (s : Summary) (c : Circumstances) : Json :=
  .object [(utf8 "duplicates", .array (groups.map group)), (utf8 "summary", summary s c)]

/-- What is written: the document and a newline. -/
def pieces (indented : Bool) (groups : List Group) (s : Summary) (c : Circumstances) :
    List Bytes :=
  let d := document groups s c
  [if indented then d.pretty else d.compact, [Ascii.newline]]

end TwinFiles.JsonReport
