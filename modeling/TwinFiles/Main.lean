import Std.Time.DateTime.Timestamp
import TwinFiles.Program

/-!
# The command line

The outer layer: it gathers arguments, environment, time and files, runs `Program.run` on them, and
writes what comes of it. The paths of the files that the program may see are read from standard
input, one on a line, as `find` writes them; everything else about them is looked up here, links
followed.
-/

namespace TwinFiles.Main

/-- The changes that put what stands at a path into a tree. -/
def look (path : String) : IO (List Edit) := do
  let p : Path := utf8 path
  try
    let content ← IO.FS.readBinFile path
    return [.folder p.folderPart, .file p content.toList]
  catch
    | .inappropriateType .. => return [.folder p]
    | .permissionDenied .. =>
      return [.folder p.folderPart, .file p [], .access p ⟨false, false⟩]
    | _ => return []

/-- The home folder of the account that the process runs under, from the table of accounts. -/
def account : IO (Option Path) := do
  try
    let status ← IO.FS.readFile "/proc/self/status"
    let table ← IO.FS.readFile "/etc/passwd"
    let user := (status.splitOn "\n").findSome? fun line =>
      match line.splitOn "\t" with
      | "Uid:" :: user :: _ => some user
      | _ => none
    return (table.splitOn "\n").findSome? fun line =>
      match line.splitOn ":" with
      | [_, _, number, _, _, home, _] => if some number = user then some (utf8 home) else none
      | _ => none
  catch _ => return none

/-- The files at some paths, as seen from the working folder. -/
def view (paths : List String) : IO View := do
  let home := utf8 (toString (← IO.currentDir))
  let edits ← paths.mapM look
  return { View.built home false edits.flatten with account := ← account }

/-- The variables of the process. -/
def environment : IO Environment := do
  return .ofBlock (← IO.FS.readBinFile "/proc/self/environ").toList

/-- The time now. -/
def now : IO Instant := do
  let t ← Std.Time.Timestamp.now
  return ⟨t.val.second.val, t.val.nano.val.toNat⟩

/-- A length of time in nanoseconds. -/
def durationOf (nanoseconds : Nat) : Duration :=
  ⟨nanoseconds / 1000000000, nanoseconds % 1000000000⟩

/-- Lines of standard input. -/
def lines : IO (List String) := do
  let text ← (← IO.getStdin).readToEnd
  return ((text.splitOn "\n").filter (· ≠ ""))

/-- Runs the program on the files at the paths from standard input. -/
def run (arguments : List String) : IO UInt32 := do
  let started ← IO.monoNanosNow
  let v ← view (← lines)
  let passed := (← IO.monoNanosNow) - started
  let terminal ← (← IO.getStdout).isTty
  let o := Program.run .brief v (← environment) (arguments.map utf8) terminal
    (durationOf passed) (← now) .unlimited
  (← IO.getStdout).write ⟨o.output.toArray⟩
  (← IO.getStderr).write ⟨o.diagnostics.toArray⟩
  return o.exit.toUInt32

end TwinFiles.Main

def main (arguments : List String) : IO UInt32 :=
  TwinFiles.Main.run arguments
