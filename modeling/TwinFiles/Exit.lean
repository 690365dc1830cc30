import TwinFiles.Json.Printer

/-!
# Exit codes and start-up errors

A scan never makes the program fail. Only a problem outside the scan does, and it is shown as the
chain of its texts, from the outermost context to the root cause, as a line or as JSON.
-/

namespace TwinFiles

/-- How the program ends. -/
inductive ExitCode where
  | success
  | generalError
  deriving DecidableEq, Repr

namespace ExitCode

def number : ExitCode → Nat
  | success => 0
  | generalError => 1

/-- The name that scripts look for. -/
def name : ExitCode → Bytes
  | success => utf8 "PD000"
  | generalError => utf8 "PD001"

end ExitCode

/-- An error outside the scan: its texts from the outermost context to the root cause. -/
structure StartError where
  code : ExitCode
  texts : List Bytes

namespace StartError

/-- All texts, joined by a colon and a space. -/
def message (e : StartError) : Bytes :=
  Bytes.join (utf8 ": ") e.texts

/-- The error as a line for people. -/
def line (e : StartError) : Bytes :=
  utf8 "[" ++ e.code.name ++ utf8 "] Error: " ++ e.message

/-- The error as a JSON object. -/
def json (e : StartError) : Json :=
  .object [
    (utf8 "code", .string e.code.name),
    (utf8 "exit_code", .nat e.code.number),
    (utf8 "message", .string e.message)]

end StartError

end TwinFiles
