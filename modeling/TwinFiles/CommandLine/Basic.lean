import TwinFiles.Settings.Basic

/-!
# The command line

What a command line can ask for, and how each request is spelled. Switches are on or off, options
take a value, and one value stands alone: the folder.
-/

namespace TwinFiles

/-- What a command line asks for. -/
structure CommandLine where
  verbose : Nat
  quiet : Bool
  noColor : Bool
  jsonErrors : Bool
  config : Option Path
  folder : Option Path
  wanted : Option Bytes
  output : Option ReportFormat
  sort : Bool
  noFollowSymlinks : Bool
  deriving DecidableEq, Repr

/-- Why a command line is not taken, or what it asks for instead of a scan. -/
inductive UsageError where
  | unknownArgument
  | invalidValue
  | argumentConflict
  | invalidUtf8
  | tooManyValues
  | displayHelp
  | displayVersion
  deriving DecidableEq, Repr

/-- Asking for help or the version is no failure. -/
def UsageError.exitNumber : UsageError → Nat
  | displayHelp => 0
  | displayVersion => 0
  | _ => 2

namespace CommandLine

/-- Nothing is asked for. -/
def empty : CommandLine where
  verbose := 0
  quiet := false
  noColor := false
  jsonErrors := false
  config := none
  folder := none
  wanted := none
  output := none
  sort := false
  noFollowSymlinks := false

/-- The version that is shown on request. -/
def versionText : Bytes :=
  utf8 "prefixdupe 0.1.0\n"

/-- The lines that are shown when help is asked for. -/
def helpLines : List String := [
  "Find files sharing a name prefix whose contents are identical",
  "",
  "Usage: prefixdupe [OPTIONS] [FOLDER]",
  "",
  "Arguments:",
  "  [FOLDER]  Directory to scan (default: current directory)",
  "",
  "Options:",
  "  -v, --verbose...          Increase log verbosity (-v info, -vv debug, -vvv trace)",
  "  -q, --quiet               Suppress log output except errors",
  "      --no-color            Disable colored output [env: NO_COLOR=]",
  "      --json-errors         Print start-up errors as JSON on stderr",
  "  -c, --config <FILE>       Path to a TOML configuration file",
  "  -p, --prefix <PREFIX>     Literal, case-sensitive file name prefix (default: output)",
  "  -o, --output <OUTPUT>     Output format [possible values: text, json, csv]",
  "      --sort                List entries sorted by file name instead of directory order",
  "      --no-follow-symlinks  Do not treat symlinks to regular files as files",
  "  -h, --help                Print help",
  "  -V, --version             Print version"]

/-- What is shown when help is asked for. -/
def helpText : Bytes :=
  helpLines.flatMap fun line => utf8 line ++ [Ascii.newline]

/-- What is shown when a command line is not taken. -/
def refusalText : UsageError → Bytes
  | .unknownArgument => utf8 "error: unexpected argument\n"
  | .invalidValue => utf8 "error: invalid or missing value\n"
  | .argumentConflict => utf8 "error: arguments cannot be used together\n"
  | .invalidUtf8 => utf8 "error: invalid UTF-8 was detected in one or more arguments\n"
  | .tooManyValues => utf8 "error: unexpected value for an argument that takes none\n"
  | .displayHelp => []
  | .displayVersion => []

/-- Arguments without a value. -/
inductive Switch where
  | verbose
  | quiet
  | noColor
  | jsonErrors
  | sort
  | noFollowSymlinks
  | help
  | version
  deriving DecidableEq, Repr

/-- Arguments with a value; the folder stands alone. -/
inductive Slot where
  | config
  | wanted
  | output
  | folder
  deriving DecidableEq, Repr

/-- What a name on the command line stands for. -/
inductive Argument where
  | switch (s : Switch)
  | option (s : Slot)
  deriving DecidableEq, Repr

/-- The names behind two dashes. -/
def longNames : List (Bytes × Argument) := [
  (utf8 "verbose", .switch .verbose),
  (utf8 "quiet", .switch .quiet),
  (utf8 "no-color", .switch .noColor),
  (utf8 "json-errors", .switch .jsonErrors),
  (utf8 "config", .option .config),
  (utf8 "prefix", .option .wanted),
  (utf8 "output", .option .output),
  (utf8 "sort", .switch .sort),
  (utf8 "no-follow-symlinks", .switch .noFollowSymlinks),
  (utf8 "help", .switch .help),
  (utf8 "version", .switch .version)]

/-- The letters behind one dash. -/
def letters : List (UInt8 × Argument) := [
  (0x76, .switch .verbose),
  (0x71, .switch .quiet),
  (0x63, .option .config),
  (0x70, .option .wanted),
  (0x6F, .option .output),
  (0x68, .switch .help),
  (0x56, .switch .version)]

/-- Turns a switch on. All but the verbosity may be given once; that counts up to 255. -/
def turnOn (c : CommandLine) : Switch → Except UsageError CommandLine
  | .verbose => .ok { c with verbose := min (c.verbose + 1) 255 }
  | .quiet => if c.quiet then .error .argumentConflict else .ok { c with quiet := true }
  | .noColor => if c.noColor then .error .argumentConflict else .ok { c with noColor := true }
  | .jsonErrors =>
    if c.jsonErrors then .error .argumentConflict else .ok { c with jsonErrors := true }
  | .sort => if c.sort then .error .argumentConflict else .ok { c with sort := true }
  | .noFollowSymlinks =>
    if c.noFollowSymlinks then .error .argumentConflict
    else .ok { c with noFollowSymlinks := true }
  | .help => .error .displayHelp
  | .version => .error .displayVersion

/-- Gives an option its value. It may be given once; a path is not empty, a prefix is text, and a
format is one of the known ones. -/
def assign (c : CommandLine) (value : Bytes) : Slot → Except UsageError CommandLine
  | .config =>
    if c.config.isSome then .error .argumentConflict
    else if value.isEmpty then .error .invalidValue
    else .ok { c with config := some value }
  | .folder =>
    if c.folder.isSome then .error .argumentConflict
    else if value.isEmpty then .error .invalidValue
    else .ok { c with folder := some value }
  | .wanted =>
    if c.wanted.isSome then .error .argumentConflict
    else if Utf8.valid value then .ok { c with wanted := some value }
    else .error .invalidUtf8
  | .output =>
    if c.output.isSome then .error .argumentConflict
    else
      match ReportFormat.ofName? value with
      | some format => .ok { c with output := some format }
      | none => .error .invalidValue

end CommandLine

end TwinFiles
