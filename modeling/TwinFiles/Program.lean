import TwinFiles.CommandLine.Parser
import TwinFiles.Exit
import TwinFiles.Run
import TwinFiles.Settings.Load

/-!
# The program

From arguments, environment and files to exit code, output and diagnostics. A command line that is
refused, or that asks for help or the version, ends the program before anything else; settings that
cannot be loaded end it with an error; otherwise the scan runs and its report is the output. A
variable that cannot be read to its end breaks the program off.
-/

namespace TwinFiles

/-- What the readers of the command line and of configuration files say in words of their own, in one
run of the program. -/
structure Wording where
  /-- What is shown when help is asked for. -/
  help : Bytes
  /-- What is shown when a command line is not taken. -/
  refusal : UsageError → Bytes
  /-- What is wrong with a configuration file that cannot be read. -/
  reading : Bytes
  reading_valid : Utf8.Valid reading

/-- No more words than needed. -/
def Wording.brief : Wording :=
  ⟨CommandLine.helpText, CommandLine.refusalText, utf8 "TOML parse error", by decide⟩

/-- What the program leaves behind. -/
structure Outcome where
  exit : Nat
  output : Bytes
  diagnostics : Bytes

namespace Program

/-- The limit for records that the command line asks for. -/
def limitOf (c : CommandLine) : Log.Limit :=
  if c.quiet then some .error
  else
    match c.verbose with
    | 0 => some .warn
    | 1 => some .info
    | 2 => some .debug
    | _ => some .trace

/-- How records are filtered: by a specification in the environment if there is one, else by the
limit of the command line. With the filter come warnings about the specification and the first
record. -/
def logging (c : CommandLine) (env : Environment) : Log.Filter × List Bytes × Log.Record :=
  match env.get? (utf8 "RUST_LOG") with
  | some specification =>
    let (filter, warnings) :=
      if Utf8.valid specification then Log.Filter.ofSpecification specification
      else (Log.Filter.ofRules [] none, [])
    (filter, warnings, ⟨.debug, .logging, utf8 "Logging configured from RUST_LOG"⟩)
  | none =>
    let limit := limitOf c
    (.upTo limit, [],
      ⟨.debug, .logging, utf8 "Logging initialized at level: " ++ limit.title⟩)

/-- The lines of the records that a filter lets through. -/
def logText (filter : Log.Filter) (records : List Log.Record) : Bytes :=
  (records.filter filter.admits).flatMap Log.Record.line

/-- The error at the end of the diagnostics, as a line or as JSON. -/
def errorText (c : CommandLine) (e : StartError) : Bytes :=
  (if c.jsonErrors then e.json.pretty else e.line) ++ [Ascii.newline]

/-- The exit code of a program that breaks off. -/
def brokenOff : Nat := 101

/-- The settings of a run: there is color only on a terminal, whatever the settings say. -/
def effective (s : Settings) (c : CommandLine) (terminal : Bool) : Settings :=
  let s := s.withCommandLine c
  { s with color := s.color && terminal }

/-- Runs the program on a command line that has been taken. -/
def execute (w : Wording) (v : View) (env : Environment) (c : CommandLine) (terminal : Bool)
    (duration : Duration) (time : Instant) (sink : Sink) : Outcome :=
  let (filter, warnings, first) := logging c env
  let loaded := Settings.load v env c.config
  let early := first :: Settings.loadRecords v env c.config loaded
  let notes := warnings.flatMap (· ++ [Ascii.newline])
  match loaded with
  | .error .torn =>
    { exit := brokenOff
      output := sink.received
      diagnostics := notes ++ logText filter early ++
        (LoadError.torn.texts w.reading).flatMap (· ++ [Ascii.newline]) }
  | .error e =>
    { exit := ExitCode.generalError.number
      output := sink.received
      diagnostics := notes ++ logText filter early ++
        errorText c ⟨.generalError, e.texts w.reading⟩ }
  | .ok settings =>
    let run := Run.perform v (effective settings c terminal) duration time sink
    let records := logText filter (early ++ run.records)
    match run.result with
    | .ok code =>
      { exit := code.number, output := run.sink.received, diagnostics := notes ++ records }
    | .error e =>
      { exit := ExitCode.generalError.number
        output := run.sink.received
        diagnostics := notes ++ records ++
          errorText c ⟨.generalError, Run.failureTexts e⟩ }

/-- Runs the program. Its output may be a terminal. -/
def run (w : Wording) (v : View) (env : Environment) (arguments : List Bytes) (terminal : Bool)
    (duration : Duration) (time : Instant) (sink : Sink) : Outcome :=
  match CommandLine.parse arguments (env.get? (utf8 "NO_COLOR")) with
  | .ok c => execute w v env c terminal duration time sink
  | .error .displayVersion =>
    { exit := 0, output := CommandLine.versionText, diagnostics := [] }
  | .error .displayHelp => { exit := 0, output := w.help, diagnostics := [] }
  | .error e =>
    { exit := e.exitNumber, output := [], diagnostics := w.refusal e }

end Program

end TwinFiles
