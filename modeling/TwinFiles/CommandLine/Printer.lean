import TwinFiles.CommandLine.Basic

/-!
# Spelling a command line

Everything that a command line can ask for can be spelled out, with one argument for each wish and
with the values attached to the names of their options. The order of these arguments means nothing.
The folder comes behind them and a double dash, so that it may look like anything.
-/

namespace TwinFiles.CommandLine

/-- A switch as an argument, if it is on. -/
def switchArgument (name : Bytes) (on : Bool) : List Bytes :=
  if on then [name] else []

/-- An option with its value, if it has one. -/
def optionArgument (name : Bytes) : Option Bytes → List Bytes
  | some value => [name ++ 0x3D :: value]
  | none => []

/-- One argument for each wish, in one of the orders. -/
def wishes (c : CommandLine) : List Bytes :=
  List.replicate c.verbose (utf8 "-v") ++
    switchArgument (utf8 "-q") c.quiet ++
    switchArgument (utf8 "--no-color") c.noColor ++
    switchArgument (utf8 "--json-errors") c.jsonErrors ++
    optionArgument (utf8 "--config") c.config ++
    optionArgument (utf8 "--prefix") c.wanted ++
    optionArgument (utf8 "--output") (c.output.map ReportFormat.name) ++
    switchArgument (utf8 "--sort") c.sort ++
    switchArgument (utf8 "--no-follow-symlinks") c.noFollowSymlinks

/-- The folder behind a double dash, if there is one. -/
def folderArguments (c : CommandLine) : List Bytes :=
  match c.folder with
  | some folder => [utf8 "--", folder]
  | none => []

/-- The command line can be asked for: it is not both quiet and verbose, its verbosity can be
counted, its prefix is text, and its paths are not empty. -/
structure Expressible (c : CommandLine) : Prop where
  notBoth : ¬ (c.quiet = true ∧ 0 < c.verbose)
  verbose_le : c.verbose ≤ 255
  wanted_valid : ∀ text ∈ c.wanted, Utf8.valid text = true
  config_ne_nil : ∀ path ∈ c.config, path ≠ []
  folder_ne_nil : ∀ path ∈ c.folder, path ≠ []

end TwinFiles.CommandLine
