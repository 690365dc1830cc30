import TwinFiles.CommandLine.Parser
import TwinFiles.Log
import TwinFiles.Settings.Environment
import TwinFiles.Settings.File

/-!
# Loading the settings

The settings come in layers: the defaults, a configuration file, the environment and at last the
command line. The file is one that was asked for, which has to be there, or the one at the default
path, which may be missing. A default path is relative if the home folder is; then the file may lie
in a folder above the working folder, too.
-/

namespace TwinFiles

/-- Why the settings cannot be loaded. `asked` is the path of the file if one was asked for. -/
inductive LoadError where
  | missing (path : Path)
  /-- Reading a variable breaks off, and the program with it. -/
  | torn
  | unreadable (asked : Option Path)
  | wrongValue (asked : Option Path) (error : SettingError)
  deriving DecidableEq, Repr

namespace LoadError

/-- The context that a file gives which was asked for. -/
def fileContext : Option Path → List Bytes
  | some path => [utf8 "Failed to load configuration from " ++ path.display]
  | none => []

def valuesContext : Bytes :=
  utf8 "Invalid configuration"

/-- The texts of the error, from the outermost context to the cause. What is wrong with a file that
cannot be read, its reader says in words of its own. -/
def texts (reading : Bytes) : LoadError → List Bytes
  | missing path => [utf8 "Configuration file not found: " ++ path.display]
  | torn => [utf8 "a quoted text would be cut inside a character"]
  | unreadable asked => fileContext asked ++ [valuesContext, reading]
  | wrongValue asked e => fileContext asked ++ [valuesContext, e.message]

end LoadError

namespace Settings

/-- The path of the configuration file below a folder for configurations. -/
def pathBelow (folder : Path) : Path :=
  (folder.join (utf8 "prefixdupe")).join (utf8 "config.toml")

/-- The home folder: the one that the environment names, else that of the account. -/
def homeFolder? (v : View) (env : Environment) : Option Path :=
  ((env.get? (utf8 "HOME")).filter fun home => !home.isEmpty).or v.account

/-- The default path of the configuration file: below `XDG_CONFIG_HOME` if that is an absolute
path, else below `.config` in the home folder. Where there is no home folder there is none. -/
def defaultPath? (v : View) (env : Environment) : Option Path :=
  (homeFolder? v env).map fun home =>
    match (env.get? (utf8 "XDG_CONFIG_HOME")).filter Path.isAbsolute with
    | some folder => pathBelow folder
    | none => pathBelow (home.join (utf8 ".config"))

/-- The file at the default path, if there is one. -/
def defaultFile? (v : View) (env : Environment) : Option Path :=
  (defaultPath? v env).bind (ConfigFile.find? v)

/-- The settings of a file's layer with the environment over it. -/
def ofLayers (file : Layer) (env : Environment) : Except SettingError Settings :=
  ofLayer (Layer.merge file env.layer)

/-- The settings from the file at a path, if there is one, and the environment. Whatever the file
holds, the environment is read before anything is told about it. -/
def fromFile (v : View) (env : Environment) (asked path : Option Path) :
    Except LoadError Settings :=
  let layer? := match path with
    | some path => ConfigFile.layer? v path
    | none => some []
  if env.isTorn then .error .torn
  else
    match layer? with
    | none => .error (.unreadable asked)
    | some layer => (ofLayers layer env).mapError (.wrongValue asked)

/-- Loads the settings; `asked` is the file that was asked for. -/
def load (v : View) (env : Environment) (asked : Option Path) : Except LoadError Settings :=
  match asked with
  | some path =>
    if v.isFile path then fromFile v env asked asked else .error (.missing path)
  | none => fromFile v env none (defaultFile? v env)

/-- Settings with the command line over them. A switch can only turn sorting on, and links and
color off. -/
def withCommandLine (s : Settings) (c : CommandLine) : Settings where
  folder := c.folder.getD s.folder
  wanted := c.wanted.getD s.wanted
  output := c.output.getD s.output
  sortEntries := s.sortEntries || c.sort
  followSymlinks := s.followSymlinks && !c.noFollowSymlinks
  color := s.color && !c.noColor

/-! ## Records -/

/-- The name of a report's form in a record. -/
def formatTitle : ReportFormat → Bytes
  | .text => utf8 "Text"
  | .json => utf8 "Json"
  | .csv => utf8 "Csv"

/-- The settings as a record shows them. -/
def description (s : Settings) : Bytes :=
  utf8 "Config \x7b folder: " ++ Literal.ofPath s.folder ++ utf8 ", prefix: " ++
    Literal.ofText s.wanted ++ utf8 ", output: " ++ formatTitle s.output ++
    utf8 ", sort_entries: " ++ Literal.ofBool s.sortEntries ++ utf8 ", follow_symlinks: " ++
    Literal.ofBool s.followSymlinks ++ utf8 ", color: " ++ Literal.ofBool s.color ++ utf8 " \x7d"

/-- The records of loading. -/
def loadRecords (v : View) (env : Environment) (asked : Option Path)
    (result : Except LoadError Settings) : List Log.Record :=
  (match asked with
    | none =>
      (defaultPath? v env).toList.map fun path =>
        ⟨.debug, .settings, utf8 "Looking for configuration at " ++ path.display⟩
    | some _ => []) ++
  (match result with
    | .ok s => [⟨.debug, .settings, utf8 "Effective configuration: " ++ s.description⟩]
    | .error _ => [])

end Settings

end TwinFiles
