import TwinFiles.Settings.EnvironmentValue

/-!
# Settings from the environment

A variable whose name starts with the program's prefix, in any case, sets the key that the rest of
its name spells in lower case. A double underscore, or a dot, leads into a table.
-/

namespace TwinFiles

/-- The variables of a process, by name. -/
abbrev Environment := List (Bytes × Bytes)

namespace Environment

/-- The value of a variable. -/
def get? (env : Environment) (name : Bytes) : Option Bytes :=
  env.lookup name

/-- The variables of a block: texts of the form `name=value`, each with a NUL behind it. -/
def ofBlock (s : Bytes) : Environment :=
  (Bytes.splitOn Ascii.nul s).filterMap fun entry =>
    match entry.dropWhile (· != 0x3D) with
    | _ :: value => some (entry.takeWhile (· != 0x3D), value)
    | [] => none

/-- What the names of variables for settings start with. -/
def namePrefix : Bytes :=
  utf8 "PREFIXDUPE_"

/-- A name with a dot for each double underscore. -/
def dotted : Bytes → Bytes
  | 0x5F :: 0x5F :: rest => Ascii.dot :: dotted rest
  | b :: rest => b :: dotted rest
  | [] => []

/-- The keys that a name leads through, if it is the name of a setting. -/
def keyOf? (name : Bytes) : Option (List Bytes) :=
  let name := Blank.trim (Utf8.lossy name)
  if (name.take namePrefix.length).map Ascii.toUpper = namePrefix then
    let key := Blank.trim (dotted (name.drop namePrefix.length))
    let parts := Bytes.splitOn Ascii.dot (key.map Ascii.toLower)
    if [] ∈ parts then none else some parts
  else none

/-- A layer that gives a value to the key at the end of a way through tables. -/
def nested : List Bytes → LayerValue → Layer
  | [], _ => []
  | [key], value => [(key, value)]
  | key :: next :: keys, value => [(key, .table .environment (nested (next :: keys) value))]

/-- The layer of the environment: its variables in order, later ones over earlier ones. -/
def layer (env : Environment) : Layer :=
  env.foldl
    (fun layer entry =>
      match keyOf? entry.1 with
      | some keys => Layer.merge layer (nested keys (EnvironmentValue.read entry.2))
      | none => layer)
    []

/-- Reading the value of one of the settings breaks off. -/
def isTorn (env : Environment) : Bool :=
  env.any fun entry => (keyOf? entry.1).isSome && EnvironmentValue.isTorn entry.2

end Environment

end TwinFiles
