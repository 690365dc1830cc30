import TwinFiles.Text.Binary64
import TwinFiles.Text.Literal
import TwinFiles.Settings.Basic

/-!
# Layers of settings

A layer gives values to keys: a configuration file, or the environment. A later layer wins key by
key; where both layers give a table, the tables are merged alike. A value knows where it came from,
so that a value of the wrong type can be told with its origin. Types are checked once, on the merged
values.
-/

namespace TwinFiles

/-- Where a value came from. -/
inductive Origin where
  /-- A file, by the path it is shown with. -/
  | file (shown : Bytes)
  | environment
  deriving DecidableEq, Repr

/-- A value without parts. -/
inductive Scalar where
  | bool (value : Bool)
  | signed (value : Int)
  | unsigned (value : Nat)
  | float (value : Binary64)
  | text (text : Bytes)
  /-- A single character, which stands for its text where a text is asked for. -/
  | character (text : Bytes)
  deriving DecidableEq, Repr

/-- A value of a layer. -/
inductive LayerValue where
  | scalar (origin : Origin) (value : Scalar)
  | list (origin : Origin) (items : List LayerValue)
  | table (origin : Origin) (fields : List (Bytes × LayerValue))

/-- The values that a layer gives to keys. -/
abbrev Layer := List (Bytes × LayerValue)

namespace LayerValue

def origin : LayerValue → Origin
  | scalar o _ => o
  | list o _ => o
  | table o _ => o

/-- What a value is called when it is of the wrong type. -/
def description : LayerValue → Bytes
  | scalar _ (.bool true) => utf8 "bool true"
  | scalar _ (.bool false) => utf8 "bool false"
  | scalar _ (.signed n) =>
    utf8 "signed int \x60" ++ Decimal.signed n ++ utf8 "\x60"
  | scalar _ (.unsigned n) => utf8 "unsigned int \x60" ++ Decimal.text n ++ utf8 "\x60"
  | scalar _ (.float x) => utf8 "float \x60" ++ x.text ++ utf8 "\x60"
  | scalar _ (.text s) => utf8 "string " ++ Literal.ofText s
  | scalar _ (.character s) => utf8 "string " ++ Literal.ofText s
  | list _ _ => utf8 "sequence"
  | table _ _ => utf8 "map"

end LayerValue

namespace Layer

/-- The value of a key. -/
def get? (layer : Layer) (key : Bytes) : Option LayerValue :=
  layer.lookup key

/-- Gives a key a value in the place of the one it has. -/
def set (layer : Layer) (key : Bytes) (value : LayerValue) : Layer :=
  if layer.any fun field => field.1 = key then
    layer.map fun field => if field.1 = key then (key, value) else field
  else layer ++ [(key, value)]

end Layer

mutual

/-- A value with a later one over it: two tables are merged, anything else is replaced. -/
def LayerValue.merge (old : LayerValue) : LayerValue → LayerValue
  | .table origin fields =>
    match old with
    | .table _ oldFields => .table origin (Layer.merge oldFields fields)
    | _ => .table origin fields
  | new => new

/-- A layer with a later one over it. -/
def Layer.merge (old : List (Bytes × LayerValue)) :
    List (Bytes × LayerValue) → List (Bytes × LayerValue)
  | [] => old
  | (key, value) :: rest =>
    let merged :=
      match Layer.get? old key with
      | some before => before.merge value
      | none => value
    Layer.merge (Layer.set old key merged) rest

end

/-! ## Types -/

/-- What is wrong with a value. -/
inductive SettingProblem where
  | wrongType (found expected : Bytes)
  | unknownFormat (name : Bytes)
  deriving DecidableEq, Repr

/-- A value that a setting cannot take: the keys that lead to it, and where it came from. -/
structure SettingError where
  problem : SettingProblem
  key : List Bytes
  origin : Origin
  deriving DecidableEq, Repr

namespace SettingError

/-- The value is not of the type that the key asks for. -/
def wrongType (value : LayerValue) (key : List Bytes) (expected : Bytes) : SettingError :=
  ⟨.wrongType value.description expected, key, value.origin⟩

def problemText : SettingProblem → Bytes
  | .wrongType found expected =>
    utf8 "invalid type: found " ++ found ++ utf8 ", expected " ++ expected
  | .unknownFormat name =>
    utf8 "unknown variant: found \x60" ++ name ++ utf8 "\x60, expected \x60one of " ++
      Bytes.join (utf8 ", ")
        (ReportFormat.all.map fun f => utf8 "\x60" ++ f.name ++ utf8 "\x60") ++
      utf8 "\x60"

/-- How a key is spelled where the value came from. -/
def keyText (key : List Bytes) : Origin → Bytes
  | .file _ => Bytes.join (utf8 ".") (utf8 "default" :: key)
  | .environment => (Bytes.join (utf8 ".") key).map Ascii.toUpper

/-- The name of an origin. -/
def originText : Origin → Bytes
  | .file shown => shown ++ utf8 " TOML file"
  | .environment => utf8 "\x60PREFIXDUPE_\x60 environment variable(s)"

def message (e : SettingError) : Bytes :=
  problemText e.problem ++ utf8 " for key " ++ Literal.ofText (keyText e.key e.origin) ++
    utf8 " in " ++ originText e.origin

end SettingError

namespace LayerValue

/-- A value as a switch. -/
def bool? (key : Bytes) : LayerValue → Except SettingError Bool
  | scalar _ (.bool b) => .ok b
  | v => .error (.wrongType v [key] (utf8 "a boolean"))

/-- A value as text; `expected` is what the key asks for in words. -/
def text? (key expected : Bytes) : LayerValue → Except SettingError Bytes
  | scalar _ (.text s) => .ok s
  | scalar _ (.character s) => .ok s
  | v => .error (.wrongType v [key] expected)

/-- The first field in the order of the keys. -/
def firstField? (fields : List (Bytes × LayerValue)) : Option (Bytes × LayerValue) :=
  fields.foldl
    (fun best field =>
      match best with
      | some b => if Bytes.le b.1 field.1 then some b else some field
      | none => some field)
    none

/-- A value as a format. No table is one; its first key is taken for the name of a format that
should hold nothing. -/
def format? (key : Bytes) : LayerValue → Except SettingError ReportFormat
  | scalar origin (.text s) =>
    match ReportFormat.ofName? s with
    | some f => .ok f
    | none => .error ⟨.unknownFormat s, [key], origin⟩
  | table origin fields =>
    match firstField? fields with
    | none => .error (.wrongType (table origin fields) [key] (utf8 "enum"))
    | some (name, value) =>
      match ReportFormat.ofName? name with
      | some _ => .error (.wrongType value [key, name] (utf8 "unit"))
      | none => .error ⟨.unknownFormat name, [key, name], value.origin⟩
  | v => .error (.wrongType v [key] (utf8 "enum OutputFormat"))

end LayerValue

namespace Settings

/-- The value that a layer gives to a setting, or the default. -/
def field {α : Type} (layer : Layer) (key : Bytes) (default : α)
    (read : Bytes → LayerValue → Except SettingError α) : Except SettingError α :=
  match layer.get? key with
  | some value => read key value
  | none => .ok default

/-- The settings that a layer gives. Keys are looked at in alphabetical order, so that of several
wrong values the first one in that order is told; other keys mean nothing. -/
def ofLayer (layer : Layer) : Except SettingError Settings := do
  let color ← field layer (utf8 "color") initial.color LayerValue.bool?
  let folder ← field layer (utf8 "folder") initial.folder
    fun key => LayerValue.text? key (utf8 "path string")
  let followSymlinks ← field layer (utf8 "follow_symlinks") initial.followSymlinks
    LayerValue.bool?
  let output ← field layer (utf8 "output") initial.output LayerValue.format?
  let wanted ← field layer (utf8 "prefix") initial.wanted
    fun key => LayerValue.text? key (utf8 "a string")
  let sortEntries ← field layer (utf8 "sort_entries") initial.sortEntries LayerValue.bool?
  return ⟨folder, wanted, output, sortEntries, followSymlinks, color⟩

end Settings

end TwinFiles
