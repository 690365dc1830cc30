import TwinFiles.Settings.Layer
import TwinFiles.Toml.Document
import TwinFiles.Tree.View

/-!
# Settings from a file

A configuration file is a TOML document. Its values are told with the path of the file as seen from
the working folder, if that is the shorter way to name it. Two names of fields are reserved in the
tables inside the document: one makes the table stand for what the field holds, the other is
refused.
-/

namespace TwinFiles

namespace LayerValue

/-- The fields by which a date or a time is known: it is no scalar. -/
def momentFields (origin : Origin) : List (Bytes × LayerValue) :=
  [(utf8 "$__toml_private_datetime", .scalar origin (.text []))]

/-- The field that a table stands for: all others of that table are dropped. -/
def valueField : Bytes := utf8 "___figment_value_value"

/-- The field that no table may have. -/
def refusedField : Bytes := utf8 "___figment_value_id"

/-- The value of a table with these fields, which lies inside a document. -/
def ofFields? (origin : Origin) (fields : List (Bytes × LayerValue)) : Option LayerValue :=
  match fields.lookup refusedField, fields.lookup valueField with
  | some _, _ => none
  | none, some value => some value
  | none, none => some (.table origin fields)

mutual

/-- A TOML value as the value of a layer, unless it holds a refused field. -/
def ofToml? (origin : Origin) : Toml.Value → Option LayerValue
  | .string s => some (.scalar origin (.text s))
  | .integer n => some (.scalar origin (.signed n))
  | .float x => some (.scalar origin (.float x))
  | .bool b => some (.scalar origin (.bool b))
  | .moment => some (.table origin (momentFields origin))
  | .array items => (ofTomlItems? origin items).map (.list origin ·)
  | .table fields =>
    match ofTomlFields? origin fields with
    | some fields => ofFields? origin fields
    | none => none

def ofTomlItems? (origin : Origin) : List Toml.Value → Option (List LayerValue)
  | [] => some []
  | item :: items =>
    match ofToml? origin item, ofTomlItems? origin items with
    | some item, some items => some (item :: items)
    | _, _ => none

def ofTomlFields? (origin : Origin) :
    List (Bytes × Toml.Value) → Option (List (Bytes × LayerValue))
  | [] => some []
  | (key, value) :: fields =>
    match ofToml? origin value, ofTomlFields? origin fields with
    | some value, some fields => some ((key, value) :: fields)
    | _, _ => none

end

end LayerValue

namespace ConfigFile

/-- The folders above a location, the nearest one first. -/
def foldersAbove (loc : Location) : List Location :=
  (List.range loc.length).reverse.map loc.take

/-- The path at which a file is found. A relative path that leads to none from the working folder is
tried from the folders above. -/
def find? (v : View) (path : Path) : Option Path :=
  let above :=
    if path.isAbsolute then []
    else (foldersAbove v.home).map fun folder => (View.pathOf folder).join path
  (path :: above).find? v.isFile

/-- The name that a file is told by: the way from the working folder if it has fewer parts than the
absolute path. -/
def shownPath (home path : Path) : Bytes :=
  let full := if path.isAbsolute then path else home.join path
  let way := Path.way home.components full.components
  if way.length < full.components.length then Path.display (Path.extend [] way)
  else Path.display full

/-- The layer of the file at a path, or nothing if it cannot be read, is no TOML document or holds
a refused field. -/
def layer? (v : View) (path : Path) : Option Layer :=
  match v.read path with
  | .error _ => none
  | .ok content =>
    match Toml.parse? content with
    | some fields => LayerValue.ofTomlFields? (.file (shownPath v.homePath path)) fields
    | none => none

end ConfigFile

end TwinFiles
