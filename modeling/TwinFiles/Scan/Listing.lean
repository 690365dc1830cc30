import TwinFiles.Failure
import TwinFiles.Log
import TwinFiles.Text.Literal
import TwinFiles.Tree.View

/-!
# Listing a folder

A selection tells which entries of a folder are wanted and how they are looked at. The listing is
taken once, in the folder's order or sorted by name, with the kind that each entry has then; an
entry is judged when its turn comes, and only then is a link followed to what it leads to.
-/

namespace TwinFiles

/-- Which entries of a folder are wanted. -/
structure Selection where
  /-- Names have to start with these bytes. -/
  wanted : Bytes
  /-- Entries come in the order of their names. -/
  sorted : Bool
  /-- Links to files count as files. -/
  followLinks : Bool
  deriving DecidableEq, Repr

namespace Selection

/-- Wants the names that start with some bytes, in the folder's order, and follows links. -/
def ofPrefix (wanted : Bytes) : Selection :=
  ⟨wanted, false, true⟩

/-- The prefix that is wanted when none is asked for. -/
def defaultPrefix : Bytes := utf8 "output"

/-- The name starts with the wanted bytes. -/
def admits (s : Selection) (name : Bytes) : Bool :=
  s.wanted.isPrefixOf name

/-- The selection in one line for people who look for a fault. -/
def description (s : Selection) : Bytes :=
  utf8 "WalkerConfig \x7b prefix: " ++ Literal.ofText s.wanted ++ utf8 ", follow_symlinks: " ++
    Literal.ofBool s.followLinks ++ utf8 ", sort_entries: " ++ Literal.ofBool s.sorted ++
    utf8 " \x7d"

end Selection

/-- An entry of a folder: its name, and its kind at the time of the listing. -/
abbrev Entry := Bytes × Kind

/-- What the listing makes of an entry, or of its own failure. -/
inductive Sighting where
  /-- The name is not wanted. -/
  | unwanted (path : Path)
  /-- A wanted entry that is not a file. -/
  | nonFile (path : Path)
  /-- A wanted file, or a link to one. -/
  | file (path : Path)
  /-- The listing failed. -/
  | failed (path : Path) (cause : Cause)
  deriving DecidableEq, Repr

namespace Sighting

/-- The name is wanted, or the listing failed. -/
def counts : Sighting → Bool
  | unwanted _ => false
  | _ => true

end Sighting

namespace Listing

/-- Checks that a folder can be scanned: the path leads to a folder, and it opens for listing. -/
def validate (v : View) (folder : Path) : Except FolderError Unit :=
  match v.item true folder with
  | .error cause => .error (.ofCause folder cause)
  | .ok (.folder _) =>
    match v.list folder with
    | .error cause => .error (.ofCause folder cause)
    | .ok _ => .ok ()
  | .ok _ => .error (.notADirectory folder)

/-- Entries in the order of their names. -/
def sortEntries (entries : List Entry) : List Entry :=
  entries.mergeSort fun a b => Bytes.le a.1 b.1

/-- Takes the listing of a path that was a folder when it was checked. Anything but a folder that
stands there by now has no entries. -/
def entries (v : View) (s : Selection) (folder : Path) : Except Cause (List Entry) :=
  match v.item false folder with
  | .error cause => .error cause
  | .ok (.folder _) => ordered
  | .ok (.link _) =>
    -- a folder may be given by a link to it
    match v.item true folder with
    | .error cause => .error cause
    | .ok (.folder _) => ordered
    | .ok _ => .ok []
  | .ok _ => .ok []
where
  ordered : Except Cause (List Entry) :=
    match v.list folder with
    | .error cause => .error cause
    | .ok es => .ok (if s.sorted then sortEntries es else es)

/-- A file, or a link that is to be followed and leads to one. -/
def isFile (v : View) (s : Selection) (path : Path) : Kind → Bool
  | .file => true
  | .link => s.followLinks && v.isFile path
  | _ => false

/-- Judges an entry. -/
def sight (v : View) (s : Selection) (folder : Path) (entry : Entry) : Sighting :=
  let path := folder.join entry.1
  if s.admits entry.1 then
    if isFile v s path entry.2 then .file path else .nonFile path
  else .unwanted path

/-- What a listing shows while nothing changes. -/
def sightings (v : View) (s : Selection) (folder : Path) : List Sighting :=
  match entries v s folder with
  | .error cause => [.failed folder cause]
  | .ok es => es.map (sight v s folder)

end Listing

/-! ## Records -/

namespace Listing

/-- The records of a failed check: a refusal is worth a warning. -/
def errorRecords : FolderError → List Log.Record
  | .permissionDenied path => [⟨.warn, .listing, utf8 "Permission denied: " ++ path.display⟩]
  | _ => []

/-- The records of a sighting in a folder. -/
def records (folder : Path) : Sighting → List Log.Record
  | .unwanted path => [⟨.trace, .listing, utf8 "Prefix mismatch: " ++ path.display⟩]
  | .nonFile path => [⟨.debug, .listing, utf8 "Skipping non-file entry: " ++ path.display⟩]
  | .file _ => []
  | .failed path cause =>
    [⟨.warn, .listing, utf8 "Listing error under " ++ folder.display ++
      utf8 ": IO error for operation on " ++ path.display ++ utf8 ": " ++ cause.text⟩]

end Listing

end TwinFiles
