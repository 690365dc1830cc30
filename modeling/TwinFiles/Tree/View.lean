import TwinFiles.Cause
import TwinFiles.Tree.Basic

/-!
# Looking up paths

A `View` is a tree as a process sees it: from the folder it works in, and either bound by access
rights or not. Resolving a path walks its parts one by one from the working folder or the root and
puts the parts of a link's target in front of those that are left. It ends at a location, which may
be vacant if only the last part is missing, or fails with the system's error.
-/

namespace TwinFiles

/-- A tree as a process sees it. -/
structure View where
  tree : Tree
  /-- The folder that relative paths start from. -/
  home : Location
  /-- Access rights do not bind the process. -/
  privileged : Bool
  /-- The home folder of the account that the process runs under, if it has one. -/
  account : Option Path

/-- Where a path leads: to an item, or to a free name in a folder. -/
inductive Spot where
  | present (loc : Location)
  | vacant (loc : Location)
  deriving DecidableEq, Repr

/-- How far a walk along parts of a path gets without following a link. -/
inductive Progress where
  | arrived (spot : Spot)
  | refused (cause : Cause)
  /-- A link in the folder `at` has to be followed, and these parts are left after it. -/
  | link (folder : Location) (target : Path) (left : List Bytes)

namespace View

/-- The longest name and the longest path that the system takes. -/
def maxName : Nat := 255
def maxPath : Nat := 4095

/-- How many links one resolution follows. -/
def maxLinks : Nat := 40

/-- The path of a location from the root. -/
def pathOf (loc : Location) : Path :=
  if loc.isEmpty then [Ascii.slash] else loc.flatMap (Ascii.slash :: ·)

/-- The path of the working folder. -/
def homePath (v : View) : Path :=
  pathOf v.home

/-- The folder may be searched for entries. -/
def maySearch (v : View) (a : Access) : Bool :=
  v.privileged || a.search

/-- The item may be read or listed. -/
def mayRead (v : View) (a : Access) : Bool :=
  v.privileged || a.read

/-- What stands in the way of searching for entries at a location. -/
def searchRefusal? (v : View) (loc : Location) : Option Cause :=
  match v.tree.get? loc with
  | some (.folder a) => if v.maySearch a then none else some .accessDenied
  | some _ => some .notFolder
  | none => some .noEntry

/-- Walks along parts up to the first link that has to be followed: one before the last part, or
the last part itself if `follow` holds. An empty part asks for a folder and nothing else, as a
trailing slash does. -/
def advance (v : View) (follow : Bool) : Location → List Bytes → Progress
  | loc, [] => .arrived (.present loc)
  | loc, part :: parts =>
    if part = [] then
      -- no search: `x/` needs a folder at `x`, but no right to look into it
      match v.tree.get? loc with
      | some (.folder _) => v.advance follow loc parts
      | some _ => .refused .notFolder
      | none => .refused .noEntry
    else
      match v.searchRefusal? loc with
      | some cause => .refused cause
      | none =>
        if part = [Ascii.dot] then v.advance follow loc parts
        else if part = [Ascii.dot, Ascii.dot] then v.advance follow loc.dropLast parts
        else if maxName < part.length then .refused .nameTooLong
        else
          match v.tree.get? (loc ++ [part]) with
          | none =>
            if parts.isEmpty then .arrived (.vacant (loc ++ [part])) else .refused .noEntry
          | some (.link target) =>
            if parts.isEmpty && !follow then .arrived (.present (loc ++ [part]))
            else .link loc target parts
          | some _ => v.advance follow (loc ++ [part]) parts

/-- The parts of a path between slashes. -/
def parts (p : Path) : List Bytes :=
  Bytes.splitOn Ascii.slash p

/-- Where a path starts that is met in a folder. -/
def origin (folder : Location) (p : Path) : Location :=
  if p.isAbsolute then [] else folder

/-- Walks along parts and follows links, `links` of them at most. -/
def walk (v : View) (follow : Bool) : Nat → Location → List Bytes → Except Cause Spot
  | links, loc, ps =>
    match v.advance follow loc ps, links with
    | .arrived spot, _ => .ok spot
    | .refused cause, _ => .error cause
    | .link _ _ _, 0 => .error .tooManyLinks
    | .link folder target left, n + 1 =>
      -- a relative target starts in the folder of the link
      v.walk follow n (origin folder target) (parts target ++ left)

/-- Where a path leads. -/
def locate (v : View) (follow : Bool) (p : Path) : Except Cause Spot :=
  if Ascii.nul ∈ p then .error .nulInName
  else if p.isEmpty then .error .noEntry
  else if maxPath < p.length then .error .nameTooLong
  else v.walk follow maxLinks (origin v.home p) (parts p)

/-- The location of the item that a path leads to. -/
def resolve (v : View) (follow : Bool) (p : Path) : Except Cause Location :=
  match v.locate follow p with
  | .ok (.present loc) => .ok loc
  | .ok (.vacant _) => .error .noEntry
  | .error cause => .error cause

/-- The item that a path leads to. -/
def item (v : View) (follow : Bool) (p : Path) : Except Cause Item :=
  match v.resolve follow p with
  | .ok loc =>
    match v.tree.get? loc with
    | some item => .ok item
    | none => .error .noEntry
  | .error cause => .error cause

/-- The path leads to a file. -/
def isFile (v : View) (p : Path) : Bool :=
  match v.item true p with
  | .ok (.file _ _) => true
  | _ => false

/-- The names and kinds of the entries of the folder that a path leads to, once it is open for
listing. -/
def list (v : View) (p : Path) : Except Cause (List (Bytes × Kind)) :=
  match v.resolve true p with
  | .error cause => .error cause
  | .ok loc =>
    match v.tree.get? loc with
    | some (.folder a) =>
      if v.mayRead a then
        .ok ((v.tree.entries loc).map fun (name, item) => (name, item.kind))
      else .error .accessDenied
    | some _ => .error .notFolder
    | none => .error .noEntry

/-- The content that a path leads to. A pipe gives what is written to it; the reader of a pipe that
nobody opens for writing waits for ever, and of that nothing is said here. -/
def read (v : View) (p : Path) : Except Cause Bytes :=
  match v.item true p with
  | .error cause => .error cause
  | .ok item =>
    if v.mayRead item.access then
      match item with
      | .file _ content => .ok content
      | .pipe _ written => .ok written
      | .folder _ => .error .isFolder
      -- no path leads to a link, since all of them are followed
      | .link _ => .ok []
    else .error .accessDenied

end View

end TwinFiles
