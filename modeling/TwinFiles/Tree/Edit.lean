import TwinFiles.Tree.View

/-!
# Changes to a tree

Changes that are made to a tree from outside: before a scan, or while it runs. A change that is not
possible leaves the tree as it is.
-/

namespace TwinFiles

/-- A change to a tree. -/
inductive Edit where
  /-- Makes a folder, and those on the way to it. -/
  | folder (path : Path)
  /-- Writes a file, through a link if there is one. -/
  | file (path : Path) (content : Bytes)
  | link (path : Path) (target : Path)
  /-- Makes a pipe, into which nothing is written. -/
  | pipe (path : Path)
  /-- Changes the rights of the item that a path leads to. -/
  | access (path : Path) (access : Access)
  /-- Takes away an item and what is below it; a link goes, its target stays. -/
  | remove (path : Path)
  | rename (path target : Path)
  deriving DecidableEq, Repr

namespace Edit

/-- A path without the slashes at its end. -/
def trimmed (p : Path) : Path :=
  (p.reverse.dropWhile (· == Ascii.slash)).reverse

/-- Where a path leads if its last part is taken as it is. -/
def spot? (v : View) (p : Path) : Option Spot :=
  match v.locate false (trimmed p) with
  | .ok spot => some spot
  | .error _ => none

/-- Puts an item at a free name. -/
def create (v : View) (p : Path) (item : Item) : Tree :=
  match spot? v p with
  | some (.vacant loc) => v.tree.put loc item
  | _ => v.tree

/-- Makes the folders on a way of components, each seen from those before it. -/
def createFolders (v : View) (made : Path) : List Component → Tree
  | [] => v.tree
  | c :: rest =>
    let next := made.join c.bytes
    createFolders { v with tree := create v next (.folder .newFolder) } next rest

/-- An item may be moved to a place where another one stands: a folder to that of an empty folder,
anything else to that of anything but a folder. Nothing moves into itself. -/
def mayReplace (t : Tree) (source target : Location) : Bool :=
  !source.isPrefixOf target &&
    match t.get? source, t.get? target with
    | some (.folder _), some (.folder _) => (t.entries target).isEmpty
    | some (.folder _), some _ => false
    | some _, some (.folder _) => false
    | some _, some _ => true
    | _, _ => false

/-- The tree after a change. -/
def apply (v : View) : Edit → Tree
  | folder p => createFolders v [] p.components
  | file p content =>
    match v.locate true p with
    | .ok (.present loc) =>
      match v.tree.get? loc with
      | some (.file a _) => v.tree.put loc (.file a content)
      | _ => v.tree
    | .ok (.vacant loc) => v.tree.put loc (.file .newFile content)
    | .error _ => v.tree
  | link p target => create v p (.link target)
  | pipe p => create v p (.pipe .newFile [])
  | access p a =>
    match v.locate true p with
    | .ok (.present loc) =>
      match v.tree.get? loc with
      | some item => v.tree.put loc (item.withAccess a)
      | none => v.tree
    | _ => v.tree
  | remove p =>
    match spot? v p with
    | some (.present loc) => v.tree.remove loc
    | _ => v.tree
  | rename p target =>
    match spot? v p, spot? v target with
    | some (.present source), some (.present loc) =>
      if mayReplace v.tree source loc then v.tree.move source loc else v.tree
    | some (.present source), some (.vacant loc) =>
      if source.isPrefixOf loc then v.tree else v.tree.move source loc
    | _, _ => v.tree

end Edit

namespace View

/-- The view after a change to its tree. -/
def edit (v : View) (e : Edit) : View :=
  { v with tree := e.apply v }

/-- The view from a folder, given by its absolute path, in a tree that holds nothing else. -/
def fresh (home : Path) (privileged : Bool) : View :=
  edit ⟨.empty, home.names, privileged, none⟩ (.folder home)

/-- The view from a folder, given by its absolute path, in a tree that changes have built up. -/
def built (home : Path) (privileged : Bool) (edits : List Edit) : View :=
  edits.foldl edit (fresh home privileged)

end View

end TwinFiles
