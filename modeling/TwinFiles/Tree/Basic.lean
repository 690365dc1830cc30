import TwinFiles.Path

/-!
# File trees

A tree assigns items to locations, a location being the names that lead from the root to it. The
order in which items were put there is the order in which a folder lists its entries. No location
holds two items, so the names in a folder are different. Which locations are names of one file, a
tree does not tell.
-/

namespace TwinFiles

/-- The names that lead from the root to an item. -/
abbrev Location := List Bytes

/-- What everybody may do with an item: read or list it, and look for entries in it. -/
structure Access where
  read : Bool
  search : Bool
  deriving DecidableEq, Repr

namespace Access

/-- What a new file grants. -/
def newFile : Access := ⟨true, false⟩

/-- What a new folder grants. -/
def newFolder : Access := ⟨true, true⟩

end Access

/-- What stands at a location. -/
inductive Item where
  | folder (access : Access)
  | file (access : Access) (content : Bytes)
  | link (target : Path)
  /-- A pipe, and what its writers put into it before they close it. -/
  | pipe (access : Access) (written : Bytes)
  deriving DecidableEq, Repr

/-- The kinds of items. -/
inductive Kind where
  | folder
  | file
  | link
  | pipe
  deriving DecidableEq, Repr

namespace Item

def kind : Item → Kind
  | folder _ => .folder
  | file _ _ => .file
  | link _ => .link
  | pipe _ _ => .pipe

/-- What everybody may do; nobody is kept from a link itself. -/
def access : Item → Access
  | folder a => a
  | file a _ => a
  | link _ => ⟨true, true⟩
  | pipe a _ => a

/-- The item with other rights; a link has none of its own. -/
def withAccess (a : Access) : Item → Item
  | folder _ => folder a
  | file _ content => file a content
  | link target => link target
  | pipe _ written => pipe a written

end Item

/-- Items by location, in the order of their creation. -/
structure Tree where
  items : List (Location × Item)
  nodup : (items.map Prod.fst).Nodup

namespace Tree

/-- The tree that holds the root folder alone. -/
def empty : Tree :=
  ⟨[], List.nodup_nil⟩

/-- The item at a location. The root is a folder. -/
def get? (t : Tree) : Location → Option Item
  | [] => some (.folder .newFolder)
  | loc => t.items.lookup loc

/-- The names and items that stand directly in a folder, in listing order. -/
def entries (t : Tree) (folder : Location) : List (Bytes × Item) :=
  t.items.filterMap fun (loc, item) =>
    match loc.getLast? with
    | some name => if loc.dropLast = folder then some (name, item) else none
    | none => none

theorem nodup_append_singleton {t : List (Location × Item)} (h : (t.map Prod.fst).Nodup)
    {loc : Location} (hloc : loc ∉ t.map Prod.fst) (item : Item) :
    ((t ++ [(loc, item)]).map Prod.fst).Nodup := by
  rw [List.map_append, List.nodup_append]
  refine ⟨h, by simp, ?_⟩
  intro a ha b hb
  simp only [List.map_cons, List.map_nil, List.mem_singleton] at hb
  subst hb
  exact fun hab => hloc (hab ▸ ha)

/-- Puts an item at a location, in the place of the one that is there. -/
def put (t : Tree) (loc : Location) (item : Item) : Tree :=
  if h : loc ∈ t.items.map Prod.fst then
    { items := t.items.map fun entry => if entry.1 = loc then (loc, item) else entry
      nodup := by
        have : (t.items.map fun entry => if entry.1 = loc then (loc, item) else entry).map Prod.fst
            = t.items.map Prod.fst := by
          rw [List.map_map]
          apply List.map_congr_left
          intro entry _
          simp only [Function.comp_apply]
          split
          · next he => exact he.symm
          · rfl
        rw [this]
        exact t.nodup }
  else
    ⟨t.items ++ [(loc, item)], nodup_append_singleton t.nodup h item⟩

/-- The tree without the items that fail a test. -/
def restrict (t : Tree) (keep : Location → Bool) : Tree :=
  ⟨t.items.filter fun entry => keep entry.1,
    List.Nodup.sublist (List.Sublist.map Prod.fst List.filter_sublist) t.nodup⟩

/-- Takes away an item and everything below it. -/
def remove (t : Tree) (loc : Location) : Tree :=
  t.restrict fun l => !loc.isPrefixOf l

/-- Moves an item and everything below it to another location, in the place of what is there. -/
def move (t : Tree) (source target : Location) : Tree :=
  let moved := t.items.filter fun entry => source.isPrefixOf entry.1
  moved.foldl (fun t entry => t.put (target ++ entry.1.drop source.length) entry.2)
    ((t.remove source).remove target)

end Tree

end TwinFiles
