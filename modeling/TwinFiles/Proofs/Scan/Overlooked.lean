import TwinFiles.Proofs.Scan.Alike
import TwinFiles.Proofs.Scan.Opening
import TwinFiles.Proofs.Tree.Agreement

/-!
# What a selection overlooks

Of a folder a selection looks at the entries whose names are wanted. It overlooks the other entries
and all that lies below an entry (`Selection.overlooks`). Where two views differ in nothing else,
and links that are to be followed lead to the same, they show the folder alike
(`folderAlike_of_differUnseen`).
-/

namespace TwinFiles

/-- A location that plays no part in the scan of a folder: an entry whose name is not wanted, or
whatever is below an entry. -/
def Selection.overlooks (s : Selection) (folder loc : Location) : Bool :=
  folder.isPrefixOf loc &&
    match loc.drop folder.length with
    | [] => false
    | [name] => !s.admits name
    | _ => true

variable {s : Selection} {loc : Location}

theorem Selection.overlooks_self (s : Selection) (loc : Location) :
    s.overlooks loc loc = false := by
  simp [overlooks]

theorem Selection.overlooks_concat (s : Selection) (loc : Location) (name : Bytes) :
    s.overlooks loc (loc ++ [name]) = !s.admits name := by
  simp [overlooks]

/-- Two views differ at most in what a selection overlooks of a folder. Links that are to be
followed may lead anywhere, but they lead to the same. -/
structure Listing.DifferUnseen (v v' : View) (s : Selection) (folder : Path) (loc : Location) :
    Prop where
  opens : v.Opens folder loc
  resolve : v'.resolve true folder = .ok loc
  privileged : v'.privileged = v.privileged
  items : (v.tree.items.filter fun entry => !s.overlooks loc entry.1) =
    v'.tree.items.filter fun entry => !s.overlooks loc entry.1
  links : s.followLinks = true → ∀ entry ∈ v.tree.entries loc, s.wanted <+: entry.1 →
    entry.2.kind = .link → Listing.LeadsAlike v v' (folder.join entry.1)

/-! ## Trees without what is overlooked -/

namespace Tree

variable {t t' : Tree}

/-- What is not overlooked is the same item in both trees. -/
theorem get?_of_not_overlooked
    (h : (t.items.filter fun entry => !s.overlooks loc entry.1) =
      t'.items.filter fun entry => !s.overlooks loc entry.1)
    {l : Location} (hl : s.overlooks loc l = false) : t'.get? l = t.get? l := by
  by_cases hroot : l = []
  · subst hroot
    rfl
  · apply Option.ext
    intro item
    have hmem (u : Tree) : (l, item) ∈ u.items ↔
        (l, item) ∈ u.items.filter fun entry => !s.overlooks loc entry.1 := by
      simp [hl]
    rw [get?_eq_some_iff hroot, get?_eq_some_iff hroot, hmem t, hmem t', h]

/-- The wanted entries of a folder are among the items that are not overlooked. -/
theorem filter_entries (t : Tree) (s : Selection) (loc : Location) :
    (t.entries loc).filter (fun entry => s.admits entry.1) =
      (t.items.filter fun entry => !s.overlooks loc entry.1).filterMap fun (l, item) =>
        (match l.getLast? with
          | some name => if l.dropLast = loc then some (name, item) else none
          | none => none).filter fun entry => s.admits entry.1 := by
  rw [entries, List.filter_filterMap, List.filterMap_filter]
  apply List.filterMap_congr
  rintro ⟨l, item⟩ _
  cases hover : s.overlooks loc l with
  | false => rfl
  | true =>
    simp only [Bool.not_true, Bool.false_eq_true, if_false]
    -- an entry whose name is wanted is not overlooked
    rw [Option.filter_eq_none_iff]
    intro entry hentry hwanted
    obtain ⟨rfl, _⟩ := (entry_iff loc l item entry).mp hentry
    rw [s.overlooks_concat, hwanted] at hover
    cases hover

end Tree

/-! ## The folder in both views -/

namespace Listing

variable {v v' : View} {folder : Path}

namespace DifferUnseen

variable (h : DifferUnseen v v' s folder loc)
include h

theorem opens' : v'.Opens folder loc := by
  obtain ⟨access, hfolder, hread⟩ := h.opens.access
  refine ⟨h.resolve, access, ?_, (View.mayRead_congr h.privileged access).trans hread⟩
  rw [Tree.get?_of_not_overlooked h.items (s.overlooks_self loc), hfolder]

theorem entryRefusal? (name : Bytes) :
    v'.entryRefusal? folder loc name = v.entryRefusal? folder loc name := by
  rw [View.entryRefusal?, View.entryRefusal?, View.searchRefusal?_congr h.privileged
    (Tree.get?_of_not_overlooked h.items (s.overlooks_self loc))]

/-- A wanted file reads alike. -/
theorem read_file {name : Bytes} (hname : IsName name) (hwanted : s.wanted <+: name)
    {access : Access} {content : Bytes}
    (hfile : v.tree.get? (loc ++ [name]) = some (.file access content)) :
    v.read (folder.join name) = v'.read (folder.join name) := by
  have hseen : s.overlooks loc (loc ++ [name]) = false := by
    rw [s.overlooks_concat, Selection.admits_iff.mpr hwanted]
    rfl
  have hfile' : v'.tree.get? (loc ++ [name]) = some (.file access content) :=
    (Tree.get?_of_not_overlooked h.items hseen).trans hfile
  rw [h.opens.read_join hname hfile, h.opens'.read_join hname hfile', h.entryRefusal?,
    View.mayRead_congr h.privileged]

theorem wantedOf_eq :
    s.wantedOf ((v.tree.entries loc).map fun (name, item) => (name, item.kind)) =
      s.wantedOf ((v'.tree.entries loc).map fun (name, item) => (name, item.kind)) := by
  have hentries : (v.tree.entries loc).filter (fun entry => s.admits entry.1) =
      (v'.tree.entries loc).filter fun entry => s.admits entry.1 := by
    rw [Tree.filter_entries, Tree.filter_entries, h.items]
  have hkinds (entries : List (Bytes × Item)) :
      s.wantedOf (entries.map fun (name, item) => (name, item.kind)) =
        (entries.filter fun entry => s.admits entry.1).map fun (name, item) => (name, item.kind) :=
    List.filter_map
  rw [hkinds, hkinds, hentries]

end DifferUnseen

/-- Views that differ unseen show the folder alike. -/
theorem folderAlike_of_differUnseen (hwf : v.tree.WellFormed)
    (h : DifferUnseen v v' s folder loc) : FolderAlike (· = ·) v v' s folder where
  listings := ⟨_, _, h.opens.list, h.opens'.list, h.wantedOf_eq⟩
  entries := by
    intro listing hlisting e he hwanted
    obtain ⟨item, hitem, hkind⟩ := item_of_mem_list h.opens hlisting he
    have hplace := hwf _ hitem
    constructor
    · intro hfile
      rw [hfile] at hkind
      cases item with
      | file access content =>
        have hget : v.tree.get? (loc ++ [e.1]) = some (.file access content) :=
          (Tree.get?_eq_some_iff (by simp) _).mpr hitem
        exact h.read_file (hplace.names e.1 (by simp)) hwanted hget
      | _ => cases hkind
    · intro hfollow hlink
      exact h.links hfollow (e.1, item) ((v.tree.mem_entries loc e.1 item).mpr hitem) hwanted
        (hkind.trans hlink)

end Listing

end TwinFiles
