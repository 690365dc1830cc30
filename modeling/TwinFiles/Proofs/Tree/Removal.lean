import TwinFiles.Proofs.Tree.Lookup
import TwinFiles.Proofs.Tree.WellFormed

/-!
# Removing files

In a well-formed tree nothing stands below a file, so taking files away takes away nothing else
(`Tree.get?_without`). A folder is found where it was, since no way to it leads through a file
(`View.resolve_without`), its other files are read as before (`View.Opens.read_without`), and
removing files by their paths takes away just these (`View.Opens.removeAll_join`).
-/

namespace TwinFiles

namespace Tree

/-- A file stands at a location. -/
def IsFile (t : Tree) (loc : Location) : Prop :=
  ∃ access content, t.get? loc = some (.file access content)

/-- The tree without the items at some locations and below them. -/
def without (t : Tree) (gone : List Location) : Tree :=
  t.restrict fun loc => gone.all fun g => !g.isPrefixOf loc

/-! ## Taking files away -/

variable {t : Tree} {gone : List Location}

theorem IsFile.ne_nil {loc : Location} (h : t.IsFile loc) : loc ≠ [] := by
  rintro rfl
  obtain ⟨_, _, hfile⟩ := h
  cases hfile

/-- Nothing stands below a file. -/
theorem WellFormed.eq_of_isPrefix (hwf : t.WellFormed) {file loc : Location} (hfile : t.IsFile file)
    {item : Item} (hitem : (loc, item) ∈ t.items) (hstarts : file <+: loc) : file = loc := by
  refine Decidable.byContradiction fun hne => ?_
  obtain ⟨access, hfolder⟩ := (hwf _ hitem).folders file hstarts hne
  obtain ⟨_, _, hget⟩ := hfile
  rw [hfolder] at hget
  cases hget

/-- An item is kept unless it is one of the files. -/
theorem WellFormed.keeps_iff (hwf : t.WellFormed) (hfiles : ∀ g ∈ gone, t.IsFile g) {loc : Location}
    {item : Item} (hitem : (loc, item) ∈ t.items) :
    (gone.all fun g => !g.isPrefixOf loc) = true ↔ loc ∉ gone := by
  simp only [List.all_eq_true, Bool.not_eq_true', ← Bool.not_eq_true, List.isPrefixOf_iff_prefix]
  constructor
  · intro h hmem
    exact h loc hmem List.prefix_rfl
  · intro h g hg hstarts
    exact h (hwf.eq_of_isPrefix (hfiles g hg) hitem hstarts ▸ hg)

/-- Without some files the tree holds what it held elsewhere. -/
theorem get?_without (hwf : t.WellFormed) (hfiles : ∀ g ∈ gone, t.IsFile g) (loc : Location) :
    (t.without gone).get? loc = if loc ∈ gone then none else t.get? loc := by
  by_cases hloc : loc = []
  · have hroot : [] ∉ gone := fun hmem => (hfiles [] hmem).ne_nil rfl
    rw [hloc, if_neg hroot]
    rfl
  · rw [without, get?_restrict t _ hloc]
    cases hitem : t.get? loc with
    | none => simp
    | some item =>
      have hkeeps := hwf.keeps_iff hfiles ((get?_eq_some_iff hloc item).mp hitem)
      by_cases hgone : loc ∈ gone
      · rw [if_pos hgone, if_neg (mt hkeeps.mp (not_not_intro hgone))]
      · rw [if_neg hgone, if_pos (hkeeps.mpr hgone)]

/-- A folder keeps its entries but for the files that are gone. -/
theorem entries_without (hwf : t.WellFormed) (hfiles : ∀ g ∈ gone, t.IsFile g)
    (folder : Location) :
    (t.without gone).entries folder =
      (t.entries folder).filter fun e => folder ++ [e.1] ∉ gone := by
  show (t.items.filter _).filterMap _ = _
  rw [entries, List.filterMap_filter, List.filter_filterMap]
  apply List.filterMap_congr
  rintro ⟨loc, item⟩ hitem
  have hkeeps := hwf.keeps_iff hfiles hitem
  rcases List.eq_nil_or_concat loc with rfl | ⟨above, name, rfl⟩
  · simp
  · rw [List.concat_eq_append] at hkeeps ⊢
    simp only [List.getLast?_concat, List.dropLast_concat]
    by_cases hfolder : above = folder
    · subst hfolder
      by_cases hgone : above ++ [name] ∈ gone
      · rw [if_neg (mt hkeeps.mp (not_not_intro hgone)), if_pos rfl]
        simp [Option.filter_some, hgone]
      · rw [if_pos (hkeeps.mpr hgone), if_pos rfl]
        simp [Option.filter_some, hgone]
    · simp [hfolder]

/-- One more file is gone once it has been removed. -/
theorem remove_without (t : Tree) (gone : List Location) (loc : Location) :
    (t.without gone).remove loc = t.without (gone ++ [loc]) := by
  simp only [remove, without, restrict, Tree.mk.injEq, List.filter_filter, List.all_append,
    List.all_cons, List.all_nil, Bool.and_true]
  exact List.filter_congr fun entry _ => Bool.and_comm _ _

/-- What is gone is not taken away again. -/
theorem without_append_of_mem {loc : Location} (h : loc ∈ gone) (t : Tree) :
    t.without (gone ++ [loc]) = t.without gone := by
  have hall : ∀ l : Location, ((gone ++ [loc]).all fun g => !g.isPrefixOf l) =
      gone.all fun g => !g.isPrefixOf l := by
    intro l
    rw [List.all_append, List.all_cons, List.all_nil, Bool.and_true]
    cases hgone : gone.all fun g => !g.isPrefixOf l with
    | false => rfl
    | true => exact List.all_eq_true.mp hgone loc h
  rw [without, without, funext hall]

theorem without_nil (t : Tree) : t.without [] = t := by
  simp [without, restrict]

end Tree

namespace View

variable {v : View} {gone : List Location}

/-- The view without some files. -/
def without (v : View) (gone : List Location) : View :=
  { v with tree := v.tree.without gone }

/-! ## Looking up paths without the files -/

section Files

variable (hwf : v.tree.WellFormed) (hfiles : ∀ g ∈ gone, v.tree.IsFile g)
include hwf hfiles

theorem get?_without (loc : Location) :
    (v.without gone).tree.get? loc = if loc ∈ gone then none else v.tree.get? loc :=
  Tree.get?_without hwf hfiles loc

theorem searchRefusal?_without {loc : Location} (hloc : loc ∉ gone) :
    (v.without gone).searchRefusal? loc = v.searchRefusal? loc := by
  rw [searchRefusal?, searchRefusal?, get?_without hwf hfiles, if_neg hloc]
  rfl

omit hwf in
/-- From a file no walk goes on. -/
theorem advance_of_file {loc : Location} (hloc : loc ∈ gone) {ps : List Bytes} (hps : ps ≠ []) :
    ∃ cause, v.advance true loc ps = .refused cause := by
  obtain ⟨access, content, hfile⟩ := hfiles loc hloc
  obtain ⟨part, parts, rfl⟩ := List.exists_cons_of_ne_nil hps
  have hsearch : v.searchRefusal? loc = some .notFolder := by
    rw [searchRefusal?, hfile]
  rw [advance, hfile, hsearch]
  split <;> exact ⟨_, rfl⟩

/-- A walk does not come by the files, unless it ends at one of them or fails. -/
theorem advance_without (loc : Location) (ps : List Bytes) :
    (v.without gone).advance true loc ps = v.advance true loc ps ∨
      (∃ l ∈ gone, v.advance true loc ps = .arrived (.present l)) ∨
      ∃ cause, v.advance true loc ps = .refused cause := by
  induction ps generalizing loc with
  | nil => exact .inl rfl
  | cons part parts ih =>
    by_cases hloc : loc ∈ gone
    · exact .inr (.inr (advance_of_file hfiles hloc (by simp)))
    · rw [advance, advance, get?_without hwf hfiles, if_neg hloc,
        searchRefusal?_without hwf hfiles hloc]
      by_cases hpart : part = []
      · rw [if_pos hpart, if_pos hpart]
        cases v.tree.get? loc with
        | none => exact .inl rfl
        | some item =>
          cases item with
          | folder access => exact ih loc
          | _ => exact .inl rfl
      · rw [if_neg hpart, if_neg hpart]
        cases v.searchRefusal? loc with
        | some cause => exact .inl rfl
        | none =>
          simp only
          split
          · exact ih loc
          · split
            · exact ih loc.dropLast
            · split
              · exact .inl rfl
              · rw [get?_without hwf hfiles]
                by_cases hnext : loc ++ [part] ∈ gone
                · -- the walk ends at the file, or fails behind it
                  refine .inr ?_
                  obtain ⟨access, content, hfile⟩ := hfiles _ hnext
                  rw [hfile]
                  cases parts with
                  | nil => exact .inl ⟨_, hnext, rfl⟩
                  | cons next parts => exact .inr (advance_of_file hfiles hnext (by simp))
                · rw [if_neg hnext]
                  cases v.tree.get? (loc ++ [part]) with
                  | none => exact .inl rfl
                  | some item =>
                    cases item with
                    | link target => exact .inl rfl
                    | _ => exact ih _

/-- Where a walk arrives at something that is kept, it still does. -/
theorem walk_without {links : Nat} {loc l : Location} {ps : List Bytes}
    (h : v.walk true links loc ps = .ok (.present l)) (hl : l ∉ gone) :
    (v.without gone).walk true links loc ps = .ok (.present l) := by
  induction links using Nat.strongRecOn generalizing loc ps with
  | ind links ih =>
    rcases advance_without hwf hfiles loc ps with hsame | ⟨l', hl', harrived⟩ | ⟨cause, hrefused⟩
    · cases hadvance : v.advance true loc ps with
      | arrived spot =>
        rw [hadvance] at hsame
        rw [walk_of_arrived hadvance] at h
        rw [walk_of_arrived hsame, h]
      | refused cause =>
        rw [walk_of_refused hadvance] at h
        cases h
      | link folder target left =>
        rw [hadvance] at hsame
        cases links with
        | zero =>
          rw [walk_zero_of_link hadvance] at h
          cases h
        | succ n =>
          rw [walk_succ_of_link hadvance] at h
          rw [walk_succ_of_link hsame]
          exact ih n (Nat.lt_succ_self n) h
    · rw [walk_of_arrived harrived] at h
      cases h
      exact absurd hl' hl
    · rw [walk_of_refused hrefused] at h
      cases h

/-- A path that leads to something that is kept still leads there. -/
theorem resolve_without {p : Path} {loc : Location} (h : v.resolve true p = .ok loc)
    (hloc : loc ∉ gone) : (v.without gone).resolve true p = .ok loc := by
  obtain ⟨hnul, hne, hlength, hwalk⟩ := walk_of_resolve h
  have hlocate : (v.without gone).locate true p = .ok (.present loc) := by
    rw [locate, if_neg hnul, if_neg (by simpa using hne), if_neg (Nat.not_lt.mpr hlength)]
    exact walk_without hwf hfiles hwalk hloc
  rw [resolve, hlocate]

end Files

/-! ## Entries of a folder -/

/-- A path leads to a folder at a location, and it may be listed. -/
structure Opens (v : View) (folder : Path) (loc : Location) : Prop where
  resolve : v.resolve true folder = .ok loc
  access : ∃ access, v.tree.get? loc = some (.folder access) ∧ v.mayRead access = true

/-- What keeps the system from looking at an entry by its path. -/
def entryRefusal? (v : View) (folder : Path) (loc : Location) (name : Bytes) : Option Cause :=
  match pathRefusal? (folder.join name) with
  | some cause => some cause
  | none =>
    match v.searchRefusal? loc with
    | some cause => some cause
    | none => if maxName < name.length then some .nameTooLong else none

variable {folder : Path} {loc : Location} {name : Bytes}

theorem Opens.list (h : v.Opens folder loc) :
    v.list folder = .ok ((v.tree.entries loc).map fun (name, item) => (name, item.kind)) := by
  obtain ⟨access, hfolder, hread⟩ := h.access
  rw [View.list, h.resolve]
  simp only [hfolder, hread, if_true]

/-- A file is located at its entry, and where there is none, its place is free. -/
theorem Opens.locate_join (h : v.Opens folder loc) (hname : IsName name) {follow : Bool}
    (hlink : follow = true → ∀ target, v.tree.get? (loc ++ [name]) ≠ some (.link target)) :
    v.locate follow (folder.join name) =
      match v.entryRefusal? folder loc name with
      | some cause => .error cause
      | none =>
        match v.tree.get? (loc ++ [name]) with
        | some _ => .ok (.present (loc ++ [name]))
        | none => .ok (.vacant (loc ++ [name])) := by
  rw [View.locate_join h.resolve hname hlink, entryRefusal?, spotOf]
  cases pathRefusal? (folder.join name) with
  | some cause => rfl
  | none =>
    cases v.searchRefusal? loc with
    | some cause => rfl
    | none =>
      simp only
      split <;> rfl

section Read

variable (h : v.Opens folder loc) (hname : IsName name) {access : Access} {content : Bytes}
  (hfile : v.tree.get? (loc ++ [name]) = some (.file access content))
include h hname hfile

/-- The path of a file leads to the file, if the system can look at it. -/
theorem Opens.resolve_join :
    v.resolve true (folder.join name) =
      match v.entryRefusal? folder loc name with
      | some cause => .error cause
      | none => .ok (loc ++ [name]) := by
  have hlink : true = true → ∀ target, v.tree.get? (loc ++ [name]) ≠ some (.link target) := by
    intro _ target hlink
    rw [hfile] at hlink
    cases hlink
  have hlocate := h.locate_join hname hlink
  rw [hfile] at hlocate
  cases hrefusal : v.entryRefusal? folder loc name with
  | some cause =>
    rw [hrefusal] at hlocate
    rw [View.resolve, hlocate]
  | none =>
    rw [hrefusal] at hlocate
    rw [View.resolve, hlocate]

/-- A file is read by its path, if the system can look at it. -/
theorem Opens.read_join :
    v.read (folder.join name) =
      match v.entryRefusal? folder loc name with
      | some cause => .error cause
      | none => if v.mayRead access then .ok content else .error .accessDenied := by
  have hresolve := h.resolve_join hname hfile
  cases hrefusal : v.entryRefusal? folder loc name with
  | some cause =>
    rw [hrefusal] at hresolve
    simp only [read, item, hresolve]
  | none =>
    rw [hrefusal] at hresolve
    simp only [read, item, hresolve, hfile, Item.access]
    rfl

/-- Where reading a file succeeds, the system can look at it, and it gives the content. -/
theorem Opens.of_read_join {given : Bytes} (hread : v.read (folder.join name) = .ok given) :
    v.entryRefusal? folder loc name = none ∧ given = content := by
  rw [h.read_join hname hfile] at hread
  cases hrefusal : v.entryRefusal? folder loc name with
  | some cause =>
    rw [hrefusal] at hread
    cases hread
  | none =>
    rw [hrefusal] at hread
    simp only at hread
    split at hread
    · cases hread
      exact ⟨rfl, rfl⟩
    · cases hread

end Read

section Files

variable (hwf : v.tree.WellFormed) (hfiles : ∀ g ∈ gone, v.tree.IsFile g)
include hwf hfiles

omit hwf in
/-- A folder is none of the files. -/
theorem Opens.notMem (h : v.Opens folder loc) : loc ∉ gone := by
  intro hmem
  obtain ⟨access, hfolder, _⟩ := h.access
  obtain ⟨_, _, hfile⟩ := hfiles loc hmem
  rw [hfolder] at hfile
  cases hfile

theorem Opens.without (h : v.Opens folder loc) : (v.without gone).Opens folder loc := by
  have hloc : loc ∉ gone := h.notMem hfiles
  refine ⟨resolve_without hwf hfiles h.resolve hloc, ?_⟩
  rw [get?_without hwf hfiles, if_neg hloc]
  exact h.access

theorem Opens.entryRefusal?_without (h : v.Opens folder loc) (name : Bytes) :
    (v.without gone).entryRefusal? folder loc name = v.entryRefusal? folder loc name := by
  rw [entryRefusal?, entryRefusal?,
    searchRefusal?_without hwf hfiles (h.notMem hfiles)]

/-- Files that are kept are read as before. -/
theorem Opens.read_without (h : v.Opens folder loc) (hname : IsName name)
    (hfile : v.tree.IsFile (loc ++ [name])) (hkept : loc ++ [name] ∉ gone) :
    (v.without gone).read (folder.join name) = v.read (folder.join name) := by
  obtain ⟨access, content, hget⟩ := hfile
  have hget' : (v.without gone).tree.get? (loc ++ [name]) = some (.file access content) := by
    rw [get?_without hwf hfiles, if_neg hkept, hget]
  rw [(h.without hwf hfiles).read_join hname hget', h.read_join hname hget,
    h.entryRefusal?_without hwf hfiles]
  rfl

end Files

/-! ## Removing files by their paths -/

/-- A name at the end of a path is no slash. -/
theorem trimmed_join (folder : Path) (hname : IsName name) :
    Edit.trimmed (folder.join name) = folder.join name := by
  obtain ⟨front, last, rfl⟩ : ∃ front last, name = front ++ [last] := by
    rcases List.eq_nil_or_concat name with rfl | ⟨front, last, rfl⟩
    · exact absurd rfl hname.ne_nil
    · exact ⟨front, last, by simp⟩
  have hlast : last ≠ Ascii.slash := fun heq => hname.noSlash (by simp [heq])
  obtain ⟨start, hjoin⟩ : ∃ start, folder.join (front ++ [last]) = start ++ [last] := by
    rw [Path.join]
    split
    · exact ⟨folder ++ front, by simp⟩
    · exact ⟨folder ++ Ascii.slash :: front, by simp⟩
  rw [hjoin, Edit.trimmed, List.reverse_append, List.reverse_singleton, List.singleton_append,
    List.dropWhile_cons_of_neg (by simpa using hlast), List.reverse_cons, List.reverse_reverse]

/-- A file that the system can look at by the path of its entry. -/
structure Removable (v : View) (folder : Path) (loc : Location) (name : Bytes) : Prop where
  isName : IsName name
  isFile : v.tree.IsFile (loc ++ [name])
  reached : v.entryRefusal? folder loc name = none

/-- Removing a file takes it away, and nothing if it is gone already. -/
theorem Opens.remove_without (hwf : v.tree.WellFormed) (hfiles : ∀ g ∈ gone, v.tree.IsFile g)
    (h : v.Opens folder loc) (hremovable : v.Removable folder loc name) :
    (v.without gone).edit (.remove (folder.join name)) = v.without (gone ++ [loc ++ [name]]) := by
  have hlocate : (v.without gone).locate false (folder.join name) = _ :=
    (h.without hwf hfiles).locate_join hremovable.isName fun htrue => nomatch htrue
  rw [h.entryRefusal?_without hwf hfiles, hremovable.reached, get?_without hwf hfiles] at hlocate
  rw [edit, Edit.apply, Edit.spot?, trimmed_join folder hremovable.isName, hlocate]
  by_cases hgone : loc ++ [name] ∈ gone
  · rw [if_pos hgone]
    show v.without gone = _
    rw [View.without, View.without, Tree.without_append_of_mem hgone]
  · obtain ⟨access, content, hget⟩ := hremovable.isFile
    rw [if_neg hgone, hget]
    show { v with tree := (v.tree.without gone).remove (loc ++ [name]) } = _
    rw [Tree.remove_without]
    rfl

/-- The view after the removal of paths, one after another. -/
def removeAll (v : View) (paths : List Path) : View :=
  paths.foldl (fun v p => v.edit (.remove p)) v

/-- Removing files by their paths takes away these files and nothing else. -/
theorem Opens.removeAll_join (hwf : v.tree.WellFormed) (h : v.Opens folder loc) {names : List Bytes}
    (hnames : ∀ name ∈ names, v.Removable folder loc name) :
    v.removeAll (names.map folder.join) = v.without (names.map fun name => loc ++ [name]) := by
  -- by induction on the names, from any files that are gone already
  have hall : ∀ gone : List Location, (∀ g ∈ gone, v.tree.IsFile g) →
      (v.without gone).removeAll (names.map folder.join) =
        v.without (gone ++ names.map fun name => loc ++ [name]) := by
    induction names with
    | nil =>
      intro gone _
      rw [List.map_nil, List.map_nil, List.append_nil]
      rfl
    | cons name names ih =>
      intro gone hfiles
      have hname := hnames name List.mem_cons_self
      have hfiles' : ∀ g ∈ gone ++ [loc ++ [name]], v.tree.IsFile g := by
        rw [List.forall_mem_append, List.forall_mem_singleton]
        exact ⟨hfiles, hname.isFile⟩
      have hrest := ih (fun name hmem => hnames name (List.mem_cons_of_mem _ hmem)) _ hfiles'
      rw [List.append_assoc, ← h.remove_without hwf hfiles hname] at hrest
      exact hrest
  have hnone := hall [] (List.forall_mem_nil _)
  rw [View.without, Tree.without_nil] at hnone
  exact hnone

end View

end TwinFiles
