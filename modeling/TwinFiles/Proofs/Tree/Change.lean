import TwinFiles.Proofs.Tree.Refusal
import TwinFiles.Proofs.Tree.WellFormed

/-!
# Changes keep a tree well-formed

A path that leads to a free name leads to a place for a new item (`isPlace_of_locate`): the walk has
come to a folder, and its last part is a name. So every change keeps a tree well-formed
(`wellFormed_edit`), and every tree that changes lead to from the empty one is well-formed
(`wellFormed_edits`).
-/

namespace TwinFiles

namespace View

/-! ## Free names -/

variable {v : View} {follow : Bool}

theorem noSlash_of_mem_parts {p : Path} {part : Bytes} (h : part ∈ parts p) :
    Ascii.slash ∉ part :=
  Bytes.notMem_of_mem_splitOn h

/-- A walk up to a link leaves parts that were to be walked. -/
theorem subset_of_advance_link {loc folder : Location} {ps left : List Bytes} {target : Path}
    (h : v.advance follow loc ps = .link folder target left) : left ⊆ ps := by
  induction ps generalizing loc with
  | nil => cases h
  | cons part parts ih =>
    rcases v.advance_cons_cases follow loc part parts with
      ⟨l, heq⟩ | ⟨cause, _, heq⟩ | ⟨heq, _⟩ | heq | ⟨target, heq⟩ <;> rw [heq] at h
    · exact List.subset_cons_of_subset _ (ih h)
    · cases h
    · cases h
    · cases h
    · cases h
      exact List.subset_cons_self _ _

/-- A walk that ends at a free name ends at a place for an item. -/
theorem isPlace_of_advance (hwf : v.tree.WellFormed) {loc l : Location} {ps : List Bytes}
    (hslash : ∀ part ∈ ps, Ascii.slash ∉ part)
    (h : v.advance follow loc ps = .arrived (.vacant l)) :
    v.tree.IsPlace l ∧ v.tree.get? l = none := by
  induction ps generalizing loc with
  | nil => cases h
  | cons part parts ih =>
    rw [List.forall_mem_cons] at hslash
    rcases v.advance_cons_cases follow loc part parts with
      ⟨l, heq⟩ | ⟨cause, _, heq⟩ | ⟨heq, hnone, ⟨access, hfolder⟩, hnil, hdot, hdots⟩ | heq |
        ⟨target, heq⟩ <;> rw [heq] at h
    · exact ih hslash.2 h
    · cases h
    · cases h
      exact ⟨hwf.isPlace_concat hfolder ⟨hnil, hslash.1, hdot, hdots⟩, hnone⟩
    · cases h
    · cases h

theorem isPlace_of_walk (hwf : v.tree.WellFormed) {links : Nat} {loc l : Location}
    {ps : List Bytes} (hslash : ∀ part ∈ ps, Ascii.slash ∉ part)
    (h : v.walk follow links loc ps = .ok (.vacant l)) :
    v.tree.IsPlace l ∧ v.tree.get? l = none := by
  induction links using Nat.strongRecOn generalizing loc ps with
  | ind links ih =>
    cases hadvance : v.advance follow loc ps with
    | arrived spot =>
      rw [walk_of_arrived hadvance] at h
      cases h
      exact isPlace_of_advance hwf hslash hadvance
    | refused cause =>
      rw [walk_of_refused hadvance] at h
      cases h
    | link folder target left =>
      cases links with
      | zero =>
        rw [walk_zero_of_link hadvance] at h
        cases h
      | succ n =>
        rw [walk_succ_of_link hadvance] at h
        -- neither the target's parts nor those that are left hold a slash
        refine ih n (Nat.lt_succ_self n) ?_ h
        exact List.forall_mem_append.mpr ⟨fun part hpart => noSlash_of_mem_parts hpart,
          fun part hpart => hslash part (subset_of_advance_link hadvance hpart)⟩

/-- A path that leads to a free name leads to a place for an item. -/
theorem isPlace_of_locate (hwf : v.tree.WellFormed) {p : Path} {l : Location}
    (h : v.locate follow p = .ok (.vacant l)) : v.tree.IsPlace l ∧ v.tree.get? l = none := by
  unfold locate at h
  split at h
  · cases h
  · split at h
    · cases h
    · split at h
      · cases h
      · exact isPlace_of_walk hwf (fun part hpart => noSlash_of_mem_parts hpart) h

/-! ## Changes -/

theorem isPlace_of_spot? (hwf : v.tree.WellFormed) {p : Path} {l : Location}
    (h : Edit.spot? v p = some (.vacant l)) : v.tree.IsPlace l ∧ v.tree.get? l = none := by
  unfold Edit.spot? at h
  split at h
  · next spot hlocate =>
    cases h
    exact isPlace_of_locate hwf hlocate
  · cases h

/-- A new item is put at a free name. -/
theorem wellFormed_create (hwf : v.tree.WellFormed) (p : Path) (item : Item) :
    (Edit.create v p item).WellFormed := by
  unfold Edit.create
  split
  · next loc hspot =>
    obtain ⟨hplace, hnone⟩ := isPlace_of_spot? hwf hspot
    refine hwf.put hplace fun access hfolder => ?_
    rw [hnone] at hfolder
    cases hfolder
  · exact hwf

theorem wellFormed_createFolders (hwf : v.tree.WellFormed) (made : Path) (cs : List Component) :
    (Edit.createFolders v made cs).WellFormed := by
  induction cs generalizing v made with
  | nil => exact hwf
  | cons c rest ih =>
    exact ih (v := { v with tree := Edit.create v _ _ }) (wellFormed_create hwf _ _) _

/-- What is replaced stands somewhere else than below what takes its place. -/
theorem of_mayReplace {t : Tree} {source target : Location}
    (h : Edit.mayReplace t source target = true) :
    ¬ source <+: target ∧ ∃ item, t.get? target = some item := by
  rw [Edit.mayReplace, Bool.and_eq_true, Bool.not_eq_true', ← Bool.not_eq_true,
    List.isPrefixOf_iff_prefix] at h
  obtain ⟨hself, hkinds⟩ := h
  refine ⟨hself, ?_⟩
  cases hitem : t.get? target with
  | some item => exact ⟨item, rfl⟩
  | none =>
    cases hsource : t.get? source with
    | none =>
      rw [hitem, hsource] at hkinds
      cases hkinds
    | some item =>
      rw [hitem, hsource] at hkinds
      cases item <;> cases hkinds

/-- Every change keeps a tree well-formed. -/
theorem wellFormed_edit (hwf : v.tree.WellFormed) (e : Edit) : (v.edit e).tree.WellFormed := by
  show (e.apply v).WellFormed
  cases e with
  | folder p => exact wellFormed_createFolders hwf [] p.components
  | link p target => exact wellFormed_create hwf p (.link target)
  | pipe p => exact wellFormed_create hwf p (.pipe .newFile [])
  | file p content =>
    rw [Edit.apply]
    split
    · next loc hlocate =>
      split
      · next access old hfile =>
        refine hwf.put (hwf.isPlace hfile) fun access hfolder => ?_
        rw [hfile] at hfolder
        cases hfolder
      · exact hwf
    · next loc hlocate =>
      obtain ⟨hplace, hnone⟩ := isPlace_of_locate hwf hlocate
      refine hwf.put hplace fun access hfolder => ?_
      rw [hnone] at hfolder
      cases hfolder
    · exact hwf
  | access p a =>
    rw [Edit.apply]
    split
    · split
      · next item hitem =>
        refine hwf.put (hwf.isPlace hitem) fun access hfolder => ?_
        rw [hitem, Option.some.injEq] at hfolder
        exact ⟨a, by rw [hfolder]; rfl⟩
      · exact hwf
    · exact hwf
  | remove p =>
    rw [Edit.apply]
    split
    · exact hwf.remove _
    · exact hwf
  | rename p target =>
    rw [Edit.apply]
    split
    · next source loc _ _ =>
      split
      · next hreplace =>
        obtain ⟨hself, item, hitem⟩ := of_mayReplace hreplace
        exact hwf.move (hwf.isPlace hitem) hself
      · exact hwf
    · next source loc _ hspot =>
      split
      · exact hwf
      · next hself =>
        rw [List.isPrefixOf_iff_prefix] at hself
        exact hwf.move (isPlace_of_spot? hwf hspot).1 hself
    · exact hwf

/-- Every tree that changes lead to is well-formed. -/
theorem wellFormed_edits (home : Path) (privileged : Bool) (edits : List Edit) :
    (built home privileged edits).tree.WellFormed := by
  have hrun : ∀ v : View, v.tree.WellFormed → (edits.foldl edit v).tree.WellFormed := by
    induction edits with
    | nil => exact fun v hwf => hwf
    | cons e edits ih => exact fun v hwf => ih (v.edit e) (wellFormed_edit hwf e)
  refine hrun _ (wellFormed_edit ?_ (.folder home))
  exact List.forall_mem_nil _

end View

end TwinFiles
