import Mathlib.Data.List.Infix
import Mathlib.Data.List.Nodup
import TwinFiles.Proofs.Tree.Entry
import TwinFiles.Tree.Edit

/-!
# Trees that a file system can hold

A `Tree` may hold any locations; in one that a file system can hold whatever stands anywhere stands
in a folder (`Tree.WellFormed`). It stays well-formed when an item is put in its place, when an item
goes with all that is below it (`WellFormed.put`, `WellFormed.remove`), and when an item moves to a
place that is not below its own (`WellFormed.move`).
-/

namespace TwinFiles

namespace Tree

/-- A place for an item: its location is made of names, and what stands above it are folders. -/
structure IsPlace (t : Tree) (loc : Location) : Prop where
  names : ∀ name ∈ loc, IsName name
  folders : ∀ l, l <+: loc → l ≠ loc → ∃ access, t.get? l = some (.folder access)

/-- A tree that a file system can hold: all items stand in their places. -/
def WellFormed (t : Tree) : Prop :=
  ∀ entry ∈ t.items, t.IsPlace entry.1

theorem isPlace_iff (t : Tree) (loc : Location) :
    t.IsPlace loc ↔ (∀ name ∈ loc, IsName name) ∧
      ∀ l ∈ loc.inits, l ≠ loc → (t.get? l).map Item.kind = some .folder := by
  have hfolder (found : Option Item) :
      found.map Item.kind = some .folder ↔ ∃ access, found = some (.folder access) := by
    cases found with
    | none => simp
    | some item => cases item <;> simp [Item.kind]
  simp only [hfolder, List.mem_inits]
  exact ⟨fun h => ⟨h.names, h.folders⟩, fun h => ⟨h.1, h.2⟩⟩

instance (t : Tree) (loc : Location) : Decidable (t.IsPlace loc) :=
  decidable_of_iff' _ (t.isPlace_iff loc)

instance (t : Tree) : Decidable t.WellFormed :=
  List.decidableBAll (fun entry : Location × Item => t.IsPlace entry.1) t.items

/-- No item stands below a file. -/
example : ¬ Tree.WellFormed
    { items := [([utf8 "f"], .file .newFile []), ([utf8 "f", utf8 "g"], .file .newFile [])]
      nodup := by decide } := by
  decide +kernel

/-! ## Items and locations -/

variable {t : Tree} {loc l : Location} {item : Item}

/-- Below the root, what stands at a location is what the items say. -/
theorem get?_eq_some_iff (hloc : loc ≠ []) (item : Item) :
    t.get? loc = some item ↔ (loc, item) ∈ t.items := by
  have hget : t.get? loc = t.items.lookup loc := by
    cases loc with
    | nil => exact absurd rfl hloc
    | cons name loc => rfl
  rw [hget, List.lookup_eq_some_iff]
  constructor
  · rintro ⟨before, after, heq, _⟩
    rw [heq]
    exact List.mem_append_right _ List.mem_cons_self
  · intro hmem
    obtain ⟨before, after, heq⟩ := List.append_of_mem hmem
    refine ⟨before, after, heq, ?_⟩
    -- an item in front at the same location would be a second one there
    intro entry hentry
    have hnodup := t.nodup
    rw [heq, List.map_append, List.nodup_append] at hnodup
    have hne : entry.1 ≠ loc :=
      hnodup.2.2 entry.1 (List.mem_map_of_mem hentry) loc List.mem_cons_self
    simpa using hne.symm

theorem get?_restrict (t : Tree) (keep : Location → Bool) (hloc : loc ≠ []) :
    (t.restrict keep).get? loc = if keep loc then t.get? loc else none := by
  apply Option.ext
  intro item
  rw [get?_eq_some_iff hloc]
  show (loc, item) ∈ t.items.filter (fun entry => keep entry.1) ↔ _
  rw [List.mem_filter]
  split
  · next hkeep =>
    rw [get?_eq_some_iff hloc]
    exact and_iff_left hkeep
  · next hkeep => exact iff_of_false (fun h => hkeep h.2) (fun h => nomatch h)

theorem mem_remove (t : Tree) (loc : Location) (entry : Location × Item) :
    entry ∈ (t.remove loc).items ↔ entry ∈ t.items ∧ ¬ loc <+: entry.1 := by
  show entry ∈ t.items.filter _ ↔ _
  rw [List.mem_filter, Bool.not_eq_true', ← Bool.not_eq_true, List.isPrefixOf_iff_prefix]

theorem mem_put (t : Tree) (loc : Location) (item : Item) (entry : Location × Item) :
    entry ∈ (t.put loc item).items ↔
      entry = (loc, item) ∨ (entry.1 ≠ loc ∧ entry ∈ t.items) := by
  unfold put
  split
  · next h =>
    rw [List.mem_map]
    constructor
    · rintro ⟨e, he, rfl⟩
      by_cases heq : e.1 = loc
      · exact .inl (if_pos heq)
      · rw [if_neg heq]
        exact .inr ⟨heq, he⟩
    · rintro (rfl | ⟨hne, hmem⟩)
      · obtain ⟨e, he, heq⟩ := List.mem_map.mp h
        exact ⟨e, he, if_pos heq⟩
      · exact ⟨entry, hmem, if_neg hne⟩
  · next h =>
    rw [List.mem_append, List.mem_singleton, or_comm]
    refine or_congr_right ⟨fun hmem => ⟨?_, hmem⟩, fun hmem => hmem.2⟩
    rintro rfl
    exact h (List.mem_map_of_mem hmem)

theorem get?_put_self (hloc : loc ≠ []) : (t.put loc item).get? loc = some item := by
  rw [get?_eq_some_iff hloc, mem_put]
  exact .inl rfl

theorem get?_put_of_ne (hl : l ≠ loc) : (t.put loc item).get? l = t.get? l := by
  by_cases hroot : l = []
  · rw [hroot]
    rfl
  · apply Option.ext
    intro found
    rw [get?_eq_some_iff hroot, get?_eq_some_iff hroot, mem_put]
    simp [hl]

/-! ## Places -/

/-- What is found stands in its place; the root does, too. -/
theorem WellFormed.isPlace (h : t.WellFormed) (hitem : t.get? loc = some item) : t.IsPlace loc := by
  by_cases hloc : loc = []
  · rw [hloc]
    exact ⟨List.forall_mem_nil _, fun l hl hne => absurd (List.prefix_nil.mp hl) hne⟩
  · exact h _ ((get?_eq_some_iff hloc item).mp hitem)

/-- Names in a folder are places. -/
theorem WellFormed.isPlace_concat (h : t.WellFormed) {access : Access}
    (hfolder : t.get? loc = some (.folder access)) {name : Bytes} (hname : IsName name) :
    t.IsPlace (loc ++ [name]) := by
  have hloc := h.isPlace hfolder
  refine ⟨List.forall_mem_append.mpr ⟨hloc.names, List.forall_mem_singleton.mpr hname⟩, ?_⟩
  intro l hl hne
  rcases List.prefix_concat_iff.mp hl with heq | hl
  · exact absurd heq hne
  · by_cases heq : l = loc
    · exact ⟨access, heq ▸ hfolder⟩
    · exact hloc.folders l hl heq

/-! ## Trees that stay well-formed -/

/-- Items are kept together with the folders above them. -/
theorem WellFormed.restrict (h : t.WellFormed) {keep : Location → Bool}
    (hkeep : ∀ loc l, l <+: loc → keep loc = true → keep l = true) :
    (t.restrict keep).WellFormed := by
  intro entry hentry
  obtain ⟨hmem, hkept⟩ := List.mem_filter.mp hentry
  refine ⟨(h entry hmem).names, fun l hl hne => ?_⟩
  by_cases hroot : l = []
  · rw [hroot]
    exact ⟨_, rfl⟩
  · rw [get?_restrict t keep hroot, if_pos (hkeep _ l hl hkept)]
    exact (h entry hmem).folders l hl hne

theorem WellFormed.remove (h : t.WellFormed) (loc : Location) : (t.remove loc).WellFormed := by
  refine h.restrict fun l' l hl hkept => ?_
  rw [Bool.not_eq_true', ← Bool.not_eq_true, List.isPrefixOf_iff_prefix] at hkept ⊢
  exact fun hloc => hkept (hloc.trans hl)

/-- An item may be put in its place if a folder stays a folder. -/
theorem WellFormed.put (h : t.WellFormed) (hplace : t.IsPlace loc)
    (hkind : ∀ access, t.get? loc = some (.folder access) → ∃ access', item = .folder access') :
    (t.put loc item).WellFormed := by
  -- no folder is lost
  have hfolder : ∀ l, (∃ access, t.get? l = some (.folder access)) →
      ∃ access, (t.put loc item).get? l = some (.folder access) := by
    rintro l ⟨access, hl⟩
    by_cases heq : l = loc
    · by_cases hroot : l = []
      · rw [hroot]
        exact ⟨_, rfl⟩
      · obtain ⟨access', rfl⟩ := hkind access (heq ▸ hl)
        rw [heq] at hroot ⊢
        exact ⟨access', get?_put_self hroot⟩
    · rw [get?_put_of_ne heq]
      exact ⟨access, hl⟩
  intro entry hentry
  rcases (mem_put t loc item entry).mp hentry with rfl | ⟨_, hmem⟩
  · exact ⟨hplace.names, fun l hl hne => hfolder l (hplace.folders l hl hne)⟩
  · exact ⟨(h entry hmem).names, fun l hl hne => hfolder l ((h entry hmem).folders l hl hne)⟩

/-- Items that are put at different locations one after another. -/
theorem mem_foldl_put (place : Location → Location) {moved : List (Location × Item)}
    (hnodup : (moved.map fun entry => place entry.1).Nodup) (t : Tree) (entry : Location × Item) :
    entry ∈ (moved.foldl (fun t entry => t.put (place entry.1) entry.2) t).items ↔
      (∃ e ∈ moved, entry = (place e.1, e.2)) ∨
        (entry ∈ t.items ∧ ∀ e ∈ moved, entry.1 ≠ place e.1) := by
  induction moved generalizing t with
  | nil => simp
  | cons first moved ih =>
    rw [List.map_cons, List.nodup_cons, List.mem_map] at hnodup
    have hfirst : ∀ e ∈ moved, place first.1 ≠ place e.1 :=
      fun e he heq => hnodup.1 ⟨e, he, heq.symm⟩
    rw [List.foldl_cons, ih hnodup.2, mem_put]
    have hexists : (∃ e ∈ first :: moved, entry = (place e.1, e.2)) ↔
        entry = (place first.1, first.2) ∨ ∃ e ∈ moved, entry = (place e.1, e.2) := by
      simp
    rw [hexists, List.forall_mem_cons]
    constructor
    · rintro (hmoved | ⟨heq | ⟨hne, hmem⟩, hothers⟩)
      · exact .inl (.inr hmoved)
      · exact .inl (.inl heq)
      · exact .inr ⟨hmem, hne, hothers⟩
    · rintro ((heq | hmoved) | ⟨hmem, hne, hothers⟩)
      · exact .inr ⟨.inl heq, heq ▸ hfirst⟩
      · exact .inl hmoved
      · exact .inr ⟨.inr ⟨hne, hmem⟩, hothers⟩

/-- Where a move takes a location at its source or below it. -/
def movedTo (source target loc : Location) : Location :=
  target ++ loc.drop source.length

theorem movedTo_append (source target rest : Location) :
    movedTo source target (source ++ rest) = target ++ rest := by
  rw [movedTo, List.drop_left]

theorem nodup_movedTo (t : Tree) (source target : Location) :
    ((t.items.filter fun entry => source.isPrefixOf entry.1).map
      fun entry => movedTo source target entry.1).Nodup := by
  have hlocations : ((t.items.filter fun entry => source.isPrefixOf entry.1).map Prod.fst).Nodup :=
    t.nodup.sublist (List.filter_sublist.map _)
  have hbelow : ∀ loc ∈ (t.items.filter fun entry => source.isPrefixOf entry.1).map Prod.fst,
      ∃ rest, source ++ rest = loc := by
    rw [List.forall_mem_map]
    intro entry hentry
    exact List.isPrefixOf_iff_prefix.mp (List.mem_filter.mp hentry).2
  have hmap := hlocations.map_on (f := movedTo source target) <| by
    intro a ha b hb heq
    obtain ⟨rest, rfl⟩ := hbelow a ha
    obtain ⟨rest', rfl⟩ := hbelow b hb
    rw [movedTo_append, movedTo_append] at heq
    rw [List.append_cancel_left heq]
  rwa [List.map_map] at hmap

/-- What a move leads to: what was at the source and below it is at the target, and what was at the
target and below it is gone. -/
theorem mem_move (t : Tree) (source target : Location) (entry : Location × Item) :
    entry ∈ (t.move source target).items ↔
      (∃ rest, entry.1 = target ++ rest ∧ (source ++ rest, entry.2) ∈ t.items) ∨
        (entry ∈ t.items ∧ ¬ source <+: entry.1 ∧ ¬ target <+: entry.1) := by
  show entry ∈ (List.foldl (fun (t : Tree) (e : Location × Item) =>
    t.put (movedTo source target e.1) e.2) _ _).items ↔ _
  rw [mem_foldl_put _ (nodup_movedTo t source target)]
  simp only [mem_remove, and_assoc]
  constructor
  · rintro (⟨e, he, rfl⟩ | ⟨hmem, hsource, htarget, _⟩)
    · obtain ⟨hmem, hsource⟩ := List.mem_filter.mp he
      obtain ⟨rest, hrest⟩ := List.isPrefixOf_iff_prefix.mp hsource
      refine .inl ⟨rest, by rw [← hrest, movedTo_append], ?_⟩
      rw [hrest]
      exact hmem
    · exact .inr ⟨hmem, hsource, htarget⟩
  · rintro (⟨rest, hloc, hmem⟩ | ⟨hmem, hsource, htarget⟩)
    · refine .inl ⟨(source ++ rest, entry.2), List.mem_filter.mpr ⟨hmem, ?_⟩, ?_⟩
      · exact List.isPrefixOf_iff_prefix.mpr (List.prefix_append source rest)
      · rw [movedTo_append, ← hloc]
    · refine .inr ⟨hmem, hsource, htarget, fun e _ heq => htarget ?_⟩
      rw [heq]
      exact List.prefix_append target _

/-- What is neither below the source nor below the target stays. -/
theorem get?_move_of_kept (t : Tree) {source target : Location} (hsource : ¬ source <+: l)
    (htarget : ¬ target <+: l) : (t.move source target).get? l = t.get? l := by
  by_cases hroot : l = []
  · rw [hroot]
    rfl
  · apply Option.ext
    intro item
    rw [get?_eq_some_iff hroot, get?_eq_some_iff hroot, mem_move]
    constructor
    · rintro (⟨rest, rfl, _⟩ | hmem)
      · exact absurd (List.prefix_append target rest) htarget
      · exact hmem.1
    · exact fun hmem => .inr ⟨hmem, hsource, htarget⟩

/-- What was below the source is below the target. -/
theorem get?_move_append (t : Tree) {source target rest : Location} (hsource : source ++ rest ≠ [])
    (htarget : target ++ rest ≠ []) :
    (t.move source target).get? (target ++ rest) = t.get? (source ++ rest) := by
  apply Option.ext
  intro item
  rw [get?_eq_some_iff htarget, get?_eq_some_iff hsource, mem_move]
  constructor
  · rintro (⟨rest', heq, hmem⟩ | ⟨_, _, hnot⟩)
    · rw [List.append_cancel_left heq]
      exact hmem
    · exact absurd (List.prefix_append target rest) hnot
  · exact fun hmem => .inl ⟨rest, rfl, hmem⟩

/-- An item may be moved to a place that is not below its own. -/
theorem WellFormed.move (h : t.WellFormed) {source target : Location} (hplace : t.IsPlace target)
    (hself : ¬ source <+: target) : (t.move source target).WellFormed := by
  intro entry hentry
  rcases (mem_move t source target entry).mp hentry with
    ⟨rest, hloc, hmem⟩ | ⟨hmem, hsource, htarget⟩
  · have hitem := h _ hmem
    rw [hloc]
    refine ⟨List.forall_mem_append.mpr
      ⟨hplace.names, (List.forall_mem_append.mp hitem.names).2⟩, ?_⟩
    intro l hl hne
    by_cases hbelow : target <+: l
    · -- a folder that was moved as well, unless it is the root
      obtain ⟨rest', rfl⟩ := hbelow
      by_cases hroot : target ++ rest' = []
      · rw [hroot]
        exact ⟨_, rfl⟩
      · have hsource : source ++ rest' ≠ [] := fun heq =>
          hself ((List.append_eq_nil_iff.mp heq).1 ▸ List.nil_prefix)
        rw [get?_move_append t hsource hroot]
        refine hitem.folders (source ++ rest') ?_ fun heq => hne ?_
        · exact (List.prefix_append_right_inj source).mpr
            ((List.prefix_append_right_inj target).mp hl)
        · rw [List.append_cancel_left heq]
    · -- a folder above the target
      have habove : l <+: target :=
        (List.prefix_or_prefix_of_prefix hl (List.prefix_append target rest)).resolve_right hbelow
      rw [get?_move_of_kept t (fun hsource => hself (hsource.trans habove)) hbelow]
      exact hplace.folders l habove fun heq => hbelow (heq ▸ List.prefix_rfl)
  · refine ⟨(h entry hmem).names, fun l hl hne => ?_⟩
    rw [get?_move_of_kept t (fun hl' => hsource (hl'.trans hl)) fun hl' => htarget (hl'.trans hl)]
    exact (h entry hmem).folders l hl hne

end Tree

end TwinFiles
