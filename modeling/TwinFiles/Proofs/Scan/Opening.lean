import TwinFiles.Proofs.Scan.Visits
import TwinFiles.Proofs.Tree.Removal

/-!
# Folders that can be opened

A folder passes the check when it opens (`opens_of_valid`, `valid_of_opens`): its path leads to a
folder that may be listed. Then an entry is an item one name below it (`item_of_mem_list`), and
different entries have different names (`InOrder.nodup_names`).
-/

namespace TwinFiles.Listing

variable {v : View} {s : Selection} {folder : Path} {loc : Location} {es : List Entry}

/-- A folder that passes the check can be opened. -/
theorem opens_of_valid (valid : validate v folder = .ok ()) : ∃ loc, v.Opens folder loc := by
  unfold validate at valid
  split at valid
  · cases valid
  · next access hitem =>
    split at valid
    · cases valid
    · next listing hlisting =>
      obtain ⟨loc, hresolve, hfound⟩ := View.resolve_of_item hitem
      refine ⟨loc, hresolve, access, hfound, ?_⟩
      refine Decidable.byContradiction fun hread => ?_
      simp only [View.list, hresolve, hfound, if_neg hread] at hlisting
      cases hlisting
  · cases valid

theorem valid_of_opens (h : v.Opens folder loc) : validate v folder = .ok () := by
  obtain ⟨access, hfolder, _⟩ := h.access
  simp only [validate, View.item, h.resolve, hfolder, h.list]

/-- An entry stands in the folder under its name, and is of its kind. -/
theorem item_of_mem_list (h : v.Opens folder loc) {listing : List Entry}
    (hlisting : v.list folder = .ok listing) {e : Entry} (he : e ∈ listing) :
    ∃ item, (loc ++ [e.1], item) ∈ v.tree.items ∧ item.kind = e.2 := by
  rw [h.list] at hlisting
  injection hlisting with hlisting
  rw [← hlisting] at he
  obtain ⟨⟨name, item⟩, hentry, rfl⟩ := List.mem_map.mp he
  exact ⟨item, (v.tree.mem_entries loc name item).mp hentry, rfl⟩

theorem InOrder.item_of_mem (horder : InOrder v s folder es) (h : v.Opens folder loc) {e : Entry}
    (he : e ∈ es) : ∃ item, (loc ++ [e.1], item) ∈ v.tree.items ∧ item.kind = e.2 := by
  obtain ⟨listing, hlisting, hperm, _⟩ := horder.listed
  exact item_of_mem_list h hlisting (hperm.mem_iff.mp he)

theorem InOrder.file_of_mem (horder : InOrder v s folder es) (h : v.Opens folder loc) {e : Entry}
    (he : e ∈ es) (hkind : e.2 = .file) :
    ∃ access content, v.tree.get? (loc ++ [e.1]) = some (.file access content) := by
  obtain ⟨item, hitem, hitemKind⟩ := horder.item_of_mem h he
  rw [hkind] at hitemKind
  cases item with
  | file access content =>
    exact ⟨access, content, (Tree.get?_eq_some_iff (by simp) _).mpr hitem⟩
  | folder access => cases hitemKind
  | link target => cases hitemKind
  | pipe access written => cases hitemKind

theorem InOrder.isName_of_mem (horder : InOrder v s folder es) (h : v.Opens folder loc)
    (hwf : v.tree.WellFormed) {e : Entry} (he : e ∈ es) : IsName e.1 := by
  obtain ⟨item, hitem, _⟩ := horder.item_of_mem h he
  exact (hwf _ hitem).names e.1 (by simp)

/-- Different entries have different names. -/
theorem InOrder.nodup_names (horder : InOrder v s folder es) : (es.map Prod.fst).Nodup := by
  obtain ⟨listing, hlisting, hperm, _⟩ := horder.listed
  exact (hperm.map Prod.fst).nodup_iff.mpr (View.nodup_names_list hlisting)

end TwinFiles.Listing
