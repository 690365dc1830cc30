import TwinFiles.Proofs.Scan.Pass
import TwinFiles.Proofs.Tree.Lookup

/-!
# What a scan sees of a folder

While nothing changes, a folder that passes the check has a listing (`entries_of_valid`), and a scan
visits its entries in the order that `Listing.InOrder` describes. The files it reads are those of
the entries that `Selection.Takes`, one after another: what it hashes are their contents, and what
it cannot read it reports (`outcomes_visitEntries`).
-/

namespace TwinFiles

/-! ## Order by name -/

namespace Bytes

/-- The order of byte strings is the lexicographic order. -/
theorem le_iff (a b : Bytes) : le a b = true ↔ a ≤ b := by
  induction a generalizing b with
  | nil => exact iff_of_true rfl (List.nil_le b)
  | cons x xs ih =>
    cases b with
    | nil => exact iff_of_false (by simp [le]) (by simp)
    | cons y ys =>
      rw [le, List.cons_le_cons_iff]
      by_cases hxy : x = y
      · rw [if_pos hxy, ih]
        simp [hxy]
      · rw [if_neg hxy]
        simp [hxy]

theorem le_trans {a b c : Bytes} (hab : le a b = true) (hbc : le b c = true) : le a c = true := by
  rw [le_iff] at *
  exact List.le_trans hab hbc

theorem le_total (a b : Bytes) : (le a b || le b a) = true := by
  rw [Bool.or_eq_true, le_iff, le_iff]
  exact List.le_total a b

end Bytes

namespace Listing

/-- Sorting puts entries with different names into strict order. -/
theorem sorted_sortEntries {es : List Entry} (hnames : (es.map Prod.fst).Nodup) :
    (sortEntries es).Pairwise fun a b => a.1 < b.1 := by
  have hle : (sortEntries es).Pairwise fun a b => Bytes.le a.1 b.1 = true := by
    apply List.pairwise_mergeSort
    · exact fun a b c => Bytes.le_trans
    · exact fun a b => Bytes.le_total a.1 b.1
  have hnames' : ((sortEntries es).map Prod.fst).Nodup :=
    ((List.mergeSort_perm es _).map Prod.fst).nodup_iff.mpr hnames
  refine hle.imp₂ ?_ (List.pairwise_map.mp hnames')
  intro a b hab hne
  apply List.not_le.mp
  intro hba
  exact hne (List.le_antisymm ((Bytes.le_iff _ _).mp hab) hba)

/-- Strictly sorted entries come in one order. -/
theorem eq_of_sorted {es es' : List Entry} (hperm : es.Perm es')
    (hes : es.Pairwise fun a b => a.1 < b.1) (hes' : es'.Pairwise fun a b => a.1 < b.1) :
    es = es' := by
  refine hperm.eq_of_pairwise ?_ hes hes'
  intro a b _ _ hab hba
  exact absurd hba (List.lt_asymm hab)

/-! ## The listing of a folder -/

/-- The entries of a folder in the order of their visits: by name if they are to be sorted, else in
the order of the listing. -/
structure InOrder (v : View) (s : Selection) (folder : Path) (es : List Entry) : Prop where
  listed : ∃ listing, v.list folder = .ok listing ∧ es.Perm listing ∧
    (s.sorted = false → es = listing)
  byName : s.sorted = true → es.Pairwise fun a b => a.1 < b.1

end Listing

/-- A listing holds no name twice. -/
theorem View.nodup_names_list {v : View} {p : Path} {listing : List Entry}
    (h : v.list p = .ok listing) : (listing.map Prod.fst).Nodup := by
  unfold list at h
  split at h
  · cases h
  · next loc _ =>
    split at h
    · split at h
      · injection h with h
        rw [← h, List.map_map]
        exact v.tree.nodup_names loc
      · cases h
    · cases h
    · cases h

namespace Listing

variable {v : View} {s : Selection} {folder : Path} {es : List Entry}

/-- The entries are those of any listing, and in its order if they are not to be sorted. -/
theorem InOrder.of_list (h : InOrder v s folder es) {listing : List Entry}
    (hlisting : v.list folder = .ok listing) :
    es.Perm listing ∧ (s.sorted = false → es = listing) := by
  obtain ⟨listing', hlisting', hlisted⟩ := h.listed
  rw [hlisting] at hlisting'
  injection hlisting' with hlisting'
  rw [hlisting']
  exact hlisted

/-- A folder's entries come in one order. -/
theorem InOrder.unique (h : InOrder v s folder es) {es' : List Entry}
    (h' : InOrder v s folder es') : es = es' := by
  obtain ⟨listing, hlisting, hperm, heq⟩ := h.listed
  obtain ⟨hperm', heq'⟩ := h'.of_list hlisting
  cases hsorted : s.sorted with
  | true => exact eq_of_sorted (hperm.trans hperm'.symm) (h.byName hsorted) (h'.byName hsorted)
  | false => rw [heq hsorted, heq' hsorted]

/-- A folder that can be listed passes the check. -/
theorem valid_of_list {listing : List Entry} (h : v.list folder = .ok listing) :
    validate v folder = .ok () := by
  have hitem : ∃ access, v.item true folder = .ok (.folder access) := by
    unfold View.list at h
    unfold View.item
    split at h
    · cases h
    · next loc hresolve =>
      rw [hresolve]
      split at h
      · next access hfolder => exact ⟨access, by simp only [hfolder]⟩
      · cases h
      · cases h
  obtain ⟨access, hfolder⟩ := hitem
  simp only [validate, hfolder, h]

/-- Paths of different entries are different. -/
theorem InOrder.nodup_paths (h : InOrder v s folder es) :
    (es.map fun e => folder.join e.1).Nodup := by
  obtain ⟨listing, hlisting, hperm, _⟩ := h.listed
  have hnames : (es.map Prod.fst).Nodup :=
    (hperm.map Prod.fst).nodup_iff.mpr (View.nodup_names_list hlisting)
  rw [List.nodup_iff_pairwise_ne, List.pairwise_map]
  refine (List.pairwise_map.mp hnames).imp ?_
  intro a b hne hpath
  exact hne (Path.join_injective folder hpath)

/-- What a folder lists comes in order. -/
theorem ordered_of_list {listing : List Entry} (h : v.list folder = .ok listing) (s : Selection) :
    ∃ es, entries.ordered v s folder = .ok es ∧ InOrder v s folder es := by
  refine ⟨if s.sorted then sortEntries listing else listing, by rw [entries.ordered, h], ?_⟩
  by_cases hsorted : s.sorted = true
  · rw [if_pos hsorted]
    have hperm : (sortEntries listing).Perm listing := List.mergeSort_perm listing _
    exact ⟨⟨listing, h, hperm, by simp [hsorted]⟩,
      fun _ => sorted_sortEntries (View.nodup_names_list h)⟩
  · rw [if_neg hsorted]
    exact ⟨⟨listing, h, .refl _, fun _ => rfl⟩, fun htrue => absurd htrue hsorted⟩

/-- A folder that passes the check has a listing while nothing changes. -/
theorem entries_of_valid (valid : validate v folder = .ok ()) (s : Selection) :
    ∃ es, entries v s folder = .ok es ∧ InOrder v s folder es := by
  unfold validate at valid
  split at valid
  · cases valid
  · next access hitem =>
    split at valid
    · cases valid
    · next listing hlisting =>
      obtain ⟨es, hordered, horder⟩ := ordered_of_list hlisting s
      refine ⟨es, ?_, horder⟩
      -- the folder may be given by a link, which the check follows at once
      rcases View.item_follow_or_link hitem with hsame | ⟨target, hlink⟩
      · rw [entries, hsame]
        exact hordered
      · rw [entries, hlink, hitem]
        exact hordered
  · cases valid

end Listing

/-! ## The files that are read -/

/-- A path leads to a file. -/
def View.LeadsToFile (v : View) (p : Path) : Prop :=
  ∃ access content, v.item true p = .ok (.file access content)

theorem View.isFile_iff (v : View) (p : Path) : v.isFile p = true ↔ v.LeadsToFile p := by
  unfold isFile LeadsToFile
  split
  · next access content h => exact iff_of_true rfl ⟨access, content, h⟩
  · next h =>
    refine iff_of_false Bool.false_ne_true ?_
    rintro ⟨access, content, hfile⟩
    exact h access content hfile

instance (v : View) (p : Path) : Decidable (v.LeadsToFile p) :=
  decidable_of_iff _ (v.isFile_iff p)

theorem Selection.admits_iff {s : Selection} {name : Bytes} :
    s.admits name = true ↔ s.wanted <+: name :=
  List.isPrefixOf_iff_prefix

/-- An entry that is read: its name starts with the wanted bytes, and it is a file, or a link that
is to be followed and leads to one. -/
def Selection.Takes (s : Selection) (v : View) (folder : Path) (e : Entry) : Prop :=
  s.wanted <+: e.1 ∧
    (e.2 = .file ∨ s.followLinks = true ∧ e.2 = .link ∧ v.LeadsToFile (folder.join e.1))

instance (s : Selection) (v : View) (folder : Path) (e : Entry) : Decidable (s.Takes v folder e) :=
  inferInstanceAs (Decidable (_ ∧ (_ ∨ _ ∧ _ ∧ _)))

/-- The paths that are read, in order. -/
def Selection.takenPaths (s : Selection) (v : View) (folder : Path) (es : List Entry) :
    List Path :=
  (es.filter fun e => s.Takes v folder e).map fun e => folder.join e.1

/-- Those of some paths that can be read, with their contents. -/
def View.contents (v : View) (paths : List Path) : List (Path × Bytes) :=
  paths.filterMap fun p =>
    match v.read p with
    | .ok content => some (p, content)
    | .error _ => none

/-- Those of some paths that cannot be read, with the causes. -/
def View.refusals (v : View) (paths : List Path) : List ReadError :=
  paths.filterMap fun p =>
    match v.read p with
    | .ok _ => none
    | .error cause => some ⟨p, cause⟩

namespace Listing

variable {v : View} {s : Selection} {folder : Path}

theorem isFile_iff (v : View) (s : Selection) (p : Path) (kind : Kind) :
    isFile v s p kind = true ↔
      kind = .file ∨ s.followLinks = true ∧ kind = .link ∧ v.LeadsToFile p := by
  cases kind <;> simp [isFile, v.isFile_iff]

/-- An entry that is taken is seen as a file. -/
theorem sight_of_takes {e : Entry} (h : s.Takes v folder e) :
    sight v s folder e = .file (folder.join e.1) := by
  have hwanted : s.admits e.1 = true := Selection.admits_iff.mpr h.1
  have hfile : isFile v s (folder.join e.1) e.2 = true := (isFile_iff v s _ _).mpr h.2
  rw [sight, if_pos hwanted, if_pos hfile]

/-- Any other entry is passed over. -/
theorem sight_of_not_takes {e : Entry} (h : ¬ s.Takes v folder e) :
    sight v s folder e = .unwanted (folder.join e.1) ∨
      sight v s folder e = .nonFile (folder.join e.1) := by
  rw [sight]
  by_cases hwanted : s.admits e.1 = true
  · have hfile : ¬ isFile v s (folder.join e.1) e.2 = true := fun hfile =>
      h ⟨Selection.admits_iff.mp hwanted, (isFile_iff v s _ _).mp hfile⟩
    rw [if_pos hwanted, if_neg hfile]
    exact .inr rfl
  · rw [if_neg hwanted]
    exact .inl rfl

/-- A wanted entry is shown as a file if it is to be taken. -/
theorem sight_of_wanted {e : Entry} (h : s.wanted <+: e.1) :
    sight v s folder e =
      if s.Takes v folder e then .file (folder.join e.1) else .nonFile (folder.join e.1) := by
  split
  · next htakes => exact sight_of_takes htakes
  · next hnot =>
    have hadmits : s.admits e.1 = true := Selection.admits_iff.mpr h
    have hfile : ¬ isFile v s (folder.join e.1) e.2 = true := fun hfile =>
      hnot ⟨h, (isFile_iff v s _ _).mp hfile⟩
    rw [sight, if_pos hadmits, if_neg hfile]

end Listing

namespace Scan

variable {v : View} {s : Selection} {folder : Path}

theorem visitEntries_cons_of_takes {e : Entry} (h : s.Takes v folder e) (es : List Entry) :
    visitEntries s folder v [] (e :: es) =
      .file (folder.join e.1) (v.read (folder.join e.1)) :: visitEntries s folder v [] es := by
  rw [visitEntries, Listing.sight_of_takes h]
  rfl

/-- An entry that is not taken leaves nothing to hash and nothing to report. -/
theorem visitEntries_cons_of_not_takes {e : Entry} (h : ¬ s.Takes v folder e) (es : List Entry) :
    ∃ visit : Visit, visit.hashed? = none ∧ visit.readError? = none ∧
      visitEntries s folder v [] (e :: es) = visit :: visitEntries s folder v [] es := by
  rcases Listing.sight_of_not_takes h with hsight | hsight
  · exact ⟨.unwanted (folder.join e.1), rfl, rfl, by rw [visitEntries, hsight]⟩
  · exact ⟨.nonFile (folder.join e.1), rfl, rfl, by rw [visitEntries, hsight]; rfl⟩

/-- What is hashed are the contents of the files that can be read, and the others are reported. -/
theorem outcomes_visitEntries (v : View) (s : Selection) (folder : Path) (es : List Entry) :
    (visitEntries s folder v [] es).filterMap Visit.hashed? =
        (v.contents (s.takenPaths v folder es)).map (fun f => .of f.1 f.2) ∧
      (visitEntries s folder v [] es).filterMap Visit.readError? =
        v.refusals (s.takenPaths v folder es) := by
  induction es with
  | nil => exact ⟨rfl, rfl⟩
  | cons e es ih =>
    obtain ⟨ihHashed, ihErrors⟩ := ih
    by_cases h : s.Takes v folder e
    · have hpaths : s.takenPaths v folder (e :: es) =
          folder.join e.1 :: s.takenPaths v folder es := by
        simp [Selection.takenPaths, h]
      rw [visitEntries_cons_of_takes h, hpaths, List.filterMap_cons, List.filterMap_cons, ihHashed,
        ihErrors, View.contents, View.contents, View.refusals, View.refusals, List.filterMap_cons,
        List.filterMap_cons]
      cases v.read (folder.join e.1) <;> exact ⟨rfl, rfl⟩
    · have hpaths : s.takenPaths v folder (e :: es) = s.takenPaths v folder es := by
        simp [Selection.takenPaths, h]
      obtain ⟨visit, hhashed, herror, hvisits⟩ := visitEntries_cons_of_not_takes h es
      rw [hvisits, hpaths, List.filterMap_cons, List.filterMap_cons, hhashed, herror]
      exact ⟨ihHashed, ihErrors⟩

end Scan

end TwinFiles
