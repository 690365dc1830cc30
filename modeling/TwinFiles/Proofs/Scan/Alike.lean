import TwinFiles.Proofs.Scan.Answer

/-!
# Folders that are shown alike

`Listing.FolderAlike` says that two views show a folder alike as far as a selection looks at it: the
wanted entries that they list are in some relation, and each of them is shown alike. Then scans tell
of the same wanted entries, in some order each (`strict_alike`), and in one order if they are listed
in one order (`strict_eq_of_alike`) or sorted by name (`wantedOf_eq_of_sorted`).
-/

namespace TwinFiles

namespace Listing

/-- A path leads to a file in both views, which is read alike, or in neither. -/
def LeadsAlike (v v' : View) (p : Path) : Prop :=
  (v.LeadsToFile p ↔ v'.LeadsToFile p) ∧ (v.LeadsToFile p → v.read p = v'.read p)

/-- Two views show an entry alike: if it is a file it is read alike, and if it is a link that is to
be followed it leads to the same. -/
structure ShownAlike (v v' : View) (s : Selection) (folder : Path) (e : Entry) : Prop where
  file : e.2 = .file → v.read (folder.join e.1) = v'.read (folder.join e.1)
  link : s.followLinks = true → e.2 = .link → LeadsAlike v v' (folder.join e.1)

/-- Two views show a folder alike, as far as a selection looks at it: they list wanted entries that
are in some relation, and show each of them alike. -/
structure FolderAlike (related : List Entry → List Entry → Prop) (v v' : View) (s : Selection)
    (folder : Path) : Prop where
  listings : ∃ listing listing', v.list folder = .ok listing ∧ v'.list folder = .ok listing' ∧
    related (s.wantedOf listing) (s.wantedOf listing')
  entries : ∀ listing, v.list folder = .ok listing → ∀ e ∈ listing, s.wanted <+: e.1 →
    ShownAlike v v' s folder e

variable {v v' : View} {s : Selection} {folder : Path}

theorem FolderAlike.mono {related related' : List Entry → List Entry → Prop}
    (h : FolderAlike related v v' s folder)
    (hrelated : ∀ es es', related es es' → related' es es') :
    FolderAlike related' v v' s folder where
  listings := by
    obtain ⟨listing, listing', hlisting, hlisting', hlistings⟩ := h.listings
    exact ⟨listing, listing', hlisting, hlisting', hrelated _ _ hlistings⟩
  entries := h.entries

/-- Entries that are shown alike are visited alike. -/
theorem visitOf_eq {e : Entry} (hwanted : s.wanted <+: e.1) (h : ShownAlike v v' s folder e) :
    Scan.visitOf v s folder e = Scan.visitOf v' s folder e := by
  have htaken : s.Takes v folder e ↔ s.Takes v' folder e := by
    refine and_congr_right fun _ => or_congr_right ?_
    exact and_congr_right fun hfollow => and_congr_right fun hlink => (h.link hfollow hlink).1
  rw [Scan.visitOf_of_wanted hwanted, Scan.visitOf_of_wanted hwanted]
  by_cases htakes : s.Takes v folder e
  · have hread : v.read (folder.join e.1) = v'.read (folder.join e.1) := by
      rcases htakes.2 with hfile | ⟨hfollow, hlink, hleads⟩
      · exact h.file hfile
      · exact (h.link hfollow hlink).2 hleads
    rw [if_pos htakes, if_pos (htaken.mp htakes), hread]
  · rw [if_neg htakes, if_neg (mt htaken.mpr htakes)]

/-- The wanted entries, in the order of the visits, are those of the listing. -/
theorem InOrder.perm_wantedOf {es listing : List Entry} (h : InOrder v s folder es)
    (hlisting : v.list folder = .ok listing) : (s.wantedOf es).Perm (s.wantedOf listing) :=
  (h.of_list hlisting).1.filter _

/-- Sorted entries with the same names come in the same order. -/
theorem wantedOf_eq_of_sorted {es es' : List Entry} (horder : InOrder v s folder es)
    (horder' : InOrder v' s folder es') (hsorted : s.sorted = true)
    (hperm : (s.wantedOf es).Perm (s.wantedOf es')) : s.wantedOf es = s.wantedOf es' :=
  eq_of_sorted hperm ((horder.byName hsorted).filter _) ((horder'.byName hsorted).filter _)

/-- Folders that list the same wanted entries in one order have them visited in one order. -/
theorem FolderAlike.wantedOf_eq (h : FolderAlike (· = ·) v v' s folder) {es es' : List Entry}
    (horder : InOrder v s folder es) (horder' : InOrder v' s folder es') :
    s.wantedOf es = s.wantedOf es' := by
  obtain ⟨listing, listing', hlisting, hlisting', hsame⟩ := h.listings
  cases hsorted : s.sorted with
  | true =>
    refine wantedOf_eq_of_sorted horder horder' hsorted ?_
    have hperm := horder.perm_wantedOf hlisting
    rw [hsame] at hperm
    exact hperm.trans (horder'.perm_wantedOf hlisting').symm
  | false =>
    rw [(horder.of_list hlisting).2 hsorted, (horder'.of_list hlisting').2 hsorted, hsame]

end Listing

namespace Scan

variable {v v' : View} {s : Selection} {folder : Path}

/-- Scans of folders that are shown alike tell of the same wanted entries, in some order each. -/
theorem strict_alike (h : Listing.FolderAlike List.Perm v v' s folder) :
    ∃ es es', Listing.InOrder v s folder es ∧ Listing.InOrder v' s folder es' ∧
      (s.wantedOf es).Perm (s.wantedOf es') ∧
      TellsOf (strict v s [] folder) s folder ((s.wantedOf es).map (visitOf v s folder)) ∧
      TellsOf (strict v' s [] folder) s folder ((s.wantedOf es').map (visitOf v s folder)) := by
  obtain ⟨listing, listing', hlisting, hlisting', hperm⟩ := h.listings
  obtain ⟨es, horder, htells⟩ := strict_tellsOf_wanted hlisting s
  obtain ⟨es', horder', htells'⟩ := strict_tellsOf_wanted hlisting' s
  have hall : (s.wantedOf es').Perm (s.wantedOf listing) :=
    (horder'.perm_wantedOf hlisting').trans hperm.symm
  have hsame : (s.wantedOf es').map (visitOf v' s folder) =
      (s.wantedOf es').map (visitOf v s folder) := by
    apply List.map_congr_left
    intro e he
    obtain ⟨hmem, hwanted⟩ := Selection.mem_wantedOf.mp (hall.mem_iff.mp he)
    exact (Listing.visitOf_eq hwanted (h.entries listing hlisting e hmem hwanted)).symm
  refine ⟨es, es', horder, horder', (horder.perm_wantedOf hlisting).trans hall.symm, htells, ?_⟩
  rw [← hsame]
  exact htells'

/-- Scans of folders that are shown alike, in one order, find and call the same. -/
theorem strict_eq_of_alike (h : Listing.FolderAlike (· = ·) v v' s folder) :
    ∃ found, (strict v s [] folder).result = .ok found ∧
      (strict v' s [] folder).result = .ok found ∧
      (strict v' s [] folder).calls = (strict v s [] folder).calls := by
  obtain ⟨es, es', horder, horder', _, htells, htells'⟩ :=
    strict_alike (h.mono fun _ _ hsame => List.Perm.of_eq hsame)
  rw [← h.wantedOf_eq horder horder'] at htells'
  exact ⟨_, htells.result, htells'.result, htells'.calls.trans htells.calls.symm⟩

end Scan

end TwinFiles
