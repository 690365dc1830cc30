import TwinFiles.Proofs.Group.Order
import TwinFiles.Proofs.Scan.Alike
import TwinFiles.Proofs.Scan.Specification
import TwinFiles.Proofs.Scan.Trace
import TwinFiles.Proofs.Tree.Agreement

/-!
# The order of a listing

In which order a folder lists its entries shows in the order of what a scan finds and nowhere else
(`listing_order_only_orders`): visits in another order hold the same (`sameUpToOrder_over`), and if
names are sorted, visits, groups and the paths in them come in the order of the names
(`TellsOf.inNameOrder`).
-/

namespace TwinFiles

/-! ## What is seen of the order -/

/-- Two findings differ at most in the order of their groups, of the paths in a group and of the
files that could not be read. -/
structure Findings.SameUpToOrder (hashed : List HashedFile) (f f' : Findings) : Prop where
  groups : (f.1.map Group.unordered).Perm (f'.1.map Group.unordered)
  readErrors : f.2.readErrors.Perm f'.2.readErrors
  examined : f.2.entriesExamined = f'.2.entriesExamined
  nonFiles : f.2.nonFilesSkipped = f'.2.nonFilesSkipped
  files : f.2.filesHashed = f'.2.filesHashed
  bytes : f.2.bytesHashed = f'.2.bytesHashed
  duplicateGroups : f.2.duplicateGroups = f'.2.duplicateGroups
  duplicateFiles : f.2.duplicateFiles = f'.2.duplicateFiles
  /-- A group has the size of its first file. -/
  reclaimable : Grouping.SizesAgree hashed → f.2.reclaimableSpace = f'.2.reclaimableSpace

/-- Visits in another order hold the same, but for the order. -/
theorem Findings.sameUpToOrder_over (folder : Path) (wanted : Bytes) {visits visits' : List Visit}
    (h : visits.Perm visits') :
    (Findings.over folder wanted visits).SameUpToOrder (visits.filterMap Visit.hashed?)
      (Findings.over folder wanted visits') := by
  have hashed := h.filterMap Visit.hashed?
  exact {
    groups := Grouping.groups_perm hashed
    readErrors := h.filterMap _
    examined := h.countP_eq _
    nonFiles := h.countP_eq _
    files := hashed.length_eq
    bytes := (hashed.map HashedFile.size).sum_eq
    duplicateGroups := Grouping.length_groups_perm hashed
    duplicateFiles := Grouping.sum_duplicateCount_perm hashed
    reclaimable := fun hagree => Grouping.sum_wastedSpace_perm hashed hagree }

/-- Paths of entries of a folder, in strictly increasing order of the names. -/
def Listing.NamesIncrease (folder : Path) (paths : List Path) : Prop :=
  ∃ names : List Bytes, paths = names.map folder.join ∧ names.Pairwise (· < ·)

theorem Listing.NamesIncrease.sublist {folder : Path} {paths some : List Path}
    (h : NamesIncrease folder paths) (hsome : some.Sublist paths) : NamesIncrease folder some := by
  obtain ⟨names, rfl, hnames⟩ := h
  obtain ⟨names', hsublist, rfl⟩ := List.sublist_map_iff.mp hsome
  exact ⟨names', rfl, hnames.sublist hsublist⟩

/-- The path of an entry that was examined. -/
def Visit.entry? : Visit → Option Path
  | nonFile path => some path
  | file path _ => some path
  | _ => none

def Call.entry? : Call → Option Path
  | entry path => some path
  | _ => none

theorem Visit.entry_calls (visits : List Visit) :
    (visits.flatMap Visit.calls).filterMap Call.entry? = visits.filterMap Visit.entry? := by
  apply filterMap_calls
  intro visit
  cases visit with
  | file path outcome => cases outcome <;> rfl
  | _ => rfl

namespace Scan

variable {v v' : View} {s : Selection} {folder : Path} {es : List Entry}

/-- The wanted entries are examined, all of them and in their order. -/
theorem entry_visitOf (v : View) (s : Selection) (folder : Path) (es : List Entry) :
    ((s.wantedOf es).map (visitOf v s folder)).filterMap Visit.entry? =
      (s.wantedOf es).map fun e => folder.join e.1 := by
  rw [List.filterMap_map, ← List.filterMap_eq_map]
  apply List.filterMap_congr
  intro e he
  rw [Function.comp_apply, visitOf_of_wanted (Selection.mem_wantedOf.mp he).2]
  split <;> rfl

/-- Entries are visited in the order of their names, all groups have their paths in that order, and
groups come in the order of their first paths. -/
structure InNameOrder (v : View) (s : Selection) (folder : Path) (found : Findings)
    (calls : List Call) : Prop where
  /-- The wanted entries are called, in the order in which all entries are visited. -/
  visited : ∃ es, Listing.InOrder v s folder es ∧
    calls.filterMap Call.entry? = (s.wantedOf es).map fun e => folder.join e.1
  names : Listing.NamesIncrease folder (calls.filterMap Call.entry?)
  members : ∀ g ∈ found.1, Listing.NamesIncrease folder g.paths
  groups : ∃ firsts, found.1.map (fun g => g.paths.head?) = firsts.map some ∧
    Listing.NamesIncrease folder firsts

/-- A scan that tells of sorted entries tells of them in the order of their names. -/
theorem TellsOf.inNameOrder {scan : Scan (Except FolderError Findings)}
    (h : TellsOf scan s folder ((s.wantedOf es).map (visitOf v s folder)))
    (horder : Listing.InOrder v s folder es) (hsorted : s.sorted = true) {found : Findings}
    (hfound : scan.result = .ok found) : InNameOrder v s folder found scan.calls := by
  have hnames : Listing.NamesIncrease folder ((s.wantedOf es).map fun e => folder.join e.1) := by
    refine ⟨(s.wantedOf es).map Prod.fst, by rw [List.map_map]; rfl, ?_⟩
    exact List.pairwise_map.mpr ((horder.byName hsorted).filter _)
  have hentries : scan.calls.filterMap Call.entry? =
      (s.wantedOf es).map fun e => folder.join e.1 := by
    rw [h.calls, List.filterMap_cons_none rfl, Visit.entry_calls, entry_visitOf]
  have hgroups : found.1 = Grouping.groups (hashedOf v s folder (s.wantedOf es)) := by
    rw [h.result, Except.ok.injEq] at hfound
    rw [← hfound]
    rfl
  -- files are hashed in the order of the entries, and grouping keeps that order
  have hhashed := hnames.sublist (paths_hashedOf_sublist v s folder (s.wantedOf es))
  refine ⟨⟨es, horder, hentries⟩, hentries ▸ hnames, ?_, ?_⟩
  · intro g hg
    rw [hgroups] at hg
    exact hhashed.sublist (Grouping.paths_sublist hg)
  · obtain ⟨firsts, hsublist, hfirsts⟩ :=
      Grouping.exists_firsts (hashedOf v s folder (s.wantedOf es))
    refine ⟨firsts.map HashedFile.path, ?_, hhashed.sublist (hsublist.map _)⟩
    rw [hgroups, hfirsts, List.map_map]
    rfl

/-- A file system that lists its folders in another order shows a folder alike. -/
theorem folderAlike_of_reordered (h : v.Reordered v') (valid : Listing.validate v folder = .ok ()) :
    Listing.FolderAlike List.Perm v v' s folder where
  listings := by
    obtain ⟨es, horder, _⟩ := visits_of_valid valid s
    obtain ⟨listing, hlisting, _, _⟩ := horder.listed
    obtain ⟨listing', hlisting', hperm⟩ := h.list hlisting
    exact ⟨listing, listing', hlisting, hlisting', hperm.filter _⟩
  entries := by
    intro listing _ e _ _
    refine ⟨fun _ => (h.agrees.read _).symm, fun _ _ => ⟨?_, fun _ => (h.agrees.read _).symm⟩⟩
    rw [← View.isFile_iff, ← View.isFile_iff, h.agrees.isFile]

/-- Two scans of a folder that lists the same wanted entries in different orders, each of them shown
alike. Both succeed, and their findings differ in their order at most. If names are to be sorted,
both find and call the same, in the order of the names. -/
theorem listing_order_only_orders (v v' : View) (s : Selection) (folder : Path)
    (halike : Listing.FolderAlike List.Perm v v' s folder) :
    ∃ found found', (strict v s [] folder).result = .ok found ∧
      (strict v' s [] folder).result = .ok found' ∧
      found.SameUpToOrder ((strict v s [] folder).calls.filterMap Call.hashed?) found' ∧
      (s.sorted = true → found' = found ∧
        (strict v' s [] folder).calls = (strict v s [] folder).calls ∧
        InNameOrder v s folder found (strict v s [] folder).calls) := by
  obtain ⟨es, es', horder, horder', hperm, htells, htells'⟩ := strict_alike halike
  refine ⟨_, _, htells.result, htells'.result, ?_, ?_⟩
  · rw [htells.hashed]
    exact Findings.sameUpToOrder_over folder s.wanted (hperm.map _)
  · intro hsorted
    have hsame := Listing.wantedOf_eq_of_sorted horder horder' hsorted hperm
    rw [← hsame] at htells' ⊢
    exact ⟨rfl, htells'.calls.trans htells.calls.symm,
      htells.inNameOrder horder hsorted htells.result⟩

/-- The folder of `twinFolder`, which now lists its entries from the last to the first. -/
def twinFolderReversed : View where
  tree :=
    { items := twinFolder.tree.items.reverse
      nodup := by
        rw [List.map_reverse]
        exact List.nodup_reverse.mpr twinFolder.tree.nodup }
  home := []
  privileged := false
  account := none

/-- The paths of the groups come in the order of the listing, and in one order if names are sorted.
-/
theorem listing_order_of_twinFolder :
    (∀ sorted, Listing.FolderAlike List.Perm twinFolder twinFolderReversed
      ⟨utf8 "o", sorted, true⟩ (utf8 "/")) ∧
    (∃ found found',
      (strict twinFolder ⟨utf8 "o", false, true⟩ [] (utf8 "/")).result = .ok found ∧
      (strict twinFolderReversed ⟨utf8 "o", false, true⟩ [] (utf8 "/")).result = .ok found' ∧
      found.1.map Group.paths = [[utf8 "/o1", utf8 "/o3", utf8 "/o4"]] ∧
      found'.1.map Group.paths = [[utf8 "/o4", utf8 "/o3", utf8 "/o1"]] ∧
      found.SameUpToOrder
        ((strict twinFolder ⟨utf8 "o", false, true⟩ [] (utf8 "/")).calls.filterMap Call.hashed?)
        found') ∧
    ∃ found,
      (strict twinFolder ⟨utf8 "o", true, true⟩ [] (utf8 "/")).result = .ok found ∧
      (strict twinFolderReversed ⟨utf8 "o", true, true⟩ [] (utf8 "/")).result = .ok found ∧
      InNameOrder twinFolder ⟨utf8 "o", true, true⟩ (utf8 "/") found
        (strict twinFolder ⟨utf8 "o", true, true⟩ [] (utf8 "/")).calls := by
  have hreordered : twinFolder.Reordered twinFolderReversed :=
    ⟨(List.reverse_perm _).symm, rfl, rfl⟩
  have valid : Listing.validate twinFolder (utf8 "/") = .ok () := by rfl
  have halike (sorted : Bool) : Listing.FolderAlike List.Perm twinFolder twinFolderReversed
      ⟨utf8 "o", sorted, true⟩ (utf8 "/") := folderAlike_of_reordered hreordered valid
  refine ⟨halike, ?_, ?_⟩
  · obtain ⟨found, found', hfound, hfound', hsame, _⟩ :=
      listing_order_only_orders twinFolder twinFolderReversed ⟨utf8 "o", false, true⟩ (utf8 "/")
        (halike false)
    exact ⟨found, found', hfound, hfound',
      shown_of_result (fun f => f.1.map Group.paths) hfound (by decide +kernel),
      shown_of_result (fun f => f.1.map Group.paths) hfound' (by decide +kernel), hsame⟩
  · obtain ⟨found, found', hfound, hfound', _, hsorted⟩ :=
      listing_order_only_orders twinFolder twinFolderReversed ⟨utf8 "o", true, true⟩ (utf8 "/")
        (halike true)
    obtain ⟨rfl, _, horder⟩ := hsorted rfl
    exact ⟨found', hfound, hfound', horder⟩

end Scan

end TwinFiles
