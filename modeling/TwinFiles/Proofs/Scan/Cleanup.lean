import TwinFiles.Proofs.Group.Spare
import TwinFiles.Proofs.Scan.Accounting
import TwinFiles.Proofs.Scan.Answer
import TwinFiles.Proofs.Scan.Opening
import TwinFiles.Proofs.Tree.Change

/-!
# Cleaning up a folder

Once all spare files of the groups that a scan has found are removed, the folder lists the entries
that are left in the order they had (`Listing.eq_filter_of_without`), and they are visited as before
(`visitOf_without`). So a second scan hashes one file of each digest, and its counts are those of the
first less what the groups told (`second_scan_finds_none`).
-/

namespace TwinFiles

/-- The contents of the files in a tree. -/
def Tree.contents (t : Tree) : List Bytes :=
  t.items.filterMap fun entry =>
    match entry.2 with
    | .file _ content => some content
    | _ => none

/-- How the findings of a scan change when all spare files are removed from a folder of files with
some contents. Nothing is cut off at zero: what the first scan counted is what the second one counts
and what was removed. -/
structure Findings.CleanedUp (contents : List Bytes) (before after : Findings) : Prop where
  groups : after.1 = []
  files : after.2.filesHashed + before.2.duplicateFiles = before.2.filesHashed
  examined : after.2.entriesExamined + before.2.duplicateFiles = before.2.entriesExamined
  /-- Files with one digest have one size if digests keep the contents apart. -/
  bytes : Digest.KeepsApart contents →
    after.2.bytesHashed + before.2.reclaimableSpace = before.2.bytesHashed
  nonFiles : after.2.nonFilesSkipped = before.2.nonFilesSkipped
  readErrors : after.2.readErrors = before.2.readErrors

variable {v : View} {s : Selection} {folder : Path} {loc : Location} {gone : List Location}
  {es : List Entry}

/-! ## Listings -/

namespace Listing

/-- Without some files the other entries are listed in the order they had. -/
theorem eq_filter_of_without (hwf : v.tree.WellFormed) (hfiles : ∀ g ∈ gone, v.tree.IsFile g)
    (h : v.Opens folder loc) (horder : InOrder v s folder es) {es' : List Entry}
    (horder' : InOrder (v.without gone) s folder es') :
    es' = es.filter fun e => loc ++ [e.1] ∉ gone := by
  obtain ⟨listing, hlisting, hperm, hlisted⟩ := horder.listed
  have hlisting' : (v.without gone).list folder =
      .ok (listing.filter fun e => loc ++ [e.1] ∉ gone) := by
    rw [h.list] at hlisting
    injection hlisting with hlisting
    rw [(h.without hwf hfiles).list, ← hlisting, List.filter_map]
    exact congrArg Except.ok (congrArg _ (Tree.entries_without hwf hfiles loc))
  exact horder'.unique ⟨⟨_, hlisting', hperm.filter _, fun hsorted => by rw [hlisted hsorted]⟩,
    fun hsorted => (horder.byName hsorted).filter _⟩

end Listing

namespace Scan

/-! ## Visits -/

/-- Without following links an entry that is to be taken is a file of the folder. -/
theorem file_of_takes (hlinks : s.followLinks = false) (hopens : v.Opens folder loc)
    (horder : Listing.InOrder v s folder es) {e : Entry} (he : e ∈ es)
    (h : s.Takes v folder e) :
    ∃ access content, v.tree.get? (loc ++ [e.1]) = some (.file access content) := by
  rcases h.2 with hfile | ⟨hfollow, _⟩
  · exact horder.file_of_mem hopens he hfile
  · rw [hlinks] at hfollow
    cases hfollow

/-- The files that are hashed can be removed by their paths. -/
theorem removable_of_hashed (hwf : v.tree.WellFormed) (hlinks : s.followLinks = false)
    (hopens : v.Opens folder loc) (horder : Listing.InOrder v s folder es) {e : Entry} (he : e ∈ es)
    {f : HashedFile} (h : (visitOf v s folder e).hashed? = some f) :
    v.Removable folder loc e.1 ∧
      ∃ content ∈ v.tree.contents, f = .of (folder.join e.1) content := by
  obtain ⟨access, content, hget⟩ := file_of_takes hlinks hopens horder he (takes_of_hashed h)
  obtain ⟨_, given, hread, rfl⟩ := hashed_visitOf h
  have hname := horder.isName_of_mem hopens hwf he
  obtain ⟨hrefusal, rfl⟩ := hopens.of_read_join hname hget hread
  have hitem := (Tree.get?_eq_some_iff (by simp) _).mp hget
  exact ⟨⟨hname, ⟨access, given, hget⟩, hrefusal⟩, given,
    List.mem_filterMap.mpr ⟨_, hitem, rfl⟩, rfl⟩

/-- Entries that are kept are visited as before. -/
theorem visitOf_without (hwf : v.tree.WellFormed) (hfiles : ∀ g ∈ gone, v.tree.IsFile g)
    (hlinks : s.followLinks = false) (hopens : v.Opens folder loc)
    (horder : Listing.InOrder v s folder es) {e : Entry} (he : e ∈ es)
    (hkept : loc ++ [e.1] ∉ gone) :
    visitOf (v.without gone) s folder e = visitOf v s folder e := by
  have hsight : Listing.sight (v.without gone) s folder e = Listing.sight v s folder e := by
    have hfile : ∀ kind, Listing.isFile (v.without gone) s (folder.join e.1) kind =
        Listing.isFile v s (folder.join e.1) kind := by
      intro kind
      cases kind <;> simp [Listing.isFile, hlinks]
    rw [Listing.sight, Listing.sight, hfile]
  rw [visitOf, visitOf, hsight]
  by_cases htakes : s.Takes v folder e
  · have hfile : v.tree.IsFile (loc ++ [e.1]) := file_of_takes hlinks hopens horder he htakes
    rw [Listing.sight_of_takes htakes]
    simp only
    rw [hopens.read_without hwf hfiles (horder.isName_of_mem hopens hwf he) hfile hkept]
  · rcases Listing.sight_of_not_takes htakes with hunwanted | hnonFile
    · rw [hunwanted]
    · rw [hnonFile]

/-! ## What is hashed -/

/-- Files with one digest have one size if digests keep the contents in the tree apart. -/
theorem sizesAgree_hashedOf (hwf : v.tree.WellFormed) (hlinks : s.followLinks = false)
    (hopens : v.Opens folder loc) (horder : Listing.InOrder v s folder es)
    (hapart : Digest.KeepsApart v.tree.contents) :
    Grouping.SizesAgree (hashedOf v s folder es) := by
  intro f hf g hg hdigest
  obtain ⟨e, he, hef⟩ := mem_hashedOf.mp hf
  obtain ⟨e', he', heg⟩ := mem_hashedOf.mp hg
  obtain ⟨_, a, ha, rfl⟩ := removable_of_hashed hwf hlinks hopens horder he hef
  obtain ⟨_, b, hb, rfl⟩ := removable_of_hashed hwf hlinks hopens horder he' heg
  exact congrArg List.length (hapart a ha b hb hdigest)

/-- A spare path is that of a removable file, and of no entry that was not hashed. -/
theorem hashed_of_mem_spare {p : Path}
    (h : p ∈ Grouping.spare (Grouping.groups (hashedOf v s folder es))) :
    ∃ e ∈ es, p = folder.join e.1 ∧ ∃ f, (visitOf v s folder e).hashed? = some f := by
  obtain ⟨g, hg, hp⟩ := List.mem_flatMap.mp h
  obtain ⟨_, d, _, rfl⟩ := Grouping.mem_groups.mp hg
  obtain ⟨f, hf, rfl⟩ := List.mem_map.mp (List.mem_of_mem_tail hp)
  obtain ⟨e, he, hashed⟩ := mem_hashedOf.mp (List.mem_of_mem_filter hf)
  obtain ⟨_, content, _, rfl⟩ := hashed_visitOf hashed
  exact ⟨e, he, rfl, _, hashed⟩

/-! ## The second scan -/

/-- The entries that are left when the spare files are gone. -/
def leftOver (v : View) (s : Selection) (folder : Path) (es : List Entry) : List Entry :=
  es.filter fun e =>
    !(Grouping.spare (Grouping.groups (hashedOf v s folder es))).contains (folder.join e.1)

theorem mem_leftOver {e : Entry} :
    e ∈ leftOver v s folder es ↔
      e ∈ es ∧ folder.join e.1 ∉ Grouping.spare (Grouping.groups (hashedOf v s folder es)) := by
  rw [leftOver, List.mem_filter]
  simp

/-- What is left is hashed as before: the files that are kept. -/
theorem hashedOf_leftOver (v : View) (s : Selection) (folder : Path) (es : List Entry) :
    hashedOf v s folder (leftOver v s folder es) = Grouping.kept (hashedOf v s folder es) := by
  rw [hashedOf, leftOver, Grouping.kept]
  generalize Grouping.spare (Grouping.groups (hashedOf v s folder es)) = spare
  rw [hashedOf, List.filterMap_map, List.filterMap_map, List.filterMap_filter,
    List.filter_filterMap]
  apply List.filterMap_congr
  intro e _
  simp only [Function.comp_apply]
  cases hhashed : (visitOf v s folder e).hashed? with
  | none => simp
  | some f =>
    obtain ⟨_, content, _, rfl⟩ := hashed_visitOf hhashed
    by_cases hspare : folder.join e.1 ∈ spare <;>
      simp [Option.filter_some, HashedFile.of, hspare]

/-- An entry that is not left was hashed. -/
theorem hashed_of_mem_spare_join (horder : Listing.InOrder v s folder es) {e : Entry} (he : e ∈ es)
    (h : folder.join e.1 ∈ Grouping.spare (Grouping.groups (hashedOf v s folder es))) :
    ∃ f, (visitOf v s folder e).hashed? = some f := by
  obtain ⟨e', he', hpath, hashed⟩ := hashed_of_mem_spare h
  -- paths of entries tell their names, and names are different
  have hsame : e' = e :=
    List.inj_on_of_nodup_map horder.nodup_names he' he (Path.join_injective folder hpath).symm
  exact hsame ▸ hashed

/-- So what a scan keeps of files that are not hashed stays. -/
theorem filterMap_leftOver (horder : Listing.InOrder v s folder es) {α : Type}
    (held : Visit → Option α) (hheld : ∀ visit f, visit.hashed? = some f → held visit = none) :
    ((leftOver v s folder es).map (visitOf v s folder)).filterMap held =
      (es.map (visitOf v s folder)).filterMap held := by
  rw [leftOver, List.filterMap_map, List.filterMap_map, List.filterMap_filter]
  apply List.filterMap_congr
  intro e he
  split
  · rfl
  · next hgone =>
    have hspare := by simpa using hgone
    obtain ⟨f, hashed⟩ := hashed_of_mem_spare_join horder he hspare
    exact (hheld _ f hashed).symm

/-- Paths of entries are made of names. -/
theorem exists_names {paths : List Path} {suits : Bytes → Prop}
    (h : ∀ p ∈ paths, ∃ name, suits name ∧ p = folder.join name) :
    ∃ names : List Bytes, paths = names.map folder.join ∧ ∀ name ∈ names, suits name := by
  induction paths with
  | nil => exact ⟨[], rfl, List.forall_mem_nil _⟩
  | cons p paths ih =>
    obtain ⟨name, hname, rfl⟩ := h p List.mem_cons_self
    obtain ⟨names, rfl, hnames⟩ := ih fun q hq => h q (List.mem_cons_of_mem _ hq)
    exact ⟨name :: names, rfl, List.forall_mem_cons.mpr ⟨hname, hnames⟩⟩

/-- Once the spare files are removed, the folder passes the check, and the entries that are left are
visited as before. -/
theorem visits_removeAll (hwf : v.tree.WellFormed) (hlinks : s.followLinks = false)
    (hopens : v.Opens folder loc) (horder : Listing.InOrder v s folder es) :
    let v' := v.removeAll (Grouping.spare (Grouping.groups (hashedOf v s folder es)))
    Listing.validate v' folder = .ok () ∧
      visits v' s folder [] = (leftOver v s folder es).map (visitOf v s folder) := by
  intro v'
  have hremovable : ∀ p ∈ Grouping.spare (Grouping.groups (hashedOf v s folder es)),
      ∃ name, v.Removable folder loc name ∧ p = folder.join name := by
    intro p hp
    obtain ⟨e, he, hpath, f, hashed⟩ := hashed_of_mem_spare hp
    exact ⟨e.1, (removable_of_hashed hwf hlinks hopens horder he hashed).1, hpath⟩
  -- so the removal takes away the files at these names, and the entries keep their order
  obtain ⟨names, hspare, hnames⟩ := exists_names hremovable
  have hfiles : ∀ g ∈ names.map fun name => loc ++ [name], v.tree.IsFile g :=
    List.forall_mem_map.mpr fun name hname => (hnames name hname).isFile
  have hv' : v' = v.without (names.map fun name => loc ++ [name]) := by
    rw [← hopens.removeAll_join hwf hnames, ← hspare]
  rw [hv']
  have hopens' := hopens.without hwf hfiles
  have valid' := Listing.valid_of_opens hopens'
  obtain ⟨es', horder', hvisits⟩ := visits_of_valid valid' s
  have hiff (e : Entry) : loc ++ [e.1] ∈ (names.map fun name => loc ++ [name]) ↔
      folder.join e.1 ∈ names.map folder.join := by
    simp only [List.mem_map, List.append_cancel_left_eq, List.cons.injEq, and_true]
    exact exists_congr fun name => and_congr_right fun _ =>
      ⟨fun heq => by rw [heq], fun heq => Path.join_injective folder heq⟩
  have hleft : es' = leftOver v s folder es := by
    rw [Listing.eq_filter_of_without hwf hfiles hopens horder horder', leftOver, hspare]
    simp only [hiff, List.contains_eq_mem, decide_not]
  refine ⟨valid', hvisits.trans ?_⟩
  rw [hleft]
  apply List.map_congr_left
  intro e he
  obtain ⟨hmem, hkept⟩ := mem_leftOver.mp he
  rw [hspare] at hkept
  exact visitOf_without hwf hfiles hlinks hopens horder hmem (mt (hiff e).mp hkept)

/-- The counts of a scan balance, and its numbers about duplicates are those of its groups. -/
theorem balances_ofVisits (s : Selection) (folder : Path) (visits : List Visit) :
    (ofVisits s folder visits).result.2.Balances visits := by
  rw [summary_ofVisits]
  exact (passOf_covers s folder visits).balances

/-- Visits that are left when all but one file of each digest are gone lead to no groups, and to the
counts that there were without the copies. -/
theorem cleanedUp_of_kept (s : Selection) (folder : Path) {visits left : List Visit}
    (hpaths : ((visits.filterMap Visit.hashed?).map HashedFile.path).Nodup)
    (hhashed : left.filterMap Visit.hashed? = Grouping.kept (visits.filterMap Visit.hashed?))
    (herrors : left.filterMap Visit.readError? = visits.filterMap Visit.readError?)
    (hnonFiles : left.filter Visit.isNonFile = visits.filter Visit.isNonFile)
    {contents : List Bytes} (hagree : Digest.KeepsApart contents →
      Grouping.SizesAgree (visits.filterMap Visit.hashed?)) :
    Findings.CleanedUp contents (ofVisits s folder visits).result
      (ofVisits s folder left).result := by
  have hbefore := balances_ofVisits s folder visits
  have hafter := balances_ofVisits s folder left
  obtain ⟨_, hreadErrors⟩ := findings_ofVisits s folder visits
  obtain ⟨hgroups', hreadErrors'⟩ := findings_ofVisits s folder left
  have hnone : (ofVisits s folder left).result.1 = [] := by
    rw [hgroups', hhashed, Grouping.groups_kept hpaths]
  -- without groups there are neither copies nor space to free
  have htotal (number : Group → Nat) :
      Summary.total ((ofVisits s folder left).result.1.map number) = 0 := by
    rw [hnone]
    rfl
  have hcopies : (ofVisits s folder left).result.2.duplicateFiles = 0 :=
    htotal Group.duplicateCount
  have hspace : (ofVisits s folder left).result.2.reclaimableSpace = 0 := htotal Group.wastedSpace
  have hsame : (ofVisits s folder left).result.2.nonFilesSkipped =
      (ofVisits s folder visits).result.2.nonFilesSkipped := by
    show (passOf s folder left).summary.nonFilesSkipped =
      (passOf s folder visits).summary.nonFilesSkipped
    rw [(passOf_covers s folder left).nonFiles, (passOf_covers s folder visits).nonFiles,
      List.countP_eq_length_filter, List.countP_eq_length_filter, hnonFiles]
  have hreported : (ofVisits s folder left).result.2.readErrors =
      (ofVisits s folder visits).result.2.readErrors := by
    rw [hreadErrors', hreadErrors, herrors]
  have hfiles : (ofVisits s folder left).result.2.filesHashed +
      (ofVisits s folder visits).result.2.duplicateFiles =
        (ofVisits s folder visits).result.2.filesHashed := by
    rw [hafter.files, hbefore.files, hcopies, hhashed, Grouping.keys_kept hpaths, Nat.zero_add,
      Nat.add_comm]
  refine ⟨hnone, hfiles, ?_, ?_, hsame, hreported⟩
  · rw [hafter.examined, hbefore.examined, hsame, hreported, ← hfiles]
    omega
  · intro hapart
    have hkept : Grouping.SizesAgree (Grouping.kept (visits.filterMap Visit.hashed?)) :=
      fun f hf g hg =>
        hagree hapart f (List.mem_of_mem_filter hf) g (List.mem_of_mem_filter hg)
    rw [hafter.bytes (hhashed ▸ hkept), hbefore.bytes (hagree hapart), hspace, hhashed,
      Grouping.keys_kept hpaths]
    simp only [Grouping.size_group_kept hpaths]
    rw [Nat.zero_add, Nat.add_comm]

/-- A scan of what is left finds no groups, and counts what was counted without the copies. -/
theorem cleanedUp_leftOver (hwf : v.tree.WellFormed) (hlinks : s.followLinks = false)
    (hopens : v.Opens folder loc) (horder : Listing.InOrder v s folder es) :
    Findings.CleanedUp v.tree.contents
      (ofVisits s folder (es.map (visitOf v s folder))).result
      (ofVisits s folder ((leftOver v s folder es).map (visitOf v s folder))).result := by
  have herrors := filterMap_leftOver horder Visit.readError? (by
    intro visit f h
    cases visit with
    | file path outcome =>
      cases outcome with
      | ok content => rfl
      | error cause => cases h
    | _ => rfl)
  have hnonFiles := filterMap_leftOver horder (Option.guard Visit.isNonFile) (by
    intro visit f h
    cases visit with
    | nonFile path => cases h
    | _ => rfl)
  rw [List.filterMap_eq_filter] at hnonFiles
  exact cleanedUp_of_kept s folder (nodup_paths_hashedOf horder) (hashedOf_leftOver v s folder es)
    herrors hnonFiles (sizesAgree_hashedOf hwf hlinks hopens horder)

/-- Cleaning up a folder that passes the check. The tree may be any that a file system can hold, as
all are that changes lead to (`View.wellFormed_edits`), and links are not followed. When all paths of
the groups that a scan has found are removed but for the first of each, a second scan succeeds and
finds no groups. It counts as many files and entries less as the first has told of copies, and as
many bytes less as they take up if digests keep the contents in the tree apart; entries that are no
files and files that cannot be read are as before. -/
theorem second_scan_finds_none (v : View) (s : Selection) (folder : Path)
    (hwf : v.tree.WellFormed) (hlinks : s.followLinks = false)
    (valid : Listing.validate v folder = .ok ()) :
    ∃ before after, (strict v s [] folder).result = .ok before ∧
      (strict (v.removeAll (before.1.flatMap fun g => g.paths.tail)) s [] folder).result =
        .ok after ∧
      Findings.CleanedUp v.tree.contents before after := by
  obtain ⟨loc, hopens⟩ := Listing.opens_of_valid valid
  obtain ⟨es, horder, hvisits⟩ := visits_of_valid valid s
  have hgroups : (ofVisits s folder (es.map (visitOf v s folder))).result.1 =
      Grouping.groups (hashedOf v s folder es) := (findings_ofVisits s folder _).1
  refine ⟨_, _, ?_, ?_, cleanedUp_leftOver hwf hlinks hopens horder⟩
  · rw [strict_of_valid valid, hvisits]
  · obtain ⟨valid', hvisits'⟩ := visits_removeAll hwf hlinks hopens horder
    rw [hgroups]
    show (strict (v.removeAll (Grouping.spare _)) s [] folder).result = _
    rw [strict_of_valid valid', hvisits']

/-- A folder with three equal files, one of which nobody may read, another file, a link to one of
them and a folder. -/
def crowdedFolder : View :=
  .built (utf8 "/d") false [
    .file (utf8 "o1") (utf8 "x"), .file (utf8 "o2") (utf8 "y"), .file (utf8 "o3") (utf8 "x"),
    .link (utf8 "o4") (utf8 "o3"), .file (utf8 "o5") (utf8 "x"),
    .access (utf8 "o5") ⟨false, false⟩, .folder (utf8 "o6")]

/-- There one of the equal files is removed. -/
theorem second_scan_of_crowdedFolder :
    crowdedFolder.tree.WellFormed ∧
      ∃ before after,
        (strict crowdedFolder ⟨utf8 "o", false, false⟩ [] (utf8 ".")).result = .ok before ∧
        before.1.map Group.paths = [[utf8 "./o1", utf8 "./o3"]] ∧
        (strict (crowdedFolder.edit (.remove (utf8 "./o3"))) ⟨utf8 "o", false, false⟩ []
          (utf8 ".")).result = .ok after ∧
        Findings.CleanedUp crowdedFolder.tree.contents before after := by
  have hwf : crowdedFolder.tree.WellFormed := View.wellFormed_edits _ _ _
  have hpaths : ∀ before,
      (strict crowdedFolder ⟨utf8 "o", false, false⟩ [] (utf8 ".")).result = .ok before →
        before.1.map Group.paths = [[utf8 "./o1", utf8 "./o3"]] := by
    have hfound : ((strict crowdedFolder ⟨utf8 "o", false, false⟩ [] (utf8 ".")).result.toOption.map
        fun before => before.1.map Group.paths) = some [[utf8 "./o1", utf8 "./o3"]] := by
      decide +kernel
    intro before hbefore
    rw [hbefore] at hfound
    exact Option.some.inj hfound
  obtain ⟨before, after, hbefore, hafter, hclean⟩ :=
    second_scan_finds_none crowdedFolder ⟨utf8 "o", false, false⟩ (utf8 ".") hwf rfl (by rfl)
  have hspare : (before.1.flatMap fun g => g.paths.tail) = [utf8 "./o3"] := by
    have hmap : (before.1.flatMap fun g => g.paths.tail) =
        (before.1.map Group.paths).flatMap List.tail := by
      rw [List.flatMap_map]
    rw [hmap, hpaths before hbefore]
    rfl
  rw [hspare] at hafter
  exact ⟨hwf, before, after, hbefore, hpaths before hbefore, hafter, hclean⟩

end Scan

end TwinFiles
