import TwinFiles.Proofs.Group.Content
import TwinFiles.Proofs.Scan.Folder

/-!
# What a scan has to find

`Findings.Match` says what the findings of a scan are in terms of the files that can be read and
their contents: the files that share a content make up a group, and every other file that should
have been read is reported. `strict_matches_contents` shows it of the scan of a folder in which
nothing changes. Files are told apart by their digests, so what is said about different contents
holds as far as the digests of the contents at hand keep them apart.
-/

namespace TwinFiles

/-- The findings are those for files with these contents, and for files that could not be read. -/
structure Findings.Match (f : Findings) (files : List FileContent) (refused : List ReadError) :
    Prop where
  /-- The files of a group have been read, and the group has the digest of their content. -/
  members : ∀ g ∈ f.1, ∀ p ∈ g.paths, ∃ content, (p, content) ∈ files ∧ g.digest = .of content
  /-- No path comes twice. -/
  once : (f.1.flatMap Group.paths).Nodup
  /-- There is one group for each digest that two files have at least. -/
  byDigest : f.1 = Grouping.groups (Grouping.hashAll files)
  /-- Equal digests, and so equal contents, are put together. -/
  together : ∀ a ∈ files, ∀ b ∈ files, a ≠ b →
    (Grouping.Share f.1 a.1 b.1 ↔ Digest.of a.2 = Digest.of b.2)
  /-- There is one group for each content that two files have at least. -/
  byContent : Digest.KeepsApart (files.map Prod.snd) → f.1 = Grouping.contentGroups files
  /-- Only equal contents are put together. -/
  apart : Digest.KeepsApart (files.map Prod.snd) → ∀ a ∈ files, ∀ b ∈ files, a ≠ b →
    (Grouping.Share f.1 a.1 b.1 ↔ a.2 = b.2)
  /-- The size of a group is that of each of its files. -/
  sizes : Digest.KeepsApart (files.map Prod.snd) →
    ∀ g ∈ f.1, ∀ a ∈ files, a.1 ∈ g.paths → g.size = a.2.length
  readErrors : f.2.readErrors = refused

namespace Scan

/-- Visits lead to the groups of the files that were hashed, and the errors are kept. -/
theorem findings_ofVisits (s : Selection) (folder : Path) (visits : List Visit) :
    (ofVisits s folder visits).result.1 = Grouping.groups (visits.filterMap Visit.hashed?) ∧
      (ofVisits s folder visits).result.2.readErrors = visits.filterMap Visit.readError? := by
  have h := passOf_covers s folder visits
  constructor
  · rw [groups_ofVisits, h.buckets, Buckets.groups_ofFiles]
  · rw [summary_ofVisits]
    exact h.readErrors

/-- The paths of files that can be read are some of the paths. -/
theorem paths_contents_sublist (v : View) (paths : List Path) :
    ((v.contents paths).map Prod.fst).Sublist paths := by
  induction paths with
  | nil => exact .slnil
  | cons p paths ih =>
    rw [View.contents, List.filterMap_cons]
    cases v.read p with
    | ok content => exact ih.cons_cons p
    | error cause => exact ih.cons p

/-- Whatever has hashed files with different paths has found what there is. -/
theorem match_of_groups {f : Findings} {files : List FileContent} {refused : List ReadError}
    (hpaths : (files.map Prod.fst).Nodup) (hgroups : f.1 = Grouping.groups (Grouping.hashAll files))
    (hrefused : f.2.readErrors = refused) : f.Match files refused where
  members := by
    intro g hg p hp
    rw [hgroups] at hg
    exact Grouping.mem_paths_groups hg hp
  once := by
    rw [hgroups]
    exact Grouping.nodup_paths_groups hpaths
  byDigest := hgroups
  together := by
    intro a ha b hb hne
    rw [hgroups]
    exact Grouping.share_iff_digest_eq hpaths ha hb hne
  byContent := by
    intro hapart
    rw [hgroups]
    exact Grouping.groups_hashAll hapart
  apart := by
    intro hapart a ha b hb hne
    rw [hgroups]
    exact Grouping.share_iff_content_eq hpaths hapart ha hb hne
  sizes := by
    intro hapart g hg a ha hp
    rw [hgroups, Grouping.groups_hashAll hapart] at hg
    exact Grouping.size_of_mem_contentGroups hpaths hg ha hp
  readErrors := hrefused

/-- A scan of a folder that passes the check, in a tree that does not change, takes the folder's
entries in order, reads those it is to take, and finds the groups of equal contents among them. -/
theorem strict_matches_contents (v : View) (s : Selection) (folder : Path)
    (valid : Listing.validate v folder = .ok ()) :
    ∃ es findings,
      Listing.InOrder v s folder es ∧ (strict v s [] folder).result = .ok findings ∧
      findings.Match (v.contents (s.takenPaths v folder es))
        (v.refusals (s.takenPaths v folder es)) := by
  obtain ⟨es, hentries, horder⟩ := Listing.entries_of_valid valid s
  have hvisits : visits v s folder [] = visitEntries s folder v [] es := by
    rw [visits, hentries]
  obtain ⟨hhashed, herrors⟩ := outcomes_visitEntries v s folder es
  obtain ⟨hgroups, hreadErrors⟩ := findings_ofVisits s folder (visitEntries s folder v [] es)
  refine ⟨es, (ofVisits s folder (visitEntries s folder v [] es)).result, horder, ?_, ?_⟩
  · rw [strict_of_valid valid, hvisits]
  · have hnodup : (s.takenPaths v folder es).Nodup :=
      horder.nodup_paths.sublist (List.filter_sublist.map _)
    apply match_of_groups
    · exact hnodup.sublist (paths_contents_sublist v _)
    · rw [hgroups, hhashed]
      rfl
    · rw [hreadErrors, herrors]

/-- A folder with two equal files, a link to one of them, a file that differs, one that nobody may
read and one whose name is not wanted. -/
def twinFolder : View where
  tree :=
    { items := [
        ([utf8 "o1"], .file .newFile (utf8 "x")), ([utf8 "o2"], .file .newFile (utf8 "y")),
        ([utf8 "o3"], .file .newFile (utf8 "x")), ([utf8 "o4"], .link (utf8 "o1")),
        ([utf8 "o5"], .file ⟨false, false⟩ (utf8 "x")), ([utf8 "p"], .file .newFile (utf8 "x"))]
      nodup := by decide +kernel }
  home := []
  privileged := false
  account := none

/-- There the two equal files and the link are found, and the file that nobody may read is reported:
both digests at hand are different. -/
theorem strict_finds_twins :
    Listing.validate twinFolder (utf8 "/") = .ok () ∧
      ∃ findings,
        (strict twinFolder (.ofPrefix (utf8 "o")) [] (utf8 "/")).result = .ok findings ∧
        findings.1 = [⟨.of (utf8 "x"), 1, [utf8 "/o1", utf8 "/o3", utf8 "/o4"]⟩] ∧
        findings.2.readErrors = [⟨utf8 "/o5", .accessDenied⟩] := by
  have valid : Listing.validate twinFolder (utf8 "/") = .ok () := by rfl
  obtain ⟨es, findings, horder, hresult, hmatch⟩ :=
    strict_matches_contents twinFolder (.ofPrefix (utf8 "o")) (utf8 "/") valid
  obtain ⟨listing, hlisting, _, heq⟩ := horder.listed
  have hlist : twinFolder.list (utf8 "/") = .ok [(utf8 "o1", .file), (utf8 "o2", .file),
      (utf8 "o3", .file), (utf8 "o4", .link), (utf8 "o5", .file), (utf8 "p", .file)] := by rfl
  rw [hlist] at hlisting
  injection hlisting with hlisting
  rw [heq rfl, ← hlisting] at hmatch
  refine ⟨valid, findings, hresult, ?_, hmatch.readErrors⟩
  have hapart : Digest.KeepsApart [utf8 "x", utf8 "y", utf8 "x", utf8 "x"] := by decide +kernel
  exact hmatch.byContent hapart

end Scan

end TwinFiles
