import TwinFiles.Proofs.Group.Order
import TwinFiles.Proofs.Scan.Answer
import TwinFiles.Proofs.Scan.Opening
import TwinFiles.Proofs.Scan.Trace
import TwinFiles.Proofs.Tree.Change
import TwinFiles.Proofs.Tree.Spelling

/-!
# Scans under different spellings of a folder

What a scan tells of a folder's entries can be told by their names alone, and the paths that it
shows are the folder as given with the names behind it: putting them there commutes with grouping
(`groups_behind`), counting (`over_behind`) and calling (`calls_behind`). So a folder that is
spelled in two ways is scanned alike (`folder_spelling_only_leads_paths`).
-/

namespace TwinFiles

/-! ## Names behind a folder -/

def HashedFile.behind (folder : Path) (f : HashedFile) : HashedFile :=
  { f with path := folder.join f.path }

def Group.behind (folder : Path) (g : Group) : Group :=
  { g with paths := g.paths.map folder.join }

def ReadError.behind (folder : Path) (e : ReadError) : ReadError :=
  { e with path := folder.join e.path }

def FolderError.behind (folder : Path) : FolderError → FolderError
  | permissionDenied path => permissionDenied (folder.join path)
  | notFound path => notFound (folder.join path)
  | notADirectory path => notADirectory (folder.join path)
  | failed path cause => failed (folder.join path) cause

def Visit.behind (folder : Path) : Visit → Visit
  | unwanted path => unwanted (folder.join path)
  | nonFile path => nonFile (folder.join path)
  | file path outcome => file (folder.join path) outcome
  | failed path cause => failed (folder.join path) cause

/-- The path of a visit. -/
def Visit.path : Visit → Path
  | unwanted path => path
  | nonFile path => path
  | file path _ => path
  | failed path _ => path

/-- A call about an entry. The calls about the folder itself are as they are. -/
def Call.behind (folder : Path) : Call → Call
  | start path wanted => start path wanted
  | entry path => entry (folder.join path)
  | hashed file => hashed (file.behind folder)
  | readError e => readError (e.behind folder)
  | entryError e => entryError (e.behind folder)
  | invalid e => invalid e

/-- Findings about the names in a folder, told of the folder as given. -/
def Findings.behind (folder : Path) (f : Findings) : Findings :=
  (f.1.map (Group.behind folder),
    { f.2 with
      folder := folder
      readErrors := f.2.readErrors.map (ReadError.behind folder)
      entryErrors := f.2.entryErrors.map (FolderError.behind folder) })

theorem Group.duplicateCount_behind (folder : Path) (g : Group) :
    (g.behind folder).duplicateCount = g.duplicateCount := by
  simp only [duplicateCount, behind, List.length_map]

theorem Group.wastedSpace_behind (folder : Path) (g : Group) :
    (g.behind folder).wastedSpace = g.wastedSpace := by
  rw [wastedSpace, wastedSpace, duplicateCount_behind]
  rfl

namespace Grouping

/-- Groups do not depend on where their paths lead. -/
theorem groups_behind (folder : Path) (files : List HashedFile) :
    groups (files.map (HashedFile.behind folder)) = (groups files).map (Group.behind folder) := by
  have hmembers (d : Digest) : members (files.map (HashedFile.behind folder)) d =
      (members files d).map (HashedFile.behind folder) :=
    List.filter_map
  have hdigests : digests (files.map (HashedFile.behind folder)) = digests files := by
    rw [digests, digests, List.map_map]
    rfl
  have hgroup (d : Digest) : group (files.map (HashedFile.behind folder)) d =
      (group files d).behind folder := by
    simp only [group, Group.behind, hmembers, List.head?_map, Option.map_map, List.map_map]
    rfl
  rw [groups_eq_map, groups_eq_map, hdigests, List.map_map]
  simp only [hmembers, List.length_map]
  exact List.map_congr_left fun d _ => hgroup d

end Grouping

namespace Visit

variable (folder : Path) (visit : Visit)

theorem hashed?_behind :
    (visit.behind folder).hashed? = visit.hashed?.map (HashedFile.behind folder) := by
  cases visit with
  | file path outcome => cases outcome <;> rfl
  | _ => rfl

theorem readError?_behind :
    (visit.behind folder).readError? = visit.readError?.map (ReadError.behind folder) := by
  cases visit with
  | file path outcome => cases outcome <;> rfl
  | _ => rfl

theorem entryError?_behind :
    (visit.behind folder).entryError? = visit.entryError?.map (FolderError.behind folder) := by
  cases visit <;> rfl

theorem isExamined_behind : (visit.behind folder).isExamined = visit.isExamined := by
  cases visit <;> rfl

theorem isNonFile_behind : (visit.behind folder).isNonFile = visit.isNonFile := by
  cases visit <;> rfl

theorem calls_behind : (visit.behind folder).calls = visit.calls.map (Call.behind folder) := by
  cases visit with
  | file path outcome => cases outcome <;> rfl
  | _ => rfl

end Visit

/-- What visits hold behind a folder is what they hold, behind the folder. -/
theorem filterMap_behind {α : Type} {held : Visit → Option α} {behind : α → α} {folder : Path}
    (h : ∀ visit : Visit, held (visit.behind folder) = (held visit).map behind)
    (visits : List Visit) :
    (visits.map (Visit.behind folder)).filterMap held = (visits.filterMap held).map behind := by
  rw [List.filterMap_map, List.map_filterMap]
  exact List.filterMap_congr fun visit _ => h visit

theorem Findings.over_behind (folder : Path) (wanted : Bytes) (visits : List Visit) :
    Findings.over folder wanted (visits.map (Visit.behind folder)) =
      (Findings.over [] wanted visits).behind folder := by
  have hashed := filterMap_behind (Visit.hashed?_behind folder) visits
  have hreadErrors := filterMap_behind (Visit.readError?_behind folder) visits
  have hentryErrors := filterMap_behind (Visit.entryError?_behind folder) visits
  have hcount {test : Visit → Bool}
      (htest : ∀ visit : Visit, test (visit.behind folder) = test visit) :
      (visits.map (Visit.behind folder)).countP test = visits.countP test := by
    rw [List.countP_map]
    exact List.countP_congr fun visit _ => by rw [Function.comp_apply, htest]
  have hcopies : Group.duplicateCount ∘ Group.behind folder = Group.duplicateCount :=
    funext (Group.duplicateCount_behind folder)
  have hspace : Group.wastedSpace ∘ Group.behind folder = Group.wastedSpace :=
    funext (Group.wastedSpace_behind folder)
  rw [Findings.over, Summary.over, hashed, hreadErrors, hentryErrors,
    hcount (Visit.isExamined_behind folder), hcount (Visit.isNonFile_behind folder),
    Grouping.groups_behind]
  simp only [Findings.behind, Findings.over, Summary.over, Summary.withGroups, List.length_map,
    List.map_map, hcopies, hspace]
  rfl

namespace Scan

/-! ## Visits by name -/

/-- The visit of an entry, told by its name. -/
def nameVisitOf (v : View) (s : Selection) (folder : Path) (e : Entry) : Visit :=
  if s.wanted <+: e.1 then
    if s.Takes v folder e then .file e.1 (v.read (folder.join e.1)) else .nonFile e.1
  else .unwanted e.1

variable {v : View} {s : Selection} {p q : Path} {loc : Location} {es : List Entry}

theorem visitOf_eq_behind (v : View) (s : Selection) (folder : Path) (e : Entry) :
    visitOf v s folder e = (nameVisitOf v s folder e).behind folder := by
  rw [nameVisitOf]
  by_cases hwanted : s.wanted <+: e.1
  · rw [if_pos hwanted, visitOf_of_wanted hwanted]
    split <;> rfl
  · rw [if_neg hwanted, visitOf_of_not_wanted hwanted]
    rfl

theorem path_nameVisitOf (v : View) (s : Selection) (folder : Path) (e : Entry) :
    (nameVisitOf v s folder e).path = e.1 := by
  rw [nameVisitOf]
  split
  · split <;> rfl
  · rfl

/-- A name is visited alike behind both spellings. -/
theorem nameVisitOf_eq (hp : v.resolve true p = .ok loc) (hq : v.resolve true q = .ok loc)
    {e : Entry} (hname : IsName e.1) (hlimits : s.wanted <+: e.1 → v.LimitsAlike p q e.1) :
    nameVisitOf v s q e = nameVisitOf v s p e := by
  rw [nameVisitOf, nameVisitOf]
  by_cases hwanted : s.wanted <+: e.1
  · have hitem := View.item_join_eq hp hq hname (hlimits hwanted)
    have htakes : s.Takes v q e ↔ s.Takes v p e := by
      rw [Selection.Takes, Selection.Takes, View.LeadsToFile, View.LeadsToFile, hitem]
    simp only [if_pos hwanted, htakes, View.read, hitem]
  · rw [if_neg hwanted, if_neg hwanted]

/-- The scan of a folder is told by the visits of names behind it. -/
theorem strict_behind {folder : Path} (valid : Listing.validate v folder = .ok ())
    {named : List Visit} (hvisits : visits v s folder [] = named.map (Visit.behind folder)) :
    (strict v s [] folder).result = .ok ((Findings.over [] s.wanted named).behind folder) ∧
      (strict v s [] folder).calls =
        .start folder s.wanted :: (named.flatMap Visit.calls).map (Call.behind folder) := by
  have hcalls : (named.map (Visit.behind folder)).flatMap Visit.calls =
      (named.flatMap Visit.calls).map (Call.behind folder) := by
    rw [List.flatMap_map, List.map_flatMap]
    exact List.flatMap_congr fun visit _ => visit.calls_behind folder
  have htells := strict_tellsOf valid s
  rw [hvisits] at htells
  refine ⟨?_, ?_⟩
  · rw [htells.result, Findings.over_behind]
  · rw [htells.calls, hcalls]

/-- How a folder is spelled does not matter. Where another path leads to a folder that passes the
check, and the names of wanted entries meet the limits of the system alike behind both, the entries
come in one order and are visited alike: what both scans find and call can be told by the names, and
every path that is shown is the folder as given with a name behind it. -/
theorem folder_spelling_only_leads_paths (v : View) (s : Selection) (p q : Path)
    (hwf : v.tree.WellFormed) (valid : Listing.validate v p = .ok ())
    (hsame : v.resolve true q = v.resolve true p)
    (hlimits : ∀ listing, v.list p = .ok listing → ∀ e ∈ listing, s.wanted <+: e.1 →
      v.LimitsAlike p q e.1) :
    ∃ es named, Listing.InOrder v s p es ∧ Listing.InOrder v s q es ∧
      named.map Visit.path = es.map Prod.fst ∧
      ∀ folder, folder = p ∨ folder = q →
        visits v s folder [] = named.map (Visit.behind folder) ∧
        (strict v s [] folder).result = .ok ((Findings.over [] s.wanted named).behind folder) ∧
        (strict v s [] folder).calls =
          .start folder s.wanted :: (named.flatMap Visit.calls).map (Call.behind folder) := by
  obtain ⟨loc, hopens⟩ := Listing.opens_of_valid valid
  obtain ⟨es, horder, hvisits⟩ := visits_of_valid valid s
  -- a listing depends on where the path leads, and on nothing else
  have hlist : v.list q = v.list p := by rw [View.list, View.list, hsame]
  obtain ⟨listing, hlisting, hperm, hlisted⟩ := horder.listed
  have valid' := Listing.valid_of_list (hlist.trans hlisting)
  obtain ⟨es', horder', hvisits'⟩ := visits_of_valid valid' s
  have hes : es' = es := Listing.InOrder.unique horder'
    ⟨⟨listing, hlist.trans hlisting, hperm, hlisted⟩, horder.byName⟩
  subst hes
  have hnamed : visits v s p [] = (es'.map (nameVisitOf v s p)).map (Visit.behind p) := by
    rw [hvisits, List.map_map]
    exact List.map_congr_left fun e _ => visitOf_eq_behind v s p e
  have hnamed' : visits v s q [] = (es'.map (nameVisitOf v s p)).map (Visit.behind q) := by
    rw [hvisits', List.map_map]
    apply List.map_congr_left
    intro e he
    rw [Function.comp_apply, visitOf_eq_behind, nameVisitOf_eq hopens.resolve
      (hsame.trans hopens.resolve) (horder.isName_of_mem hopens hwf he)
      (hlimits listing hlisting e (hperm.mem_iff.mp he))]
  refine ⟨es', es'.map (nameVisitOf v s p), horder, horder', ?_, ?_⟩
  · rw [List.map_map]
    exact List.map_congr_left fun e _ => path_nameVisitOf v s p e
  · rintro folder (rfl | rfl)
    · exact ⟨hnamed, strict_behind valid hnamed⟩
    · exact ⟨hnamed', strict_behind valid' hnamed'⟩

/-- A folder that is spelled by a step up from the working folder, and through a link. -/
def linkedFolder : View :=
  .built (utf8 "/d/sub") false [
    .file (utf8 "../o1") (utf8 "x"), .link (utf8 "../o2") (utf8 "../l/o1"),
    .file (utf8 "../o3") (utf8 "x"), .access (utf8 "../o3") ⟨false, false⟩,
    .link (utf8 "/l") (utf8 "d/")]

/-- Both spellings lead to the same group, behind the folder as given. -/
theorem folder_spelling_of_linkedFolder :
    linkedFolder.tree.WellFormed ∧ Listing.validate linkedFolder (utf8 "..") = .ok () ∧
      linkedFolder.resolve true (utf8 "/l//./") = linkedFolder.resolve true (utf8 "..") ∧
      (∀ listing, linkedFolder.list (utf8 "..") = .ok listing → ∀ e ∈ listing, utf8 "o" <+: e.1 →
        linkedFolder.LimitsAlike (utf8 "..") (utf8 "/l//./") e.1) ∧
      ∃ found : Findings,
        (strict linkedFolder (.ofPrefix (utf8 "o")) [] (utf8 "..")).result =
          .ok (found.behind (utf8 "..")) ∧
        (strict linkedFolder (.ofPrefix (utf8 "o")) [] (utf8 "/l//./")).result =
          .ok (found.behind (utf8 "/l//./")) ∧
        (found.behind (utf8 "/l//./")).1.map Group.paths =
          [[utf8 "/l//./o1", utf8 "/l//./o2"]] := by
  have hwf : linkedFolder.tree.WellFormed := View.wellFormed_edits _ _ _
  have valid : Listing.validate linkedFolder (utf8 "..") = .ok () := by rfl
  have hsame : linkedFolder.resolve true (utf8 "/l//./") =
      linkedFolder.resolve true (utf8 "..") := by rfl
  have hlimits : ∀ listing, linkedFolder.list (utf8 "..") = .ok listing →
      ∀ e ∈ listing, utf8 "o" <+: e.1 →
        linkedFolder.LimitsAlike (utf8 "..") (utf8 "/l//./") e.1 := by
    intro listing hlisting e he _
    have hlist : linkedFolder.list (utf8 "..") = .ok [(utf8 "sub", .folder), (utf8 "o1", .file),
        (utf8 "o2", .link), (utf8 "o3", .file)] := by rfl
    rw [hlist] at hlisting
    injection hlisting with hlisting
    subst hlisting
    have hall : ∀ e ∈ [(utf8 "sub", Kind.folder), (utf8 "o1", .file), (utf8 "o2", .link),
        (utf8 "o3", .file)], linkedFolder.LimitsAlike (utf8 "..") (utf8 "/l//./") e.1 := by
      decide +kernel
    exact hall e he
  obtain ⟨es, named, _, _, _, hscans⟩ := folder_spelling_only_leads_paths linkedFolder
    (.ofPrefix (utf8 "o")) (utf8 "..") (utf8 "/l//./") hwf valid hsame hlimits
  obtain ⟨_, hup, _⟩ := hscans (utf8 "..") (.inl rfl)
  obtain ⟨_, hlink, _⟩ := hscans (utf8 "/l//./") (.inr rfl)
  exact ⟨hwf, valid, hsame, hlimits, _, hup, hlink,
    shown_of_result (fun f => f.1.map Group.paths) hlink (by decide +kernel)⟩

end Scan

end TwinFiles
