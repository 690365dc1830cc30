import TwinFiles.Proofs.Scan.Walk

/-!
# Links that are not followed

Links to files count as files if they are followed. If they are not, the walk of a folder shows them
as no files, the groups lose the paths of links, and that is all (`following_adds_links`). A link to
anything but a file, or to nothing, is not read either way.
-/

namespace TwinFiles

/-- The paths of those entries of a folder that pass a test, in the order of the listing. -/
def View.pathsOf (v : View) (folder : Path) (test : Entry → Bool) : List Path :=
  match v.list folder with
  | .ok listing => (listing.filter test).map fun e => folder.join e.1
  | .error _ => []

/-- The paths of the links in a folder. -/
def View.linkPaths (v : View) (folder : Path) : List Path :=
  v.pathsOf folder fun e => e.2 = .link

/-- A link to a file, with a wanted name. -/
def Selection.WantsLink (s : Selection) (v : View) (folder : Path) (e : Entry) : Prop :=
  s.wanted <+: e.1 ∧ e.2 = .link ∧ v.LeadsToFile (folder.join e.1)

instance (s : Selection) (v : View) (folder : Path) (e : Entry) :
    Decidable (s.WantsLink v folder e) :=
  inferInstanceAs (Decidable (_ ∧ _ ∧ _))

/-- The paths of the wanted links to files. -/
def Selection.fileLinks (s : Selection) (v : View) (folder : Path) : List Path :=
  v.pathsOf folder fun e => s.WantsLink v folder e

/-- A selection that follows links, or does not. -/
def Selection.withLinks (s : Selection) (follow : Bool) : Selection :=
  { s with followLinks := follow }

/-- A sighting, some paths taken for no files. -/
def Sighting.without (paths : List Path) (x : Sighting) : Sighting :=
  if paths.contains x.path then .nonFile x.path else x

/-- The path of a file that was read, or should have been. -/
def Call.readPath? : Call → Option Path
  | hashed f => some f.path
  | readError e => some e.path
  | _ => none

namespace Scan

/-- What following links adds to the walk of a folder and to what is found there: the wanted links
that lead to files. -/
structure AddsLinks (v : View) (s : Selection) (folder : Path) : Prop where
  /-- They are shown as files if they are followed. -/
  shown : ∀ p ∈ s.fileLinks v folder, .file p ∈ Listing.walk v (s.withLinks true) folder
  /-- If not they are shown as no files, and all else as before. -/
  walk : Listing.walk v (s.withLinks false) folder =
    (Listing.walk v (s.withLinks true) folder).map (Sighting.without (s.fileLinks v folder))
  /-- Both scans succeed. The groups of the one are those of the other without links, as many
  entries are examined, and the links are not files. -/
  found : ∃ wide narrow, (strict v (s.withLinks true) [] folder).result = .ok wide ∧
    (strict v (s.withLinks false) [] folder).result = .ok narrow ∧
    Grouping.LeftOf ((strict v (s.withLinks true) [] folder).calls.filterMap Call.hashed?)
      ((Listing.walk v (s.withLinks true) folder).map Sighting.path)
      (fun p => p ∉ v.linkPaths folder) wide.1 narrow.1 ∧
    narrow.2.entriesExamined = wide.2.entriesExamined ∧
    narrow.2.nonFilesSkipped = wide.2.nonFilesSkipped + (s.fileLinks v folder).length

/-- A path is neither taken for a file nor read. -/
structure Unread (v : View) (s : Selection) (folder p : Path) : Prop where
  notShown : .file p ∉ Listing.walk v s folder
  notRead : ∀ call ∈ (strict v s [] folder).calls, call.readPath? ≠ some p

variable {v : View} {s : Selection} {folder : Path} {es : List Entry} {e : Entry}

/-! ## Entries that pass a test -/

/-- Paths tell entries apart. -/
theorem mem_pathsOf (horder : Listing.InOrder v s folder es) (he : e ∈ es)
    (test : Entry → Bool) : folder.join e.1 ∈ v.pathsOf folder test ↔ test e = true := by
  obtain ⟨listing, hlisting, hperm, _⟩ := horder.listed
  simp only [View.pathsOf, hlisting, List.mem_map, List.mem_filter]
  constructor
  · rintro ⟨e', ⟨he', htest⟩, hpath⟩
    rwa [List.inj_on_of_nodup_map horder.nodup_paths (hperm.mem_iff.mpr he') he hpath] at htest
  · exact fun htest => ⟨e, ⟨hperm.mem_iff.mp he, htest⟩, rfl⟩

/-- Every path is that of an entry. -/
theorem exists_of_mem_pathsOf (horder : Listing.InOrder v s folder es) {test : Entry → Bool}
    {p : Path} (h : p ∈ v.pathsOf folder test) :
    ∃ e ∈ es, test e = true ∧ p = folder.join e.1 := by
  obtain ⟨listing, hlisting, hperm, _⟩ := horder.listed
  simp only [View.pathsOf, hlisting, List.mem_map, List.mem_filter] at h
  obtain ⟨e, ⟨he, htest⟩, rfl⟩ := h
  exact ⟨e, hperm.mem_iff.mpr he, htest, rfl⟩

theorem length_pathsOf (horder : Listing.InOrder v s folder es) (test : Entry → Bool) :
    (v.pathsOf folder test).length = es.countP test := by
  obtain ⟨listing, hlisting, hperm, _⟩ := horder.listed
  rw [hperm.countP_eq, View.pathsOf, hlisting, List.length_map, List.countP_eq_length_filter]

/-! ## What following links changes -/

/-- An entry is taken if it is taken without following links, or is a wanted link to a file. -/
theorem takes_withLinks_true :
    (s.withLinks true).Takes v folder e ↔
      (s.withLinks false).Takes v folder e ∨ s.WantsLink v folder e := by
  simp only [Selection.Takes, Selection.WantsLink, Selection.withLinks, true_and, false_and,
    or_false, Bool.false_eq_true, ← and_or_left]

/-- A link is not taken if links are not followed. -/
theorem not_takes_of_link (hlink : e.2 = .link) : ¬ (s.withLinks false).Takes v folder e := by
  rintro ⟨_, hfile | ⟨hfollow, _⟩⟩
  · rw [hlink] at hfile
    cases hfile
  · cases hfollow

/-- All but the wanted links to files are taken alike. -/
theorem takes_withLinks_of_not_wantsLink (h : ¬ s.WantsLink v folder e) :
    (s.withLinks false).Takes v folder e ↔ (s.withLinks true).Takes v folder e := by
  rw [takes_withLinks_true, or_iff_left h]

theorem sight_withLinks_false (v : View) (folder : Path) (hwanted : s.wanted <+: e.1) :
    Listing.sight v (s.withLinks false) folder e =
      if s.WantsLink v folder e then .nonFile (folder.join e.1)
      else Listing.sight v (s.withLinks true) folder e := by
  have hwanted' (follow : Bool) : (s.withLinks follow).wanted <+: e.1 := hwanted
  rw [Listing.sight_of_wanted (hwanted' false), Listing.sight_of_wanted (hwanted' true)]
  by_cases hlink : s.WantsLink v folder e
  · rw [if_pos hlink, if_neg (not_takes_of_link hlink.2.1)]
  · rw [if_neg hlink]
    exact if_congr (takes_withLinks_of_not_wantsLink hlink) rfl rfl

/-- A wanted link to a file is visited as one only if links are followed. -/
theorem visitOf_of_wantsLink (h : s.WantsLink v folder e) :
    visitOf v (s.withLinks false) folder e = .nonFile (folder.join e.1) ∧
      visitOf v (s.withLinks true) folder e =
        .file (folder.join e.1) (v.read (folder.join e.1)) := by
  constructor
  · rw [visitOf, sight_withLinks_false v folder h.1, if_pos h]
  · rw [visitOf, Listing.sight_of_takes (takes_withLinks_true.mpr (.inr h))]

/-- All else is visited alike. -/
theorem visitOf_withLinks (h : ¬ s.WantsLink v folder e) :
    visitOf v (s.withLinks false) folder e = visitOf v (s.withLinks true) folder e := by
  by_cases hwanted : s.wanted <+: e.1
  · rw [visitOf, visitOf, sight_withLinks_false v folder hwanted, if_neg h]
  · have hunwanted (follow : Bool) : ¬ (s.withLinks follow).wanted <+: e.1 := hwanted
    rw [visitOf_of_not_wanted (hunwanted false), visitOf_of_not_wanted (hunwanted true)]

/-- The walk shows a wanted link to a file as such. -/
theorem file_mem_walk (valid : Listing.validate v folder = .ok ()) {p : Path}
    (hp : p ∈ s.fileLinks v folder) : .file p ∈ Listing.walk v (s.withLinks true) folder := by
  obtain ⟨es, hentries, horder⟩ := Listing.entries_of_valid valid (s.withLinks true)
  obtain ⟨e, he, hlink, rfl⟩ := exists_of_mem_pathsOf horder hp
  have htakes : (s.withLinks true).Takes v folder e :=
    takes_withLinks_true.mpr (.inr (of_decide_eq_true hlink))
  rw [Listing.walk_of_entries hentries, List.mem_map]
  exact ⟨e, Selection.mem_wantedOf.mpr ⟨he, htakes.1⟩, Listing.sight_of_takes htakes⟩

theorem walk_withLinks_false (valid : Listing.validate v folder = .ok ()) :
    Listing.walk v (s.withLinks false) folder =
      (Listing.walk v (s.withLinks true) folder).map (Sighting.without (s.fileLinks v folder)) := by
  obtain ⟨es, hentries, horder⟩ := Listing.entries_of_valid valid (s.withLinks true)
  have hentries' : Listing.entries v (s.withLinks false) folder = .ok es :=
    (Listing.entries_congr rfl).trans hentries
  rw [Listing.walk_of_entries hentries, Listing.walk_of_entries hentries', List.map_map]
  apply List.map_congr_left
  intro e he
  obtain ⟨hmem, hwanted⟩ := Selection.mem_wantedOf.mp he
  have hlinks : (s.fileLinks v folder).contains (folder.join e.1) = true ↔
      s.WantsLink v folder e := by
    rw [List.contains_iff_mem, Selection.fileLinks, mem_pathsOf horder hmem, decide_eq_true_iff]
  have hsight := sight_withLinks_false v folder (s := s) hwanted
  rw [hsight, Function.comp_apply, Sighting.without, Listing.path_sight]
  exact (if_congr hlinks rfl rfl).symm

/-- As many entries are examined. -/
theorem countP_isExamined_withLinks (es : List Entry) :
    (es.map (visitOf v (s.withLinks false) folder)).countP Visit.isExamined =
      (es.map (visitOf v (s.withLinks true) folder)).countP Visit.isExamined := by
  rw [List.countP_map, List.countP_map]
  apply List.countP_congr
  intro e _
  by_cases hlink : s.WantsLink v folder e
  · obtain ⟨hoff, hon⟩ := visitOf_of_wantsLink hlink
    rw [Function.comp_apply, Function.comp_apply, hoff, hon]
    exact Iff.rfl
  · rw [Function.comp_apply, Function.comp_apply, visitOf_withLinks hlink]

/-- Links that are not followed are no files. -/
theorem countP_isNonFile_withLinks (es : List Entry) :
    (es.map (visitOf v (s.withLinks false) folder)).countP Visit.isNonFile =
      (es.map (visitOf v (s.withLinks true) folder)).countP Visit.isNonFile +
        es.countP fun e => s.WantsLink v folder e := by
  induction es with
  | nil => rfl
  | cons e es ih =>
    simp only [List.map_cons, List.countP_cons, ih]
    by_cases hlink : s.WantsLink v folder e
    · obtain ⟨hoff, hon⟩ := visitOf_of_wantsLink hlink
      simp only [hoff, hon, hlink, Visit.isNonFile, decide_true, if_true, Bool.false_eq_true,
        if_false]
      omega
    · simp only [visitOf_withLinks hlink, hlink, decide_false, Bool.false_eq_true, if_false]
      omega

/-! ## What is read -/

/-- What is read is an entry that is to be taken. -/
theorem takes_of_readPath {call : Call} {p : Path} (h : call ∈ (visitOf v s folder e).calls)
    (hp : call.readPath? = some p) : s.Takes v folder e ∧ p = folder.join e.1 := by
  by_cases htakes : s.Takes v folder e
  · refine ⟨htakes, ?_⟩
    rw [visitOf_of_wanted htakes.1, if_pos htakes] at h
    cases hread : v.read (folder.join e.1) with
    | ok content =>
      rw [hread, Visit.calls, List.mem_pair] at h
      rcases h with rfl | rfl
      · cases hp
      · exact (Option.some.inj hp).symm
    | error cause =>
      rw [hread, Visit.calls, List.mem_pair] at h
      rcases h with rfl | rfl
      · cases hp
      · exact (Option.some.inj hp).symm
  · by_cases hwanted : s.wanted <+: e.1
    · rw [visitOf_of_wanted hwanted, if_neg htakes, Visit.calls, List.mem_singleton] at h
      rw [h] at hp
      cases hp
    · rw [visitOf_of_not_wanted hwanted] at h
      cases h

/-- A link that does not lead to a file is not read, whatever is asked for. -/
theorem unread_of_link (valid : Listing.validate v folder = .ok ()) (s : Selection) {p : Path}
    (hp : p ∈ v.linkPaths folder) (hnot : ¬ v.LeadsToFile p) : Unread v s folder p := by
  obtain ⟨es, hentries, horder⟩ := Listing.entries_of_valid valid s
  have htakes : ∀ e ∈ es, p = folder.join e.1 → ¬ s.Takes v folder e := by
    rintro e he rfl ⟨_, hfile | ⟨_, _, hleads⟩⟩
    · have hlink := of_decide_eq_true ((mem_pathsOf horder he _).mp hp)
      rw [hfile] at hlink
      cases hlink
    · exact hnot hleads
  constructor
  · rw [Listing.walk_of_entries hentries, List.mem_map]
    rintro ⟨e, he, hsight⟩
    have hpath := congrArg Sighting.path hsight
    rw [Listing.path_sight] at hpath
    obtain ⟨hmem, hwanted⟩ := Selection.mem_wantedOf.mp he
    rw [Listing.sight_of_wanted hwanted, if_neg (htakes e hmem hpath.symm)] at hsight
    cases hsight
  · intro call hcall hread
    rw [(strict_tellsOf_entries valid hentries).calls, List.mem_cons] at hcall
    rcases hcall with rfl | hcall
    · cases hread
    · obtain ⟨visit, hvisit, hcall⟩ := List.mem_flatMap.mp hcall
      obtain ⟨e, he, rfl⟩ := List.mem_map.mp hvisit
      obtain ⟨htake, hpath⟩ := takes_of_readPath hcall hread
      exact htakes e he hpath htake

theorem addsLinks (valid : Listing.validate v folder = .ok ()) (s : Selection) :
    AddsLinks v s folder where
  shown := fun _ hp => file_mem_walk valid hp
  walk := walk_withLinks_false valid
  found := by
    have hlinks : ∀ es, Listing.InOrder v (s.withLinks true) folder es → ∀ e ∈ es,
        (decide (folder.join e.1 ∉ v.linkPaths folder) = true ↔ e.2 ≠ .link) := by
      intro es horder e he
      rw [decide_eq_true_iff, View.linkPaths, mem_pathsOf horder he, decide_eq_true_iff]
    obtain ⟨wide, narrow, hwide, hnarrow, hleft⟩ := leftOf_of_passing (s.withLinks true)
      (s.withLinks false) valid rfl (fun p => p ∉ v.linkPaths folder)
      (fun es horder e he hkeep => visitOf_withLinks fun hlink =>
        (hlinks es horder e he).mp hkeep hlink.2.1)
      (fun es horder e he htakes => (hlinks es horder e he).mpr fun hlink =>
        not_takes_of_link hlink htakes)
    obtain ⟨es, hentries, horder⟩ := Listing.entries_of_valid valid (s.withLinks true)
    have hentries' : Listing.entries v (s.withLinks false) folder = .ok es :=
      (Listing.entries_congr rfl).trans hentries
    have hwide' := found_of_entries valid hentries hwide
    have hnarrow' := found_of_entries valid hentries' hnarrow
    refine ⟨wide, narrow, hwide, hnarrow, hleft, ?_, ?_⟩
    · rw [hwide', hnarrow']
      exact countP_isExamined_withLinks es
    · rw [hwide', hnarrow', Selection.fileLinks, length_pathsOf horder]
      exact countP_isNonFile_withLinks es

/-- Following links adds the wanted links to files, and nothing else. No selection has other links
read: neither those that lead to a folder or a pipe, nor those that lead to nothing or in circles.
-/
theorem following_adds_links (v : View) (s : Selection) (folder : Path)
    (valid : Listing.validate v folder = .ok ()) :
    AddsLinks v s folder ∧
      ∀ p ∈ v.linkPaths folder, ¬ v.LeadsToFile p → Unread v s folder p :=
  ⟨addsLinks valid s, fun _ hp hnot => unread_of_link valid s hp hnot⟩

/-- A folder with two links to files, one that leads to nothing, one that leads to itself, one to a
folder and one to a pipe. -/
def knottedFolder : View where
  tree :=
    { items := [
        ([utf8 "o0"], .link (utf8 "o3")), ([utf8 "o1"], .file .newFile (utf8 "x")),
        ([utf8 "o2"], .file .newFile (utf8 "x")), ([utf8 "o3"], .file .newFile (utf8 "y")),
        ([utf8 "o4"], .file .newFile (utf8 "y")), ([utf8 "o5"], .file .newFile (utf8 "z")),
        ([utf8 "o6"], .link (utf8 "/file")), ([utf8 "o7"], .link (utf8 "none")),
        ([utf8 "o8"], .link (utf8 "./o8")), ([utf8 "o9"], .link (utf8 "folder")),
        ([utf8 "oa"], .link (utf8 "pipe")), ([utf8 "file"], .file .newFile (utf8 "z")),
        ([utf8 "folder"], .folder .newFolder), ([utf8 "pipe"], .pipe .newFile [])]
      nodup := by decide +kernel }
  home := []
  privileged := false
  account := none

/-- Without the links one group is left that now comes first, one that lost a path, and none of the
third. The other links are not read. -/
theorem following_adds_links_of_knottedFolder :
    Listing.validate knottedFolder (utf8 "/") = .ok () ∧
      (∃ wide narrow,
        (strict knottedFolder ⟨utf8 "o", false, true⟩ [] (utf8 "/")).result = .ok wide ∧
        (strict knottedFolder ⟨utf8 "o", false, false⟩ [] (utf8 "/")).result = .ok narrow ∧
        wide.1.map Group.paths =
          [[utf8 "/o0", utf8 "/o3", utf8 "/o4"], [utf8 "/o1", utf8 "/o2"],
            [utf8 "/o5", utf8 "/o6"]] ∧
        narrow.1.map Group.paths = [[utf8 "/o1", utf8 "/o2"], [utf8 "/o3", utf8 "/o4"]] ∧
        wide.2.nonFilesSkipped = 4 ∧ narrow.2.nonFilesSkipped = 4 + 2) ∧
      ∀ p ∈ [utf8 "/o7", utf8 "/o8", utf8 "/o9", utf8 "/oa"],
        p ∈ knottedFolder.linkPaths (utf8 "/") ∧ ¬ knottedFolder.LeadsToFile p ∧
          Unread knottedFolder ⟨utf8 "o", false, true⟩ (utf8 "/") p := by
  have valid : Listing.validate knottedFolder (utf8 "/") = .ok () := by rfl
  obtain ⟨hadds, hunread⟩ :=
    following_adds_links knottedFolder ⟨utf8 "o", false, true⟩ (utf8 "/") valid
  refine ⟨valid, ?_, ?_⟩
  · obtain ⟨wide, narrow, hwide, hnarrow, _, _, hskipped⟩ := hadds.found
    have hfour : wide.2.nonFilesSkipped = 4 :=
      shown_of_result (fun f => f.2.nonFilesSkipped) hwide (by decide +kernel)
    have htwo :
        (Selection.fileLinks ⟨utf8 "o", false, true⟩ knottedFolder (utf8 "/")).length = 2 := by
      decide +kernel
    rw [hfour, htwo] at hskipped
    exact ⟨wide, narrow, hwide, hnarrow,
      shown_of_result (fun f => f.1.map Group.paths) hwide (by decide +kernel),
      shown_of_result (fun f => f.1.map Group.paths) hnarrow (by decide +kernel), hfour, hskipped⟩
  · intro p hp
    have hlink : ∀ p ∈ [utf8 "/o7", utf8 "/o8", utf8 "/o9", utf8 "/oa"],
        p ∈ knottedFolder.linkPaths (utf8 "/") ∧ ¬ knottedFolder.LeadsToFile p := by
      decide +kernel
    exact ⟨(hlink p hp).1, (hlink p hp).2, hunread p (hlink p hp).1 (hlink p hp).2⟩

end Scan

end TwinFiles
