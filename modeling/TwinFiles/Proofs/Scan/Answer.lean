import TwinFiles.Proofs.Scan.Visits

/-!
# What an answer depends on

What a scan finds and calls follows from what its visits hold (`strict_tellsOf`). A visit of an
entry whose name is not wanted holds nothing, so the other entries alone decide the answer
(`strict_tellsOf_wanted`).
-/

namespace TwinFiles

/-- The summary of a scan over visits before the groups are drawn up: what the visits hold, counted.
-/
def Summary.over (folder : Path) (wanted : Bytes) (visits : List Visit) : Summary :=
  { Summary.blank folder wanted with
    entriesExamined := visits.countP Visit.isExamined
    nonFilesSkipped := visits.countP Visit.isNonFile
    filesHashed := (visits.filterMap Visit.hashed?).length
    bytesHashed := ((visits.filterMap Visit.hashed?).map HashedFile.size).sum
    readErrors := visits.filterMap Visit.readError?
    entryErrors := visits.filterMap Visit.entryError? }

/-- What a scan over visits finds. -/
def Findings.over (folder : Path) (wanted : Bytes) (visits : List Visit) : Findings :=
  let groups := Grouping.groups (visits.filterMap Visit.hashed?)
  (groups, (Summary.over folder wanted visits).withGroups groups)

/-- The entries whose names are wanted. -/
def Selection.wantedOf (s : Selection) (es : List Entry) : List Entry :=
  es.filter fun e => s.admits e.1

theorem Selection.mem_wantedOf {s : Selection} {es : List Entry} {e : Entry} :
    e ∈ s.wantedOf es ↔ e ∈ es ∧ s.wanted <+: e.1 := by
  rw [wantedOf, List.mem_filter, admits_iff]

namespace Scan

/-! ## What visits hold -/

/-- A scan finds what its visits hold. -/
theorem result_ofVisits (s : Selection) (folder : Path) (visits : List Visit) :
    (ofVisits s folder visits).result = Findings.over folder s.wanted visits := by
  have hpass := Pass.gathers_run folder
    ((Pass.blank folder s.wanted).tell
      [.call (.start folder s.wanted), .note (openingNote folder)]) visits
  have hcovers := passOf_covers s folder visits
  have hgroups := (findings_ofVisits s folder visits).1
  have hsummary : (ofVisits s folder visits).result.2 =
      (Summary.over folder s.wanted visits).withGroups (ofVisits s folder visits).result.1 := by
    rw [summary_ofVisits, groups_ofVisits]
    simp only [Summary.withGroups, Summary.over, Summary.blank, Summary.mk.injEq, and_true]
    exact ⟨hpass.folder, hpass.wanted, hcovers.examined, hcovers.nonFiles, hcovers.files,
      hcovers.bytes, hcovers.readErrors, hcovers.entryErrors, hpass.invalid⟩
  rw [Findings.over, ← hgroups, ← hsummary]

variable {v : View} {s : Selection} {folder : Path}

/-! ## Files that are hashed -/

/-- The files that a scan of entries hashes. -/
def hashedOf (v : View) (s : Selection) (folder : Path) (es : List Entry) : List HashedFile :=
  (es.map (visitOf v s folder)).filterMap Visit.hashed?

theorem mem_hashedOf {es : List Entry} {f : HashedFile} :
    f ∈ hashedOf v s folder es ↔ ∃ e ∈ es, (visitOf v s folder e).hashed? = some f := by
  rw [hashedOf, List.filterMap_map, List.mem_filterMap]
  rfl

/-- A file that was hashed is an entry that is to be taken. -/
theorem takes_of_hashed {e : Entry} {f : HashedFile}
    (h : (visitOf v s folder e).hashed? = some f) : s.Takes v folder e := by
  refine Decidable.byContradiction fun hnot => ?_
  rcases Listing.sight_of_not_takes hnot with hsight | hsight
  · rw [visitOf, hsight] at h
    cases h
  · rw [visitOf, hsight] at h
    cases h

/-- Files are hashed in the order of the entries, under their paths. -/
theorem paths_hashedOf_sublist (v : View) (s : Selection) (folder : Path) (es : List Entry) :
    ((hashedOf v s folder es).map HashedFile.path).Sublist (es.map fun e => folder.join e.1) := by
  induction es with
  | nil => exact .slnil
  | cons e es ih =>
    rw [hashedOf, List.map_cons, List.filterMap_cons, List.map_cons]
    cases hashed : (visitOf v s folder e).hashed? with
    | none => exact ih.cons _
    | some f =>
      obtain ⟨_, content, _, rfl⟩ := hashed_visitOf hashed
      exact ih.cons_cons _

theorem nodup_paths_hashedOf {es : List Entry} (horder : Listing.InOrder v s folder es) :
    ((hashedOf v s folder es).map HashedFile.path).Nodup :=
  horder.nodup_paths.sublist (paths_hashedOf_sublist v s folder es)

/-! ## Entries whose names are not wanted -/

theorem visitOf_of_not_wanted {e : Entry} (h : ¬ s.wanted <+: e.1) :
    visitOf v s folder e = .unwanted (folder.join e.1) := by
  rcases visitOf_cases v s folder e with heq | ⟨hwanted, _⟩
  · exact heq
  · exact absurd hwanted h

/-- A wanted entry is read if it is to be taken, and counts as no file if it is not. -/
theorem visitOf_of_wanted {e : Entry} (h : s.wanted <+: e.1) :
    visitOf v s folder e =
      if s.Takes v folder e then .file (folder.join e.1) (v.read (folder.join e.1))
      else .nonFile (folder.join e.1) := by
  rw [visitOf, Listing.sight_of_wanted h]
  by_cases htakes : s.Takes v folder e
  · rw [if_pos htakes, if_pos htakes]
  · rw [if_neg htakes, if_neg htakes]

/-- What no visit of an unwanted entry holds is held by the visits of the wanted ones. -/
theorem filterMap_wantedOf {α : Type} (held : Visit → Option α)
    (hheld : ∀ path, held (.unwanted path) = none) (es : List Entry) :
    ((s.wantedOf es).map (visitOf v s folder)).filterMap held =
      (es.map (visitOf v s folder)).filterMap held := by
  rw [Selection.wantedOf, List.filterMap_map, List.filterMap_map, List.filterMap_filter]
  apply List.filterMap_congr
  intro e _
  split
  · rfl
  · next hunwanted =>
    rw [Selection.admits_iff] at hunwanted
    rw [Function.comp_apply, visitOf_of_not_wanted hunwanted, hheld]

theorem countP_wantedOf (test : Visit → Bool) (htest : ∀ path, test (.unwanted path) = false)
    (es : List Entry) :
    ((s.wantedOf es).map (visitOf v s folder)).countP test =
      (es.map (visitOf v s folder)).countP test := by
  have hguard : ((s.wantedOf es).map (visitOf v s folder)).filterMap (Option.guard test) =
      (es.map (visitOf v s folder)).filterMap (Option.guard test) :=
    filterMap_wantedOf _ (fun path => by simp [Option.guard, htest]) es
  rw [List.filterMap_eq_filter] at hguard
  rw [List.countP_eq_length_filter, List.countP_eq_length_filter, hguard]

/-- The findings are those of the wanted entries. -/
theorem over_wantedOf (v : View) (s : Selection) (folder : Path) (es : List Entry) :
    Findings.over folder s.wanted (es.map (visitOf v s folder)) =
      Findings.over folder s.wanted ((s.wantedOf es).map (visitOf v s folder)) := by
  rw [Findings.over, Findings.over, Summary.over, Summary.over,
    filterMap_wantedOf Visit.hashed? fun _ => rfl, filterMap_wantedOf Visit.readError? fun _ => rfl,
    filterMap_wantedOf Visit.entryError? fun _ => rfl,
    countP_wantedOf Visit.isExamined fun _ => rfl, countP_wantedOf Visit.isNonFile fun _ => rfl]

/-- The calls are those of the wanted entries. -/
theorem calls_wantedOf (v : View) (s : Selection) (folder : Path) (es : List Entry) :
    (es.map (visitOf v s folder)).flatMap Visit.calls =
      ((s.wantedOf es).map (visitOf v s folder)).flatMap Visit.calls := by
  induction es with
  | nil => rfl
  | cons e es ih =>
    by_cases hwanted : s.admits e.1 = true
    · have hcons : s.wantedOf (e :: es) = e :: s.wantedOf es := List.filter_cons_of_pos hwanted
      rw [hcons, List.map_cons, List.map_cons, List.flatMap_cons, List.flatMap_cons, ih]
    · have hcons : s.wantedOf (e :: es) = s.wantedOf es := List.filter_cons_of_neg hwanted
      rw [Selection.admits_iff] at hwanted
      rw [hcons, List.map_cons, List.flatMap_cons, ih, visitOf_of_not_wanted hwanted]
      rfl

/-! ## What a scan tells of -/

/-- A scan of a folder succeeds, and finds and calls what some visits hold. -/
structure TellsOf (scan : Scan (Except FolderError Findings)) (s : Selection) (folder : Path)
    (visits : List Visit) : Prop where
  result : scan.result = .ok (Findings.over folder s.wanted visits)
  calls : scan.calls = .start folder s.wanted :: visits.flatMap Visit.calls

/-- A scan of a folder that passes the check tells of its visits. -/
theorem strict_tellsOf (valid : Listing.validate v folder = .ok ()) (s : Selection) :
    TellsOf (strict v s [] folder) s folder (visits v s folder []) := by
  rw [strict_of_valid valid]
  exact ⟨congrArg Except.ok (result_ofVisits s folder _), calls_ofVisits s folder _⟩

/-- The calls show the files that were hashed. -/
theorem TellsOf.hashed {scan : Scan (Except FolderError Findings)} {visits : List Visit}
    (h : TellsOf scan s folder visits) :
    scan.calls.filterMap Call.hashed? = visits.filterMap Visit.hashed? := by
  rw [h.calls, List.filterMap_cons_none rfl, Visit.hashed_calls]

/-- The wanted entries are all that it tells of. -/
theorem strict_tellsOf_wanted {listing : List Entry} (hlisting : v.list folder = .ok listing)
    (s : Selection) :
    ∃ es, Listing.InOrder v s folder es ∧
      TellsOf (strict v s [] folder) s folder ((s.wantedOf es).map (visitOf v s folder)) := by
  have valid := Listing.valid_of_list hlisting
  obtain ⟨es, horder, hvisits⟩ := visits_of_valid valid s
  have htells := strict_tellsOf valid s
  rw [hvisits] at htells
  refine ⟨es, horder, ?_, ?_⟩
  · rw [htells.result, over_wantedOf]
  · rw [htells.calls, calls_wantedOf]

/-- What is shown of a result is what is shown of the findings. -/
theorem shown_of_result {α : Type} (shown : Findings → α) {result : Except FolderError Findings}
    {found : Findings} (hfound : result = .ok found) {value : α}
    (h : result.toOption.map shown = some value) : shown found = value := by
  rw [hfound] at h
  exact Option.some.inj h

/-- A scan that succeeds is the same whether or not a failure would be reported. -/
theorem run_of_strict {changes : List Change} {found : Findings}
    (h : (strict v s changes folder).result = .ok found) :
    (run v s changes folder).result = found ∧
      (run v s changes folder).calls = (strict v s changes folder).calls := by
  rw [run, h]
  exact ⟨rfl, rfl⟩

end Scan

end TwinFiles
