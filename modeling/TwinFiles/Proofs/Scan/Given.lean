import TwinFiles.Proofs.Scan.Answer

/-!
# Scans of given paths

A scan of given paths goes over files and nothing else. It gathers what their visits hold
(`result_ofReadings`, `calls_ofReadings`), so it finds what a scan of a folder finds that comes upon
the same files, between whatever other visits (`sameFiles_of_readings`). When the paths are those of
the files in a folder, the calls are those of the folder's scan that are about these files
(`given_files_alike`).
-/

namespace TwinFiles

/-- The path of a file. -/
def Sighting.file? : Sighting → Option Path
  | file path => some path
  | _ => none

theorem Sighting.eq_file_of_file? {sighting : Sighting} {path : Path}
    (h : sighting.file? = some path) : sighting = .file path := by
  cases sighting <;> cases h
  rfl

/-- The paths of the files in a folder, in the order of the listing. -/
def Listing.files (v : View) (s : Selection) (folder : Path) : List Path :=
  (sightings v s folder).filterMap Sighting.file?

/-- An entry is seen at its path. -/
theorem Listing.join_of_sight {v : View} {s : Selection} {folder path : Path} {e : Entry}
    (h : sight v s folder e = .file path ∨ sight v s folder e = .nonFile path) :
    folder.join e.1 = path := by
  simp only [sight] at h
  split at h
  · split at h <;> rcases h with h | h <;> cases h <;> rfl
  · rcases h with h | h <;> cases h

/-- The call is about a file, and its entry is one of these paths. -/
def Call.isAbout (files : List Path) : Call → Bool
  | entry path => files.contains path
  | hashed _ => true
  | readError _ => true
  | start _ _ => false
  | entryError _ => false
  | invalid _ => false

/-- Findings about given files, and findings about a folder that holds these files among others:
beyond them the folder has only entries that are not files, and failures of its listing. -/
structure Findings.SameFiles (given found : Findings) : Prop where
  groups : given.1 = found.1
  files : given.2.filesHashed = found.2.filesHashed
  bytes : given.2.bytesHashed = found.2.bytesHashed
  readErrors : given.2.readErrors = found.2.readErrors
  duplicateGroups : given.2.duplicateGroups = found.2.duplicateGroups
  duplicateFiles : given.2.duplicateFiles = found.2.duplicateFiles
  reclaimable : given.2.reclaimableSpace = found.2.reclaimableSpace
  examined : given.2.entriesExamined + found.2.nonFilesSkipped = found.2.entriesExamined
  nonFiles : given.2.nonFilesSkipped = 0
  entryErrors : given.2.entryErrors = []
  invalid : given.2.invalidDirectory = false

/-! ## Visits of files -/

namespace Visit

@[simp] def isFile : Visit → Bool
  | file _ _ => true
  | _ => false

/-- The reading of a file. -/
@[simp] def reading? : Visit → Option (Path × Except Cause Bytes)
  | file path outcome => some (path, outcome)
  | _ => none

variable (visits : List Visit)

/-- The visits of given files are the visits of files. -/
theorem map_ofReading_readings :
    (visits.filterMap reading?).map ofReading = visits.filter isFile := by
  induction visits with
  | nil => rfl
  | cons visit visits ih =>
    cases visit with
    | file path outcome => exact congrArg (Visit.file path outcome :: ·) ih
    | _ => exact ih

theorem hashed?_of_not_isFile {visit : Visit} (h : visit.isFile = false) :
    visit.hashed? = none := by
  cases visit with
  | file path outcome => cases h
  | _ => rfl

theorem readError?_of_not_isFile {visit : Visit} (h : visit.isFile = false) :
    visit.readError? = none := by
  cases visit with
  | file path outcome => cases h
  | _ => rfl

theorem not_isNonFile_of_isFile {visit : Visit} (h : visit.isFile = true) :
    visit.isNonFile = false := by
  cases visit with
  | file path outcome => rfl
  | _ => cases h

theorem entryError?_of_isFile {visit : Visit} (h : visit.isFile = true) :
    visit.entryError? = none := by
  cases visit with
  | file path outcome => rfl
  | _ => cases h

/-- What only visits of files hold is held by these. -/
theorem filterMap_filter_isFile {α : Type} {held : Visit → Option α}
    (hheld : ∀ visit : Visit, visit.isFile = false → held visit = none) :
    (visits.filter isFile).filterMap held = visits.filterMap held := by
  rw [List.filterMap_filter]
  apply List.filterMap_congr
  intro visit _
  cases hfile : visit.isFile with
  | true => rfl
  | false => exact (hheld visit hfile).symm

/-- An examined entry is a file or is none. -/
theorem countP_filter_isFile :
    (visits.filter isFile).countP isExamined + visits.countP isNonFile =
      visits.countP isExamined := by
  induction visits with
  | nil => rfl
  | cons visit visits ih =>
    cases visit with
    | unwanted path => simpa using ih
    | nonFile path =>
      simp only [List.filter_cons, isFile, Bool.false_eq_true, if_false, List.countP_cons,
        isNonFile, isExamined, if_true]
      omega
    | file path outcome =>
      simp only [List.filter_cons, isFile, if_true, List.countP_cons, isNonFile, isExamined,
        Bool.false_eq_true, if_false]
      omega
    | failed path cause => simpa using ih

/-- Calls about files are those of the visits of files, if no other entry has the path of one. -/
theorem filter_isAbout_calls {files : List Path}
    (hfile : ∀ path outcome, .file path outcome ∈ visits → path ∈ files)
    (hnonFile : ∀ path, .nonFile path ∈ visits → path ∉ files) :
    (visits.flatMap calls).filter (Call.isAbout files) = (visits.filter isFile).flatMap calls := by
  induction visits with
  | nil => rfl
  | cons visit visits ih =>
    have hrest := ih (fun path outcome h => hfile path outcome (List.mem_cons_of_mem _ h))
      fun path h => hnonFile path (List.mem_cons_of_mem _ h)
    rw [List.flatMap_cons, List.filter_append, hrest]
    cases visit with
    | unwanted path => rfl
    | nonFile path =>
      have hpath := hnonFile path List.mem_cons_self
      simp [Call.isAbout, hpath]
    | file path outcome =>
      have hpath := hfile path outcome List.mem_cons_self
      rw [List.filter_cons_of_pos (show isFile (.file path outcome) = true from rfl),
        List.flatMap_cons, List.filter_eq_self.mpr]
      intro call hcall
      cases outcome with
      | ok content =>
        rcases List.mem_pair.mp hcall with rfl | rfl
        · exact List.contains_iff_mem.mpr hpath
        · rfl
      | error cause =>
        rcases List.mem_pair.mp hcall with rfl | rfl
        · exact List.contains_iff_mem.mpr hpath
        · rfl
    | failed path cause => rfl

end Visit

namespace Scan

/-! ## Readings -/

section Readings

variable (s : Selection) (readings : List (Path × Except Cause Bytes))

/-- A scan of given files gathers their visits. -/
theorem gathers_ofReadings :
    Pass.Gathers (Pass.blank [] s.wanted) (readings.map Visit.ofReading)
      ((Pass.blank [] s.wanted).runReadings readings) := by
  rw [Pass.runReadings_eq_run []]
  exact Pass.gathers_run [] _ _

/-- A scan of given files finds what their visits hold. -/
theorem result_ofReadings :
    (ofReadings s readings).result =
      Findings.over [] s.wanted (readings.map Visit.ofReading) := by
  have hpass := gathers_ofReadings s readings
  have hcovers := hpass.covers rfl rfl
  have hgroups : (ofReadings s readings).result.1 =
      Grouping.groups ((readings.map Visit.ofReading).filterMap Visit.hashed?) := by
    show ((Pass.blank [] s.wanted).runReadings readings).buckets.groups = _
    rw [hcovers.buckets, Buckets.groups_ofFiles]
  have hsummary : (ofReadings s readings).result.2 =
      (Summary.over [] s.wanted (readings.map Visit.ofReading)).withGroups
        (ofReadings s readings).result.1 := by
    show ((Pass.blank [] s.wanted).runReadings readings).summary.withGroups
      (ofReadings s readings).result.1 = _
    simp only [Summary.withGroups, Summary.over, Summary.blank, Summary.mk.injEq, and_true]
    exact ⟨hpass.folder, hpass.wanted, hcovers.examined, hcovers.nonFiles, hcovers.files,
      hcovers.bytes, hcovers.readErrors, hcovers.entryErrors, hpass.invalid⟩
  rw [Findings.over, ← hgroups, ← hsummary]

/-- Its calls are those of the visits alone: no start is called. -/
theorem calls_ofReadings :
    (ofReadings s readings).calls = (readings.map Visit.ofReading).flatMap Visit.calls := by
  show ((Pass.blank [] s.wanted).runReadings readings).settle.1.calls = _
  rw [Pass.calls_settle]
  exact (gathers_ofReadings s readings).calls

end Readings

/-- Visits that no scan of files makes count as entries that are not files, or as failures of the
listing, and change nothing else. -/
theorem sameFiles_of_readings (s : Selection) (folder : Path) (visits : List Visit) :
    (ofReadings s (visits.filterMap Visit.reading?)).result.SameFiles
      (ofVisits s folder visits).result := by
  have hhashed := Visit.filterMap_filter_isFile visits fun _ => Visit.hashed?_of_not_isFile
  have hreadErrors := Visit.filterMap_filter_isFile visits fun _ => Visit.readError?_of_not_isFile
  rw [result_ofReadings, result_ofVisits, Visit.map_ofReading_readings, Findings.over,
    Findings.over, Summary.over, Summary.over, hhashed, hreadErrors]
  refine ⟨rfl, rfl, rfl, rfl, rfl, rfl, rfl, Visit.countP_filter_isFile visits, ?_, ?_, rfl⟩
  · show (visits.filter Visit.isFile).countP Visit.isNonFile = 0
    rw [List.countP_eq_zero]
    intro visit hvisit
    rw [Visit.not_isNonFile_of_isFile (List.of_mem_filter hvisit)]
    exact Bool.false_ne_true
  · show (visits.filter Visit.isFile).filterMap Visit.entryError? = []
    rw [List.filterMap_eq_nil_iff]
    intro visit hvisit
    exact Visit.entryError?_of_isFile (List.of_mem_filter hvisit)

/-! ## The files of a folder -/

variable {v : View} {s : Selection} {folder : Path}

/-- While nothing changes, each path is read as it is. -/
theorem readings_eq_map (v : View) (paths : List Path) :
    readings v [] paths = paths.map fun path => (path, v.read path) := by
  induction paths with
  | nil => rfl
  | cons path paths ih => exact congrArg ((path, v.read path) :: ·) ih

theorem reading?_visitOf (v : View) (s : Selection) (folder : Path) (e : Entry) :
    (visitOf v s folder e).reading? =
      (Listing.sight v s folder e).file?.map fun path => (path, v.read path) := by
  rw [visitOf]
  cases Listing.sight v s folder e <;> rfl

/-- The visits of a folder and the paths of its files, entry by entry. -/
theorem visits_and_files (valid : Listing.validate v folder = .ok ()) (s : Selection) :
    ∃ es, Listing.InOrder v s folder es ∧
      visits v s folder [] = es.map (visitOf v s folder) ∧
      Listing.files v s folder = es.filterMap fun e => (Listing.sight v s folder e).file? := by
  obtain ⟨es, hentries, horder⟩ := Listing.entries_of_valid valid s
  refine ⟨es, horder, visits_of_entries hentries, ?_⟩
  rw [Listing.files, Listing.sightings, hentries]
  exact List.filterMap_map

/-- The paths of the files are read, and nothing else is. -/
theorem readings_files {es : List Entry}
    (hfiles : Listing.files v s folder =
      es.filterMap fun e => (Listing.sight v s folder e).file?) :
    readings v [] (Listing.files v s folder) =
      (es.map (visitOf v s folder)).filterMap Visit.reading? := by
  rw [readings_eq_map, hfiles, List.map_filterMap, List.filterMap_map]
  apply List.filterMap_congr
  intro e _
  exact (reading?_visitOf v s folder e).symm

/-- A visit says at which path an entry was seen. -/
theorem sight_of_visitOf_file {e : Entry} {path : Path} {outcome : Except Cause Bytes}
    (h : visitOf v s folder e = .file path outcome) :
    Listing.sight v s folder e = .file path := by
  unfold visitOf at h
  split at h <;> cases h
  assumption

theorem sight_of_visitOf_nonFile {e : Entry} {path : Path}
    (h : visitOf v s folder e = .nonFile path) : Listing.sight v s folder e = .nonFile path := by
  unfold visitOf at h
  split at h <;> cases h
  assumption

/-- No entry that is not a file has the path of one: different entries have different paths. -/
theorem notMem_files_of_nonFile {es : List Entry} (horder : Listing.InOrder v s folder es)
    (hfiles : Listing.files v s folder =
      es.filterMap fun e => (Listing.sight v s folder e).file?) {path : Path}
    (h : .nonFile path ∈ es.map (visitOf v s folder)) : path ∉ Listing.files v s folder := by
  obtain ⟨e, he, hvisit⟩ := List.mem_map.mp h
  intro hpath
  rw [hfiles] at hpath
  obtain ⟨e', he', hfile⟩ := List.mem_filterMap.mp hpath
  have hsight := sight_of_visitOf_nonFile hvisit
  have hsight' := Sighting.eq_file_of_file? hfile
  have hpaths : folder.join e.1 = folder.join e'.1 :=
    (Listing.join_of_sight (.inr hsight)).trans (Listing.join_of_sight (.inl hsight')).symm
  rw [List.inj_on_of_nodup_map horder.nodup_paths he he' hpaths, hsight'] at hsight
  cases hsight

/-- A scan of the files of a folder, given by their paths, finds what a scan of the folder finds in
them. It makes the same calls, less the start, the entries that are not files and the failures of
the listing. -/
theorem given_files_alike (v : View) (s : Selection) (folder : Path)
    (valid : Listing.validate v folder = .ok ()) :
    let files := Listing.files v s folder
    ∃ found, (strict v s [] folder).result = .ok found ∧
      (ofPaths v s [] files).result.SameFiles found ∧
      (ofPaths v s [] files).calls = (strict v s [] folder).calls.filter (Call.isAbout files) := by
  intro files
  obtain ⟨es, horder, hvisits, hfiles⟩ := visits_and_files valid s
  have hreadings : readings v [] files = (es.map (visitOf v s folder)).filterMap Visit.reading? :=
    readings_files hfiles
  rw [strict_of_valid valid, hvisits, ofPaths, hreadings]
  refine ⟨_, rfl, sameFiles_of_readings s folder _, ?_⟩
  show _ = (ofVisits s folder (es.map (visitOf v s folder))).calls.filter _
  rw [calls_ofReadings, Visit.map_ofReading_readings, calls_ofVisits,
    List.filter_cons_of_neg Bool.false_ne_true, Visit.filter_isAbout_calls]
  · intro path outcome h
    obtain ⟨e, he, hvisit⟩ := List.mem_map.mp h
    show path ∈ Listing.files v s folder
    rw [hfiles]
    exact List.mem_filterMap.mpr ⟨e, he, by rw [sight_of_visitOf_file hvisit]; rfl⟩
  · exact fun path h => notMem_files_of_nonFile horder hfiles h

/-- A folder with a file, a folder, a file with the content of the first and one that nobody may
read. -/
def mixedFolder : View where
  tree :=
    { items := [
        ([utf8 "o1"], .file .newFile (utf8 "x")), ([utf8 "o2"], .folder .newFolder),
        ([utf8 "o3"], .file .newFile (utf8 "x")),
        ([utf8 "o4"], .file ⟨false, false⟩ (utf8 "x"))]
      nodup := by decide +kernel }
  home := []
  privileged := false
  account := none

/-- There both find the group of the two files, and the failure to read the third. The folder is the
one entry that counts beyond the files. -/
theorem given_files_of_mixedFolder :
    let given := ofPaths mixedFolder (.ofPrefix (utf8 "o")) [] [utf8 "/o1", utf8 "/o3", utf8 "/o4"]
    let twins : Group := ⟨.of (utf8 "x"), 1, [utf8 "/o1", utf8 "/o3"]⟩
    let locked : ReadError := ⟨utf8 "/o4", .accessDenied⟩
    Listing.validate mixedFolder (utf8 "/") = .ok () ∧
      ∃ found, (strict mixedFolder (.ofPrefix (utf8 "o")) [] (utf8 "/")).result = .ok found ∧
        found.1 = [twins] ∧ given.result.1 = [twins] ∧
        found.2.readErrors = [locked] ∧ given.result.2.readErrors = [locked] ∧
        found.2.nonFilesSkipped = 1 ∧ given.result.SameFiles found := by
  intro given twins locked
  have valid : Listing.validate mixedFolder (utf8 "/") = .ok () := by rfl
  have hfiles : Listing.files mixedFolder (.ofPrefix (utf8 "o")) (utf8 "/") =
      [utf8 "/o1", utf8 "/o3", utf8 "/o4"] := by decide +kernel
  obtain ⟨found, hfound, hsame, _⟩ :=
    given_files_alike mixedFolder (.ofPrefix (utf8 "o")) (utf8 "/") valid
  rw [hfiles] at hsame
  have hgroups : found.1 = [twins] :=
    shown_of_result Prod.fst hfound (by decide +kernel)
  have herrors : found.2.readErrors = [locked] :=
    shown_of_result (fun f => f.2.readErrors) hfound (by decide +kernel)
  exact ⟨valid, found, hfound, hgroups, hsame.groups.trans hgroups, herrors,
    hsame.readErrors.trans herrors,
    shown_of_result (fun f => f.2.nonFilesSkipped) hfound (by decide +kernel), hsame⟩

end Scan

end TwinFiles
