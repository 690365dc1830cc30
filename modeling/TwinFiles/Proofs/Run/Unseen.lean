import TwinFiles.Proofs.Scan.Overlooked
import TwinFiles.Proofs.Scan.Trace
import TwinFiles.Proofs.Tree.Change
import TwinFiles.Run

/-!
# What the answer of a run does not depend on

Two views that show a folder alike, entry by entry and in the same order, get the same answer from a
run (`only_wanted_entries_matter`): the same findings and calls, and the same output, since a run
puts out what its scan calls and finds (`perform_congr`). Records are no part of the answer: they
tell of names that are not wanted, too.
-/

namespace TwinFiles.Run

/-- Two runs leave the same behind but for their records. -/
structure SameAnswer (r r' : Run) : Prop where
  calls : r'.calls = r.calls
  findings : r'.findings = r.findings
  sink : r'.sink = r.sink
  result : r'.result = r.result

variable {v v' : View} {s : Settings}

/-- Runs of scans that find and call the same leave the same behind. -/
theorem perform_congr (hhome : v'.home = v.home)
    (hresult : (Scan.run v' s.selection [] s.folder).result =
      (Scan.run v s.selection [] s.folder).result)
    (hcalls : (Scan.run v' s.selection [] s.folder).calls =
      (Scan.run v s.selection [] s.folder).calls)
    (duration : Duration) (time : Instant) (sink : Sink) :
    SameAnswer (perform v s duration time sink) (perform v' s duration time sink) := by
  have hpath : v'.homePath = v.homePath := by rw [View.homePath, View.homePath, hhome]
  -- what stands in the sink before the report follows from the calls
  have hprogress : ((Console.reporter s.color v'.homePath).perform sink
        (Scan.run v' s.selection [] s.folder).steps).1 =
      ((Console.reporter s.color v.homePath).perform sink
        (Scan.run v s.selection [] s.folder).steps).1 := by
    rw [Reporter.perform_fst, Reporter.perform_fst, hpath]
    exact congrArg _ hcalls
  unfold perform
  cases s.output with
  | text =>
    refine ⟨hcalls, hresult, ?_, ?_⟩
    · simp only [hprogress, hresult]
    · simp only [hprogress, hresult]
  | json =>
    refine ⟨hcalls, hresult, ?_, ?_⟩
    · simp only [hresult]
    · simp only [hresult]
  | csv =>
    refine ⟨hcalls, hresult, ?_, ?_⟩
    · simp only [hresult]
    · simp only [hresult]

/-- Two views get the same answer: a scan of the folder succeeds in both, finds and calls the same,
and runs leave the same behind. -/
structure AnsweredAlike (v v' : View) (s : Settings) : Prop where
  findings : ∃ found, (Scan.strict v s.selection [] s.folder).result = .ok found ∧
    (Scan.strict v' s.selection [] s.folder).result = .ok found
  calls : (Scan.strict v' s.selection [] s.folder).calls =
    (Scan.strict v s.selection [] s.folder).calls
  runs : ∀ duration time sink,
    SameAnswer (perform v s duration time sink) (perform v' s duration time sink)

theorem answeredAlike_of_folderAlike (hhome : v'.home = v.home)
    (h : Listing.FolderAlike (· = ·) v v' s.selection s.folder) : AnsweredAlike v v' s := by
  obtain ⟨found, hfound, hfound', hcalls⟩ := Scan.strict_eq_of_alike h
  obtain ⟨hresult, hrun⟩ := Scan.run_of_strict hfound
  obtain ⟨hresult', hrun'⟩ := Scan.run_of_strict hfound'
  refine ⟨⟨found, hfound, hfound'⟩, hcalls, perform_congr hhome ?_ ?_⟩
  · rw [hresult, hresult']
  · rw [hrun, hrun', hcalls]

/-- Entries whose names are not wanted and all that is below the entries of a folder are irrelevant.
Views from one working folder that show the wanted entries alike, in one order, get the same answer.
So do views of a tree that a file system can hold that differ nowhere else, unless a wanted link
leads to what differs. -/
theorem only_wanted_entries_matter (v v' : View) (s : Settings) (hhome : v'.home = v.home) :
    (Listing.FolderAlike (· = ·) v v' s.selection s.folder → AnsweredAlike v v' s) ∧
      ∀ loc, v.tree.WellFormed → Listing.DifferUnseen v v' s.selection s.folder loc →
        AnsweredAlike v v' s := by
  refine ⟨answeredAlike_of_folderAlike hhome, ?_⟩
  intro loc hwf hunseen
  exact answeredAlike_of_folderAlike hhome (Listing.folderAlike_of_differUnseen hwf hunseen)

/-- A folder with a file, a link into one of its folders, and a file whose name is not wanted. -/
def nestedFolder : View :=
  .built (utf8 "/d") false [
    .file (utf8 "o1") (utf8 "x"), .file (utf8 "p") (utf8 "x"), .folder (utf8 "sub"),
    .file (utf8 "sub/in") (utf8 "x"), .link (utf8 "o2") (utf8 "sub/in"), .folder (utf8 "o3")]

/-- The same folder, where a name has been added and one removed, a file put into a wanted folder,
and the file that the link leads to renewed by one with the same content. -/
def nestedFolderChanged : View :=
  [.remove (utf8 "p"), .pipe (utf8 "a"), .file (utf8 "o3/o4") (utf8 "x"),
    .access (utf8 "sub") ⟨false, true⟩, .remove (utf8 "sub/in"),
    .file (utf8 "sub/in") (utf8 "x")].foldl View.edit nestedFolder

/-- What has changed there does not show in the answer. -/
theorem nestedFolder_answered_alike :
    nestedFolderChanged.home = nestedFolder.home ∧ nestedFolder.tree.WellFormed ∧
      (∀ sorted, Listing.DifferUnseen nestedFolder nestedFolderChanged ⟨utf8 "o", sorted, true⟩
        (utf8 ".") [utf8 "d"]) ∧
      AnsweredAlike nestedFolder nestedFolderChanged
        { Settings.initial with wanted := utf8 "o", output := .json, sortEntries := true } ∧
      Listing.FolderAlike (· = ·) nestedFolder nestedFolderChanged ⟨utf8 "o", false, true⟩
        (utf8 ".") ∧
      AnsweredAlike nestedFolder nestedFolderChanged
        { Settings.initial with wanted := utf8 "o" } := by
  have hwf : nestedFolder.tree.WellFormed := View.wellFormed_edits _ _ _
  have hunseen (sorted : Bool) : Listing.DifferUnseen nestedFolder nestedFolderChanged
      ⟨utf8 "o", sorted, true⟩ (utf8 ".") [utf8 "d"] := by
    refine ⟨⟨by rfl, .newFolder, by rfl, by rfl⟩, by rfl, rfl, by rfl, ?_⟩
    intro _ entry hentry hwanted hlink
    have hlinks : ∀ entry ∈ nestedFolder.tree.entries [utf8 "d"], entry.2.kind = .link →
        Path.join (utf8 ".") entry.1 = utf8 "./o2" := by
      decide +kernel
    have hread : nestedFolder.read (utf8 "./o2") = .ok (utf8 "x") := by rfl
    have hread' : nestedFolderChanged.read (utf8 "./o2") = .ok (utf8 "x") := by rfl
    rw [hlinks entry hentry hlink]
    exact ⟨by decide +kernel, fun _ => hread.trans hread'.symm⟩
  have halike := Listing.folderAlike_of_differUnseen hwf (hunseen false)
  have hanswer := only_wanted_entries_matter nestedFolder nestedFolderChanged
  exact ⟨rfl, hwf, hunseen, (hanswer _ rfl).2 [utf8 "d"] hwf (hunseen true), halike,
    (hanswer _ rfl).1 halike⟩

end TwinFiles.Run
