import TwinFiles.Proofs.Scan.Specification
import TwinFiles.Proofs.Scan.Trace
import TwinFiles.Proofs.Tree.Refusal

/-!
# The visits of a folder in which nothing changes

While nothing changes, entries are visited independently of each other (`visitEntries_eq_map`). So
whatever a scan calls, groups or reports concerns the folder itself or an entry with a wanted name
(`foreseen_of_mem_calls`, `mem_groups_run`), and files cannot be read for known causes only
(`mem_readErrors_run`).
-/

namespace TwinFiles.Scan

/-- The visit of an entry while nothing changes. -/
def visitOf (v : View) (s : Selection) (folder : Path) (e : Entry) : Visit :=
  match Listing.sight v s folder e with
  | .unwanted path => .unwanted path
  | .nonFile path => .nonFile path
  | .file path => .file path (v.read path)
  | .failed path cause => .failed path cause

/-- While nothing changes, each entry has a visit of its own. -/
theorem visitEntries_eq_map (v : View) (s : Selection) (folder : Path) (es : List Entry) :
    visitEntries s folder v [] es = es.map (visitOf v s folder) := by
  induction es with
  | nil => rfl
  | cons e es ih =>
    rw [visitEntries, List.map_cons, visitOf]
    cases Listing.sight v s folder e with
    | unwanted path => exact congrArg (Visit.unwanted path :: ·) ih
    | nonFile path => exact congrArg (Visit.nonFile path :: ·) ih
    | file path => exact congrArg (Visit.file path (v.read path) :: ·) ih
    | failed path cause => exact congrArg (Visit.failed path cause :: ·) ih

theorem visits_of_entries {v : View} {s : Selection} {folder : Path} {es : List Entry}
    (h : Listing.entries v s folder = .ok es) :
    visits v s folder [] = es.map (visitOf v s folder) := by
  rw [visits, h]
  exact visitEntries_eq_map v s folder es

/-- The entries of a folder that passes the check are visited in order. -/
theorem visits_of_valid {v : View} {folder : Path} (valid : Listing.validate v folder = .ok ())
    (s : Selection) :
    ∃ es, Listing.InOrder v s folder es ∧ visits v s folder [] = es.map (visitOf v s folder) := by
  obtain ⟨es, hentries, horder⟩ := Listing.entries_of_valid valid s
  exact ⟨es, horder, visits_of_entries hentries⟩

/-- The path of an entry of the folder whose name is wanted. -/
def IsWanted (v : View) (s : Selection) (folder p : Path) : Prop :=
  ∃ listing, v.list folder = .ok listing ∧
    ∃ e ∈ listing, s.wanted <+: e.1 ∧ p = folder.join e.1

/-- What a reporter can be called with while nothing changes. -/
inductive Foreseen (v : View) (s : Selection) (folder : Path) : Call → Prop where
  | start : Foreseen v s folder (.start folder s.wanted)
  | entry {p : Path} (hp : IsWanted v s folder p) : Foreseen v s folder (.entry p)
  | hashed {p : Path} (hp : IsWanted v s folder p) (content : Bytes) :
    Foreseen v s folder (.hashed (.of p content))
  | readError {p : Path} (hp : IsWanted v s folder p) {cause : Cause}
    (hcause : cause ∈ View.readCauses) : Foreseen v s folder (.readError ⟨p, cause⟩)
  | invalid {e : FolderError} (he : e.path = folder) : Foreseen v s folder (.invalid e)

section Run

variable {v : View} {s : Selection} {folder : Path}

/-- What is seen of an entry is seen at its path, and only if its name is wanted. -/
theorem visitOf_cases (v : View) (s : Selection) (folder : Path) (e : Entry) :
    visitOf v s folder e = .unwanted (folder.join e.1) ∨
      s.wanted <+: e.1 ∧
        (visitOf v s folder e = .nonFile (folder.join e.1) ∨
          visitOf v s folder e = .file (folder.join e.1) (v.read (folder.join e.1))) := by
  rw [visitOf, Listing.sight]
  by_cases hwanted : s.admits e.1 = true
  · rw [if_pos hwanted]
    refine .inr ⟨Selection.admits_iff.mp hwanted, ?_⟩
    split
    · next heq =>
      split at heq <;> cases heq
    · next heq =>
      split at heq
      · cases heq
      · cases heq
        exact .inl rfl
    · next heq =>
      split at heq
      · cases heq
        exact .inr rfl
      · cases heq
    · next heq =>
      split at heq <;> cases heq
  · rw [if_neg hwanted]
    exact .inl rfl

/-- A file that was hashed is an entry with a wanted name that could be read. -/
theorem hashed_visitOf {e : Entry} {f : HashedFile}
    (h : (visitOf v s folder e).hashed? = some f) :
    s.wanted <+: e.1 ∧ ∃ content, v.read (folder.join e.1) = .ok content ∧
      f = .of (folder.join e.1) content := by
  rcases visitOf_cases v s folder e with heq | ⟨hwanted, heq | heq⟩
  · rw [heq] at h
    cases h
  · rw [heq] at h
    cases h
  · rw [heq] at h
    cases hread : v.read (folder.join e.1) <;> rw [hread] at h <;> cases h
    exact ⟨hwanted, _, rfl, rfl⟩

/-- A file that could not be read is an entry with a wanted name, too. -/
theorem readError_visitOf {e : Entry} {r : ReadError}
    (h : (visitOf v s folder e).readError? = some r) :
    s.wanted <+: e.1 ∧ v.read (folder.join e.1) = .error r.cause ∧
      r.path = folder.join e.1 := by
  rcases visitOf_cases v s folder e with heq | ⟨hwanted, heq | heq⟩
  · rw [heq] at h
    cases h
  · rw [heq] at h
    cases h
  · rw [heq] at h
    cases hread : v.read (folder.join e.1) <;> rw [hread] at h <;> cases h
    exact ⟨hwanted, rfl, rfl⟩

/-- A folder that does not pass the check is the one that is reported. -/
theorem path_of_validate {e : FolderError} (h : Listing.validate v folder = .error e) :
    e.path = folder := by
  have hcause : ∀ cause, (FolderError.ofCause folder cause).path = folder := by
    intro cause
    unfold FolderError.ofCause
    split <;> rfl
  unfold Listing.validate at h
  split at h
  · cases h
    exact hcause _
  · split at h
    · cases h
      exact hcause _
    · cases h
  · cases h
    rfl

/-- A scan of a folder that does not pass the check calls its start and the failure. -/
theorem run_of_invalid {e : FolderError} (h : Listing.validate v folder = .error e) (s : Selection)
    (changes : List Change) :
    (run v s changes folder).calls = [.start folder s.wanted, .invalid e] ∧
      (run v s changes folder).result =
        ([], { Summary.blank folder s.wanted with invalidDirectory := true }) := by
  constructor
  · have hnotes : ((Listing.errorRecords e).map Happening.note).filterMap Happening.call? = [] :=
      List.filterMap_eq_nil_iff.mpr (List.forall_mem_map.mpr fun _ _ => rfl)
    rw [run, strict, h]
    show (_ :: _ ++ [_] : List Happening).filterMap Happening.call? = _
    rw [List.filterMap_append, List.filterMap_cons, hnotes]
    rfl
  · rw [run, strict, h]

/-- A scan of a folder that passes the check is that of its entries, and any other scan calls the
start and the failure. -/
theorem run_cases (v : View) (s : Selection) (folder : Path) :
    (∃ es, Listing.InOrder v s folder es ∧
      (run v s [] folder).calls =
        .start folder s.wanted :: (es.map (visitOf v s folder)).flatMap Visit.calls ∧
      (run v s [] folder).result = (ofVisits s folder (es.map (visitOf v s folder))).result) ∨
    ∃ e : FolderError, e.path = folder ∧
      (run v s [] folder).calls = [.start folder s.wanted, .invalid e] ∧
      (run v s [] folder).result =
        ([], { Summary.blank folder s.wanted with invalidDirectory := true }) := by
  cases hvalid : Listing.validate v folder with
  | ok u =>
    obtain ⟨es, horder, hvisits⟩ := visits_of_valid hvalid s
    refine .inl ⟨es, horder, ?_, ?_⟩
    · rw [run, strict_of_valid hvalid, hvisits]
      exact calls_ofVisits s folder _
    · rw [run, strict_of_valid hvalid, hvisits]
  | error e =>
    exact .inr ⟨e, path_of_validate hvalid, run_of_invalid hvalid s []⟩

variable {es : List Entry}

/-- Names in the order of the visits are names of the listing. -/
theorem isWanted_of_mem (horder : Listing.InOrder v s folder es) {e : Entry} (he : e ∈ es)
    (hwanted : s.wanted <+: e.1) : IsWanted v s folder (folder.join e.1) := by
  obtain ⟨listing, hlisting, hperm, _⟩ := horder.listed
  exact ⟨listing, hlisting, e, hperm.mem_iff.mp he, hwanted, rfl⟩

/-- Calls concern the folder or an entry with a wanted name. -/
theorem foreseen_of_mem_calls {call : Call} (h : call ∈ (run v s [] folder).calls) :
    Foreseen v s folder call := by
  rcases run_cases v s folder with ⟨es, horder, hcalls, _⟩ | ⟨e, he, hcalls, _⟩
  · rw [hcalls, List.mem_cons] at h
    rcases h with rfl | h
    · exact .start
    · obtain ⟨visit, hvisit, hcall⟩ := List.mem_flatMap.mp h
      obtain ⟨e, he, rfl⟩ := List.mem_map.mp hvisit
      rcases visitOf_cases v s folder e with heq | ⟨hwanted, heq | heq⟩
      · rw [heq] at hcall
        cases hcall
      · rw [heq, Visit.calls, List.mem_singleton] at hcall
        rw [hcall]
        exact .entry (isWanted_of_mem horder he hwanted)
      · rw [heq] at hcall
        have hp := isWanted_of_mem horder he hwanted
        cases hread : v.read (folder.join e.1) with
        | ok content =>
          rw [hread, Visit.calls, List.mem_pair] at hcall
          rcases hcall with rfl | rfl
          · exact .entry hp
          · exact .hashed hp content
        | error cause =>
          rw [hread, Visit.calls, List.mem_pair] at hcall
          rcases hcall with rfl | rfl
          · exact .entry hp
          · exact .readError hp (View.mem_readCauses hread)
  · rw [hcalls, List.mem_pair] at h
    rcases h with rfl | rfl
    · exact .start
    · exact .invalid he

/-- A group has two paths at least, all of entries with wanted names. -/
theorem mem_groups_run {g : Group} (h : g ∈ (run v s [] folder).result.1) :
    2 ≤ g.paths.length ∧ ∀ p ∈ g.paths, IsWanted v s folder p := by
  rcases run_cases v s folder with ⟨es, horder, _, hresult⟩ | ⟨e, _, _, hresult⟩
  · rw [hresult, (findings_ofVisits s folder _).1] at h
    obtain ⟨hlength, d, _, rfl⟩ := Grouping.mem_groups.mp h
    refine ⟨hlength, ?_⟩
    intro p hp
    obtain ⟨f, hf, rfl⟩ := List.mem_map.mp hp
    obtain ⟨visit, hvisit, hhashed⟩ := List.mem_filterMap.mp (List.mem_of_mem_filter hf)
    obtain ⟨e, he, rfl⟩ := List.mem_map.mp hvisit
    obtain ⟨hwanted, content, _, rfl⟩ := hashed_visitOf hhashed
    exact isWanted_of_mem horder he hwanted
  · rw [hresult] at h
    cases h

/-- Unreadable files are reported with the causes that reading can fail with. -/
theorem mem_readErrors_run {e : ReadError} (h : e ∈ (run v s [] folder).result.2.readErrors) :
    e.cause ∈ View.readCauses := by
  rcases run_cases v s folder with ⟨es, _, _, hresult⟩ | ⟨_, _, _, hresult⟩
  · rw [hresult, (findings_ofVisits s folder _).2] at h
    obtain ⟨visit, hvisit, herror⟩ := List.mem_filterMap.mp h
    obtain ⟨entry, _, rfl⟩ := List.mem_map.mp hvisit
    exact View.mem_readCauses (readError_visitOf herror).2.1
  · rw [hresult] at h
    cases h

theorem wanted_run (v : View) (s : Selection) (folder : Path) :
    (run v s [] folder).result.2.wanted = s.wanted := by
  rcases run_cases v s folder with ⟨es, _, _, hresult⟩ | ⟨_, _, _, hresult⟩
  · rw [hresult]
    exact (Pass.gathers_run folder _ (es.map (visitOf v s folder))).wanted
  · rw [hresult]
    rfl

end Run

end TwinFiles.Scan
