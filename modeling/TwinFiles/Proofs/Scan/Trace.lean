import TwinFiles.Proofs.Scan.Pass
import TwinFiles.Reporter.Basic

/-!
# What a reporter hears

The calls of a scan are its start and then those of its visits, one visit after another
(`calls_ofVisits`). The calls of a visit show everything that a pass gathers from it
(`hashed_calls` and its like), so whoever keeps the calls can draw up the findings
(`calls_tell_findings`). A reporter puts out what its calls make it put out
(`Reporter.perform_fst`).
-/

namespace TwinFiles

/-! ## What calls tell -/

namespace Call

@[simp] def isEntry : Call → Bool
  | entry _ => true
  | _ => false

@[simp] def hashed? : Call → Option HashedFile
  | hashed file => some file
  | _ => none

@[simp] def readError? : Call → Option ReadError
  | readError e => some e
  | _ => none

@[simp] def entryError? : Call → Option FolderError
  | entryError e => some e
  | _ => none

end Call

/-- The findings that calls tell of: counts of calls, their errors in order, and the groups of their
files, put into buckets anew. -/
structure Findings.ToldBy (f : Findings) (calls : List Call) : Prop where
  examined : f.2.entriesExamined = calls.countP Call.isEntry
  readErrors : f.2.readErrors = calls.filterMap Call.readError?
  entryErrors : f.2.entryErrors = calls.filterMap Call.entryError?
  files : f.2.filesHashed = (calls.filterMap Call.hashed?).length
  bytes : f.2.bytesHashed = ((calls.filterMap Call.hashed?).map HashedFile.size).sum
  groups : f.1 = (Buckets.ofFiles (calls.filterMap Call.hashed?)).groups

namespace Visit

/-- What calls show is what visits hold, if that is so for each visit. -/
theorem filterMap_calls {α : Type} {shown : Call → Option α} {held : Visit → Option α}
    (h : ∀ visit : Visit, visit.calls.filterMap shown = (held visit).toList)
    (visits : List Visit) :
    (visits.flatMap Visit.calls).filterMap shown = visits.filterMap held := by
  induction visits with
  | nil => rfl
  | cons visit visits ih =>
    rw [List.flatMap_cons, List.filterMap_append, h, ih, List.filterMap_cons]
    cases held visit <;> rfl

/-- Every examined visit calls its entry once. -/
theorem countP_isEntry_calls (visits : List Visit) :
    (visits.flatMap Visit.calls).countP Call.isEntry = visits.countP Visit.isExamined := by
  have hvisit : ∀ visit : Visit,
      visit.calls.countP Call.isEntry = if visit.isExamined then 1 else 0 := by
    intro visit
    cases visit with
    | file path outcome => cases outcome <;> rfl
    | _ => rfl
  induction visits with
  | nil => rfl
  | cons visit visits ih =>
    rw [List.flatMap_cons, List.countP_append, hvisit, ih, List.countP_cons, Nat.add_comm]

theorem hashed_calls (visits : List Visit) :
    (visits.flatMap Visit.calls).filterMap Call.hashed? = visits.filterMap Visit.hashed? := by
  apply filterMap_calls
  intro visit
  cases visit with
  | file path outcome => cases outcome <;> rfl
  | _ => rfl

theorem readError_calls (visits : List Visit) :
    (visits.flatMap Visit.calls).filterMap Call.readError? =
      visits.filterMap Visit.readError? := by
  apply filterMap_calls
  intro visit
  cases visit with
  | file path outcome => cases outcome <;> rfl
  | _ => rfl

theorem entryError_calls (visits : List Visit) :
    (visits.flatMap Visit.calls).filterMap Call.entryError? =
      visits.filterMap Visit.entryError? := by
  apply filterMap_calls
  intro visit
  cases visit with
  | file path outcome => cases outcome <;> rfl
  | _ => rfl

/-- No visit makes the folder invalid. -/
theorem invalid_notMem_calls (visit : Visit) (e : FolderError) : .invalid e ∉ visit.calls := by
  cases visit with
  | file path outcome => cases outcome <;> simp
  | _ => simp

end Visit

/-- What a reporter has put out depends on the calls among the steps alone. -/
theorem Reporter.perform_fst {σ : Type} (r : Reporter σ) (state : σ) (steps : List Happening) :
    (r.perform state steps).1 =
      (steps.filterMap Happening.call?).foldl (fun state call => (r.react state call).1) state := by
  induction steps generalizing state with
  | nil => rfl
  | cons step steps ih =>
    cases step with
    | note record => exact ih state
    | call call => exact ih _

namespace Scan

/-- The closing steps are no calls. -/
theorem calls_ofVisits_eq_passOf (s : Selection) (folder : Path) (visits : List Visit) :
    (ofVisits s folder visits).calls = (passOf s folder visits).calls := by
  show ((passOf s folder visits).settle.1.tell [.note _]).calls = _
  rw [Pass.calls_tell, Pass.calls_settle]
  exact List.append_nil _

/-- A reporter that keeps its calls has kept those among the steps. -/
theorem perform_recorder (kept : List Call) (steps : List Happening) :
    (Reporter.recorder.perform kept steps).1 =
      (steps.filterMap Happening.call?).reverse ++ kept := by
  rw [Reporter.perform_fst]
  exact List.foldl_flip_cons_eq_append'

/-- A scan of a folder calls its start, and then for each visit in turn. -/
theorem calls_ofVisits (s : Selection) (folder : Path) (visits : List Visit) :
    (ofVisits s folder visits).calls =
      .start folder s.wanted :: visits.flatMap Visit.calls := by
  rw [calls_ofVisits_eq_passOf]
  exact (Pass.gathers_run folder _ visits).calls

/-- The calls of a scan tell its findings: a pass gathers what its visits hold, and their calls show
just that. -/
theorem toldBy_calls (s : Selection) (folder : Path) (visits : List Visit) :
    (ofVisits s folder visits).result.ToldBy (ofVisits s folder visits).calls := by
  have h := passOf_covers s folder visits
  rw [calls_ofVisits]
  refine ⟨?_, ?_, ?_, ?_, ?_, ?_⟩
  · rw [List.countP_cons_of_neg (by simp), Visit.countP_isEntry_calls]
    exact h.examined
  · rw [List.filterMap_cons_none rfl, Visit.readError_calls]
    exact h.readErrors
  · rw [List.filterMap_cons_none rfl, Visit.entryError_calls]
    exact h.entryErrors
  · rw [List.filterMap_cons_none rfl, Visit.hashed_calls]
    exact h.files
  · rw [List.filterMap_cons_none rfl, Visit.hashed_calls]
    exact h.bytes
  · rw [List.filterMap_cons_none rfl, Visit.hashed_calls, groups_ofVisits, h.buckets]

/-- What a reporter has kept of a scan is the start and the calls of its visits, and it tells the
findings. The visits may be any; those of a folder that passes the check make up its scan. -/
theorem calls_tell_findings (s : Selection) (folder : Path) :
    (∀ visits,
      (Reporter.recorder.perform [] (ofVisits s folder visits).steps).1.reverse =
        .start folder s.wanted :: visits.flatMap Visit.calls ∧
      (∀ e, .invalid e ∉ (ofVisits s folder visits).calls) ∧
      (ofVisits s folder visits).result.ToldBy (ofVisits s folder visits).calls) ∧
    ∀ v changes, Listing.validate v folder = .ok () →
      ∃ findings, (strict v s changes folder).result = .ok findings ∧
        (strict v s changes folder).calls =
          .start folder s.wanted :: (visits v s folder changes).flatMap Visit.calls ∧
        findings.ToldBy (strict v s changes folder).calls := by
  refine ⟨?_, ?_⟩
  · intro visits
    refine ⟨?_, ?_, toldBy_calls s folder visits⟩
    · rw [perform_recorder, List.append_nil, List.reverse_reverse]
      exact calls_ofVisits s folder visits
    · intro e he
      rw [calls_ofVisits, List.mem_cons] at he
      rcases he with he | he
      · cases he
      · obtain ⟨visit, _, hvisit⟩ := List.mem_flatMap.mp he
        exact visit.invalid_notMem_calls e hvisit
  · intro v changes valid
    rw [strict_of_valid valid]
    exact ⟨_, rfl, calls_ofVisits s folder _, toldBy_calls s folder _⟩

end Scan

end TwinFiles
