import Mathlib.Algebra.GroupWithZero.Nat
import TwinFiles.Scan.Basic

/-!
# What a pass gathers

`Pass.Gathers p visits q` says that a pass stands at `q` after it went over visits from `p`: every
counter has grown by what the visits hold, the lists of errors have grown at their ends, the hashed
files are in the buckets and the reporter has been called. One visit gathers itself
(`gathers_visit`), and what is gathered adds up (`Gathers.append`), so a run gathers its visits
(`gathers_run`), and a scan holds what its visits hold (`passOf_covers`).
-/

namespace TwinFiles

/-! ## What a visit holds -/

namespace Visit

/-- The file that was hashed. -/
@[simp] def hashed? : Visit → Option HashedFile
  | file path (.ok content) => some (.of path content)
  | _ => none

/-- The file that could not be read. -/
@[simp] def readError? : Visit → Option ReadError
  | file path (.error cause) => some ⟨path, cause⟩
  | _ => none

/-- The failure of the listing. -/
@[simp] def entryError? : Visit → Option FolderError
  | failed path cause => some (.failed path cause)
  | _ => none

/-- A wanted entry, file or not. -/
@[simp] def isExamined : Visit → Bool
  | nonFile _ => true
  | file _ _ => true
  | _ => false

@[simp] def isNonFile : Visit → Bool
  | nonFile _ => true
  | _ => false

/-- The calls that a reporter gets. -/
@[simp] def calls : Visit → List Call
  | unwanted _ => []
  | nonFile path => [.entry path]
  | file path (.ok content) => [.entry path, .hashed (.of path content)]
  | file path (.error cause) => [.entry path, .readError ⟨path, cause⟩]
  | failed path cause => [.entryError (.failed path cause)]

/-- The visit of a given file. -/
def ofReading (reading : Path × Except Cause Bytes) : Visit :=
  .file reading.1 reading.2

end Visit

namespace Pass

/-- The calls of the reporter so far. -/
def calls (p : Pass) : List Call :=
  p.steps.filterMap Happening.call?

/-! ## Telling others -/

@[simp] theorem summary_tell (p : Pass) (hs : List Happening) : (p.tell hs).summary = p.summary :=
  rfl

@[simp] theorem buckets_tell (p : Pass) (hs : List Happening) : (p.tell hs).buckets = p.buckets :=
  rfl

@[simp] theorem steps_tell (p : Pass) (hs : List Happening) :
    (p.tell hs).steps = p.steps ++ hs := by
  simp [steps, tell]

@[simp] theorem calls_tell (p : Pass) (hs : List Happening) :
    (p.tell hs).calls = p.calls ++ hs.filterMap Happening.call? := by
  simp [calls]

/-- Records are no calls. -/
@[simp] theorem calls_tell_notes {α : Type} (p : Pass) (note : α → Log.Record) (l : List α) :
    (p.tell (l.map fun a => .note (note a))).calls = p.calls := by
  simp [Happening.call?]

/-! ## One visit -/

@[simp] theorem summary_examine (p : Pass) (path : Path) :
    (p.examine path).summary =
      { p.summary with entriesExamined := p.summary.entriesExamined + 1 } :=
  rfl

@[simp] theorem buckets_examine (p : Pass) (path : Path) : (p.examine path).buckets = p.buckets :=
  rfl

@[simp] theorem calls_examine (p : Pass) (path : Path) :
    (p.examine path).calls = p.calls ++ [.entry path] := by
  rw [examine, calls_tell]
  rfl

@[simp] theorem summary_skip (p : Pass) :
    p.skip.summary = { p.summary with nonFilesSkipped := p.summary.nonFilesSkipped + 1 } :=
  rfl

@[simp] theorem buckets_skip (p : Pass) : p.skip.buckets = p.buckets :=
  rfl

@[simp] theorem calls_skip (p : Pass) : p.skip.calls = p.calls :=
  rfl

@[simp] theorem summary_take_ok (p : Pass) (path : Path) (content : Bytes) :
    (p.take path (.ok content)).summary =
      { p.summary with
        filesHashed := p.summary.filesHashed + 1
        bytesHashed := p.summary.bytesHashed + content.length } :=
  rfl

@[simp] theorem buckets_take_ok (p : Pass) (path : Path) (content : Bytes) :
    (p.take path (.ok content)).buckets = p.buckets.insert (.of path content) :=
  rfl

@[simp] theorem calls_take_ok (p : Pass) (path : Path) (content : Bytes) :
    (p.take path (.ok content)).calls = p.calls ++ [.hashed (.of path content)] := by
  show (p.tell (Visit.readingSteps path (.ok content))).calls = _
  rw [calls_tell]
  rfl

@[simp] theorem summary_take_error (p : Pass) (path : Path) (cause : Cause) :
    (p.take path (.error cause)).summary =
      { p.summary with readErrors := p.summary.readErrors ++ [⟨path, cause⟩] } :=
  rfl

@[simp] theorem buckets_take_error (p : Pass) (path : Path) (cause : Cause) :
    (p.take path (.error cause)).buckets = p.buckets :=
  rfl

@[simp] theorem calls_take_error (p : Pass) (path : Path) (cause : Cause) :
    (p.take path (.error cause)).calls = p.calls ++ [.readError ⟨path, cause⟩] := by
  show (p.tell (Visit.readingSteps path (.error cause))).calls = _
  rw [calls_tell]
  rfl

@[simp] theorem summary_fail (p : Pass) (e : FolderError) :
    (p.fail e).summary = { p.summary with entryErrors := p.summary.entryErrors ++ [e] } :=
  rfl

@[simp] theorem buckets_fail (p : Pass) (e : FolderError) : (p.fail e).buckets = p.buckets :=
  rfl

@[simp] theorem calls_fail (p : Pass) (e : FolderError) :
    (p.fail e).calls = p.calls ++ [.entryError e] := by
  show (p.tell [.call (.entryError e)]).calls = _
  rw [calls_tell]
  rfl

/-! ## Visits add up -/

/-- What a pass has gathered at `q` beyond what it had at `p` is what the visits hold. -/
structure Gathers (p : Pass) (visits : List Visit) (q : Pass) : Prop where
  folder : q.summary.folder = p.summary.folder
  wanted : q.summary.wanted = p.summary.wanted
  invalid : q.summary.invalidDirectory = p.summary.invalidDirectory
  examined : q.summary.entriesExamined =
    p.summary.entriesExamined + visits.countP Visit.isExamined
  nonFiles : q.summary.nonFilesSkipped =
    p.summary.nonFilesSkipped + visits.countP Visit.isNonFile
  files : q.summary.filesHashed =
    p.summary.filesHashed + (visits.filterMap Visit.hashed?).length
  bytes : q.summary.bytesHashed =
    p.summary.bytesHashed + ((visits.filterMap Visit.hashed?).map HashedFile.size).sum
  readErrors : q.summary.readErrors = p.summary.readErrors ++ visits.filterMap Visit.readError?
  entryErrors : q.summary.entryErrors = p.summary.entryErrors ++ visits.filterMap Visit.entryError?
  buckets : q.buckets = (visits.filterMap Visit.hashed?).foldl Buckets.insert p.buckets
  calls : q.calls = p.calls ++ visits.flatMap Visit.calls

theorem Gathers.nil (p : Pass) : Gathers p [] p := by
  constructor <;> simp

/-- Visits that start where others end add to them. -/
theorem Gathers.append {p q r : Pass} {before after : List Visit} (h : Gathers p before q)
    (h' : Gathers q after r) : Gathers p (before ++ after) r where
  folder := h'.folder.trans h.folder
  wanted := h'.wanted.trans h.wanted
  invalid := h'.invalid.trans h.invalid
  examined := by rw [h'.examined, h.examined, List.countP_append, Nat.add_assoc]
  nonFiles := by rw [h'.nonFiles, h.nonFiles, List.countP_append, Nat.add_assoc]
  files := by rw [h'.files, h.files, List.filterMap_append, List.length_append, Nat.add_assoc]
  bytes := by
    rw [h'.bytes, h.bytes, List.filterMap_append, List.map_append, List.sum_append_nat,
      Nat.add_assoc]
  readErrors := by rw [h'.readErrors, h.readErrors, List.filterMap_append, List.append_assoc]
  entryErrors := by rw [h'.entryErrors, h.entryErrors, List.filterMap_append, List.append_assoc]
  buckets := by rw [h'.buckets, h.buckets, List.filterMap_append, List.foldl_append]
  calls := by rw [h'.calls, h.calls, List.flatMap_append, List.append_assoc]

/-- One visit gathers what it holds. -/
theorem gathers_visit (folder : Path) (p : Pass) (visit : Visit) :
    Gathers p [visit] (p.visit folder visit) := by
  have hnotes : (p.tell ((Listing.records folder visit.sighting).map .note)).calls = p.calls :=
    p.calls_tell_notes id _
  cases visit with
  | unwanted path => constructor <;> simp [Pass.visit, hnotes, List.filterMap_cons]
  | nonFile path => constructor <;> simp [Pass.visit, hnotes, List.filterMap_cons]
  | file path outcome =>
    cases outcome with
    | ok content => constructor <;> simp [Pass.visit, hnotes, List.filterMap_cons, HashedFile.of]
    | error cause => constructor <;> simp [Pass.visit, hnotes, List.filterMap_cons]
  | failed path cause => constructor <;> simp [Pass.visit, hnotes, List.filterMap_cons]

/-- A run gathers its visits. -/
theorem gathers_run (folder : Path) (p : Pass) (visits : List Visit) :
    Gathers p visits (p.run folder visits) := by
  induction visits generalizing p with
  | nil => exact .nil p
  | cons visit visits ih =>
    have hfirst := gathers_visit folder p visit
    exact hfirst.append (ih (p.visit folder visit))

/-- A pass holds what these visits hold, and nothing else. -/
structure Covers (p : Pass) (visits : List Visit) : Prop where
  examined : p.summary.entriesExamined = visits.countP Visit.isExamined
  nonFiles : p.summary.nonFilesSkipped = visits.countP Visit.isNonFile
  files : p.summary.filesHashed = (visits.filterMap Visit.hashed?).length
  bytes : p.summary.bytesHashed = ((visits.filterMap Visit.hashed?).map HashedFile.size).sum
  readErrors : p.summary.readErrors = visits.filterMap Visit.readError?
  entryErrors : p.summary.entryErrors = visits.filterMap Visit.entryError?
  buckets : p.buckets = Buckets.ofFiles (visits.filterMap Visit.hashed?)

/-- What is gathered from nothing is all that there is. -/
theorem Gathers.covers {p q : Pass} {visits : List Visit} (h : Gathers p visits q)
    {folder : Path} {wanted : Bytes} (hsummary : p.summary = .blank folder wanted)
    (hbuckets : p.buckets = .empty) : q.Covers visits where
  examined := by simpa [hsummary, Summary.blank] using h.examined
  nonFiles := by simpa [hsummary, Summary.blank] using h.nonFiles
  files := by simpa [hsummary, Summary.blank] using h.files
  bytes := by simpa [hsummary, Summary.blank] using h.bytes
  readErrors := by simpa [hsummary, Summary.blank] using h.readErrors
  entryErrors := by simpa [hsummary, Summary.blank] using h.entryErrors
  buckets := by
    rw [h.buckets, hbuckets]
    rfl

/-- Given files are visited like files of a folder. -/
theorem runReadings_eq_run (folder : Path) (p : Pass)
    (readings : List (Path × Except Cause Bytes)) :
    p.runReadings readings = p.run folder (readings.map Visit.ofReading) := by
  induction readings generalizing p with
  | nil => rfl
  | cons reading readings ih => exact ih ((p.examine reading.1).take reading.1 reading.2)

/-! ## The end of a pass -/

/-- Settling makes no calls. -/
@[simp] theorem calls_settle (p : Pass) : p.settle.1.calls = p.calls :=
  p.calls_tell_notes uniqueNote p.buckets.uniquePaths

end Pass

/-! ## Scans -/

namespace Scan

/-- The pass over the visits of a folder, before it settles. -/
def passOf (s : Selection) (folder : Path) (visits : List Visit) : Pass :=
  ((Pass.blank folder s.wanted).tell
    [.call (.start folder s.wanted), .note (openingNote folder)]).run folder visits

theorem passOf_covers (s : Selection) (folder : Path) (visits : List Visit) :
    (passOf s folder visits).Covers visits :=
  (Pass.gathers_run folder _ visits).covers rfl rfl

theorem groups_ofVisits (s : Selection) (folder : Path) (visits : List Visit) :
    (ofVisits s folder visits).result.1 = (passOf s folder visits).buckets.groups :=
  rfl

theorem summary_ofVisits (s : Selection) (folder : Path) (visits : List Visit) :
    (ofVisits s folder visits).result.2 =
      (passOf s folder visits).summary.withGroups (passOf s folder visits).buckets.groups :=
  rfl

/-- A folder that passes the check is scanned visit by visit. -/
theorem strict_of_valid {v : View} {folder : Path} (valid : Listing.validate v folder = .ok ())
    (s : Selection) (changes : List Change) :
    strict v s changes folder =
      { steps := (ofVisits s folder (visits v s folder changes)).steps
        result := .ok (ofVisits s folder (visits v s folder changes)).result } := by
  rw [strict, valid]

/-- Only a folder that passes the check has findings. -/
theorem valid_of_strict {v : View} {s : Selection} {changes : List Change} {folder : Path}
    {findings : Findings} (h : (strict v s changes folder).result = .ok findings) :
    Listing.validate v folder = .ok () := by
  unfold strict at h
  split at h
  · cases h
  · next valid => exact valid

end Scan

end TwinFiles
