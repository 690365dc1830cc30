import TwinFiles.Proofs.Group.Totals
import TwinFiles.Proofs.Scan.Pass

/-!
# The books of a scan balance

A summary counts in three places: entries while they come by, files when they are read, copies when
the groups stand. `Summary.Balances` ties these counts to each other and to the visits, and
`summary_balances` shows it for every scan that comes to its end, whatever its visits are and
however reading turns out.
-/

namespace TwinFiles

/-- The counts of a summary agree with each other and with the visits of its scan. -/
structure Summary.Balances (s : Summary) (visits : List Visit) : Prop where
  /-- A wanted entry is no file, or a hashed file, or a file that could not be read. -/
  examined : s.entriesExamined = s.nonFilesSkipped + s.filesHashed + s.readErrors.length
  /-- The failures of the listing, in order. -/
  entryErrors : s.entryErrors = visits.filterMap Visit.entryError?
  /-- A hashed file is the first with its digest or a copy. -/
  files : s.filesHashed =
    s.duplicateFiles + (Grouping.keys (visits.filterMap Visit.hashed?)).card
  /-- A group stands for a digest that was hashed twice or more. -/
  groups : s.duplicateGroups =
    ((Grouping.keys (visits.filterMap Visit.hashed?)).filter fun d =>
      2 ≤ ((visits.filterMap Visit.hashed?).map HashedFile.digest).count d).card
  /-- The bytes are those of the copies and of one file for each digest. -/
  bytes : Grouping.SizesAgree (visits.filterMap Visit.hashed?) →
    s.bytesHashed = s.reclaimableSpace +
      ∑ d ∈ Grouping.keys (visits.filterMap Visit.hashed?),
        (Grouping.group (visits.filterMap Visit.hashed?) d).size
  reclaimable : Grouping.SizesAgree (visits.filterMap Visit.hashed?) →
    s.reclaimableSpace ≤ s.bytesHashed

/-- Every examined visit is of one of three kinds. -/
theorem countP_isExamined (visits : List Visit) :
    visits.countP Visit.isExamined =
      visits.countP Visit.isNonFile + (visits.filterMap Visit.hashed?).length +
        (visits.filterMap Visit.readError?).length := by
  induction visits with
  | nil => rfl
  | cons visit visits ih =>
    cases visit with
    | unwanted path => simpa [List.countP_cons, List.filterMap_cons] using ih
    | nonFile path =>
      simp [List.countP_cons, List.filterMap_cons, ih]
      omega
    | file path outcome =>
      cases outcome with
      | ok content =>
        simp [List.countP_cons, List.filterMap_cons, ih]
        omega
      | error cause =>
        simp [List.countP_cons, List.filterMap_cons, ih]
        omega
    | failed path cause => simpa [List.countP_cons, List.filterMap_cons] using ih

/-- The sum of a summary is the sum of a list. -/
theorem Summary.total_eq_sum (numbers : List Nat) : Summary.total numbers = numbers.sum :=
  rfl

/-- A pass over visits balances when it settles. -/
theorem Pass.Covers.balances {p : Pass} {visits : List Visit} (h : p.Covers visits) :
    (p.summary.withGroups p.buckets.groups).Balances visits := by
  have hgroups : p.buckets.groups = Grouping.groups (visits.filterMap Visit.hashed?) := by
    rw [h.buckets, Buckets.groups_ofFiles]
  refine ⟨?_, h.entryErrors, ?_, ?_, ?_, ?_⟩
  · show p.summary.entriesExamined
      = p.summary.nonFilesSkipped + p.summary.filesHashed + p.summary.readErrors.length
    rw [h.examined, h.nonFiles, h.files, h.readErrors, countP_isExamined]
  · show p.summary.filesHashed = Summary.total (p.buckets.groups.map Group.duplicateCount) + _
    rw [h.files, hgroups, Summary.total_eq_sum, Grouping.sum_duplicateCount]
  · show p.buckets.groups.length = _
    rw [hgroups, Grouping.length_groups]
  · intro hagree
    show p.summary.bytesHashed = Summary.total (p.buckets.groups.map Group.wastedSpace) + _
    rw [h.bytes, hgroups, Summary.total_eq_sum, Grouping.sum_wastedSpace hagree]
  · intro hagree
    show Summary.total (p.buckets.groups.map Group.wastedSpace) ≤ p.summary.bytesHashed
    rw [h.bytes, hgroups, Summary.total_eq_sum, ← Grouping.sum_wastedSpace hagree]
    exact Nat.le_add_right _ _

/-- Scans of folders balance, for any visits and so in any tree that changes meanwhile, and so do
scans of given files, which have no entries to leave out and no listing to fail. -/
theorem summary_balances (s : Selection) :
    (∀ folder visits, (Scan.ofVisits s folder visits).result.2.Balances visits) ∧
    (∀ v changes folder findings, (Scan.strict v s changes folder).result = .ok findings →
      findings.2.Balances (Scan.visits v s folder changes)) ∧
    ∀ readings,
      (Scan.ofReadings s readings).result.2.Balances (readings.map Visit.ofReading) ∧
      (Scan.ofReadings s readings).result.2.nonFilesSkipped = 0 ∧
      (Scan.ofReadings s readings).result.2.entryErrors = [] := by
  have hvisits : ∀ folder visits, (Scan.ofVisits s folder visits).result.2.Balances visits := by
    intro folder visits
    rw [Scan.summary_ofVisits]
    exact (Scan.passOf_covers s folder visits).balances
  refine ⟨hvisits, ?_, ?_⟩
  · intro v changes folder findings h
    rw [Scan.strict_of_valid (Scan.valid_of_strict h)] at h
    cases h
    exact hvisits folder _
  · intro readings
    have hrun := Pass.gathers_run [] (Pass.blank [] s.wanted) (readings.map Visit.ofReading)
    rw [← Pass.runReadings_eq_run] at hrun
    have hcovers := hrun.covers rfl rfl
    refine ⟨hcovers.balances, ?_, ?_⟩
    · show ((Pass.blank [] s.wanted).runReadings readings).summary.nonFilesSkipped = 0
      rw [hcovers.nonFiles, List.countP_map]
      exact List.countP_eq_zero.mpr fun reading _ => by simp [Visit.ofReading]
    · show ((Pass.blank [] s.wanted).runReadings readings).summary.entryErrors = []
      rw [hcovers.entryErrors, List.filterMap_map]
      exact List.filterMap_eq_nil_iff.mpr fun reading _ => rfl

end TwinFiles
