import TwinFiles.Proofs.Scan.Answer
import TwinFiles.Proofs.Tree.Loops

/-!
# Folders that cannot be scanned

A scan succeeds if the folder's path leads to a folder that may be listed, and else fails with what
is wrong with the path as it was given (`Scan.Verdict`). A scan that reports failures instead gives
what the other one finds, or else an empty result and one call about the failure (`Scan.Reports`).
-/

namespace TwinFiles

namespace View

/-- A path leads to a folder that may be listed. -/
def Lists (v : View) (folder : Path) : Prop :=
  ∃ access, v.LeadsTo folder (.folder access) ∧ v.mayRead access = true

/-- A folder cannot be looked up, or it is there and cannot be opened for listing. -/
inductive FailsToOpen (v : View) (folder : Path) : Cause → Prop
  | lookup {cause : Cause} (hfails : v.FailsFor folder cause) : FailsToOpen v folder cause
  | listing {access : Access} (hfolder : v.LeadsTo folder (.folder access))
      (hread : v.mayRead access = false) : FailsToOpen v folder .accessDenied

theorem FailsToOpen.mem_lookupCauses {v : View} {folder : Path} {cause : Cause}
    (h : v.FailsToOpen folder cause) : cause ∈ lookupCauses := by
  cases h with
  | lookup hfails => exact hfails.mem_lookupCauses
  | listing _ _ => decide

/-- A folder opens if it may be listed. -/
theorem list_of_item {v : View} {p : Path} {access : Access}
    (h : v.item true p = .ok (.folder access)) :
    (v.mayRead access = true → ∃ es, v.list p = .ok es) ∧
      (v.mayRead access = false → v.list p = .error .accessDenied) := by
  obtain ⟨loc, hresolve, hfolder⟩ := resolve_of_item h
  rw [list, hresolve]
  simp only [hfolder]
  refine ⟨fun hread => ?_, fun hread => ?_⟩
  · rw [if_pos hread]
    exact ⟨_, rfl⟩
  · simp only [hread, Bool.false_eq_true, if_false]

end View

namespace FolderError

variable {folder p : Path} {cause : Cause}

theorem notFound_eq_ofCause_iff :
    notFound p = ofCause folder cause ↔ p = folder ∧ cause.kind = .notFound := by
  rw [ofCause]
  cases cause.kind <;> simp

theorem permissionDenied_eq_ofCause_iff :
    permissionDenied p = ofCause folder cause ↔ p = folder ∧ cause.kind = .permissionDenied := by
  rw [ofCause]
  cases cause.kind <;> simp

theorem failed_eq_ofCause_iff {cause' : Cause} :
    failed p cause' = ofCause folder cause ↔
      p = folder ∧ cause' = cause ∧ cause.kind ≠ .notFound ∧
        cause.kind ≠ .permissionDenied := by
  rw [ofCause]
  cases cause.kind <;> simp

theorem notADirectory_ne_ofCause : notADirectory p ≠ ofCause folder cause := by
  rw [ofCause]
  cases cause.kind <;> simp

end FolderError

namespace Listing

variable {v : View} {folder : Path}

/-! ## The check of a folder -/

theorem validate_of_lists (h : v.Lists folder) : validate v folder = .ok () := by
  obtain ⟨access, hfolder, hread⟩ := h
  have hitem := View.item_eq_ok_iff.mpr hfolder
  obtain ⟨es, hlist⟩ := (View.list_of_item hitem).1 hread
  rw [validate, hitem]
  simp only [hlist]

theorem validate_of_other {item : Item} (h : v.LeadsTo folder item) (hkind : item.kind ≠ .folder) :
    validate v folder = .error (.notADirectory folder) := by
  rw [validate, View.item_eq_ok_iff.mpr h]
  cases item with
  | folder access => exact absurd rfl hkind
  | _ => rfl

theorem validate_of_failsToOpen {cause : Cause} (h : v.FailsToOpen folder cause) :
    validate v folder = .error (.ofCause folder cause) := by
  cases h with
  | lookup hfails => rw [validate, View.item_eq_error_iff.mpr hfails]
  | listing hfolder hread =>
    have hitem := View.item_eq_ok_iff.mpr hfolder
    rw [validate, hitem]
    simp only [(View.list_of_item hitem).2 hread]

/-- A path leads to a folder that may be listed, to something else, or fails. -/
theorem lists_or_fails (v : View) (folder : Path) :
    v.Lists folder ∨ (∃ item, v.LeadsTo folder item ∧ item.kind ≠ .folder) ∨
      ∃ cause, v.FailsToOpen folder cause := by
  cases hitem : v.item true folder with
  | error cause => exact .inr (.inr ⟨cause, .lookup (View.item_eq_error_iff.mp hitem)⟩)
  | ok item =>
    have hleads := View.item_eq_ok_iff.mp hitem
    cases item with
    | folder access =>
      cases hread : v.mayRead access with
      | true => exact .inl ⟨access, hleads, hread⟩
      | false => exact .inr (.inr ⟨_, .listing hleads hread⟩)
    | file access content => exact .inr (.inl ⟨_, hleads, Kind.noConfusion⟩)
    | link target => exact .inr (.inl ⟨_, hleads, Kind.noConfusion⟩)
    | pipe access written => exact .inr (.inl ⟨_, hleads, Kind.noConfusion⟩)

theorem validate_eq_ok_iff : validate v folder = .ok () ↔ v.Lists folder := by
  refine ⟨fun h => ?_, validate_of_lists⟩
  rcases lists_or_fails v folder with hlists | ⟨item, hleads, hkind⟩ | ⟨cause, hfails⟩
  · exact hlists
  · rw [validate_of_other hleads hkind] at h
    cases h
  · rw [validate_of_failsToOpen hfails] at h
    cases h

theorem validate_eq_error_iff {e : FolderError} :
    validate v folder = .error e ↔
      ((∃ item, v.LeadsTo folder item ∧ item.kind ≠ .folder) ∧ e = .notADirectory folder) ∨
        ∃ cause, v.FailsToOpen folder cause ∧ e = .ofCause folder cause := by
  constructor
  · intro h
    rcases lists_or_fails v folder with hlists | ⟨item, hleads, hkind⟩ | ⟨cause, hfails⟩
    · rw [validate_of_lists hlists] at h
      cases h
    · rw [validate_of_other hleads hkind] at h
      cases h
      exact .inl ⟨⟨item, hleads, hkind⟩, rfl⟩
    · rw [validate_of_failsToOpen hfails] at h
      cases h
      exact .inr ⟨cause, hfails, rfl⟩
  · rintro (⟨⟨item, hleads, hkind⟩, rfl⟩ | ⟨cause, hfails, rfl⟩)
    · exact validate_of_other hleads hkind
    · exact validate_of_failsToOpen hfails

end Listing

namespace Scan

/-- Whether a scan succeeds, and what it fails with. -/
structure Verdict (v : View) (s : Selection) (changes : List Change) (folder : Path) : Prop where
  succeeds : (∃ found, (strict v s changes folder).result = .ok found) ↔ v.Lists folder
  notADirectory : ∀ p, (strict v s changes folder).result = .error (.notADirectory p) ↔
    p = folder ∧ ∃ item, v.LeadsTo folder item ∧ item.kind ≠ .folder
  notFound : ∀ p, (strict v s changes folder).result = .error (.notFound p) ↔
    p = folder ∧ ∃ cause, v.FailsToOpen folder cause ∧ cause.kind = .notFound
  permissionDenied : ∀ p, (strict v s changes folder).result = .error (.permissionDenied p) ↔
    p = folder ∧ ∃ cause, v.FailsToOpen folder cause ∧ cause.kind = .permissionDenied
  failed : ∀ p cause, (strict v s changes folder).result = .error (.failed p cause) ↔
    p = folder ∧ v.FailsToOpen folder cause ∧ cause.kind ≠ .notFound ∧
      cause.kind ≠ .permissionDenied
  /-- There are four other causes. -/
  causes : ∀ p cause, (strict v s changes folder).result = .error (.failed p cause) →
    cause ∈ [.notFolder, .nameTooLong, .tooManyLinks, .nulInName]
  /-- Links that lead in circles are too many: the way comes back to where it was, with the same way
  to go. -/
  loop : folder.Walkable → ∀ j k, 0 < k → v.Steps (v.start folder) j → v.Steps j (j.after k) →
    (strict v s changes folder).result = .error (.failed folder .tooManyLinks)

/-- What a scan does with the failure of another one. -/
structure Reports (v : View) (s : Selection) (changes : List Change) (folder : Path) : Prop where
  unchanged : ∀ found, (strict v s changes folder).result = .ok found →
    run v s changes folder = ⟨(strict v s changes folder).steps, found⟩
  reported : ∀ e, (strict v s changes folder).result = .error e →
    (run v s changes folder).calls = [.start folder s.wanted, .invalid e] ∧
    (run v s changes folder).result =
      ([], { folder, wanted := s.wanted, entriesExamined := 0, nonFilesSkipped := 0,
             filesHashed := 0, bytesHashed := 0, readErrors := [], entryErrors := [],
             invalidDirectory := true, duplicateGroups := 0, duplicateFiles := 0,
             reclaimableSpace := 0 })
  invalid : (run v s changes folder).result.2.invalidDirectory = true ↔ ¬ v.Lists folder

variable {v : View} {s : Selection} {changes : List Change} {folder : Path}

/-- A scan fails with what the check of its folder fails with. -/
theorem strict_eq_error_iff {e : FolderError} :
    (strict v s changes folder).result = .error e ↔ Listing.validate v folder = .error e := by
  rw [strict]
  cases Listing.validate v folder with
  | ok u => exact iff_of_false (by simp) (by simp)
  | error e' => simp

theorem strict_eq_ok_iff :
    (∃ found, (strict v s changes folder).result = .ok found) ↔
      Listing.validate v folder = .ok () := by
  rw [strict]
  cases Listing.validate v folder with
  | ok u => exact iff_of_true ⟨_, rfl⟩ rfl
  | error e' => exact iff_of_false (by simp) (by simp)

/-- A failure that is not about the kind of item is a failure to open the folder. -/
theorem strict_eq_error_of_cause_iff {e : FolderError} (h : ∀ p, e ≠ .notADirectory p) :
    (strict v s changes folder).result = .error e ↔
      ∃ cause, v.FailsToOpen folder cause ∧ e = .ofCause folder cause := by
  rw [strict_eq_error_iff, Listing.validate_eq_error_iff]
  exact or_iff_right fun ⟨_, heq⟩ => h folder heq

/-- What is wrong with a folder decides what a scan fails with. -/
theorem verdict (v : View) (s : Selection) (changes : List Change) (folder : Path) :
    Verdict v s changes folder where
  succeeds := strict_eq_ok_iff.trans Listing.validate_eq_ok_iff
  notADirectory := by
    intro p
    rw [strict_eq_error_iff, Listing.validate_eq_error_iff]
    constructor
    · rintro (⟨hother, heq⟩ | ⟨cause, _, heq⟩)
      · cases heq
        exact ⟨rfl, hother⟩
      · exact absurd heq FolderError.notADirectory_ne_ofCause
    · rintro ⟨rfl, hother⟩
      exact .inl ⟨hother, rfl⟩
  notFound := by
    intro p
    rw [strict_eq_error_of_cause_iff (by simp)]
    simp only [FolderError.notFound_eq_ofCause_iff, and_left_comm, exists_and_left]
  permissionDenied := by
    intro p
    rw [strict_eq_error_of_cause_iff (by simp)]
    simp only [FolderError.permissionDenied_eq_ofCause_iff, and_left_comm, exists_and_left]
  failed := by
    intro p cause
    rw [strict_eq_error_of_cause_iff (by simp)]
    constructor
    · rintro ⟨cause', hfails, heq⟩
      obtain ⟨rfl, rfl, hkind⟩ := FolderError.failed_eq_ofCause_iff.mp heq
      exact ⟨rfl, hfails, hkind⟩
    · rintro ⟨rfl, hfails, hkind⟩
      exact ⟨cause, hfails, FolderError.failed_eq_ofCause_iff.mpr ⟨rfl, rfl, hkind⟩⟩
  causes := by
    intro p cause h
    obtain ⟨cause', hfails, heq⟩ := (strict_eq_error_of_cause_iff (by simp)).mp h
    obtain ⟨rfl, rfl, hmissing, hdenied⟩ := FolderError.failed_eq_ofCause_iff.mp heq
    have hmem := hfails.mem_lookupCauses
    simp only [View.lookupCauses, List.mem_cons, List.not_mem_nil, or_false] at hmem
    rcases hmem with rfl | rfl | rfl | rfl | rfl | rfl
    · exact absurd rfl hmissing
    · exact absurd rfl hdenied
    all_goals simp
  loop := by
    intro hwalkable j k hk hsteps hloop
    have hfails := View.item_eq_error_iff.mp (View.item_of_loop hwalkable hsteps hloop hk)
    rw [strict_eq_error_iff, Listing.validate_of_failsToOpen (.lookup hfails)]
    rfl

/-- A scan that reports failures finds what the other one finds, and nothing if that one fails. -/
theorem reports (v : View) (s : Selection) (changes : List Change) (folder : Path) :
    Reports v s changes folder := by
  cases hvalid : Listing.validate v folder with
  | ok u =>
    have hlists := Listing.validate_eq_ok_iff.mp hvalid
    have hresult : (strict v s changes folder).result =
        .ok (ofVisits s folder (visits v s folder changes)).result := by
      rw [strict_of_valid hvalid]
    have hrun : run v s changes folder =
        ⟨(strict v s changes folder).steps,
          (ofVisits s folder (visits v s folder changes)).result⟩ := by
      rw [run, hresult]
    constructor
    · intro found hfound
      rw [hresult] at hfound
      cases hfound
      exact hrun
    · intro e he
      rw [hresult] at he
      cases he
    · rw [hrun]
      refine iff_of_false ?_ (not_not.mpr hlists)
      rw [result_ofVisits]
      exact Bool.false_ne_true
  | error e =>
    have hresult : (strict v s changes folder).result = .error e := strict_eq_error_iff.mpr hvalid
    constructor
    · intro found hfound
      rw [hresult] at hfound
      cases hfound
    · intro e' he
      rw [hresult] at he
      cases he
      exact run_of_invalid hvalid s changes
    · rw [run, hresult]
      refine iff_of_true rfl fun hlists => ?_
      rw [Listing.validate_of_lists hlists] at hvalid
      cases hvalid

/-- A scan succeeds if its folder may be listed; what else can be wrong with a path decides which
error it fails with, and that error is what is reported. -/
theorem listed_or_reported (v : View) (s : Selection) (changes : List Change) (folder : Path) :
    Verdict v s changes folder ∧ Reports v s changes folder :=
  ⟨verdict v s changes folder, reports v s changes folder⟩

/-- A tree with a link to a folder, a folder that nobody may list, one that nobody may search, a
file, a pipe, a link to nothing and two links to each other. -/
def closedRooms : View where
  tree :=
    { items := [
        ([utf8 "open"], .folder .newFolder), ([utf8 "door"], .link (utf8 "./open/")),
        ([utf8 "dark"], .folder ⟨false, true⟩), ([utf8 "shut"], .folder ⟨true, false⟩),
        ([utf8 "shut", utf8 "in"], .folder .newFolder),
        ([utf8 "file"], .file .newFile (utf8 "x")), ([utf8 "pipe"], .pipe .newFile []),
        ([utf8 "lost"], .link (utf8 "none")), ([utf8 "to"], .link (utf8 "fro")),
        ([utf8 "fro"], .link (utf8 "/to"))]
      nodup := by decide +kernel }
  home := []
  privileged := false
  account := none

/-- Paths that cannot be scanned there, and what a scan of each fails with. -/
def closedPaths : List FolderError :=
  [.notADirectory (utf8 "/file"), .notADirectory (utf8 "pipe"), .notFound (utf8 "none"),
    .notFound (utf8 "lost"), .notFound [], .permissionDenied (utf8 "dark"),
    .permissionDenied (utf8 "shut/in"), .failed (utf8 "file/") .notFolder,
    .failed (utf8 "file/x") .notFolder, .failed (List.replicate 256 120) .nameTooLong,
    .failed [Ascii.nul] .nulInName]

/-- A scan of the open folder succeeds, through a link to it; each other path fails in its own way.
-/
theorem listed_or_reported_of_closedRooms :
    (∃ found, (strict closedRooms (.ofPrefix []) [] (utf8 "door")).result = .ok found) ∧
      (∀ e ∈ closedPaths, (strict closedRooms (.ofPrefix []) [] e.path).result = .error e ∧
        (run closedRooms (.ofPrefix []) [] e.path).calls = [.start e.path [], .invalid e]) ∧
      (strict closedRooms (.ofPrefix []) [] (utf8 "/to")).result =
        .error (.failed (utf8 "/to") .tooManyLinks) := by
  refine ⟨?_, ?_, ?_⟩
  · exact strict_eq_ok_iff.mpr (by rfl)
  · have hvalid : ∀ e ∈ closedPaths, Listing.validate closedRooms e.path = .error e := by
      decide +kernel
    intro e he
    have hresult : (strict closedRooms (.ofPrefix []) [] e.path).result = .error e :=
      strict_eq_error_iff.mpr (hvalid e he)
    exact ⟨hresult, ((listed_or_reported _ _ _ _).2.reported e hresult).1⟩
  · have hwalkable : Path.Walkable (utf8 "/to") := ⟨by decide +kernel, by decide, by decide⟩
    -- from the root to one link, to the other, and back to the root
    have hloop : closedRooms.Steps (closedRooms.start (utf8 "/to"))
        ((closedRooms.start (utf8 "/to")).after 2) := by
      have hsearch : closedRooms.Searchable [] := ⟨.newFolder, rfl, rfl⟩
      have hto : closedRooms.LooksFor [] (utf8 "to") :=
        ⟨hsearch, ⟨by decide, by decide, by decide⟩, by decide⟩
      have hfro : closedRooms.LooksFor [] (utf8 "fro") :=
        ⟨hsearch, ⟨by decide, by decide, by decide⟩, by decide⟩
      have hslash : closedRooms.Step (closedRooms.start (utf8 "/to")) ⟨0, [], [utf8 "to"]⟩ :=
        .slash rfl
      exact .head hslash (.head (.link hto rfl (by decide)) (.single (.link hfro rfl (by decide))))
    exact (listed_or_reported _ _ _ _).1.loop hwalkable _ 2 (by decide) .refl hloop

end Scan

end TwinFiles
