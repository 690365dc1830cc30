import TwinFiles.Proofs.Json.Printable
import TwinFiles.Proofs.Json.RoundTrip
import TwinFiles.Proofs.Report.Shown
import TwinFiles.Proofs.Run.Truncation
import TwinFiles.Report.Json

/-!
# Reading a JSON report

`JsonReport.read?` takes a report apart again: the groups as they are shown, and every fact of the
summary but the time of the report. It gets back what was written, from the text on one line and
from the indented text alike (`json_reads_back`), since every text in a report is UTF-8
(`isText_document`).
-/

namespace TwinFiles

/-! ## Values of JSON -/

namespace Json

/-- The text of a string. -/
def text? : Json → Option Bytes
  | .string text => some text
  | _ => none

/-- The number, if it is a natural one. -/
def nat? : Json → Option Nat
  | .number (.ofNat n) 0 => some n
  | _ => none

/-- The items of an array. -/
def items? : Json → Option (List Json)
  | .array items => some items
  | _ => none

end Json

namespace JsonReport

/-! ## Taking a report apart -/

/-- The group that a value shows. -/
def readGroup? (value : Json) : Option ShownGroup := do
  let digest ← (← (← value.field? (utf8 "hash")).text?) |> Digest.ofHex?
  let size ← (← value.field? (utf8 "size")).nat?
  let files ← (← (← value.field? (utf8 "files")).items?).mapM Json.text?
  return ⟨digest, size, files⟩

/-- The path and the cause of an unreadable file. -/
def readReadError? (value : Json) : Option (Bytes × Bytes) := do
  let path ← (← value.field? (utf8 "path")).text?
  let cause ← (← value.field? (utf8 "error")).text?
  return (path, cause)

/-- Whether a status says that the folder cannot be scanned. -/
def readStatus? (text : Bytes) : Option Bool :=
  if text = utf8 "invalid_directory" then some true
  else if text = utf8 "ok" then some false
  else none

/-- The summary as a report shows it. -/
structure ShownSummary where
  folder : Bytes
  wanted : Bytes
  invalidDirectory : Bool
  entriesExamined : Nat
  filesHashed : Nat
  bytesHashed : Nat
  /-- Paths and causes. -/
  readErrors : List (Bytes × Bytes)
  duplicateGroups : Nat
  duplicateFiles : Nat
  reclaimableSpace : Nat
  milliseconds : Nat
  exitNumber : Nat
  exitName : Bytes
  deriving DecidableEq

/-- The summary that a value shows. -/
def readSummary? (value : Json) : Option ShownSummary := do
  let folder ← (← value.field? (utf8 "folder")).text?
  let wanted ← (← value.field? (utf8 "prefix")).text?
  let invalidDirectory ← readStatus? (← (← value.field? (utf8 "status")).text?)
  let entriesExamined ← (← value.field? (utf8 "entries_examined")).nat?
  let filesHashed ← (← value.field? (utf8 "files_hashed")).nat?
  let bytesHashed ← (← value.field? (utf8 "bytes_hashed")).nat?
  let readErrors ← (← (← value.field? (utf8 "read_errors")).items?).mapM readReadError?
  let duplicateGroups ← (← value.field? (utf8 "duplicate_groups")).nat?
  let duplicateFiles ← (← value.field? (utf8 "duplicate_files")).nat?
  let reclaimableSpace ← (← value.field? (utf8 "reclaimable_space")).nat?
  let milliseconds ← (← value.field? (utf8 "scan_duration_ms")).nat?
  let exitNumber ← (← value.field? (utf8 "exit_code")).nat?
  let exitName ← (← value.field? (utf8 "exit_code_name")).text?
  return {
    folder, wanted, invalidDirectory, entriesExamined, filesHashed, bytesHashed, readErrors,
    duplicateGroups, duplicateFiles, reclaimableSpace, milliseconds, exitNumber, exitName }

/-- The groups that a report shows. -/
def readGroups? (value : Json) : Option (List ShownGroup) := do
  let duplicates ← (← value.field? (utf8 "duplicates")).items?
  duplicates.mapM readGroup?

/-- The groups and the summary that a report shows. -/
def read? (value : Json) : Option (List ShownGroup × ShownSummary) := do
  let groups ← readGroups? value
  let summary ← readSummary? (← value.field? (utf8 "summary"))
  return (groups, summary)

/-- What a report shows of a scan: the folder by its text, the errors by theirs, the duration in
whole milliseconds. -/
def shown (s : Summary) (c : Circumstances) : ShownSummary where
  folder := s.folder.display
  wanted := s.wanted
  invalidDirectory := s.invalidDirectory
  entriesExamined := s.entriesExamined
  filesHashed := s.filesHashed
  bytesHashed := s.bytesHashed
  readErrors := s.readErrors.map fun e => (e.path.display, e.cause.text)
  duplicateGroups := s.duplicateGroups
  duplicateFiles := s.duplicateFiles
  reclaimableSpace := s.reclaimableSpace
  milliseconds := (c.duration.seconds * 1000 + c.duration.nanoseconds / 1000000) % Nat.pow 2 64
  exitNumber := c.exit.number
  exitName := c.exit.name

theorem readGroup?_group (g : Group) : readGroup? (group g) = some g.shown := by
  have hfiles : (g.paths.map fun (p : Path) => Json.string p.display).mapM Json.text? =
      some (g.paths.map Path.display) := by
    apply mapM_map_some
    intro p
    rfl
  show (do
    let digest ← Digest.ofHex? g.digest.hex
    let files ← (g.paths.map fun (p : Path) => Json.string p.display).mapM Json.text?
    return (⟨digest, g.size, files⟩ : ShownGroup)) = _
  rw [Digest.ofHex?_hex, hfiles]
  rfl

theorem readStatus?_status (invalid : Bool) : readStatus? (status invalid) = some invalid := by
  cases invalid <;> rfl

theorem readSummary?_summary (s : Summary) (c : Circumstances) :
    readSummary? (summary s c) = some (shown s c) := by
  have herrors : (s.readErrors.map readError).mapM readReadError? =
      some (s.readErrors.map fun e => (e.path.display, e.cause.text)) := by
    apply mapM_map_some
    intro e
    rfl
  show (do
    let invalidDirectory ← readStatus? (status s.invalidDirectory)
    let readErrors ← (s.readErrors.map readError).mapM readReadError?
    return ({ shown s c with invalidDirectory, readErrors } : ShownSummary)) = _
  rw [readStatus?_status, herrors]
  rfl

theorem readGroups?_document (groups : List Group) (s : Summary) (c : Circumstances) :
    readGroups? (document groups s c) = some (groups.map Group.shown) :=
  mapM_map_some readGroup?_group groups

theorem read?_document (groups : List Group) (s : Summary) (c : Circumstances) :
    read? (document groups s c) = some (groups.map Group.shown, shown s c) := by
  show (do
    let groups ← readGroups? (document groups s c)
    let summary ← readSummary? (summary s c)
    return (groups, summary)) = _
  rw [readGroups?_document, readSummary?_summary]
  rfl

end JsonReport

/-! ## Every text in a report is UTF-8 -/

namespace Instant

theorem isAscii_yearText (year : Int) : Utf8.IsAscii (yearText year) := by
  rw [yearText]
  split
  · exact Decimal.isAscii_padded 4 _
  · split
    · exact List.forall_mem_cons.mpr ⟨by decide, Decimal.isAscii_padded 4 _⟩
    · exact Utf8.isAscii_append (by decide) (Decimal.isAscii_padded 4 _)

theorem isAscii_fractionText (nanoseconds : Nat) : Utf8.IsAscii (fractionText nanoseconds) := by
  have hdot : Utf8.IsAscii (utf8 ".") := by decide
  rw [fractionText]
  split
  · exact List.forall_mem_nil _
  · split
    · exact Utf8.isAscii_append hdot (Decimal.isAscii_padded 3 _)
    · split
      · exact Utf8.isAscii_append hdot (Decimal.isAscii_padded 6 _)
      · exact Utf8.isAscii_append hdot (Decimal.isAscii_padded 9 _)

/-- The text of an instant is made of digits and marks. -/
theorem isAscii_text (t : Instant) : Utf8.IsAscii t.text := by
  have hmarks : ∀ mark ∈ [utf8 "-", utf8 "T", utf8 ":", utf8 "Z"], Utf8.IsAscii mark := by decide
  simp only [List.forall_mem_cons] at hmarks
  obtain ⟨hdash, htime, hcolon, hzone, _⟩ := hmarks
  have hpadded := Decimal.isAscii_padded 2
  simp only [text, Utf8.IsAscii, List.forall_mem_append]
  exact ⟨⟨⟨⟨⟨⟨⟨⟨⟨⟨⟨⟨isAscii_yearText _, hdash⟩, hpadded _⟩, hdash⟩, hpadded _⟩, htime⟩, hpadded _⟩,
    hcolon⟩, hpadded _⟩, hcolon⟩, hpadded _⟩, isAscii_fractionText _⟩, hzone⟩

end Instant

theorem Digest.valid_hex (d : Digest) : Utf8.Valid d.hex :=
  Utf8.valid_of_isAscii fun _ hb => (Hex.isSmallDigit_of_mem_encode hb).range.2

namespace JsonReport

/-- The names in a report are ASCII. -/
theorem isText_object {fields : List (Bytes × Json)}
    (hnames : ∀ name ∈ fields.map Prod.fst, Utf8.IsAscii name)
    (hvalues : ∀ value ∈ fields.map Prod.snd, value.IsText) : (Json.object fields).IsText :=
  .object (fun field h => Utf8.valid_of_isAscii (List.forall_mem_map.mp hnames field h))
    (List.forall_mem_map.mp hvalues)

theorem isText_display (p : Path) : (Json.string p.display).IsText :=
  .string (Utf8.valid_lossy p)

theorem isText_group (g : Group) : (group g).IsText := by
  apply isText_object
  · show ∀ name ∈ [utf8 "hash", utf8 "size", utf8 "files"], Utf8.IsAscii name
    decide
  · have hfiles : (Json.array (g.paths.map fun (p : Path) => Json.string p.display)).IsText :=
      .array (List.forall_mem_map.mpr fun p _ => isText_display p)
    simp only [List.map_cons, List.map_nil, List.forall_mem_cons]
    exact ⟨.string g.digest.valid_hex, .number _ _, hfiles, List.forall_mem_nil _⟩

theorem isText_readError {e : ReadError} (h : Utf8.Valid e.cause.text) : (readError e).IsText := by
  apply isText_object
  · show ∀ name ∈ [utf8 "path", utf8 "error"], Utf8.IsAscii name
    decide
  · simp only [List.map_cons, List.map_nil, List.forall_mem_cons]
    exact ⟨isText_display e.path, .string h, List.forall_mem_nil _⟩

theorem isText_summary {s : Summary} (hwanted : Utf8.Valid s.wanted)
    (hcauses : ∀ e ∈ s.readErrors, Utf8.Valid e.cause.text) (c : Circumstances) :
    (summary s c).IsText := by
  apply isText_object
  · show ∀ name ∈ [utf8 "folder", utf8 "prefix", utf8 "status", utf8 "entries_examined",
      utf8 "files_hashed", utf8 "bytes_hashed", utf8 "read_errors", utf8 "duplicate_groups",
      utf8 "duplicate_files", utf8 "reclaimable_space", utf8 "scan_duration_ms",
      utf8 "exit_code", utf8 "exit_code_name", utf8 "generated_at"], Utf8.IsAscii name
    decide
  · have hstatus : Utf8.Valid (status s.invalidDirectory) := by
      cases s.invalidDirectory <;> decide
    have herrors : (Json.array (s.readErrors.map readError)).IsText :=
      .array (List.forall_mem_map.mpr fun e he => isText_readError (hcauses e he))
    have hname : Utf8.Valid c.exit.name := by
      cases c.exit <;> decide
    have htime : Utf8.Valid c.time.text := Utf8.valid_of_isAscii c.time.isAscii_text
    simp only [List.map_cons, List.map_nil, List.forall_mem_cons]
    exact ⟨isText_display s.folder, .string hwanted, .string hstatus, .number _ _, .number _ _,
      .number _ _, herrors, .number _ _, .number _ _, .number _ _, .number _ _, .number _ _,
      .string hname, .string htime, List.forall_mem_nil _⟩

theorem isText_document (groups : List Group) {s : Summary} (hwanted : Utf8.Valid s.wanted)
    (hcauses : ∀ e ∈ s.readErrors, Utf8.Valid e.cause.text) (c : Circumstances) :
    (document groups s c).IsText := by
  apply isText_object
  · show ∀ name ∈ [utf8 "duplicates", utf8 "summary"], Utf8.IsAscii name
    decide
  · have hgroups : (Json.array (groups.map group)).IsText :=
      .array (List.forall_mem_map.mpr fun g _ => isText_group g)
    simp only [List.map_cons, List.map_nil, List.forall_mem_cons]
    exact ⟨hgroups, isText_summary hwanted hcauses c, List.forall_mem_nil _⟩

/-! ## Reading what was written -/

/-- A report can be read back, from the text on one line and from the indented text alike: the
groups and the summary are those that were written. The prefix and the causes are texts, so they are
UTF-8; paths may be any bytes. The text on one line holds no control characters. What arrives at a
sink is the text and one newline, as far as there is room. -/
theorem json_reads_back (groups : List Group) (s : Summary) (c : Circumstances)
    (hwanted : Utf8.Valid s.wanted) (hcauses : ∀ e ∈ s.readErrors, Utf8.Valid e.cause.text) :
    ∃ value,
      Json.parse? (document groups s c).compact = some value ∧
      Json.parse? (document groups s c).pretty = some value ∧
      read? value = some (groups.map Group.shown, shown s c) ∧
      (∀ b ∈ (document groups s c).compact, 0x20 ≤ b) ∧
      ∀ (sink : Sink) (indented : Bool),
        sink.Writes
          ((if indented then (document groups s c).pretty else (document groups s c).compact) ++
            [Ascii.newline])
          (write sink indented groups s c) := by
  have htext := isText_document groups hwanted hcauses c
  refine ⟨document groups s c, Json.parse?_render Json.compact_blank htext,
    Json.parse?_render Json.pretty_blank htext, read?_document groups s c,
    Json.printable_compact _, ?_⟩
  intro sink indented
  have hwrites := write_writes sink indented groups s c
  rw [text, pieces, List.flatten_cons, List.flatten_singleton] at hwrites
  exact hwrites

/-- A summary whose prefix and cause hold quotes, a backslash, control characters and a character
beyond ASCII. -/
def awkwardSummary : Summary :=
  { Summary.blank [0x2F, 0xFF] (utf8 "é\"\\") with
    entriesExamined := 3
    filesHashed := 2
    bytesHashed := 2
    readErrors := [⟨utf8 "/é\n", .worded .other (utf8 "tab\tand \"quote\"")⟩] }

/-- The report of an empty group and of one with a path that is no UTF-8 can be read back. -/
theorem json_reads_back_awkward :
    ∃ value,
      Json.parse? (document [⟨.ofEmpty, 0, []⟩, ⟨.ofEmpty, 1, [utf8 "\"\r", [0xFF]]⟩] awkwardSummary
        ⟨.success, ⟨18446744073709552, 0⟩, ⟨0, 0⟩⟩).compact = some value ∧
      ∃ summary, read? value =
          some ([⟨.ofEmpty, 0, []⟩, ⟨.ofEmpty, 1, [utf8 "\"\r", utf8 "\uFFFD"]⟩], summary) ∧
        summary.folder = utf8 "/\uFFFD" ∧ summary.wanted = utf8 "é\"\\" ∧
        summary.readErrors = [(utf8 "/é\n", utf8 "tab\tand \"quote\"")] ∧
        summary.milliseconds = 384 := by
  obtain ⟨value, hparse, _, hread, _⟩ := json_reads_back
    [⟨.ofEmpty, 0, []⟩, ⟨.ofEmpty, 1, [utf8 "\"\r", [0xFF]]⟩] awkwardSummary
    ⟨.success, ⟨18446744073709552, 0⟩, ⟨0, 0⟩⟩ (by decide +kernel) (by decide +kernel)
  exact ⟨value, hparse, _, hread, by decide +kernel, rfl, by decide +kernel, by decide +kernel⟩

end JsonReport

end TwinFiles
