import TwinFiles.Proofs.Report.Csv
import TwinFiles.Proofs.Report.Json
import TwinFiles.Proofs.Report.Text
import TwinFiles.Proofs.Run.Truncation
import TwinFiles.Proofs.Scan.Visits

/-!
# The formats describe one scan

Runs of one folder in one tree differ in what they write alone. The report for people stands behind
the progress, which has no result line (`Console.isProgress_text`), and the other two reports stand
alone. So one list of groups can be read off all three outputs (`Run.formats_agree`).
-/

namespace TwinFiles

/-! ## Progress -/

namespace Console

/-- One line of progress. -/
theorem isProgress_line {line : Bytes} (hline : Ascii.newline ∉ line)
    (hresult : TextReport.isResult line = false) :
    TextReport.IsProgress (line ++ [Ascii.newline]) :=
  ⟨[line], by simp, by simpa using ⟨hline, hresult⟩⟩

/-- An entry is shown by nothing but bytes of its path, and by what stands for an invalid part. -/
theorem notMem_entryName {b : UInt8} (hb : Path.Foreign b) {p : Path} (h : b ∉ p) :
    b ∉ entryName p := by
  rw [entryName]
  cases hname : p.fileName? with
  | none => exact hb.notMem_display h
  | some name =>
    have hlast : (Path.components p).getLast? = some (.name name) := by
      unfold Path.fileName? at hname
      split at hname
      · next heq =>
        cases hname
        exact heq
      · cases hname
    exact hb.notMem_display (hb.notMem_component h (.name name) (List.mem_of_getLast? hlast))

end Console

namespace Run

/-- No newline stands in what a run for people shows: the folder, the working folder, the prefix and
the wanted names. -/
structure OneLine (v : View) (s : Settings) : Prop where
  folder : Ascii.newline ∉ s.folder
  home : Ascii.newline ∉ v.homePath
  wanted : Ascii.newline ∉ s.wanted
  names : ∀ listing, v.list s.folder = .ok listing →
    ∀ e ∈ listing, s.wanted <+: e.1 → Ascii.newline ∉ e.1

variable {v : View} {s : Settings}

theorem OneLine.path (h : OneLine v s) {p : Path} (hp : Scan.IsWanted v s.selection s.folder p) :
    Ascii.newline ∉ p := by
  obtain ⟨listing, hlisting, e, he, hwanted, rfl⟩ := hp
  exact Path.newline_foreign.notMem_join h.folder (h.names listing hlisting e he hwanted)

/-- The lines of a call are progress. -/
theorem isProgress_call (h : OneLine v s) {call : Call}
    (hcall : Scan.Foreseen v s.selection s.folder call) :
    TextReport.IsProgress
      ((Console.lines false v.homePath call).flatMap (· ++ [Ascii.newline])) := by
  have hwords : ∀ word ∈ [utf8 "Scanning folder: '", utf8 "'",
      utf8 "Looking for files whose names start with '", utf8 "'...", utf8 "Examining file: ",
      utf8 "Unable to read file ", utf8 ": ", utf8 "Error: the path '",
      utf8 "' is not a valid folder."], Ascii.newline ∉ word := by decide +kernel
  simp only [List.forall_mem_cons] at hwords
  obtain ⟨hscanning, hquote, hlooking, hdots, hexamining, hunable, hcolon, herror, hinvalid, _⟩ :=
    hwords
  have hforeign := Path.newline_foreign
  cases hcall with
  | start =>
    -- the second line ends with a newline of its own, so a blank line follows
    have htext : (Console.lines false v.homePath (.start s.folder s.selection.wanted)).flatMap
          (· ++ [Ascii.newline]) =
        (utf8 "Scanning folder: '" ++ Path.displayAbsolute v.homePath s.folder ++ utf8 "'" ++
            [Ascii.newline]) ++
          ((utf8 "Looking for files whose names start with '" ++ s.wanted ++ utf8 "'..." ++
            [Ascii.newline]) ++ ([] ++ [Ascii.newline])) := by
      have hsplit : utf8 "'...\n" = utf8 "'..." ++ [Ascii.newline] := rfl
      simp only [Console.lines, hsplit, List.flatMap_cons, List.flatMap_nil, List.append_assoc,
        List.append_nil]
      rfl
    rw [htext]
    refine TextReport.isProgress_append (Console.isProgress_line ?_ rfl)
      (TextReport.isProgress_append (Console.isProgress_line ?_ rfl)
        (Console.isProgress_line List.not_mem_nil rfl))
    · simp only [List.mem_append, not_or]
      exact ⟨⟨hscanning, hforeign.notMem_displayAbsolute (fun _ _ => h.home) h.folder⟩, hquote⟩
    · simp only [List.mem_append, not_or]
      exact ⟨⟨hlooking, h.wanted⟩, hdots⟩
  | @entry p hp =>
    rw [Console.lines, List.flatMap_singleton]
    refine Console.isProgress_line ?_ rfl
    simp only [List.mem_append, not_or]
    exact ⟨hexamining, Console.notMem_entryName hforeign (h.path hp)⟩
  | hashed hp content => exact ⟨[], rfl, List.forall_mem_nil _⟩
  | @readError p hp cause hcause =>
    rw [Console.lines, List.flatMap_singleton]
    refine Console.isProgress_line ?_ rfl
    simp only [Style.paint, Bool.false_eq_true, if_false, List.mem_append, not_or]
    exact ⟨⟨⟨hunable, hforeign.notMem_display (h.path hp)⟩, hcolon⟩,
      View.newline_notMem_of_mem_readCauses hcause⟩
  | @invalid e he =>
    rw [Console.lines, List.flatMap_singleton]
    refine Console.isProgress_line ?_ rfl
    simp only [Style.paint, Bool.false_eq_true, if_false, List.mem_append, not_or]
    exact ⟨⟨herror, hforeign.notMem_display (he ▸ h.folder)⟩, hinvalid⟩

/-- All that a scan shows while it runs is progress. -/
theorem isProgress_text (h : OneLine v s) {calls : List Call}
    (hcalls : ∀ call ∈ calls, Scan.Foreseen v s.selection s.folder call) :
    TextReport.IsProgress (Console.text false v.homePath calls) := by
  induction calls with
  | nil => exact ⟨[], rfl, List.forall_mem_nil _⟩
  | cons call calls ih =>
    rw [List.forall_mem_cons] at hcalls
    rw [Console.text, List.flatMap_cons, List.flatMap_append]
    exact TextReport.isProgress_append (isProgress_call h hcalls.1) (ih hcalls.2)

/-! ## One scan, three reports -/

variable (v s)

/-- What the three formats show of a scan: its groups. Prefix and color are as given: the prefix is
a text, so it is UTF-8, and color is off. The output with the JSON report is one document and a
newline, and the one with comma-separated text is one document; the groups of the former, and the
rows of the latter, collected by the numbers of their groups, are those of the scan. If nothing that
is shown holds a newline, the output for people tells the number of these groups, and for each of
them in order the files. The runs may take different time and end at different times. -/
theorem formats_agree (hwanted : Utf8.Valid s.wanted) (hcolor : s.color = false)
    (duration duration' duration'' : Duration) (time time' time'' : Instant) :
    let text := (perform v { s with output := .text } duration time .unlimited).sink.received
    let json := (perform v { s with output := .json } duration' time' .unlimited).sink.received
    let csv := (perform v { s with output := .csv } duration'' time'' .unlimited).sink.received
    let shown := (Scan.run v s.selection [] s.folder).result.1.map Group.shown
    ∃ document value records rows,
      json = document ++ [Ascii.newline] ∧ Json.parse? document = some value ∧
      JsonReport.readGroups? value = some shown ∧
      Csv.parse? csv = some (CsvReport.header :: records) ∧
      records.mapM CsvReport.readRow? = some rows ∧ CsvReport.collect? rows = some shown ∧
      (OneLine v s →
        TextReport.read? text = some (shown.length, shown.map ShownGroup.files)) := by
  intro text json csv shown
  let scan := Scan.run v s.selection [] s.folder
  have htext : text = Console.text s.color v.homePath scan.calls ++
      TextReport.text s.color scan.result.2.wanted scan.result.1 :=
    received_perform v _ duration time .unlimited
  have hjson : json = JsonReport.text true scan.result.1 scan.result.2
      ⟨.success, duration', time'⟩ := received_perform v _ duration' time' .unlimited
  have hcsv : csv = CsvReport.text scan.result.1 :=
    received_perform v _ duration'' time'' .unlimited
  have hsummary : scan.result.2.wanted = s.wanted := Scan.wanted_run v s.selection s.folder
  have hcauses : ∀ e ∈ scan.result.2.readErrors, Utf8.Valid e.cause.text :=
    fun e he => View.valid_text_of_mem_readCauses (Scan.mem_readErrors_run he)
  have hpaths : ∀ g ∈ scan.result.1, g.paths ≠ [] := fun g hg =>
    List.ne_nil_of_length_pos (Nat.lt_of_lt_of_le Nat.zero_lt_two (Scan.mem_groups_run hg).1)
  let document := JsonReport.document scan.result.1 scan.result.2 ⟨.success, duration', time'⟩
  have hdocument : document.IsText :=
    JsonReport.isText_document _ (hsummary ▸ hwanted) hcauses _
  refine ⟨document.pretty, document, _, _, ?_,
    Json.parse?_render Json.pretty_blank hdocument, JsonReport.readGroups?_document _ _ _, ?_,
    CsvReport.readRows_records _, CsvReport.collect?_rowsFrom 1 hpaths, ?_⟩
  · rw [hjson, JsonReport.text, JsonReport.pieces, List.flatten_cons, List.flatten_singleton]
    rfl
  · rw [hcsv]
    exact CsvReport.parse?_text scan.result.1
  · intro h
    have hprogress : TextReport.IsProgress (Console.text false v.homePath scan.calls) :=
      isProgress_text h fun call hcall => Scan.foreseen_of_mem_calls hcall
    rw [htext, hcolor, hsummary, TextReport.read?_text hprogress h.wanted
      fun g hg p hp => h.path ((Scan.mem_groups_run hg).2 p hp)]
    simp only [shown, List.length_map, List.map_map]
    rfl

/-- A root folder with names that hold a comma, a quote and a byte that is no UTF-8, and with a file
that nobody may read. -/
def mixedFolder : View where
  tree :=
    { items := [
        ([utf8 "a,b"], .file .newFile (utf8 "x")), ([utf8 "a\"c"], .file .newFile (utf8 "x")),
        ([[0x61, 0xFF]], .file .newFile (utf8 "x")), ([utf8 "ad"], .file ⟨false, false⟩ (utf8 "x")),
        ([utf8 "b\n"], .file .newFile (utf8 "x"))]
      nodup := by decide +kernel }
  home := []
  privileged := false
  account := none

/-- Names that start with `a`, as they are listed, and no color. -/
def mixedSettings : Settings :=
  ⟨utf8 "/", utf8 "a", .text, false, false, false⟩

/-- There the reports show the same group; what is no UTF-8 in the name of a file is replaced. -/
theorem formats_agree_mixed :
    let shown := [ShownGroup.mk (.of (utf8 "x")) 1 [utf8 "/a,b", utf8 "/a\"c", utf8 "/a\uFFFD"]]
    ∃ document value records rows,
      (perform mixedFolder { mixedSettings with output := .json } ⟨1, 0⟩ ⟨0, 0⟩
        .unlimited).sink.received = document ++ [Ascii.newline] ∧
      Json.parse? document = some value ∧ JsonReport.readGroups? value = some shown ∧
      Csv.parse? (perform mixedFolder { mixedSettings with output := .csv } ⟨1, 0⟩ ⟨0, 0⟩
        .unlimited).sink.received = some (CsvReport.header :: records) ∧
      records.mapM CsvReport.readRow? = some rows ∧ CsvReport.collect? rows = some shown ∧
      TextReport.read? (perform mixedFolder { mixedSettings with output := .text } ⟨1, 0⟩ ⟨0, 0⟩
        .unlimited).sink.received = some (shown.length, shown.map ShownGroup.files) := by
  intro shown
  have hshown : (Scan.run mixedFolder mixedSettings.selection [] mixedSettings.folder).result.1.map
      Group.shown = shown := by
    decide +kernel
  have hformats := formats_agree mixedFolder mixedSettings (by decide +kernel) rfl ⟨1, 0⟩ ⟨1, 0⟩
    ⟨1, 0⟩ ⟨0, 0⟩ ⟨0, 0⟩ ⟨0, 0⟩
  rw [hshown] at hformats
  obtain ⟨document, value, records, rows, hjson, hparse, hgroups, hcsv, hrows, hcollect, htext⟩ :=
    hformats
  have hone : OneLine mixedFolder mixedSettings := by
    refine ⟨by decide, by decide, by decide, ?_⟩
    have hlist : mixedFolder.list (utf8 "/") = .ok [(utf8 "a,b", .file), (utf8 "a\"c", .file),
        ([0x61, 0xFF], .file), (utf8 "ad", .file), (utf8 "b\n", .file)] := by rfl
    intro listing hlisting
    rw [show mixedSettings.folder = utf8 "/" from rfl, hlist] at hlisting
    injection hlisting with hlisting
    subst hlisting
    decide +kernel
  exact ⟨document, value, records, rows, hjson, hparse, hgroups, hcsv, hrows, hcollect, htext hone⟩

end Run

end TwinFiles
