import TwinFiles.Proofs.Run.Formats
import TwinFiles.Proofs.Text.Decoration

/-!
# Color is decoration

What is written for people in color is what is written without, painted here and there: line by line
of the progress (`Console.decorates_text`) and of the report (`TextReport.decorates_text`). So color
adds nothing but complete escape sequences, each of which is reset, to what a run writes
(`Run.color_only_decorates`), as long as what is shown holds no escape byte itself. What is shown is
more than what a scan tells: a relative folder is shown below the working folder. And sequences are
complete only where there is room for them. Neither condition can be left out
(`Run.color_more_than_decoration`).
-/

namespace TwinFiles

theorem Path.escape_foreign : Path.Foreign Ascii.escape := by
  unfold Foreign
  decide

namespace Call

/-- No escape byte stands in what a call tells: neither in its paths, nor in the prefix, nor in the
text of an error. -/
def Quiet : Call → Prop
  | .start folder wanted => Ascii.escape ∉ folder ∧ Ascii.escape ∉ wanted
  | .entry path => Ascii.escape ∉ path
  | .hashed file => Ascii.escape ∉ file.path
  | .readError e => Ascii.escape ∉ e.path ∧ Ascii.escape ∉ e.cause.text
  | .entryError e => Ascii.escape ∉ e.message
  | .invalid e => Ascii.escape ∉ e.path

/-- The call names a folder that is shown below the working folder: a relative one. -/
def ShowsHome : Call → Prop
  | .start folder _ => folder ≠ [] ∧ folder.isAbsolute = false
  | _ => False

instance : (call : Call) → Decidable call.Quiet
  | .start _ _ => inferInstanceAs (Decidable (_ ∧ _))
  | .entry _ => inferInstanceAs (Decidable (_ ∉ _))
  | .hashed _ => inferInstanceAs (Decidable (_ ∉ _))
  | .readError _ => inferInstanceAs (Decidable (_ ∧ _))
  | .entryError _ => inferInstanceAs (Decidable (_ ∉ _))
  | .invalid _ => inferInstanceAs (Decidable (_ ∉ _))

instance : (call : Call) → Decidable call.ShowsHome
  | .start _ _ => inferInstanceAs (Decidable (_ ∧ _))
  | .entry _ | .hashed _ | .readError _ | .entryError _ | .invalid _ =>
    inferInstanceAs (Decidable False)

end Call

/-- What is written in color, by the room for it, against what is written without: color is
decoration alone. With room for everything the first is the second once its escape sequences are
gone, and every style is reset before another is opened and before the text ends; no sequence is
left incomplete, and all belong to paint. No escape byte stands in the second, whatever the room. -/
structure OnlyDecorated (colored plain : Room → Bytes) : Prop where
  strip_eq : Style.strip (colored .unlimited) = plain .unlimited
  balanced : Style.balanced (colored .unlimited) = true
  decorates : Style.Decorates (colored .unlimited) (plain .unlimited)
  escape_notMem : ∀ room, Ascii.escape ∉ plain room

/-- So it is if what is written is the part of a text, painted or not, that there is room for. -/
theorem Style.Decorates.onlyDecorated {text text' : Bytes} (h : Decorates text text')
    {colored plain : Room → Bytes} (hcolored : ∀ room, colored room = room.part text)
    (hplain : ∀ room, plain room = room.part text') : OnlyDecorated colored plain := by
  have hall : colored .unlimited = text := hcolored .unlimited
  have hall' : plain .unlimited = text' := hplain .unlimited
  refine ⟨?_, ?_, ?_, fun room hescape => h.escape_notMem ?_⟩
  · rw [hall, hall', h.strip_eq]
  · rw [hall, h.balanced]
  · rwa [hall, hall']
  · rw [hplain] at hescape
    exact (room.part_isPrefix text').subset hescape

open Style

/-! ## Progress -/

namespace Console

/-- What arrives of the progress of steps where there is so much room. -/
def written (color : Bool) (home : Path) (steps : List Happening) (room : Room) : Bytes :=
  ((reporter color home).perform (.new room false) steps).1.received

theorem written_eq (color : Bool) (home : Path) (steps : List Happening) (room : Room) :
    written color home steps room =
      room.part (text color home (steps.filterMap Happening.call?)) :=
  (perform_delivers color home (.new room false) steps).received

/-- The lines of a call. -/
theorem decorates_lines {home : Path} {call : Call} (h : call.Quiet)
    (hhome : call.ShowsHome → Ascii.escape ∉ home) :
    List.Forall₂ Decorates (lines true home call) (lines false home call) := by
  have hwords : ∀ word ∈ [utf8 "Scanning folder: '", utf8 "'",
      utf8 "Looking for files whose names start with '", utf8 "'...\n", utf8 "Examining file: ",
      utf8 "Unable to read file ", utf8 ": ", utf8 "Skipped entry: ", utf8 "Error: the path '",
      utf8 "' is not a valid folder."], Ascii.escape ∉ word := by decide +kernel
  simp only [List.forall_mem_cons] at hwords
  obtain ⟨hscanning, hquote, hlooking, hdots, hexamining, hunable, hcolon, hskipped, herror,
    hinvalid, _⟩ := hwords
  have hforeign := Path.escape_foreign
  cases call with
  | start folder wanted =>
    obtain ⟨hfolder, hwanted⟩ := h
    have hshown := hforeign.notMem_displayAbsolute (fun hne hrel => hhome ⟨hne, hrel⟩) hfolder
    exact .cons (((Decorates.of_plain hscanning).append (.of_painted _ hshown)).append
        (.of_plain hquote))
      (.cons (((Decorates.of_plain hlooking).append (.of_painted _ hwanted)).append
        (.of_plain hdots)) .nil)
  | entry path =>
    refine .cons (.of_plain ?_) .nil
    rw [List.mem_append, not_or]
    exact ⟨hexamining, notMem_entryName hforeign h⟩
  | hashed file => exact .nil
  | readError e =>
    refine .cons (.of_painted _ ?_) .nil
    simp only [List.mem_append, not_or]
    exact ⟨⟨⟨hunable, hforeign.notMem_display h.1⟩, hcolon⟩, h.2⟩
  | entryError e =>
    refine .cons (.of_painted _ ?_) .nil
    rw [List.mem_append, not_or]
    exact ⟨hskipped, h⟩
  | invalid e =>
    refine .cons (.of_painted _ ?_) .nil
    simp only [List.mem_append, not_or]
    exact ⟨⟨herror, hforeign.notMem_display h⟩, hinvalid⟩

/-- The progress of calls. -/
theorem decorates_text {home : Path} {calls : List Call} (h : ∀ call ∈ calls, call.Quiet)
    (hhome : ∀ call ∈ calls, call.ShowsHome → Ascii.escape ∉ home) :
    Decorates (text true home calls) (text false home calls) := by
  induction calls with
  | nil => exact .nil
  | cons call calls ih =>
    rw [List.forall_mem_cons] at h hhome
    rw [text, text, List.flatMap_cons, List.flatMap_cons, List.flatMap_append,
      List.flatMap_append]
    exact (Decorates.flatMap_lines (decorates_lines h.1 hhome.1)).append (ih h.2 hhome.2)

end Console

/-! ## The report -/

namespace TextReport

/-- What arrives of a report where there is so much room. -/
def written (color : Bool) (wanted : Bytes) (groups : List Group) (room : Room) : Bytes :=
  (write (.new room false) color wanted groups).1.received

theorem written_eq (color : Bool) (wanted : Bytes) (groups : List Group) (room : Room) :
    written color wanted groups room = room.part (text color wanted groups) :=
  (write_writes (.new room false) color wanted groups).delivers.received

/-- The lines of groups: the header of a group is painted as a whole. -/
theorem decorates_groupsLines (number : Nat) {groups : List Group}
    (hpaths : ∀ g ∈ groups, ∀ p ∈ g.paths, Ascii.escape ∉ p) :
    List.Forall₂ Decorates (groupsLines true number groups)
      (groupsLines false number groups) := by
  have hwords : ∀ word ∈ [utf8 "--- Group ", utf8 " (identical content) ---", utf8 "  - "],
      Ascii.escape ∉ word := by decide
  simp only [List.forall_mem_cons] at hwords
  obtain ⟨hgroup, hidentical, hdash, _⟩ := hwords
  induction groups generalizing number with
  | nil => exact .nil
  | cons g groups ih =>
    rw [List.forall_mem_cons] at hpaths
    have hheader : Ascii.escape ∉ header number := by
      simp only [header, List.mem_append, not_or]
      exact ⟨⟨hgroup, notMem_number rfl number⟩, hidentical⟩
    have hitems : List.Forall₂ Decorates (g.paths.map item) (g.paths.map item) := by
      rw [List.forall₂_same, List.forall_mem_map]
      intro p hp
      refine .of_plain ?_
      rw [item, List.mem_append, not_or]
      exact ⟨hdash, Path.escape_foreign.notMem_display (hpaths.1 p hp)⟩
    have hseparator : Ascii.escape ∉ separator number := by
      intro h
      exact absurd (List.eq_of_mem_replicate h) (by decide)
    exact List.rel_append
      (.cons (.of_painted _ hheader) (List.rel_append hitems (.cons (.of_plain hseparator) .nil)))
      (ih (number + 1) hpaths.2)

/-- The lines of a report: the result is painted as a whole. -/
theorem decorates_lines {wanted : Bytes} {groups : List Group} (hwanted : Ascii.escape ∉ wanted)
    (hpaths : ∀ g ∈ groups, ∀ p ∈ g.paths, Ascii.escape ∉ p) :
    List.Forall₂ Decorates (lines true wanted groups) (lines false wanted groups) := by
  have hwords : ∀ word ∈ [utf8 "Result: all files starting with '",
      utf8 "' in this folder have distinct content (or only one such file exists).",
      utf8 "Result: found ",
      utf8 " group(s) of files with identical content (names starting with '", utf8 "')."],
      Ascii.escape ∉ word := by decide +kernel
  simp only [List.forall_mem_cons] at hwords
  obtain ⟨hall, hdistinct, hfound, hidentical, hclose, _⟩ := hwords
  cases groups with
  | nil =>
    refine .cons (.of_painted _ ?_) .nil
    simp only [noGroups, List.mem_append, not_or]
    exact ⟨⟨hall, hwanted⟩, hdistinct⟩
  | cons g groups =>
    refine .cons (.of_painted _ ?_) (.cons .nil (decorates_groupsLines 1 hpaths))
    simp only [someGroups, List.mem_append, not_or]
    exact ⟨⟨⟨⟨hfound, notMem_number rfl _⟩, hidentical⟩, hwanted⟩, hclose⟩

theorem decorates_text {wanted : Bytes} {groups : List Group} (hwanted : Ascii.escape ∉ wanted)
    (hpaths : ∀ g ∈ groups, ∀ p ∈ g.paths, Ascii.escape ∉ p) :
    Decorates (text true wanted groups) (text false wanted groups) := by
  rw [text, text, pieces, pieces, ← List.flatMap_def, ← List.flatMap_def]
  exact .flatMap_lines (decorates_lines hwanted hpaths)

end TextReport

/-! ## Runs -/

namespace Scan

variable {v : View} {s : Selection} {folder : Path}

theorem start_mem_calls_run (v : View) (s : Selection) (folder : Path) :
    .start folder s.wanted ∈ (run v s [] folder).calls := by
  rcases run_cases v s folder with ⟨es, _, hcalls, _⟩ | ⟨e, _, hcalls, _⟩
  · rw [hcalls]
    exact List.mem_cons_self
  · rw [hcalls]
    exact List.mem_cons_self

/-- Each path in a group is that of a file that the reporter was told of. -/
theorem exists_hashed_of_mem_groups {g : Group} (hg : g ∈ (run v s [] folder).result.1) {p : Path}
    (hp : p ∈ g.paths) : ∃ file, .hashed file ∈ (run v s [] folder).calls ∧ file.path = p := by
  rcases run_cases v s folder with ⟨es, _, hcalls, hresult⟩ | ⟨e, _, _, hresult⟩
  · have htold := toldBy_calls s folder (es.map (visitOf v s folder))
    rw [hresult, htold.groups, Buckets.groups_ofFiles] at hg
    obtain ⟨_, d, _, rfl⟩ := Grouping.mem_groups.mp hg
    obtain ⟨file, hfile, rfl⟩ := List.mem_map.mp hp
    obtain ⟨call, hcall, hhashed⟩ := List.mem_filterMap.mp (List.mem_of_mem_filter hfile)
    rw [calls_ofVisits, ← hcalls] at hcall
    cases call with
    | hashed other =>
      cases hhashed
      exact ⟨file, hcall, rfl⟩
    | _ => cases hhashed
  · rw [hresult] at hg
    cases hg

end Scan

namespace Run

/-- What arrives of the output of a run where there is so much room. -/
def written (v : View) (s : Settings) (duration : Duration) (time : Instant) (room : Room) :
    Bytes :=
  (perform v s duration time (.new room false)).sink.received

/-- Color does nothing but paint: to the progress of any calls, to a report on any groups, and to
all that a run for people writes. Where a relative folder is told, the working folder has to be free
of escape bytes, too. The two runs are of one folder in one state, with settings that differ in color
alone; they may take different time and end at different times. -/
theorem color_only_decorates :
    (∀ (home : Path) (steps : List Happening),
      (∀ call ∈ steps.filterMap Happening.call?, call.Quiet) →
      (∀ call ∈ steps.filterMap Happening.call?, call.ShowsHome → Ascii.escape ∉ home) →
        OnlyDecorated (Console.written true home steps) (Console.written false home steps)) ∧
    (∀ (wanted : Bytes) (groups : List Group), Ascii.escape ∉ wanted →
      (∀ g ∈ groups, ∀ p ∈ g.paths, Ascii.escape ∉ p) →
        OnlyDecorated (TextReport.written true wanted groups)
          (TextReport.written false wanted groups)) ∧
    ∀ (v : View) (s : Settings) (duration duration' : Duration) (time time' : Instant),
      s.output = .text →
      (∀ call ∈ (Scan.run v s.selection [] s.folder).calls, call.Quiet) →
      (∀ call ∈ (Scan.run v s.selection [] s.folder).calls,
        call.ShowsHome → Ascii.escape ∉ v.homePath) →
        OnlyDecorated (written v { s with color := true } duration time)
          (written v { s with color := false } duration' time') := by
  refine ⟨?_, ?_, ?_⟩
  · intro home steps hcalls hhome
    exact (Console.decorates_text hcalls hhome).onlyDecorated (Console.written_eq true home steps)
      (Console.written_eq false home steps)
  · intro wanted groups hwanted hpaths
    exact (TextReport.decorates_text hwanted hpaths).onlyDecorated
      (TextReport.written_eq true wanted groups) (TextReport.written_eq false wanted groups)
  · intro v s duration duration' time time' htext hcalls hhome
    let scan := Scan.run v s.selection [] s.folder
    have houtput : ∀ color duration time room,
        written v { s with color } duration time room =
          room.part (Console.text color v.homePath scan.calls ++
            TextReport.text color scan.result.2.wanted scan.result.1) := by
      intro color duration time room
      rw [written, received_perform, output, htext]
      rfl
    -- the prefix is that of the start, and the paths of the groups are those of hashed files
    have hwanted : Ascii.escape ∉ scan.result.2.wanted := by
      rw [show scan.result.2.wanted = s.wanted from Scan.wanted_run v s.selection s.folder]
      exact (hcalls _ (Scan.start_mem_calls_run v s.selection s.folder)).2
    have hpaths : ∀ g ∈ scan.result.1, ∀ p ∈ g.paths, Ascii.escape ∉ p := by
      intro g hg p hp
      obtain ⟨file, hfile, rfl⟩ := Scan.exists_hashed_of_mem_groups hg hp
      exact hcalls _ hfile
    exact ((Console.decorates_text hcalls hhome).append
      (TextReport.decorates_text hwanted hpaths)).onlyDecorated (houtput true duration time)
        (houtput false duration' time')

/-- The start of a scan with the empty prefix, and two failures. -/
def troubledSteps : List Happening :=
  [.call (.start (utf8 "d") []), .call (.readError ⟨utf8 "d/m", .accessDenied⟩),
    .call (.entryError (.failed (utf8 "d") (.worded .other (utf8 "m[0m"))))]

/-- There, in a report on a group, and in a folder with a file that nobody may read, color is
nothing but paint. -/
theorem color_only_decorates_mixed :
    OnlyDecorated (Console.written true (utf8 "/h") troubledSteps)
      (Console.written false (utf8 "/h") troubledSteps) ∧
    OnlyDecorated (TextReport.written true [] [⟨.ofEmpty, 0, [utf8 "a\n", [0xFF]]⟩])
      (TextReport.written false [] [⟨.ofEmpty, 0, [utf8 "a\n", [0xFF]]⟩]) ∧
    OnlyDecorated (written mixedFolder { mixedSettings with color := true } ⟨1, 0⟩ ⟨0, 0⟩)
      (written mixedFolder { mixedSettings with color := false } ⟨2, 0⟩ ⟨5, 0⟩) := by
  obtain ⟨hprogress, hreport, hrun⟩ := color_only_decorates
  have hcalls : ∀ call ∈ (Scan.run mixedFolder mixedSettings.selection []
      mixedSettings.folder).calls, call.Quiet := by
    decide +kernel
  exact ⟨hprogress _ _ (by decide +kernel) (by decide +kernel),
    hreport _ _ (by decide) (by decide +kernel),
    hrun mixedFolder mixedSettings _ _ _ _ rfl hcalls (by decide +kernel)⟩

/-- A working folder with an escape byte in its name, and nothing in it. -/
def escapingFolder : View :=
  .built (utf8 "/w\x1b") false []

/-- Where nothing that is told holds an escape byte, color may still be more than decoration. A scan
of `.` without color shows the escape byte of the working folder. And a sink with room for 22 bytes
takes the sequence that opens a style and nothing behind it. -/
theorem color_more_than_decoration :
    let s := { Settings.initial with color := false }
    let here : Call := .start (utf8 ".") (utf8 "output")
    let there : Call := .start (utf8 "/data") (utf8 "output")
    let room : Room := ⟨some 22, none⟩
    (here.Quiet ∧
      Ascii.escape ∈ Console.written false escapingFolder.homePath [.call here] .unlimited) ∧
    ((∀ call ∈ (Scan.run escapingFolder s.selection [] s.folder).calls, call.Quiet) ∧
      Ascii.escape ∈ written escapingFolder s ⟨0, 0⟩ ⟨0, 0⟩ .unlimited) ∧
    there.Quiet ∧
      Style.balanced (Console.written true (utf8 "/h") [.call there] room) = false ∧
      Style.strip (Console.written true (utf8 "/h") [.call there] room) ≠
        Console.written false (utf8 "/h") [.call there] room := by
  intro s here there room
  have hhome : Ascii.escape ∈
      Console.written false escapingFolder.homePath [.call here] .unlimited := by
    decide +kernel
  have hcalls : ∀ call ∈ (Scan.run escapingFolder s.selection [] s.folder).calls, call.Quiet := by
    decide +kernel
  have hrun : Ascii.escape ∈ written escapingFolder s ⟨0, 0⟩ ⟨0, 0⟩ .unlimited := by
    decide +kernel
  have hcut : Console.written true (utf8 "/h") [.call there] room =
      utf8 "Scanning folder: '\x1b[1m" := by
    decide +kernel
  have hplain : Console.written false (utf8 "/h") [.call there] room =
      utf8 "Scanning folder: '/dat" := by
    decide +kernel
  rw [hcut, hplain]
  exact ⟨⟨by decide, hhome⟩, ⟨hcalls, hrun⟩, by decide +kernel, by decide, by decide⟩

end Run

end TwinFiles
