import TwinFiles.Proofs.Text.Decimal
import TwinFiles.Proofs.Text.Lines
import TwinFiles.Report.Text

/-!
# Reading a report for people

`TextReport.read?` takes an output apart line by line: what stands before the result line is passed
over, the result line tells the number of groups, and each group is a header, a line for each file
and a separator. It gets back the files of the groups, whatever progress stands in front
(`read?_text`), as long as no newline stands in what the lines are made of.
-/

namespace TwinFiles.TextReport

/-! ## Taking a report apart -/

/-- What follows a word at the front of a line. -/
def behind? (word line : Bytes) : Option Bytes :=
  if word.isPrefixOf line then some (line.drop word.length) else none

/-- The number of groups that a result line tells. -/
def readCount? (line : Bytes) : Option Nat :=
  match behind? (utf8 "Result: found ") line with
  | some rest => Decimal.read? (rest.takeWhile Ascii.isDigit)
  | none => if (utf8 "Result: all files ").isPrefixOf line then some 0 else none

/-- The files of the groups that lines tell of, up to the end of the text. The files of a group that
has been opened by its header are held until its separator. -/
def readGroups? : Option (List Bytes) → List Bytes → Option (List (List Bytes))
  | _, [] => none
  | none, [line] => if line = [] then some [] else none
  | none, line :: lines =>
    if (utf8 "--- Group ").isPrefixOf line then readGroups? (some []) lines else none
  | some files, line :: lines =>
    match behind? (utf8 "  - ") line with
    | some file => readGroups? (some (files ++ [file])) lines
    | none =>
      if line.all (· == Ascii.dash) then (readGroups? none lines).map (files :: ·) else none

/-- The number of groups and their files, from the result line on. -/
def readLines? : List Bytes → Option (Nat × List (List Bytes))
  | [] => none
  | result :: lines =>
    match readCount? result with
    | none => none
    | some 0 => if lines = [[]] then some (0, []) else none
    | some count =>
      match lines with
      | [] :: lines => (readGroups? none lines).map fun groups => (count, groups)
      | _ => none

/-- A result line. -/
def isResult (line : Bytes) : Bool :=
  (utf8 "Result: ").isPrefixOf line

/-- The number of groups and their files that an output for people tells of. -/
def read? (output : Bytes) : Option (Nat × List (List Bytes)) :=
  readLines? ((Bytes.splitOn Ascii.newline output).dropWhile fun line => !isResult line)

/-! ## Lines -/

theorem behind?_append (word rest : Bytes) : behind? word (word ++ rest) = some rest := by
  have hstarts : word.isPrefixOf (word ++ rest) = true :=
    List.isPrefixOf_iff_prefix.mpr (List.prefix_append word rest)
  rw [behind?, if_pos hstarts, List.drop_left]

theorem readCount?_someGroups (count : Nat) (wanted : Bytes) :
    readCount? (someGroups count wanted) = some count := by
  have hline : someGroups count wanted = utf8 "Result: found " ++ (Decimal.text count ++
      (utf8 " group(s) of files with identical content (names starting with '" ++ wanted ++
        utf8 "').")) := by
    rw [someGroups]
    simp only [List.append_assoc]
  have hdigits : (Decimal.text count ++
      (utf8 " group(s) of files with identical content (names starting with '" ++ wanted ++
        utf8 "').")).takeWhile Ascii.isDigit = Decimal.text count := by
    rw [List.takeWhile_append_of_pos fun b hb => Decimal.isDigit_of_mem_text hb]
    exact List.append_nil _
  rw [hline, readCount?, behind?_append]
  simp only
  rw [hdigits, Decimal.read?_text]

/-- Files are read up to the separator. -/
theorem readGroups?_items (number : Nat) (files : List Bytes) (paths : List Path)
    (lines : List Bytes) :
    readGroups? (some files) (paths.map item ++ separator number :: lines) =
      (readGroups? none lines).map ((files ++ paths.map Path.display) :: ·) := by
  induction paths generalizing files with
  | nil =>
    have hitem : behind? (utf8 "  - ") (separator number) = none := by
      rw [separator, Nat.add_comm, List.replicate_succ]
      rfl
    have hdashes : (separator number).all (· == Ascii.dash) = true := by
      simp [separator]
    rw [List.map_nil, List.nil_append, readGroups?, hitem]
    simp only [hdashes, if_true, List.map_nil, List.append_nil]
  | cons p paths ih =>
    rw [List.map_cons, List.cons_append, readGroups?, item, behind?_append]
    simp only
    rw [ih, List.append_assoc]
    rfl

/-- A header opens a group. -/
theorem readGroups?_header (number : Nat) {lines : List Bytes} (h : lines ≠ []) :
    readGroups? none (header number :: lines) = readGroups? (some []) lines := by
  have hheader : (utf8 "--- Group ").isPrefixOf (header number) = true := by
    rw [header, List.append_assoc]
    exact List.isPrefixOf_iff_prefix.mpr (List.prefix_append _ _)
  obtain ⟨line, lines, rfl⟩ := List.exists_cons_of_ne_nil h
  rw [readGroups?, if_pos hheader]
  simp

/-- Groups are read one after another up to the end of the text. -/
theorem readGroups?_groupsLines (number : Nat) (groups : List Group) :
    readGroups? none (groupsLines false number groups ++ [[]]) =
      some (groups.map fun g => g.paths.map Path.display) := by
  induction groups generalizing number with
  | nil => rfl
  | cons g groups ih =>
    have hlines : groupsLines false number (g :: groups) ++ [[]] =
        header number :: (g.paths.map item ++ separator number ::
          (groupsLines false (number + 1) groups ++ [[]])) := by
      rw [groupsLines, groupLines, Style.paint]
      simp
    rw [hlines, readGroups?_header number (by simp), readGroups?_items, ih]
    rfl

/-- The lines of a report, and the end of the text behind them, tell the groups. -/
theorem readLines?_lines (wanted : Bytes) (groups : List Group) :
    readLines? (lines false wanted groups ++ [[]]) =
      some (groups.length, groups.map fun g => g.paths.map Path.display) := by
  cases groups with
  | nil => rfl
  | cons g groups =>
    have hgroups := readGroups?_groupsLines 1 (g :: groups)
    have hlines : lines false wanted (g :: groups) ++ [[]] =
        someGroups (g :: groups).length wanted :: [] ::
          (groupsLines false 1 (g :: groups) ++ [[]]) := rfl
    rw [hlines, readLines?, readCount?_someGroups]
    show (readGroups? none _).map _ = _
    rw [hgroups]
    rfl

theorem isResult_head (wanted : Bytes) (groups : List Group) :
    ∃ result rest, lines false wanted groups = result :: rest ∧ isResult result = true := by
  cases groups with
  | nil => exact ⟨_, _, rfl, rfl⟩
  | cons g groups => exact ⟨_, _, rfl, rfl⟩

/-! ## Reading what was written -/

theorem notMem_number {b : UInt8} (hb : Ascii.isDigit b = false) (n : Nat) :
    b ∉ Decimal.text n := by
  intro h
  rw [Decimal.isDigit_of_mem_text h] at hb
  cases hb

/-- The lines of groups hold no newline if the paths hold none. -/
theorem newline_notMem_groupsLines (number : Nat) {groups : List Group}
    (hpaths : ∀ g ∈ groups, ∀ p ∈ g.paths, Ascii.newline ∉ p) :
    ∀ line ∈ groupsLines false number groups, Ascii.newline ∉ line := by
  have hwords : ∀ word ∈ [utf8 "--- Group ", utf8 " (identical content) ---", utf8 "  - "],
      Ascii.newline ∉ word := by decide
  simp only [List.forall_mem_cons] at hwords
  obtain ⟨hgroup, hidentical, hdash, _⟩ := hwords
  induction groups generalizing number with
  | nil => exact List.forall_mem_nil _
  | cons g groups ih =>
    rw [groupsLines, groupLines, List.forall_mem_append, List.forall_mem_append,
      List.forall_mem_cons, List.forall_mem_singleton, List.forall_mem_map]
    refine ⟨⟨⟨?_, ?_⟩, ?_⟩, ih (number + 1) fun g' hg' => hpaths g' (List.mem_cons_of_mem _ hg')⟩
    · show Ascii.newline ∉ header number
      simp only [header, List.mem_append, not_or]
      exact ⟨⟨hgroup, notMem_number rfl number⟩, hidentical⟩
    · intro p hp
      simp only [item, List.mem_append, not_or]
      exact ⟨hdash, Path.newline_foreign.notMem_display (hpaths g List.mem_cons_self p hp)⟩
    · intro h
      exact absurd (List.eq_of_mem_replicate h) (by decide)

/-- No newline stands in the lines of a report if none stands in the prefix and the paths. -/
theorem newline_notMem_lines {wanted : Bytes} {groups : List Group}
    (hwanted : Ascii.newline ∉ wanted)
    (hpaths : ∀ g ∈ groups, ∀ p ∈ g.paths, Ascii.newline ∉ p) :
    ∀ line ∈ lines false wanted groups, Ascii.newline ∉ line := by
  have hwords : ∀ word ∈ [utf8 "Result: all files starting with '",
      utf8 "' in this folder have distinct content (or only one such file exists).",
      utf8 "Result: found ",
      utf8 " group(s) of files with identical content (names starting with '", utf8 "')."],
      Ascii.newline ∉ word := by decide +kernel
  simp only [List.forall_mem_cons] at hwords
  obtain ⟨hall, hdistinct, hfound, hidentical, hclose, _⟩ := hwords
  rw [lines]
  split
  · rw [List.forall_mem_singleton]
    simp only [Style.paint, noGroups, List.mem_append, not_or, Bool.false_eq_true, if_false]
    exact ⟨⟨hall, hwanted⟩, hdistinct⟩
  · rw [List.forall_mem_cons, List.forall_mem_cons]
    refine ⟨?_, List.not_mem_nil, newline_notMem_groupsLines 1 hpaths⟩
    simp only [Style.paint, someGroups, List.mem_append, not_or, Bool.false_eq_true, if_false]
    exact ⟨⟨⟨⟨hfound, notMem_number rfl _⟩, hidentical⟩, hwanted⟩, hclose⟩

/-- Lines of progress, none of which is a result line. -/
def IsProgress (progress : Bytes) : Prop :=
  ∃ lines : List Bytes, progress = lines.flatMap (· ++ [Ascii.newline]) ∧
    ∀ line ∈ lines, Ascii.newline ∉ line ∧ isResult line = false

theorem isProgress_append {a b : Bytes} (ha : IsProgress a) (hb : IsProgress b) :
    IsProgress (a ++ b) := by
  obtain ⟨as, rfl, has⟩ := ha
  obtain ⟨bs, rfl, hbs⟩ := hb
  exact ⟨as ++ bs, List.flatMap_append.symm, List.forall_mem_append.mpr ⟨has, hbs⟩⟩

/-- What stands behind progress is read as if nothing stood before it. -/
theorem read?_append {progress : Bytes} (h : IsProgress progress) (report : Bytes) :
    read? (progress ++ report) = read? report := by
  obtain ⟨lines, rfl, hlines⟩ := h
  rw [read?, read?, Bytes.splitOn_lines fun line hline => (hlines line hline).1,
    List.dropWhile_append_of_pos]
  intro line hline
  simp [(hlines line hline).2]

/-- The files of the groups can be read off an output for people: those of the report that stands
behind the progress. -/
theorem read?_text {progress wanted : Bytes} {groups : List Group} (hprogress : IsProgress progress)
    (hwanted : Ascii.newline ∉ wanted)
    (hpaths : ∀ g ∈ groups, ∀ p ∈ g.paths, Ascii.newline ∉ p) :
    read? (progress ++ text false wanted groups) =
      some (groups.length, groups.map fun g => g.paths.map Path.display) := by
  obtain ⟨result, rest, hlines, hresult⟩ := isResult_head wanted groups
  have hsplit := Bytes.splitOn_lines (newline_notMem_lines hwanted hpaths) []
  have hfirst : ((result :: (rest ++ [[]])).dropWhile fun line => !isResult line) =
      result :: (rest ++ [[]]) := List.dropWhile_cons_of_neg (by simp [hresult])
  rw [List.append_nil] at hsplit
  rw [read?_append hprogress, read?, text, pieces, ← List.flatMap_def, hsplit, Bytes.splitOn,
    hlines, List.cons_append, hfirst, ← List.cons_append, ← hlines]
  exact readLines?_lines wanted groups

end TwinFiles.TextReport
