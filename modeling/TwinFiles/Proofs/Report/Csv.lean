import TwinFiles.Proofs.Csv.RoundTrip
import TwinFiles.Proofs.Report.Shown
import TwinFiles.Proofs.Run.Truncation
import TwinFiles.Proofs.Text.Decimal
import TwinFiles.Report.Csv

/-!
# Reading a report of comma-separated text

`readRow?` takes a record of the report apart, and `collect?` puts rows with one number together
again. So a report tells the rows that were written (`csv_reads_back`), and rows tell the groups,
unless a group is empty (`collect?_rowsFrom`).
-/

namespace TwinFiles.CsvReport

/-- A row of the report: a file with the number of its group. -/
structure Row where
  number : Nat
  digest : Digest
  file : Bytes
  size : Nat
  deriving DecidableEq

/-- The row that a record holds. -/
def readRow? : List Bytes → Option Row
  | [number, hash, file, size] => do
    return ⟨← Decimal.read? number, ← Digest.ofHex? hash, file, ← Decimal.read? size⟩
  | _ => none

/-- The rows of groups that are numbered from `number` on. -/
def rowsFrom (number : Nat) (groups : List Group) : List Row :=
  (groups.zipIdx number).flatMap fun (g, n) =>
    g.paths.map fun p => ⟨n, g.digest, p.display, g.size⟩

/-- The records of rows. -/
def Row.record (row : Row) : List Bytes :=
  [Decimal.text row.number, row.digest.hex, row.file, Decimal.text row.size]

/-- The group with a number, if all its rows have one digest and one size. -/
def collectGroup? (rows : List Row) (number : Nat) : Option ShownGroup :=
  match rows.filter fun row => row.number = number with
  | [] => none
  | first :: others =>
    if others.all fun row => row.digest = first.digest ∧ row.size = first.size then
      some ⟨first.digest, first.size, (first :: others).map Row.file⟩
    else none

/-- The groups that rows tell of, in the order in which their numbers first appear. -/
def collect? (rows : List Row) : Option (List ShownGroup) :=
  (rows.map Row.number).eraseDups.mapM (collectGroup? rows)

/-! ## Rows -/

theorem rowsFrom_cons (number : Nat) (g : Group) (groups : List Group) :
    rowsFrom number (g :: groups) =
      (g.paths.map fun p => ⟨number, g.digest, p.display, g.size⟩) ++
        rowsFrom (number + 1) groups := by
  rw [rowsFrom, List.zipIdx_cons, List.flatMap_cons]
  rfl

theorem groupRecords_eq (number : Nat) (groups : List Group) :
    groupRecords number groups = (rowsFrom number groups).map Row.record := by
  induction groups generalizing number with
  | nil => rfl
  | cons g groups ih =>
    rw [groupRecords, rowsFrom_cons, List.map_append, List.map_map, ih]
    rfl

theorem readRow?_record (row : Row) : readRow? row.record = some row := by
  rw [Row.record, readRow?, Decimal.read?_text, Digest.ofHex?_hex, Decimal.read?_text]
  rfl

theorem readRows_records (rows : List Row) : (rows.map Row.record).mapM readRow? = some rows := by
  rw [mapM_map_some readRow?_record, List.map_id']

theorem number_le {number : Nat} {groups : List Group} {row : Row}
    (h : row ∈ rowsFrom number groups) : number ≤ row.number := by
  induction groups generalizing number with
  | nil => simp [rowsFrom] at h
  | cons g groups ih =>
    rw [rowsFrom_cons, List.mem_append] at h
    rcases h with h | h
    · obtain ⟨p, _, rfl⟩ := List.mem_map.mp h
      exact Nat.le_refl number
    · exact Nat.le_of_succ_le (ih h)

/-! ## Collecting rows -/

section Collect

variable {block rows : List Row} {number : Nat}

/-- Rows in front with another number do not matter to a group. -/
theorem collectGroup?_append_of_ne (h : ∀ row ∈ block, row.number ≠ number) :
    collectGroup? (block ++ rows) number = collectGroup? rows number := by
  have hnone : (block.filter fun row => row.number = number) = [] :=
    List.filter_eq_nil_iff.mpr fun row hrow => by simp [h row hrow]
  rw [collectGroup?, collectGroup?, List.filter_append, hnone, List.nil_append]

/-- The rows of a group, in front of rows with other numbers, tell of that group. -/
theorem collectGroup?_group (g : Group) (hpaths : g.paths ≠ [])
    (h : ∀ row ∈ rows, row.number ≠ number) :
    collectGroup?
        ((g.paths.map fun p => ⟨number, g.digest, p.display, g.size⟩) ++ rows) number =
      some g.shown := by
  obtain ⟨p, paths, hcons⟩ := List.exists_cons_of_ne_nil hpaths
  have hall : ((g.paths.map fun p => (⟨number, g.digest, p.display, g.size⟩ : Row)) ++ rows).filter
        (fun row => row.number = number) =
      g.paths.map fun p => ⟨number, g.digest, p.display, g.size⟩ := by
    rw [List.filter_append, List.filter_eq_self.mpr, List.filter_eq_nil_iff.mpr, List.append_nil]
    · intro row hrow
      simp [h row hrow]
    · intro row hrow
      obtain ⟨q, _, rfl⟩ := List.mem_map.mp hrow
      simp
  rw [collectGroup?, hall, Group.shown, hcons]
  simp

/-- Numbers that come first, and then others, are counted once. -/
theorem eraseDups_numbers (hblock : block ≠ []) (hnumber : ∀ row ∈ block, row.number = number)
    (h : ∀ row ∈ rows, row.number ≠ number) :
    ((block ++ rows).map Row.number).eraseDups = number :: (rows.map Row.number).eraseDups := by
  obtain ⟨first, others, rfl⟩ := List.exists_cons_of_ne_nil hblock
  have hothers : ((others.map Row.number).filter fun n => !n == number) = [] := by
    rw [List.filter_eq_nil_iff, List.forall_mem_map]
    intro row hrow
    simp [hnumber row (List.mem_cons_of_mem _ hrow)]
  have hrows : ((rows.map Row.number).filter fun n => !n == number) = rows.map Row.number := by
    rw [List.filter_eq_self, List.forall_mem_map]
    intro row hrow
    simp [h row hrow]
  rw [List.cons_append, List.map_cons, hnumber first List.mem_cons_self, List.eraseDups_cons,
    List.map_append, List.filter_append, hothers, hrows, List.nil_append]

end Collect

/-- The rows of groups tell the groups, if none is empty. -/
theorem collect?_rowsFrom (number : Nat) {groups : List Group} (h : ∀ g ∈ groups, g.paths ≠ []) :
    collect? (rowsFrom number groups) = some (groups.map Group.shown) := by
  induction groups generalizing number with
  | nil => rfl
  | cons g groups ih =>
    have hpaths := h g List.mem_cons_self
    have hrest := ih (number + 1) fun g' hg' => h g' (List.mem_cons_of_mem _ hg')
    have hlater : ∀ row ∈ rowsFrom (number + 1) groups, row.number ≠ number :=
      fun row hrow => Nat.ne_of_gt (number_le hrow)
    have hblock : ∀ row ∈ g.paths.map fun p => (⟨number, g.digest, p.display, g.size⟩ : Row),
        row.number = number := List.forall_mem_map.mpr fun _ _ => rfl
    -- the other groups do not see the rows in front, which have a number of their own
    have hsame : ((rowsFrom (number + 1) groups).map Row.number).eraseDups.mapM
          (collectGroup? (rowsFrom number (g :: groups))) =
        collect? (rowsFrom (number + 1) groups) := by
      apply mapM_congr
      intro n hn
      obtain ⟨row, hrow, rfl⟩ := List.mem_map.mp (List.mem_eraseDups.mp hn)
      rw [rowsFrom_cons]
      exact collectGroup?_append_of_ne fun other hother =>
        hblock other hother ▸ (hlater row hrow).symm
    rw [collect?, rowsFrom_cons, eraseDups_numbers (by simpa using hpaths) hblock hlater,
      ← rowsFrom_cons, List.mapM_cons, hsame, hrest, rowsFrom_cons,
      collectGroup?_group g hpaths hlater]
    rfl

/-! ## Reading what was written -/

theorem parse?_text (groups : List Group) :
    Csv.parse? (text groups) = some (header :: (rowsFrom 1 groups).map Row.record) := by
  have hrecords : records groups = header :: (rowsFrom 1 groups).map Row.record := by
    rw [records, groupRecords_eq]
  rw [text, hrecords]
  apply Csv.parse?_document
  rw [List.forall_mem_cons, List.forall_mem_map]
  exact ⟨by simp [header], fun row _ => by simp [Row.record]⟩

/-- Reports of groups that are not empty and hold UTF-8 paths alone are different for different
groups. -/
theorem text_injective {groups groups' : List Group}
    (h : ∀ g ∈ groups, g.paths ≠ [] ∧ ∀ p ∈ g.paths, Utf8.Valid p)
    (h' : ∀ g ∈ groups', g.paths ≠ [] ∧ ∀ p ∈ g.paths, Utf8.Valid p)
    (heq : text groups = text groups') : groups = groups' := by
  have hparse := parse?_text groups
  rw [heq, parse?_text groups', Option.some.injEq, List.cons.injEq] at hparse
  have hrows : rowsFrom 1 groups' = rowsFrom 1 groups := by
    have hread := congrArg (List.mapM readRow?) hparse.2
    rw [readRows_records, readRows_records] at hread
    exact Option.some.inj hread
  have hshown : groups.map Group.shown = groups'.map Group.shown := by
    have hcollect := congrArg collect? hrows
    rw [collect?_rowsFrom 1 fun g hg => (h g hg).1, collect?_rowsFrom 1 fun g hg => (h' g hg).1]
      at hcollect
    exact (Option.some.inj hcollect).symm
  have hgroups := congrArg (List.map ShownGroup.group) hshown
  rwa [Group.map_group_shown fun g hg => (h g hg).2,
    Group.map_group_shown fun g hg => (h' g hg).2] at hgroups

/-- A report is written in full to a sink that has room for it, and can be read back: a header, and
for each path in order a record with the number of its group, the digest, the path and the size. So
groups that are not empty and hold UTF-8 paths alone have the same report only if they are equal. -/
theorem csv_reads_back (groups : List Group) :
    (write .unlimited groups).2 = .ok () ∧
      ∃ records,
        Csv.parse? (write .unlimited groups).1.received =
          some ([utf8 "group_id", utf8 "hash", utf8 "path", utf8 "size"] :: records) ∧
        records = ((groups.zipIdx 1).flatMap fun (g, n) =>
          g.paths.map fun p => [Decimal.text n, g.digest.hex, p.display, Decimal.text g.size]) ∧
        records.mapM readRow? = some ((groups.zipIdx 1).flatMap fun (g, n) =>
          g.paths.map fun p => ⟨n, g.digest, p.display, g.size⟩) ∧
        ((∀ g ∈ groups, g.paths ≠ [] ∧ ∀ p ∈ g.paths, Utf8.Valid p) →
          ∀ groups', (∀ g ∈ groups', g.paths ≠ [] ∧ ∀ p ∈ g.paths, Utf8.Valid p) →
            (write .unlimited groups).1.received = (write .unlimited groups').1.received →
              groups = groups') := by
  have hreceived (groups : List Group) :
      (write .unlimited groups).1.received = text groups :=
    (write_writes rfl groups).delivers.received
  refine ⟨(write_writes rfl groups).ok_iff.mpr (Room.fits_unlimited _),
    (rowsFrom 1 groups).map Row.record, ?_, ?_, readRows_records _, ?_⟩
  · rw [hreceived, parse?_text]
    rfl
  · rw [rowsFrom, List.map_flatMap]
    simp only [List.map_map]
    rfl
  · intro h groups' h' heq
    rw [hreceived, hreceived] at heq
    exact text_injective h h' heq

end TwinFiles.CsvReport
