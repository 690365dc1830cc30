import TwinFiles.Csv.Writer
import TwinFiles.Group.Basic

/-!
# Report as comma-separated text

A header and one record for each path, with the number of its group. The text goes through a buffer
of 8192 bytes.
-/

namespace TwinFiles.CsvReport

def header : List Bytes :=
  [utf8 "group_id", utf8 "hash", utf8 "path", utf8 "size"]

/-- The record of a path in the group with a number. -/
def record (number : Nat) (g : Group) (path : Path) : List Bytes :=
  [Decimal.text number, g.digest.hex, path.display, Decimal.text g.size]

/-- The records of groups that are numbered from `number` on. -/
def groupRecords : Nat → List Group → List (List Bytes)
  | _, [] => []
  | number, g :: groups => g.paths.map (record number g) ++ groupRecords (number + 1) groups

/-- All records of the report. -/
def records (groups : List Group) : List (List Bytes) :=
  header :: groupRecords 1 groups

/-- The report. -/
def text (groups : List Group) : Bytes :=
  Csv.document (records groups)

/-- The size of the buffer. -/
def bufferSize : Nat := 8192

/-- The report as the buffers that are passed on one after another. -/
def buffers (groups : List Group) : List Bytes :=
  Csv.pack bufferSize bufferSize ((records groups).flatMap Csv.recordUnits)

end TwinFiles.CsvReport
