import TwinFiles.Failure
import TwinFiles.Group.Basic
import TwinFiles.Instant

/-!
# Summary of a scan

Counts and diagnostics of one scan. The three numbers about duplicates are those of the groups that
were found.
-/

namespace TwinFiles

/-- Counts and diagnostics of one scan. -/
structure Summary where
  /-- The folder as given. -/
  folder : Path
  /-- The prefix that names had to start with. -/
  wanted : Bytes
  /-- Entries whose name starts with the prefix. -/
  entriesExamined : Nat
  /-- Those of them that are not files. -/
  nonFilesSkipped : Nat
  /-- Files that have been read and hashed. -/
  filesHashed : Nat
  /-- The sizes of these files, added up. -/
  bytesHashed : Nat
  readErrors : List ReadError
  /-- Failures of the listing. -/
  entryErrors : List FolderError
  /-- The folder cannot be scanned. -/
  invalidDirectory : Bool
  duplicateGroups : Nat
  /-- Files in groups beyond the first of each. -/
  duplicateFiles : Nat
  /-- Bytes that keeping one copy of each group would free. -/
  reclaimableSpace : Nat
  deriving DecidableEq

namespace Summary

/-- The sum of numbers. -/
def total (numbers : List Nat) : Nat :=
  numbers.foldr (· + ·) 0

/-- The summary before anything has been looked at. -/
def blank (folder : Path) (wanted : Bytes) : Summary where
  folder := folder
  wanted := wanted
  entriesExamined := 0
  nonFilesSkipped := 0
  filesHashed := 0
  bytesHashed := 0
  readErrors := []
  entryErrors := []
  invalidDirectory := false
  duplicateGroups := 0
  duplicateFiles := 0
  reclaimableSpace := 0

/-- Something was left out because of an error. -/
def hasErrors (s : Summary) : Bool :=
  !s.readErrors.isEmpty || !s.entryErrors.isEmpty

/-- Takes the numbers about duplicates from the groups. -/
def withGroups (s : Summary) (groups : List Group) : Summary :=
  { s with
    duplicateGroups := groups.length
    duplicateFiles := total (groups.map Group.duplicateCount)
    reclaimableSpace := total (groups.map Group.wastedSpace) }

end Summary

end TwinFiles
