import TwinFiles.Cause
import TwinFiles.Path

/-!
# What can go wrong in a scan

A `FolderError` is about the folder or its listing, a `ReadError` about one file's content. Both
name the path as it was given. Messages are for people; a report of unreadable files shows the path
and the cause.
-/

namespace TwinFiles

/-- The folder cannot be scanned, or its listing failed. -/
inductive FolderError where
  | permissionDenied (path : Path)
  | notFound (path : Path)
  | notADirectory (path : Path)
  | failed (path : Path) (cause : Cause)
  deriving DecidableEq, Repr

namespace FolderError

/-- The path that the error is about. -/
def path : FolderError → Path
  | permissionDenied p => p
  | notFound p => p
  | notADirectory p => p
  | failed p _ => p

/-- Sorts the failure to look at a folder or to open it. -/
def ofCause (path : Path) (cause : Cause) : FolderError :=
  match cause.kind with
  | .permissionDenied => permissionDenied path
  | .notFound => notFound path
  | _ => failed path cause

def message : FolderError → Bytes
  | permissionDenied p => utf8 "Permission denied: " ++ p.display
  | notFound p => utf8 "Path not found: " ++ p.display
  | notADirectory p => utf8 "Not a directory: " ++ p.display
  | failed p cause => utf8 "I/O error for " ++ p.display ++ utf8 ": " ++ cause.text

end FolderError

/-- A file's content cannot be read. -/
structure ReadError where
  path : Path
  cause : Cause
  deriving DecidableEq, Repr

/-- Absence and refusal are named without the system's own words. -/
def ReadError.message (e : ReadError) : Bytes :=
  match e.cause.kind with
  | .notFound => utf8 "File not found: " ++ e.path.display
  | .permissionDenied => utf8 "Permission denied: " ++ e.path.display
  | _ => utf8 "I/O error for " ++ e.path.display ++ utf8 ": " ++ e.cause.text

end TwinFiles
