import TwinFiles.Digest.Basic
import TwinFiles.Group.Basic
import TwinFiles.Scan.Listing

/-!
# Visits

A scan is a sequence of visits: every sighting of the listing, and for a file the outcome of reading
it. All that a scan tells follows from its visits: what the reporter is called with, which records
are written, the summary and the groups. How the visits come about, and what changes in the tree
meanwhile, plays no part in that.
-/

namespace TwinFiles

/-- A sighting, and for a file the outcome of reading it. -/
inductive Visit where
  | unwanted (path : Path)
  | nonFile (path : Path)
  | file (path : Path) (content : Except Cause Bytes)
  | failed (path : Path) (cause : Cause)

/-- What a reporter is called with. -/
inductive Call where
  | start (folder : Path) (wanted : Bytes)
  | entry (path : Path)
  | hashed (file : HashedFile)
  | readError (error : ReadError)
  | entryError (error : FolderError)
  | invalid (error : FolderError)
  deriving DecidableEq

/-- A step of a scan that others can see: a call of the reporter, or a record. -/
inductive Happening where
  | call (call : Call)
  | note (record : Log.Record)
  deriving DecidableEq

def Happening.call? : Happening → Option Call
  | call c => some c
  | note _ => none

/-- The file at a path, hashed with this content. -/
def HashedFile.of (path : Path) (content : Bytes) : HashedFile :=
  ⟨path, content.length, Digest.of content⟩

namespace Visit

/-- The sighting that a visit starts with. -/
def sighting : Visit → Sighting
  | unwanted path => .unwanted path
  | nonFile path => .nonFile path
  | file path _ => .file path
  | failed path cause => .failed path cause

/-- The reading of a file, and its hashing. -/
def readingSteps (path : Path) : Except Cause Bytes → List Happening
  | .ok content =>
    let f := HashedFile.of path content
    let size := Decimal.text f.size
    [.note ⟨.trace, .hashing,
        utf8 "Hashed " ++ path.display ++ utf8 " (" ++ size ++ utf8 " bytes): " ++ f.digest.hex⟩,
      .note ⟨.debug, .finding,
        utf8 "Hashed " ++ path.display ++ utf8 " (" ++ size ++ utf8 " bytes)"⟩,
      .call (.hashed f)]
  | .error cause =>
    let e : ReadError := ⟨path, cause⟩
    [.note ⟨.warn, .finding,
        utf8 "Failed to read " ++ path.display ++ utf8 ": " ++ e.message⟩,
      .call (.readError e)]

end Visit

end TwinFiles
