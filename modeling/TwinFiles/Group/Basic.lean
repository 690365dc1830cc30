import TwinFiles.Digest.Basic
import TwinFiles.Json.Printer
import TwinFiles.Path

/-!
# Groups of files with one content

A `HashedFile` is a file whose content has been read; a `Group` lists the paths that share a
digest. Their JSON form holds paths as they are, so it exists only when every path is UTF-8 text.
-/

namespace TwinFiles

/-- A file whose content has been read and hashed. -/
structure HashedFile where
  path : Path
  size : Nat
  digest : Digest
  deriving DecidableEq

/-- Paths of files that share a digest. -/
structure Group where
  digest : Digest
  size : Nat
  paths : List Path
  deriving DecidableEq

namespace Group

/-- The copies beyond the first. -/
def duplicateCount (g : Group) : Nat :=
  g.paths.length - 1

/-- The bytes that keeping a single copy frees. -/
def wastedSpace (g : Group) : Nat :=
  g.size * g.duplicateCount

/-- One of the paths is the same as this one. -/
def contains (g : Group) (p : Path) : Bool :=
  g.paths.any (Path.same · p)

end Group

/-! ## JSON forms that keep paths exactly -/

/-- A path as JSON text, if it is UTF-8. -/
def Path.json? (p : Path) : Option Json :=
  if Utf8.valid p then some (.string p) else none

/-- Why a path has no JSON form. -/
def Path.notTextMessage : Bytes :=
  utf8 "path contains invalid UTF-8 characters"

/-- A hashed file as JSON, if its path is UTF-8. -/
def HashedFile.json? (f : HashedFile) : Option Json := do
  let path ← f.path.json?
  return .object
    [(utf8 "path", path), (utf8 "size", .nat f.size), (utf8 "hash", .string f.digest.hex)]

/-- A group as JSON, if all its paths are UTF-8. -/
def Group.json? (g : Group) : Option Json := do
  let paths ← g.paths.mapM Path.json?
  return .object
    [(utf8 "hash", .string g.digest.hex), (utf8 "size", .nat g.size), (utf8 "paths", .array paths)]

end TwinFiles
