import TwinFiles.Group.Basic

/-!
# Buckets by digest

Hashed files are put into buckets, one for each digest, in the order in which the digests come up.
An index leads from a digest to the slot of its bucket. Beside it stands plain grouping of a list
of files: the digests in order of first appearance, each with the paths of its files.
-/

namespace TwinFiles

/-- Buckets in order of first insertion, and the slot of each digest. A bucket is a group in the
making: it may hold a single path. -/
structure Buckets where
  index : List (Digest × Nat)
  slots : List Group

namespace Buckets

def empty : Buckets :=
  ⟨[], []⟩

/-- Puts a file into the bucket of its digest, a new one if there is none. -/
def insert (b : Buckets) (f : HashedFile) : Buckets :=
  match b.index.lookup f.digest with
  | some slot =>
    { b with slots := b.slots.modify slot fun g => { g with paths := g.paths ++ [f.path] } }
  | none =>
    { index := (f.digest, b.slots.length) :: b.index
      slots := b.slots ++ [⟨f.digest, f.size, [f.path]⟩] }

/-- The buckets of a list of files. -/
def ofFiles (files : List HashedFile) : Buckets :=
  files.foldl insert empty

/-- The number of different digests. -/
def size (b : Buckets) : Nat :=
  b.slots.length

def isEmpty (b : Buckets) : Bool :=
  b.slots.isEmpty

/-- The buckets with two or more paths. -/
def groups (b : Buckets) : List Group :=
  b.slots.filter fun g => 1 < g.paths.length

/-- The paths whose digest no other path has. -/
def uniquePaths (b : Buckets) : List Path :=
  (b.slots.filter fun g => ¬ 1 < g.paths.length).filterMap fun g => g.paths.head?

end Buckets

/-! ## Plain grouping -/

namespace Grouping

/-- The different digests of a list of files, in order of first appearance. -/
def digests (files : List HashedFile) : List Digest :=
  (files.map HashedFile.digest).eraseDups

/-- The files with a digest. -/
def members (files : List HashedFile) (d : Digest) : List HashedFile :=
  files.filter fun f => f.digest = d

/-- The group of a digest: the size is that of its first file. -/
def group (files : List HashedFile) (d : Digest) : Group :=
  let ms := members files d
  ⟨d, (ms.head?.map HashedFile.size).getD 0, ms.map HashedFile.path⟩

/-- The groups of the digests that two or more files have. -/
def groups (files : List HashedFile) : List Group :=
  ((digests files).map (group files)).filter fun g => 1 < g.paths.length

end Grouping

end TwinFiles
