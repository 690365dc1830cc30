import TwinFiles.Text.Utf8

/-!
# Paths

A path is the byte string that was given, never normalised. Its components decide when two paths
are held to be the same and which part is the file name; its absolute form is made for display
alone, without a look at any file.
-/

namespace TwinFiles

/-- A path, as given. -/
abbrev Path := Bytes

/-- A part of a path. -/
inductive Component where
  | root
  | here
  | parent
  | name (bytes : Bytes)
  deriving DecidableEq, Repr

namespace Component

/-- The spelling of a component. -/
def bytes : Component → Bytes
  | root => [Ascii.slash]
  | here => [Ascii.dot]
  | parent => [Ascii.dot, Ascii.dot]
  | name bs => bs

end Component

namespace Path

/-- Text of a path for messages and reports. -/
def display (p : Path) : Bytes :=
  Utf8.lossy p

/-- The path starts at the root. -/
def isAbsolute (p : Path) : Bool :=
  p.head? == some Ascii.slash

/-- The components of the parts between slashes: empty parts and `.` stand for nothing. -/
def componentsOf : List Bytes → List Component
  | [] => []
  | part :: parts =>
    if part = [] ∨ part = [Ascii.dot] then componentsOf parts
    else if part = [Ascii.dot, Ascii.dot] then .parent :: componentsOf parts
    else .name part :: componentsOf parts

/-- The components of a path. A leading slash is the root; a leading `.` of a relative path counts,
any other `.` and repeated or trailing slashes do not. -/
def components (p : Path) : List Component :=
  match Bytes.splitOn Ascii.slash p with
  | [] => []
  | first :: parts =>
    if isAbsolute p then .root :: componentsOf parts
    else if first = [Ascii.dot] then .here :: componentsOf parts
    else componentsOf (first :: parts)

/-- Two spellings of one path: equal components. -/
def same (p q : Path) : Bool :=
  components p == components q

/-- The last component, if it is a name. -/
def fileName? (p : Path) : Option Bytes :=
  match (components p).getLast? with
  | some (.name bs) => some bs
  | _ => none

/-- The names among the components. -/
def names (p : Path) : List Bytes :=
  (components p).filterMap fun
    | .name bs => some bs
    | _ => none

/-- The part of a path up to its last slash. -/
def folderPart (p : Path) : Path :=
  (p.reverse.dropWhile (· != Ascii.slash)).reverse

/-- Ends with a slash, or is empty: a name can be put right behind it. -/
def isOpen (p : Path) : Bool :=
  p.getLast?.all (· == Ascii.slash)

/-- A path and one more part, with a slash between unless one is there. -/
def join (p : Path) (part : Bytes) : Path :=
  if isOpen p then p ++ part else p ++ Ascii.slash :: part

/-- A path with components put behind it. The root starts anew. -/
def extend (p : Path) : List Component → Path
  | [] => p
  | .root :: rest => extend [Ascii.slash] rest
  | c :: rest => extend (join p c.bytes) rest

/-- Exactly two slashes at the front, which are kept. -/
def hasDoubleRoot : Path → Bool
  | Ascii.slash :: Ascii.slash :: Ascii.slash :: _ => false
  | Ascii.slash :: Ascii.slash :: _ => true
  | _ => false

/-- The absolute form of a path seen from the folder `home`: `.` and repeated slashes go, `..`
stays, and so does a trailing slash. The empty path has none. -/
def absolute? (home : Path) (p : Path) : Option Path :=
  if p.isEmpty then none
  else
    let body :=
      if hasDoubleRoot p then extend [Ascii.slash, Ascii.slash] (components p).tail
      else if isAbsolute p then extend [] (components p)
      -- a leading `.` is the working folder itself
      else extend home ((components p).dropWhile (· == .here))
    some (if p.getLast? == some Ascii.slash then join body [] else body)

/-- Text of the absolute form; a path without one is shown as given. -/
def displayAbsolute (home : Path) (p : Path) : Bytes :=
  display ((absolute? home p).getD p)

/-- The way to a target from a base folder, both given by components: up from what is left of the
base once their common start is gone, then down. -/
def way : List Component → List Component → List Component
  | b :: base, t :: target =>
    if b = t then way base target
    else (b :: base).map (fun _ => .parent) ++ t :: target
  | base, target => base.map (fun _ => .parent) ++ target

end Path

end TwinFiles
