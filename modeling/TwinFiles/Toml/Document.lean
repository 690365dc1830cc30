import TwinFiles.Toml.Scalar
import TwinFiles.Toml.Section

/-!
# TOML documents

A document is read as a list of statements, each on a line of its own: a key with its value, the
header of a table, or the header of the next table of a list. `assemble` puts the tables together,
and `parse?` does both.
-/

namespace TwinFiles.Toml

/-- A line of a document that says something. -/
inductive Statement where
  | pair (key : List Bytes) (value : Value)
  | header (key : List Bytes)
  | itemHeader (key : List Bytes)

/-! ## Reading -/

/-- The value of an inline table: its keys follow the rules of dotted keys in a table. -/
def inlineTable? (pairs : List (List Bytes × Value)) : Option Value :=
  let root := pairs.foldlM (fun s (key, value) => s.insert key value) Section.fresh
  root.map fun s => s.node.toValue

mutual

/-- A value at a depth of nesting. The fuel bounds the number of items and levels. -/
def readValue : Nat → Nat → Bytes → Option (Value × Bytes)
  | 0, _, _ => none
  | fuel + 1, depth, s =>
    match s with
    | [] => none
    | b :: rest =>
      if b = 0x22 ∨ b = 0x27 then
        (readString s).map fun (text, rest) => (.string text, rest)
      else if b = 0x5B then
        if maxDepth ≤ depth + 1 then none
        else (readItems fuel (depth + 1) rest).map fun (items, rest) => (.array items, rest)
      else if b = 0x7B then
        if maxDepth ≤ depth + 1 then none
        else
          match skipBlanks rest with
          | 0x7D :: rest => some (.table [], rest)
          | rest => do
            let (pairs, rest) ← readPairs fuel (depth + 1) rest
            let table ← inlineTable? pairs
            return (table, rest)
      else if b = 0x74 then (afterWord? (utf8 "true") s).map fun rest => (.bool true, rest)
      else if b = 0x66 then (afterWord? (utf8 "false") s).map fun rest => (.bool false, rest)
      else readNumber s

/-- Items up to the closing bracket. Items may stand on several lines, and a comma may follow the
last one. -/
def readItems : Nat → Nat → Bytes → Option (List Value × Bytes)
  | 0, _, _ => none
  | fuel + 1, depth, s =>
    match skipLines s.length s with
    | 0x5D :: rest => some ([], rest)
    | s => do
      let (item, rest) ← readValue fuel depth s
      match skipLines rest.length rest with
      | 0x2C :: rest =>
        let (items, rest) ← readItems fuel depth rest
        return (item :: items, rest)
      | 0x5D :: rest => return ([item], rest)
      | _ => none

/-- Keys with values up to the closing brace, on one line. -/
def readPairs : Nat → Nat → Bytes → Option (List (List Bytes × Value) × Bytes)
  | 0, _, _ => none
  | fuel + 1, depth, s => do
    let (key, rest) ← readKey s
    let rest ← after? 0x3D rest
    let (value, rest) ← readValue fuel depth (skipBlanks rest)
    match skipBlanks rest with
    | 0x2C :: rest =>
      let (pairs, rest) ← readPairs fuel depth rest
      return ((key, value) :: pairs, rest)
    | 0x7D :: rest => return ([(key, value)], rest)
    | _ => none

end

/-- A statement, and what follows on its line. -/
def readStatement (s : Bytes) : Option (Statement × Bytes) :=
  match s with
  | 0x5B :: 0x5B :: rest => do
    let (key, rest) ← readKey rest
    let rest ← after? 0x5D rest
    let rest ← after? 0x5D rest
    return (.itemHeader key, rest)
  | 0x5B :: rest => do
    let (key, rest) ← readKey rest
    let rest ← after? 0x5D rest
    return (.header key, rest)
  | s => do
    let (key, rest) ← readKey s
    let rest ← after? 0x3D rest
    let (value, rest) ← readValue (2 * rest.length + 2) 0 (skipBlanks rest)
    return (.pair key value, rest)

/-- The statements of a document, line by line. -/
def readStatements : Nat → Bytes → Option (List Statement)
  | 0, _ => none
  | fuel + 1, s =>
    match skipBlanks s with
    | [] => some []
    | s =>
      match afterNewline? (skipComment s) with
      | some rest => readStatements fuel rest
      | none =>
        -- a comment may end the document without a newline
        if (skipComment s).isEmpty then some []
        else do
          let (statement, rest) ← readStatement s
          let rest ← afterLine? rest
          let statements ← readStatements fuel rest
          return statement :: statements

/-! ## Assembly -/

/-- The table that the current lines belong to. -/
inductive Place where
  | top
  | table (path : List Bytes)
  | item (path : List Bytes)

/-- The tables that are done, and the one that is being filled, which is not among them. -/
structure Assembly where
  root : Section
  current : Section
  place : Place

namespace Assembly

def start : Assembly :=
  ⟨.fresh, .fresh, .top⟩

/-- Puts the current table where it belongs: it may take the place of one that only lies on the way
to others. -/
def finish (a : Assembly) : Option Section :=
  match a.place with
  | .top => some a.current
  | .table path =>
    match path.getLast? with
    | none => none
    | some key =>
      Section.update false
        (fun parent =>
          match parent.get? key with
          | none => some (parent.put key a.current.node)
          -- a header below this one has made it meanwhile
          | some (.section true _ _) => some (parent.put key a.current.node)
          | some _ => none)
        path.dropLast a.root
  | .item path =>
    match path.getLast? with
    | none => none
    | some key =>
      Section.update false
        (fun parent =>
          match parent.get? key with
          | none => some (parent.put key (.sections [a.current.entries]))
          | some (.sections items) =>
            some (parent.put key (.sections (items ++ [a.current.entries])))
          | some _ => none)
        path.dropLast a.root

/-- What a header finds at its key: nothing, or a table that only lies on the way to others, whose
content it goes on with. -/
def openable? (key : Bytes) (parent : Section) : Option Section :=
  match parent.get? key with
  | none => some .fresh
  | some (.section true false entries) => some ⟨false, false, entries⟩
  | some _ => none

/-- The section at the end of a path, if all of the path is there. -/
def sectionAt? : List Bytes → Section → Option Section
  | [], s => some s
  | key :: path, s =>
    match s.get? key with
    | some (.section implicit dotted entries) => sectionAt? path ⟨implicit, dotted, entries⟩
    | some (.sections items) =>
      match items.getLast? with
      | some last => sectionAt? path ⟨false, false, last⟩
      | none => none
    | _ => none

/-- Starts the table of a header. -/
def openTable (root : Section) (path : List Bytes) : Option Assembly :=
  match path.getLast? with
  | none => none
  | some key => do
    let root ← Section.update false some path.dropLast root
    let parent ← sectionAt? path.dropLast root
    let current ← openable? key parent
    -- the table leaves the root while it is filled
    let root ← Section.update false (fun p => some (p.erase key)) path.dropLast root
    return ⟨root, current, .table path⟩

/-- Starts the next table of a list. -/
def openItem (root : Section) (path : List Bytes) : Option Assembly :=
  match path.getLast? with
  | none => none
  | some key => do
    let root ← Section.update false
      (fun parent =>
        match parent.get? key with
        | none => some parent
        | some (.sections _) => some parent
        | some _ => none)
      path.dropLast root
    return ⟨root, .fresh, .item path⟩

/-- Takes a statement. -/
def take (a : Assembly) : Statement → Option Assembly
  | .pair key value => do
    let current ← a.current.insert key value
    return { a with current := current }
  | .header path => do
    let root ← a.finish
    openTable root path
  | .itemHeader path => do
    let root ← a.finish
    openItem root path

end Assembly

/-- The fields of the document that statements make up. -/
def assemble (statements : List Statement) : Option (List (Bytes × Value)) := do
  let a ← statements.foldlM Assembly.take .start
  let root ← a.finish
  return entryValues root.entries

/-- A byte order mark at the front is no part of the document. -/
def skipMark : Bytes → Bytes
  | 0xEF :: 0xBB :: 0xBF :: rest => rest
  | s => s

/-- The fields of a document, which is UTF-8 text. -/
def parse? (s : Bytes) : Option (List (Bytes × Value)) :=
  if Utf8.valid s then do
    let statements ← readStatements (s.length + 1) (skipMark s)
    assemble statements
  else none

end TwinFiles.Toml
