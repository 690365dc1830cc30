import TwinFiles.Toml.Value

/-!
# Tables under construction

A document builds its tables line by line. A section remembers how it came about, because a table
is defined once: one that only lies on the way to another may still be defined by a header, and one
that dotted keys made may get more dotted keys.
-/

namespace TwinFiles.Toml

/-- What a key of a section holds: a value, a section of its own, or a list of sections. -/
inductive Node where
  | value (v : Value)
  | section (implicit dotted : Bool) (entries : List (Bytes × Node))
  | sections (items : List (List (Bytes × Node)))

/-- A table under construction. -/
structure Section where
  /-- It lies on the way to another table and has not been defined itself. -/
  implicit : Bool
  /-- Dotted keys made it. -/
  dotted : Bool
  entries : List (Bytes × Node)

namespace Section

/-- A table that is defined here. -/
def fresh : Section :=
  ⟨false, false, []⟩

def node (s : Section) : Node :=
  .section s.implicit s.dotted s.entries

def get? (s : Section) (key : Bytes) : Option Node :=
  s.entries.lookup key

def erase (s : Section) (key : Bytes) : Section :=
  { s with entries := s.entries.filter fun entry => entry.1 ≠ key }

/-- Puts something at a key in the place of what is there. -/
def put (s : Section) (key : Bytes) (node : Node) : Section :=
  { s with entries := s.entries.filter (fun entry => entry.1 ≠ key) ++ [(key, node)] }

/-- Changes the section at the end of a path. Missing sections on the way are made; of a list of
sections the last one is meant. A path of dotted keys cannot go through a table that has been
defined, and no path goes through a value. -/
def update (dotted : Bool) (change : Section → Option Section) :
    List Bytes → Section → Option Section
  | [], s => change s
  | key :: path, s =>
    match s.get? key with
    | none => do
      let child ← update dotted change path ⟨true, dotted, []⟩
      return s.put key child.node
    | some (.value _) => none
    | some (.section implicit isDotted entries) =>
      if dotted && !implicit then none
      else do
        let child ← update dotted change path ⟨implicit, isDotted, entries⟩
        return s.put key child.node
    | some (.sections items) =>
      match items.getLast? with
      | none => none
      | some last => do
        let child ← update dotted change path ⟨false, false, last⟩
        return s.put key (.sections (items.dropLast ++ [child.entries]))

/-- Puts a value at a dotted key. The key is new, and its table is one that dotted keys made unless
the key has one part. -/
def insert (path : List Bytes) (value : Value) (s : Section) : Option Section :=
  match path.getLast? with
  | none => none
  | some key =>
    update true
      (fun table =>
        -- a key of one part goes into the table itself, which no dotted key made
        if table.dotted == path.dropLast.isEmpty then none
        else if (table.get? key).isSome then none
        else some (table.put key (.value value)))
      path.dropLast s

end Section

/-! ## Finished values -/

mutual

/-- A node as a value. -/
def Node.toValue : Node → Value
  | .value v => v
  | .section _ _ entries => .table (entryValues entries)
  | .sections items => .array (itemValues items)

def entryValues : List (Bytes × Node) → List (Bytes × Value)
  | [] => []
  | (key, node) :: entries => (key, node.toValue) :: entryValues entries

def itemValues : List (List (Bytes × Node)) → List Value
  | [] => []
  | entries :: items => .table (entryValues entries) :: itemValues items

end

end TwinFiles.Toml
