import TwinFiles.Bytes

/-!
# Reading comma-separated text

A carriage return, a newline or both end a record, and empty lines hold none. Between quotes every
character stands for itself, but for a doubled quote, which is one. A quote that is not closed, that
stands inside a plain field or that is followed by more of its field makes the text unreadable.
-/

namespace TwinFiles.Csv

/-- Where the reader stands. -/
inductive Place where
  | recordStart
  | fieldStart
  | plain
  | quoted
  | closed
  deriving DecidableEq, Repr

def endsRecord (b : UInt8) : Bool :=
  b == Ascii.carriageReturn || b == Ascii.newline

/-- The records of a text from a place on. `fields` are the finished fields of the record at that
place and `field` is what its unfinished field holds. -/
def readFrom : Place → List Bytes → Bytes → Bytes → Option (List (List Bytes))
  | .recordStart, _, _, [] => some []
  | .quoted, _, _, [] => none
  | _, fields, field, [] => some [fields ++ [field]]
  | .quoted, fields, field, b :: rest =>
    if b = Ascii.quote then readFrom .closed fields field rest
    else readFrom .quoted fields (field ++ [b]) rest
  | place, fields, field, b :: rest =>
    if b = Ascii.quote then
      match place with
      | .recordStart => readFrom .quoted [] [] rest
      | .fieldStart => readFrom .quoted fields [] rest
      | .closed => readFrom .quoted fields (field ++ [Ascii.quote]) rest
      | _ => none
    else if b = Ascii.comma then
      match place with
      | .recordStart => readFrom .fieldStart [[]] [] rest
      | _ => readFrom .fieldStart (fields ++ [field]) [] rest
    else if endsRecord b then
      match place with
      | .recordStart => readFrom .recordStart [] [] rest
      | _ => (readFrom .recordStart [] [] rest).map ((fields ++ [field]) :: ·)
    else
      match place with
      | .closed => none
      | .recordStart => readFrom .plain [] [b] rest
      | _ => readFrom .plain fields (field ++ [b]) rest

/-- The records of a text. -/
def parse? (s : Bytes) : Option (List (List Bytes)) :=
  readFrom .recordStart [] [] s

end TwinFiles.Csv
