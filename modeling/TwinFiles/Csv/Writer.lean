import TwinFiles.Bytes

/-!
# Comma-separated text

A field is put between quotes when it holds a comma, a quote or a character that ends a record;
quotes inside it are doubled. A record ends with a newline. The text is made of units that are
never torn apart, a doubled quote being one of them, so that `pack` can fill buffers with whole
units.
-/

namespace TwinFiles.Csv

/-- The characters that a plain field cannot hold. -/
def isSpecial (b : UInt8) : Bool :=
  b == Ascii.comma || b == Ascii.quote || b == Ascii.carriageReturn || b == Ascii.newline

/-- A character between quotes. -/
def quotedUnit (b : UInt8) : Bytes :=
  if b = Ascii.quote then [Ascii.quote, Ascii.quote] else [b]

/-- The units of a field. -/
def fieldUnits (field : Bytes) : List Bytes :=
  if field.any isSpecial then
    [Ascii.quote] :: field.map quotedUnit ++ [[Ascii.quote]]
  else field.map fun b => [b]

/-- The units of fields with commas between them. -/
def fieldsUnits : List Bytes → List Bytes
  | [] => []
  | [field] => fieldUnits field
  | field :: next :: fields => fieldUnits field ++ [Ascii.comma] :: fieldsUnits (next :: fields)

/-- The units of a record. A record of one empty field is written with quotes, as it would
otherwise be an empty line. -/
def recordUnits (fields : List Bytes) : List Bytes :=
  (if fields = [[]] then [[Ascii.quote], [Ascii.quote]] else fieldsUnits fields) ++
    [[Ascii.newline]]

/-- The text of a record. -/
def record (fields : List Bytes) : Bytes :=
  (recordUnits fields).flatten

/-- The text of a list of records. -/
def document (records : List (List Bytes)) : Bytes :=
  records.flatMap record

/-- A unit in front of the buffer that is being filled. -/
def putFirst (unit : Bytes) : List Bytes → List Bytes
  | [] => [unit]
  | buffer :: buffers => (unit ++ buffer) :: buffers

/-- Units in buffers of a capacity, of which `room` is left in the first one. A buffer is passed on
when the next unit does not fit, and the last one is not passed on. -/
def pack (capacity : Nat) : Nat → List Bytes → List Bytes
  | _, [] => [[]]
  | room, unit :: units =>
    if unit.length ≤ room then putFirst unit (pack capacity (room - unit.length) units)
    else [] :: putFirst unit (pack capacity (capacity - unit.length) units)

/-! ## Laws -/

theorem flatten_putFirst (unit : Bytes) (buffers : List Bytes) :
    (putFirst unit buffers).flatten = unit ++ buffers.flatten := by
  cases buffers <;> simp [putFirst]

/-- Buffering changes how a text is cut, not the text. -/
theorem flatten_pack (capacity room : Nat) (units : List Bytes) :
    (pack capacity room units).flatten = units.flatten := by
  induction units generalizing room with
  | nil => rfl
  | cons unit units ih =>
    rw [pack]
    split <;> simp [flatten_putFirst, ih]

end TwinFiles.Csv
