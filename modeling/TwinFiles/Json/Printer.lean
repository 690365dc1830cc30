import TwinFiles.Json.Basic
import TwinFiles.Text.Decimal
import TwinFiles.Text.Hex

/-!
# JSON text

`compact` writes a value on one line; `pretty` gives each item and each field a line of its own,
indented by two spaces for each level. The two differ in the blanks between tokens alone, so one
printer serves both. A string escapes the quote, the backslash and the control characters below
U+0020, and nothing else.
-/

namespace TwinFiles.Json

/-- The blanks between tokens. -/
structure Layout where
  /-- What stands before an item or a closing bracket at a level. -/
  gap : Nat → Bytes
  /-- What stands between a name and its value. -/
  colon : Bytes

namespace Layout

/-- No blanks at all. -/
def compact : Layout where
  gap := fun _ => []
  colon := utf8 ":"

/-- A new line for each item, two spaces for each level. -/
def pretty : Layout where
  gap := fun level => Ascii.newline :: List.replicate (2 * level) Ascii.space
  colon := utf8 ": "

end Layout

/-- A character of a string, escaped if need be. -/
def escaped (b : UInt8) : Bytes :=
  if b = 0x22 then utf8 "\\\""
  else if b = 0x5C then utf8 "\\\\"
  else if b = 0x08 then utf8 "\\b"
  else if b = 0x09 then utf8 "\\t"
  else if b = 0x0A then utf8 "\\n"
  else if b = 0x0C then utf8 "\\f"
  else if b = 0x0D then utf8 "\\r"
  else if b < 0x20 then utf8 "\\u" ++ Hex.encode [0x00, b]
  else [b]

/-- A string between quotes. -/
def quoted (s : Bytes) : Bytes :=
  Ascii.quote :: s.flatMap escaped ++ [Ascii.quote]

/-- A number: its digits, and an exponent unless that is zero. -/
def numeral (digits exponent : Int) : Bytes :=
  if exponent = 0 then Decimal.signed digits
  else Decimal.signed digits ++ utf8 "e" ++ Decimal.signed exponent

mutual

/-- The text of a value at a level of nesting. -/
def render (layout : Layout) (level : Nat) : Json → Bytes
  | .null => utf8 "null"
  | .bool true => utf8 "true"
  | .bool false => utf8 "false"
  | .number digits exponent => numeral digits exponent
  | .string text => quoted text
  | .array [] => utf8 "[]"
  | .array (item :: items) =>
    utf8 "[" ++ layout.gap (level + 1) ++ render layout (level + 1) item ++
      renderItems layout (level + 1) items ++ layout.gap level ++ utf8 "]"
  | .object [] => utf8 "\x7b\x7d"
  | .object ((name, value) :: fields) =>
    utf8 "\x7b" ++ layout.gap (level + 1) ++ quoted name ++ layout.colon ++
      render layout (level + 1) value ++ renderFields layout (level + 1) fields ++
      layout.gap level ++ utf8 "\x7d"

/-- The items after the first one. -/
def renderItems (layout : Layout) (level : Nat) : List Json → Bytes
  | [] => []
  | item :: items =>
    utf8 "," ++ layout.gap level ++ render layout level item ++ renderItems layout level items

/-- The fields after the first one. -/
def renderFields (layout : Layout) (level : Nat) : List (Bytes × Json) → Bytes
  | [] => []
  | (name, value) :: fields =>
    utf8 "," ++ layout.gap level ++ quoted name ++ layout.colon ++ render layout level value ++
      renderFields layout level fields

end

/-- A value on one line. -/
def compact (value : Json) : Bytes :=
  render .compact 0 value

/-- A value with a line for each item and field. -/
def pretty (value : Json) : Bytes :=
  render .pretty 0 value

end TwinFiles.Json
