import TwinFiles.Json.Basic
import TwinFiles.Text.Hex
import TwinFiles.Text.Utf8

/-!
# Reading JSON

The grammar of RFC 8259: blanks may stand between tokens, control characters have to be escaped,
surrogates come in pairs, and texts are UTF-8. `parse?` accepts one value with nothing but blanks
around it.
-/

namespace TwinFiles.Json

/-- Space, tab, newline and carriage return. -/
def isBlank (b : UInt8) : Bool :=
  b == 0x20 || b == 0x09 || b == 0x0A || b == 0x0D

def skipBlanks (s : Bytes) : Bytes :=
  s.dropWhile isBlank

/-- The value of four hexadecimal digits. -/
def hexUnit? (a b c d : UInt8) : Option Nat :=
  Hex.number? [a.toNat, b.toNat, c.toNat, d.toNat]

/-- The character that a letter after a backslash stands for. -/
def unescaped? (b : UInt8) : Option UInt8 :=
  if b = 0x22 ∨ b = 0x5C ∨ b = 0x2F then some b
  else if b = 0x62 then some 0x08
  else if b = 0x66 then some 0x0C
  else if b = 0x6E then some 0x0A
  else if b = 0x72 then some 0x0D
  else if b = 0x74 then some 0x09
  else none

/-- The rest of a string behind its opening quote: the text, and what follows the closing quote. -/
def readString : Bytes → Option (Bytes × Bytes)
  | [] => none
  | 0x5C :: 0x75 :: a :: b :: c :: d :: rest =>
    match hexUnit? a b c d with
    | none => none
    | some unit =>
      if unit < 0xD800 ∨ 0xE000 ≤ unit then
        (readString rest).map fun (text, after) =>
          (Utf8.encode (Char.ofNat unit) ++ text, after)
      else if unit < 0xDC00 then
        match rest with
        | 0x5C :: 0x75 :: e :: f :: g :: h :: rest' =>
          match hexUnit? e f g h with
          | none => none
          | some low =>
            if 0xDC00 ≤ low ∧ low < 0xE000 then
              let code := 0x10000 + (unit - 0xD800) * 0x400 + (low - 0xDC00)
              (readString rest').map fun (text, after) =>
                (Utf8.encode (Char.ofNat code) ++ text, after)
            else none
        | _ => none
      else none
  | 0x5C :: b :: rest =>
    match unescaped? b with
    | none => none
    | some c => (readString rest).map fun (text, after) => (c :: text, after)
  | b :: rest =>
    if b = 0x22 then some ([], rest)
    else if b = 0x5C ∨ b < 0x20 then none
    else (readString rest).map fun (text, after) => (b :: text, after)

/-- A string whose text is UTF-8. -/
def readText (s : Bytes) : Option (Bytes × Bytes) :=
  match readString s with
  | some (text, rest) => if Utf8.valid text then some (text, rest) else none
  | none => none

/-- The value of digits. -/
def digitsValue (digits : Bytes) : Nat :=
  digits.foldl (fun n b => n * 10 + (b.toNat - 0x30)) 0

/-- The digits at the front and what follows them. -/
def spanDigits (s : Bytes) : Bytes × Bytes :=
  (s.takeWhile Ascii.isDigit, s.dropWhile Ascii.isDigit)

/-- The fraction digits of a number, if there are any. -/
def readFraction : Bytes → Option (Bytes × Bytes)
  | 0x2E :: rest =>
    match spanDigits rest with
    | ([], _) => none
    | (digits, after) => some (digits, after)
  | s => some ([], s)

/-- A sign and digits behind the exponent mark. -/
def readSigned (negative : Bool) (s : Bytes) : Option (Int × Bytes) :=
  match spanDigits s with
  | ([], _) => none
  | (digits, after) =>
    some (if negative then -(digitsValue digits : Int) else digitsValue digits, after)

/-- The exponent of a number; zero if there is none. -/
def readExponent : Bytes → Option (Int × Bytes)
  | b :: rest =>
    if b = 0x65 ∨ b = 0x45 then
      match rest with
      | 0x2B :: digits => readSigned false digits
      | 0x2D :: digits => readSigned true digits
      | digits => readSigned false digits
    else some (0, b :: rest)
  | [] => some (0, [])

/-- A number without its sign: no zero stands before other digits. -/
def readUnsigned (negative : Bool) (s : Bytes) : Option (Json × Bytes) :=
  match spanDigits s with
  | ([], _) => none
  | (whole, rest) =>
    if whole.length > 1 ∧ whole.head? = some 0x30 then none
    else
      match readFraction rest with
      | none => none
      | some (fraction, rest) =>
        match readExponent rest with
        | none => none
        | some (exponent, rest) =>
          let n : Int := digitsValue (whole ++ fraction)
          some (.number (if negative then -n else n) (exponent - fraction.length), rest)

/-- A number. -/
def readNumber : Bytes → Option (Json × Bytes)
  | 0x2D :: rest => readUnsigned true rest
  | s => readUnsigned false s

/-- What follows a word at the front. -/
def afterWord (word s : Bytes) : Option Bytes :=
  if word.isPrefixOf s then some (s.drop word.length) else none

mutual

/-- A value at the front of a text, behind blanks. The fuel bounds the nesting and the number of
items together. -/
def readValue : Nat → Bytes → Option (Json × Bytes)
  | 0, _ => none
  | fuel + 1, s =>
    match skipBlanks s with
    | 0x22 :: rest => (readText rest).map fun (text, after) => (.string text, after)
    | 0x5B :: rest =>
      match skipBlanks rest with
      | 0x5D :: after => some (.array [], after)
      | items => (readItems fuel items).map fun (values, after) => (.array values, after)
    | 0x7B :: rest =>
      match skipBlanks rest with
      | 0x7D :: after => some (.object [], after)
      | fields => (readFields fuel fields).map fun (values, after) => (.object values, after)
    | 0x6E :: rest => (afterWord (utf8 "ull") rest).map fun after => (.null, after)
    | 0x74 :: rest => (afterWord (utf8 "rue") rest).map fun after => (.bool true, after)
    | 0x66 :: rest => (afterWord (utf8 "alse") rest).map fun after => (.bool false, after)
    | s => readNumber s

/-- One or more items up to the closing bracket. -/
def readItems : Nat → Bytes → Option (List Json × Bytes)
  | 0, _ => none
  | fuel + 1, s =>
    match readValue fuel s with
    | none => none
    | some (value, rest) =>
      match skipBlanks rest with
      | 0x2C :: rest => (readItems fuel rest).map fun (values, after) => (value :: values, after)
      | 0x5D :: after => some ([value], after)
      | _ => none

/-- One or more fields up to the closing brace. -/
def readFields : Nat → Bytes → Option (List (Bytes × Json) × Bytes)
  | 0, _ => none
  | fuel + 1, s =>
    match skipBlanks s with
    | 0x22 :: rest =>
      match readText rest with
      | none => none
      | some (name, rest) =>
        match skipBlanks rest with
        | 0x3A :: rest =>
          match readValue fuel rest with
          | none => none
          | some (value, rest) =>
            match skipBlanks rest with
            | 0x2C :: rest =>
              (readFields fuel rest).map fun (fields, after) => ((name, value) :: fields, after)
            | 0x7D :: after => some ([(name, value)], after)
            | _ => none
        | _ => none
    | _ => none

end

/-- The value that a document holds. Every token takes at least one byte, so the length of the
document is fuel enough. -/
def parse? (s : Bytes) : Option Json :=
  match readValue (2 * s.length + 2) s with
  | some (value, rest) => if (skipBlanks rest).isEmpty then some value else none
  | none => none

end TwinFiles.Json
