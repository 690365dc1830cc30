import TwinFiles.Settings.Layer
import TwinFiles.Text.Blank

/-!
# Values of environment variables

The value of a variable has a type. `true`, `false`, quoted texts, quoted characters, lists in
brackets and tables in braces are read as what they look like; anything else is a number if it looks
like one, and text if not. What cannot be read to its end is text as a whole. One kind of quoted text
cannot be read at all: where the cut in front of its first escape falls inside a character, the
reading breaks off.
-/

namespace TwinFiles.EnvironmentValue

/-- Space, tab, newline, form feed and carriage return. -/
def isBlank (c : Char) : Bool :=
  c == ' ' || c == '\t' || c == '\n' || c == '\x0c' || c == '\r'

def skipBlanks (s : List Char) : List Char :=
  s.dropWhile isBlank

/-- A character that ends a bare value. -/
def isSeparator (c : Char) : Bool :=
  c == ',' || c == '\x7b' || c == '\x7d' || c == '[' || c == ']'

/-- A character of a bare key. -/
def isKeyChar (c : Char) : Bool :=
  c.isAlphanum || c == '_' || c == '-'

/-! ## Numbers -/

/-- The number that decimal digits stand for. -/
def digits? (s : List Char) : Option Nat :=
  if s.isEmpty || !s.all Char.isDigit then none
  else some (s.foldl (fun n c => n * 10 + (c.toNat - 48)) 0)

/-- A natural number of 64 bits; a plus sign may stand before it. -/
def unsigned? (s : List Char) : Option Nat :=
  let body := match s with
    | '+' :: rest => rest
    | s => s
  (digits? body).filter Decimal.fitsUnsigned

/-- An integer of 64 bits. -/
def signed? (s : List Char) : Option Int :=
  let n? : Option Int := match s with
    | '-' :: rest => (digits? rest).map fun n => -(n : Int)
    | '+' :: rest => (digits? rest).map fun n => (n : Int)
    | s => (digits? s).map fun n => (n : Int)
  n?.filter Decimal.fitsSigned

/-- The exponent of a number, behind its digits. -/
def exponent? : List Char → Option Int
  | [] => some 0
  | c :: rest =>
    if c == 'e' || c == 'E' then
      match rest with
      | '-' :: ds => (digits? ds).map fun n => -(n : Int)
      | '+' :: ds => (digits? ds).map fun n => (n : Int)
      | ds => (digits? ds).map fun n => (n : Int)
    else none

/-- A number with a point, which has a digit on at least one side of it. -/
def float? (s : List Char) : Option Binary64 :=
  let (negative, s) := match s with
    | '-' :: rest => (true, rest)
    | '+' :: rest => (false, rest)
    | s => (false, s)
  let whole := s.takeWhile Char.isDigit
  match s.dropWhile Char.isDigit with
  | '.' :: rest =>
    let fraction := rest.takeWhile Char.isDigit
    match digits? (whole ++ fraction), exponent? (rest.dropWhile Char.isDigit) with
    | some n, some e => some (.ofDecimal negative n (e - fraction.length))
    | _, _ => none
  | _ => none

/-- A bare value. -/
def bare (s : List Char) : Scalar :=
  match float? s with
  | some x => .float x
  | none =>
    match unsigned? s with
    | some n => .unsigned n
    | none =>
      match signed? s with
      | some n => .signed n
      | none => .text (Utf8.ofChars s)

/-- What keeps a text from being read as a value. -/
inductive Stop where
  /-- It is no spelling of a value. -/
  | malformed
  /-- A quoted text would be cut inside a character. -/
  | torn
  deriving DecidableEq, Repr

/-! ## Quoted texts -/

/-- The character with a code point in hexadecimal digits. -/
def codePoint? (digits : List Char) : Option Char :=
  (Hex.number? (digits.map Char.toNat)).bind Utf8.character?

/-- The character that an escape stands for, and what follows it. -/
def readEscape : List Char → Option (Char × List Char)
  | '"' :: rest => some ('"', rest)
  | '\\' :: rest => some ('\\', rest)
  | 'b' :: rest => some ('\x08', rest)
  | 'f' :: rest => some ('\x0c', rest)
  | 'n' :: rest => some ('\n', rest)
  | 'r' :: rest => some ('\r', rest)
  | 't' :: rest => some ('\t', rest)
  | 'u' :: rest =>
    if rest.length < 4 then none else (codePoint? (rest.take 4)).map (·, rest.drop 4)
  | 'U' :: rest =>
    if rest.length < 8 then none else (codePoint? (rest.take 8)).map (·, rest.drop 8)
  | _ => none

/-- The characters up to the closing quote, and what follows it. The character behind a backslash
closes nothing. -/
def spanQuoted : List Char → Option (List Char × List Char)
  | [] => none
  | '"' :: rest => some ([], rest)
  | '\\' :: c :: rest => (spanQuoted rest).map fun (inner, rest) => ('\\' :: c :: inner, rest)
  | c :: rest => (spanQuoted rest).map fun (inner, rest) => (c :: inner, rest)

/-- A character that may stand between quotes as it is. -/
def isPlain (c : Char) : Bool :=
  c == '\t' || (' ' ≤ c && c != '\x7f')

/-- Characters with each escape replaced by what it stands for. -/
def unescape : Nat → List Char → Option (List Char)
  | 0, _ => none
  | _, [] => some []
  | fuel + 1, '\\' :: rest =>
    match readEscape rest with
    | some (c, rest) => (unescape fuel rest).map (c :: ·)
    | none => none
  | fuel + 1, c :: rest => if isPlain c then (unescape fuel rest).map (c :: ·) else none

/-- The front of a text that takes so many bytes, unless a character lies across its end. -/
def front? : Nat → List Char → Option (List Char)
  | 0, _ => some []
  | _ + 1, [] => none
  | room + 1, c :: rest =>
    if c.utf8Size ≤ room + 1 then (front? (room + 1 - c.utf8Size) rest).map (c :: ·) else none

/-- The text that stands between quotes. In front of the first escape it keeps as many bytes as
there are characters: all of them as long as they are ASCII. -/
def quoted (inner : List Char) : Except Stop (List Char) :=
  let plain := inner.takeWhile (· != '\\')
  if !plain.all isPlain then .error .malformed
  else
    match inner.drop plain.length with
    | [] => .ok plain
    | escaped =>
      -- the cut is made before the escape is looked at
      match front? plain.length plain, unescape (escaped.length + 1) escaped with
      | none, _ => .error .torn
      | some _, none => .error .malformed
      | some front, some rest => .ok (front ++ rest)

/-- The rest of a quoted text behind its opening quote. -/
def readQuoted (s : List Char) : Except Stop (List Char × List Char) :=
  match spanQuoted s with
  | some (inner, rest) => (quoted inner).map (·, rest)
  | none => .error .malformed

/-- A key of a table. -/
def readKey (s : List Char) : Except Stop (List Char × List Char) :=
  match s with
  | '"' :: rest => readQuoted rest
  | s =>
    match s.takeWhile isKeyChar with
    | [] => .error .malformed
    | key => .ok (key, s.dropWhile isKeyChar)

/-! ## Values -/

/-- What follows a word at the front. -/
def after? (word s : List Char) : Option (List Char) :=
  if word.isPrefixOf s then some (s.drop word.length) else none

def scalar (value : Scalar) : LayerValue :=
  .scalar .environment value

mutual

/-- A value, and what follows it and the blanks behind it. -/
def readValue : Nat → List Char → Except Stop (LayerValue × List Char)
  | 0, _ => .error .malformed
  | fuel + 1, s => do
    let s := skipBlanks s
    let (value, rest) ←
      match after? "true".toList s, after? "false".toList s, s with
      | some rest, _, _ => .ok (scalar (.bool true), rest)
      | _, some rest, _ => .ok (scalar (.bool false), rest)
      | _, _, '\x7b' :: rest =>
        (readFields fuel rest).map fun (fields, rest) => (.table .environment fields, rest)
      | _, _, '[' :: rest =>
        (readItems fuel rest).map fun (items, rest) => (.list .environment items, rest)
      | _, _, '"' :: rest =>
        (readQuoted rest).map fun (text, rest) =>
          (scalar (.text (Utf8.ofChars text)), rest)
      | _, _, '\'' :: c :: '\'' :: rest => .ok (scalar (.character (Utf8.encode c)), rest)
      | _, _, '\'' :: _ => .error .malformed
      | _, _, s =>
        let word := s.takeWhile (!isSeparator ·)
        .ok (scalar (bare (Blank.trimChars word)), s.dropWhile (!isSeparator ·))
    return (value, skipBlanks rest)

/-- Items up to the closing bracket; a comma may follow the last one. -/
def readItems : Nat → List Char → Except Stop (List LayerValue × List Char)
  | 0, _ => .error .malformed
  | fuel + 1, s =>
    match s with
    | ']' :: rest => .ok ([], rest)
    | s => do
      let (item, rest) ← readValue fuel s
      match rest with
      | ',' :: rest =>
        let (items, rest) ← readItems fuel rest
        return (item :: items, rest)
      | ']' :: rest => return ([item], rest)
      | _ => .error .malformed

/-- Fields up to the closing brace; a comma may follow the last one, and of two fields with one key
the later one counts. -/
def readFields : Nat → List Char → Except Stop (Layer × List Char)
  | 0, _ => .error .malformed
  | fuel + 1, s =>
    match s with
    | '\x7d' :: rest => .ok ([], rest)
    | s => do
      let (key, rest) ← readKey (skipBlanks s)
      match skipBlanks rest with
      | '=' :: rest =>
        let (value, rest) ← readValue fuel rest
        let key := Utf8.ofChars key
        match rest with
        | ',' :: rest =>
          let (fields, rest) ← readFields fuel rest
          let later := fields.any fun field => field.1 = key
          return (if later then fields else (key, value) :: fields, rest)
        | '\x7d' :: rest => return ([(key, value)], rest)
        | _ => .error .malformed
      | _ => .error .malformed

end

/-- Reads a value from the front of a text. -/
def readFront (cs : List Char) : Except Stop (LayerValue × List Char) :=
  readValue (2 * cs.length + 2) cs

/-- The value of a variable. -/
def read (s : Bytes) : LayerValue :=
  let cs := Utf8.chars s
  match readFront cs with
  | .ok (value, []) => value
  | _ => scalar (.text (Utf8.ofChars cs))

/-- Reading the value of a variable breaks off. -/
def isTorn (s : Bytes) : Bool :=
  match readFront (Utf8.chars s) with
  | .error .torn => true
  | _ => false

end TwinFiles.EnvironmentValue
