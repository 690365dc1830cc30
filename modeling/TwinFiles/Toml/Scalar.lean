import TwinFiles.Text.Hex
import TwinFiles.Text.Utf8
import TwinFiles.Toml.Value

/-!
# Strings, numbers and dates of TOML

Readers for what stands on its own in a document: each takes a text and gives what it read together
with what follows it, or nothing if the text does not start that way.
-/

namespace TwinFiles.Toml

/-! ## Blanks, line ends and comments -/

/-- Space and tab. -/
def isBlank (b : UInt8) : Bool :=
  b == Ascii.space || b == Ascii.tab

def skipBlanks (s : Bytes) : Bytes :=
  s.dropWhile isBlank

/-- What follows a line end. -/
def afterNewline? : Bytes → Option Bytes
  | Ascii.newline :: rest => some rest
  | Ascii.carriageReturn :: Ascii.newline :: rest => some rest
  | _ => none

/-- A byte of a text on one line: no control character but the tab. -/
def isTextByte (b : UInt8) : Bool :=
  b == Ascii.tab || (0x20 ≤ b && b != 0x7F)

/-- A text behind its comment, if it starts with one. -/
def skipComment : Bytes → Bytes
  | 0x23 :: rest => rest.dropWhile isTextByte
  | s => s

/-- What follows the rest of a line that holds nothing more than a comment. -/
def afterLine? (s : Bytes) : Option Bytes :=
  match skipComment (skipBlanks s) with
  | [] => some []
  | s => afterNewline? s

/-- A text behind blanks, comments and line ends. -/
def skipLines : Nat → Bytes → Bytes
  | 0, s => s
  | fuel + 1, s =>
    let s := skipBlanks s
    match afterNewline? (skipComment s) with
    | some rest => skipLines fuel rest
    | none => s

/-! ## Strings -/

/-- The character with a code point that `count` hexadecimal digits give. -/
def readCodePoint (count : Nat) (s : Bytes) : Option (Bytes × Bytes) :=
  if s.length < count then none
  else
    ((Hex.number? ((s.take count).map UInt8.toNat)).bind Utf8.character?).map fun c =>
      (Utf8.encode c, s.drop count)

/-- What an escape stands for, behind its backslash. -/
def readEscape : Bytes → Option (Bytes × Bytes)
  | 0x62 :: rest => some ([0x08], rest)
  | 0x74 :: rest => some ([0x09], rest)
  | 0x6E :: rest => some ([0x0A], rest)
  | 0x66 :: rest => some ([0x0C], rest)
  | 0x72 :: rest => some ([0x0D], rest)
  | 0x22 :: rest => some ([0x22], rest)
  | 0x5C :: rest => some ([0x5C], rest)
  | 0x75 :: rest => readCodePoint 4 rest
  | 0x55 :: rest => readCodePoint 8 rest
  | _ => none

/-- The rest of a string on one line with escapes, behind its opening quote. -/
def readBasic : Nat → Bytes → Option (Bytes × Bytes)
  | 0, _ => none
  | _, [] => none
  | fuel + 1, b :: rest =>
    if b = Ascii.quote then some ([], rest)
    else if b = Ascii.backslash then do
      let (part, rest) ← readEscape rest
      let (text, rest) ← readBasic fuel rest
      return (part ++ text, rest)
    else if isTextByte b then do
      let (text, rest) ← readBasic fuel rest
      return (b :: text, rest)
    else none

/-- The rest of a string on one line without escapes, behind its opening quote. -/
def readLiteral (s : Bytes) : Option (Bytes × Bytes) :=
  let body := s.takeWhile fun b => isTextByte b && b != 0x27
  match s.dropWhile fun b => isTextByte b && b != 0x27 with
  | 0x27 :: rest => some (body, rest)
  | _ => none

/-- A run of quotes inside a string of several lines: fewer than three belong to the text; three end
the string, and up to two before them belong to the text as well. -/
inductive QuoteRun where
  | inside (text rest : Bytes)
  | closing (text rest : Bytes)
  | tooLong

def quoteRun (quote : UInt8) (s : Bytes) : QuoteRun :=
  let run := s.takeWhile (· == quote)
  let rest := s.dropWhile (· == quote)
  if run.length < 3 then .inside run rest
  else if run.length ≤ 5 then .closing (run.drop 3) rest
  else .tooLong

/-- A text behind blanks and line ends. -/
def skipBlankLines : Bytes → Bytes
  | Ascii.carriageReturn :: Ascii.newline :: rest => skipBlankLines rest
  | b :: rest => if isBlank b || b == Ascii.newline then skipBlankLines rest else b :: rest
  | [] => []

/-- What follows a backslash at the end of a line, and all blanks and line ends after it. -/
def afterFoldedLine? (s : Bytes) : Option Bytes :=
  (afterNewline? (skipBlanks s)).map skipBlankLines

/-- The rest of a string of several lines, with or without escapes. Line ends are read as
newlines. -/
def readLines (quote : UInt8) (escapes : Bool) : Nat → Bytes → Option (Bytes × Bytes)
  | 0, _ => none
  | _, [] => none
  | fuel + 1, b :: rest =>
    if b = quote then
      match quoteRun quote (b :: rest) with
      | .closing text rest => some (text, rest)
      | .inside text rest => do
        let (more, rest) ← readLines quote escapes fuel rest
        return (text ++ more, rest)
      | .tooLong => none
    else if b = Ascii.backslash ∧ escapes then
      match afterFoldedLine? rest with
      | some rest => readLines quote escapes fuel rest
      | none => do
        let (part, rest) ← readEscape rest
        let (more, rest) ← readLines quote escapes fuel rest
        return (part ++ more, rest)
    else
      match afterNewline? (b :: rest) with
      | some rest => do
        let (more, rest) ← readLines quote escapes fuel rest
        return (Ascii.newline :: more, rest)
      | none =>
        if isTextByte b then do
          let (more, rest) ← readLines quote escapes fuel rest
          return (b :: more, rest)
        else none

/-- A line end right behind the opening quotes is no part of the string. -/
def skipFirstNewline (s : Bytes) : Bytes :=
  (afterNewline? s).getD s

/-- A string of any form. -/
def readString (s : Bytes) : Option (Bytes × Bytes) :=
  match s with
  | 0x22 :: 0x22 :: 0x22 :: rest => readLines 0x22 true s.length (skipFirstNewline rest)
  | 0x27 :: 0x27 :: 0x27 :: rest => readLines 0x27 false s.length (skipFirstNewline rest)
  | 0x22 :: rest => readBasic s.length rest
  | 0x27 :: rest => readLiteral rest
  | _ => none

/-! ## Keys -/

/-- A byte of a key without quotes. -/
def isKeyByte (b : UInt8) : Bool :=
  Ascii.isDigit b || (0x61 ≤ Ascii.toLower b && Ascii.toLower b ≤ 0x7A) || b == 0x5F || b == 0x2D

/-- One part of a key. -/
def readKeyPart (s : Bytes) : Option (Bytes × Bytes) :=
  match s with
  | 0x22 :: rest => readBasic s.length rest
  | 0x27 :: rest => readLiteral rest
  | s =>
    match s.takeWhile isKeyByte with
    | [] => none
    | part => some (part, s.dropWhile isKeyByte)

/-- The parts of a key between dots. -/
def readKeyParts : Nat → Bytes → Option (List Bytes × Bytes)
  | 0, _ => none
  | fuel + 1, s => do
    let (part, rest) ← readKeyPart (skipBlanks s)
    match skipBlanks rest with
    | Ascii.dot :: rest =>
      let (parts, rest) ← readKeyParts fuel rest
      return (part :: parts, rest)
    | rest => return ([part], rest)

/-- How deep keys and values can be nested. -/
def maxDepth : Nat := 80

/-- A key, and what follows it and the blanks behind it. -/
def readKey (s : Bytes) : Option (List Bytes × Bytes) := do
  let (parts, rest) ← readKeyParts s.length s
  if maxDepth ≤ parts.length then none else return (parts, rest)

/-! ## Dates and times -/

/-- A number of exactly `count` digits between two bounds. -/
def readBounded (count low high : Nat) (s : Bytes) : Option (Nat × Bytes) :=
  if s.length < count then none
  else
    match Decimal.read? (s.take count) with
    | some n => if low ≤ n ∧ n ≤ high then some (n, s.drop count) else none
    | none => none

/-- What follows a byte. -/
def after? (b : UInt8) : Bytes → Option Bytes
  | c :: rest => if c = b then some rest else none
  | [] => none

def isLeapYear (year : Nat) : Bool :=
  year % 4 == 0 && (year % 100 != 0 || year % 400 == 0)

def daysInMonth (year month : Nat) : Nat :=
  if month = 2 then (if isLeapYear year then 29 else 28)
  else if month = 4 ∨ month = 6 ∨ month = 9 ∨ month = 11 then 30
  else 31

/-- What follows a date. -/
def afterDate? (s : Bytes) : Option Bytes := do
  let (year, s) ← readBounded 4 0 9999 s
  let s ← after? Ascii.dash s
  let (month, s) ← readBounded 2 1 12 s
  let s ← after? Ascii.dash s
  let (_, s) ← readBounded 2 1 (daysInMonth year month) s
  return s

/-- What follows the fraction of a second, if there is one. -/
def afterFraction : Bytes → Bytes
  | Ascii.dot :: b :: rest =>
    if Ascii.isDigit b then rest.dropWhile Ascii.isDigit else Ascii.dot :: b :: rest
  | s => s

/-- What follows a time of day. -/
def afterTime? (s : Bytes) : Option Bytes := do
  let (_, s) ← readBounded 2 0 23 s
  let s ← after? 0x3A s
  let (_, s) ← readBounded 2 0 59 s
  let s ← after? 0x3A s
  let (_, s) ← readBounded 2 0 60 s
  return afterFraction s

/-- What follows an offset from UTC. -/
def afterOffset? : Bytes → Option Bytes
  | b :: rest =>
    if b = 0x5A ∨ b = 0x7A then some rest
    else if b = 0x2B ∨ b = 0x2D then do
      let (_, s) ← readBounded 2 0 23 rest
      let s ← after? 0x3A s
      let (_, s) ← readBounded 2 0 59 s
      return s
    else none
  | [] => none

/-- What follows the time of a date, with its offset, if there is one. -/
def afterTimeOfDate : Bytes → Bytes
  | b :: rest =>
    if b = 0x54 ∨ b = 0x74 ∨ b = 0x20 then
      match afterTime? rest with
      | some s => (afterOffset? s).getD s
      | none => b :: rest
    else b :: rest
  | [] => []

/-- What follows a date, a time, or both. -/
def afterMoment? (s : Bytes) : Option Bytes :=
  match afterDate? s with
  | some rest => some (afterTimeOfDate rest)
  | none => afterTime? s

/-! ## Numbers -/

/-- The digits at the front of a text; an underscore may stand between two of them. -/
def spanDigits (isDigit : UInt8 → Bool) : Bytes → Bytes × Bytes
  | [] => ([], [])
  | [b] => if isDigit b then ([b], []) else ([], [b])
  | b :: c :: rest =>
    if isDigit b then
      if c = 0x5F then
        match rest with
        | d :: _ =>
          if isDigit d then
            let (digits, rest) := spanDigits isDigit rest
            (b :: digits, rest)
          else ([b], c :: rest)
        | [] => ([b], [c])
      else
        let (digits, rest) := spanDigits isDigit (c :: rest)
        (b :: digits, rest)
    else ([], b :: c :: rest)

/-- One or more digits. -/
def readDigits (isDigit : UInt8 → Bool) (s : Bytes) : Option (Bytes × Bytes) :=
  match spanDigits isDigit s with
  | ([], _) => none
  | (digits, rest) => some (digits, rest)

/-- An integer of 64 bits. -/
def bounded? (n : Int) : Option Int :=
  if Decimal.fitsSigned n then some n else none

/-- The number that digits of a base stand for. -/
def digitsNumber (base : Nat) (digits : Bytes) : Nat :=
  digits.foldl (fun n b => n * base + ((Hex.digitValue? b.toNat).getD 0)) 0

/-- An integer in base 16, 8 or 2. -/
def readBased (base : Nat) (s : Bytes) : Option (Value × Bytes) := do
  let isDigit := fun b => (Hex.digitValue? b.toNat).any (· < base)
  let (digits, rest) ← readDigits isDigit s
  let n ← bounded? (digitsNumber base digits)
  return (.integer n, rest)

/-- The digits before a point; no zero stands before other digits. -/
def readWhole (s : Bytes) : Option (Bytes × Bytes) :=
  match s with
  | 0x30 :: rest => some ([0x30], rest)
  | s => readDigits Ascii.isDigit s

/-- The sign at the front of a text. -/
def splitSign : Bytes → Bool × Bytes
  | 0x2D :: rest => (true, rest)
  | 0x2B :: rest => (false, rest)
  | s => (false, s)

/-- The fraction digits, behind a point. -/
def readFraction : Bytes → Option (Bytes × Bytes)
  | Ascii.dot :: rest => readDigits Ascii.isDigit rest
  | _ => none

/-- The exponent, behind its letter. -/
def readExponent : Bytes → Option (Int × Bytes)
  | b :: rest =>
    if b = 0x65 ∨ b = 0x45 then do
      let (negative, rest) := splitSign rest
      let (digits, rest) ← readDigits Ascii.isDigit rest
      let n : Int := digitsNumber 10 digits
      return (if negative then -n else n, rest)
    else none
  | [] => none

/-- A floating-point number. One too large to be told from infinity is refused, unless it is
negative. -/
def float? (negative : Bool) (digits : Bytes) (scale : Int) : Option Value :=
  let x := Binary64.ofDecimal negative (digitsNumber 10 digits) scale
  if x = .infinite false then none else some (.float x)

/-- A number in decimal digits. -/
def readDecimal (s : Bytes) : Option (Value × Bytes) := do
  let (negative, s) := splitSign s
  let (whole, rest) ← readWhole s
  match readFraction rest with
  | some (fraction, rest) =>
    let (exponent, rest) := (readExponent rest).getD (0, rest)
    let value ← float? negative (whole ++ fraction) (exponent - fraction.length)
    return (value, rest)
  | none =>
    match readExponent rest with
    | some (exponent, rest) =>
      let value ← float? negative whole exponent
      return (value, rest)
    | none =>
      let n : Int := digitsNumber 10 whole
      let n ← bounded? (if negative then -n else n)
      return (.integer n, rest)

/-- What follows a word at the front. -/
def afterWord? (word s : Bytes) : Option Bytes :=
  if word.isPrefixOf s then some (s.drop word.length) else none

/-- Infinity, or what is not a number. -/
def readSpecial (s : Bytes) : Option (Value × Bytes) :=
  let (negative, s) := splitSign s
  match afterWord? (utf8 "inf") s with
  | some rest => some (.float (.infinite negative), rest)
  | none => (afterWord? (utf8 "nan") s).map fun rest => (.float .nan, rest)

/-- A date, a time or a number. -/
def readNumber (s : Bytes) : Option (Value × Bytes) :=
  match afterMoment? s with
  | some rest => some (.moment, rest)
  | none =>
    match s with
    | 0x30 :: 0x78 :: rest => readBased 16 rest
    | 0x30 :: 0x6F :: rest => readBased 8 rest
    | 0x30 :: 0x62 :: rest => readBased 2 rest
    | s =>
      match readSpecial s with
      | some found => some found
      | none => readDecimal s

end TwinFiles.Toml
