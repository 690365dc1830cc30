import TwinFiles.Pattern.Reader
import TwinFiles.Text.Hex

/-!
# Escapes

What a backslash and the characters behind it stand for: a character, a kind of characters, a
property or a place.
-/

namespace TwinFiles.Pattern

/-- What an escape stands for. -/
inductive Escape where
  | literal (literal : Literal)
  | place (span : Span) (place : WrittenPlace)
  | kind (span : Span) (kind : Kind) (negated : Bool)
  | property (query : PropertyQuery)

namespace Escape

def span : Escape → Span
  | literal l => l.span
  | place s _ => s
  | kind s _ _ => s
  | property q => q.span

/-- The escape as a part of a pattern. -/
def part : Escape → Part
  | literal l => .literal l
  | place s p => .place s p
  | kind s k negated => .kind s k negated
  | property q => .property q

/-- The escape as a part between brackets, where no place can stand. -/
def classPart : Escape → Except Problem ClassPart
  | literal l => .ok (.literal l)
  | place s _ => refuse .classEscape s
  | kind s k negated => .ok (.kind s k negated)
  | property q => .ok (.property q)

/-- The escape as a bound of a range. -/
def bound : Escape → Except Problem Literal
  | literal l => .ok l
  | e => refuse .classRangeBound e.span

end Escape

/-- A character that has a meaning in patterns. -/
def isMeta (c : Char) : Bool :=
  "\\.+*?()|[]{}^$#&-~".toList.contains c

/-- A character that stands for itself behind a backslash. -/
def isEscapable (c : Char) : Bool :=
  isMeta c || (c.toNat < 0x80 && !c.isAlphanum && c != '<' && c != '>')

/-- A control character with an escape of one letter. -/
def control? : Char → Option Char
  | 'a' => some '\x07'
  | 'f' => some '\x0c'
  | 't' => some '\t'
  | 'n' => some '\n'
  | 'r' => some '\r'
  | 'v' => some '\x0b'
  | _ => none

/-! ## Characters by number -/

/-- The character with a number. -/
def charOf (number : Nat) (span : Span) : Except Problem Char :=
  match Utf8.character? number with
  | some c => .ok c
  | none => refuse .hexNoCharacter span

/-- Reads `count + 1` more digits of a number. -/
def readDigits : Nat → Nat → Reader → Except Problem (Nat × Reader)
  | count, number, r =>
    match r.rest with
    | [] => refuse .escapeUnfinished r.here
    | c :: _ =>
      match Hex.digitValue? c.toNat with
      | none => refuse .hexDigit r.char
      | some digit =>
        let r := r.advance
        match count with
        | 0 => .ok (number * 16 + digit, r)
        | count + 1 => readDigits count (number * 16 + digit) r

/-- Reads digits up to a closing brace; with the number comes whether there is a digit at all. -/
def readBracedDigits (brace : Nat) :
    Nat → Nat → Bool → Reader → Except Problem ((Nat × Bool) × Reader)
  | 0, _, _, r => refuse .escapeUnfinished (r.since brace)
  | fuel + 1, number, found, r =>
    match r.rest with
    | [] => refuse .escapeUnfinished (r.since brace)
    | '\x7d' :: _ => .ok ((number, found), r)
    | c :: _ =>
      match Hex.digitValue? c.toNat with
      | none => refuse .hexDigit r.char
      | some digit => readBracedDigits brace fuel (number * 16 + digit) true r.advance

/-- Reads a character by its number. The reader stands at the letter, which asks for so many digits;
`start` is the place of the backslash. -/
def readNumber (start digits : Nat) (isByte : Bool) (r : Reader) :
    Except Problem (Escape × Reader) := do
  let r := r.advance
  if r.atEnd then refuse .escapeUnfinished r.here
  else if r.at? '\x7b' then
    let brace := r.place
    let ((number, found), close) ← readBracedDigits brace (r.rest.length + 1) 0 false r.advance
    let behind := close.advance
    if !found then refuse .hexEmpty (behind.since brace)
    else
      let c ← charOf number (close.since (brace + 1))
      return (.literal ⟨behind.since start, c, false⟩, behind)
  else
    let first := r.place
    let (number, behind) ← readDigits (digits - 1) 0 r
    let c ← charOf number (behind.since first)
    return (.literal ⟨behind.since start, c, isByte⟩, behind)

/-! ## Properties -/

/-- Reads a name up to a closing brace. -/
def readName : Nat → Reader → Except Problem ((List Char) × Reader)
  | 0, r => refuse .escapeUnfinished r.here
  | fuel + 1, r =>
    match r.rest with
    | [] => refuse .escapeUnfinished r.here
    | '\x7d' :: _ => .ok ([], r)
    | c :: _ => (readName fuel r.advance).map fun (name, r) => (c :: name, r)

/-- Reads the query for a property, one letter or a name in braces. -/
def readProperty (start : Nat) (r : Reader) : Except Problem (Escape × Reader) := do
  let r := r.advance
  match r.rest with
  | [] => refuse .escapeUnfinished r.here
  | '\x7b' :: _ =>
    let (name, r) ← readName (r.rest.length + 1) r.advance
    let r := r.next
    return (.property ⟨r.since start, name⟩, r)
  | '\\' :: _ => refuse .propertyName r.char
  | c :: _ =>
    let r := r.advance
    return (.property ⟨r.since start, [c]⟩, r)

/-! ## Places around words -/

/-- A character of the names of places around words. -/
def isWordPlaceChar (c : Char) : Bool := c.isAlpha || c == '-'

/-- Reads the characters of such a name. -/
def readWordPlaceName : Nat → Reader → List Char × Reader
  | 0, r => ([], r)
  | fuel + 1, r =>
    match r.rest with
    | [] => ([], r)
    | c :: _ =>
      if isWordPlaceChar c then
        let (name, r) := readWordPlaceName fuel r.advance
        (c :: name, r)
      else ([], r)

/-- The place around a word with a name. -/
def wordPlace? (name : List Char) : Option WordPlace :=
  match String.ofList name with
  | "start" => some .start
  | "end" => some .stop
  | "start-half" => some .halfStart
  | "end-half" => some .halfStop
  | _ => none

/-- Reads the name in braces that may follow the border of a word; what is in braces may as well be
a count of repetitions. `start` is the place of the backslash. -/
def readWordPlace (start : Nat) (r : Reader) : Except Problem (WordPlace × Reader) := do
  if !r.at? '\x7b' then return (.border, r)
  let inner := r.advance
  if inner.atEnd then refuse .wordPlaceUnfinished (inner.since start)
  else if !inner.rest.head?.any isWordPlaceChar then return (.border, r)
  else
    let (name, close) := readWordPlaceName (inner.rest.length + 1) inner
    if !close.at? '\x7d' then refuse .wordPlaceUnclosed (close.since r.place)
    else
      match wordPlace? name with
      | some place => return (place, close.next)
      | none => refuse .wordPlaceUnknown (close.since inner.place)

/-! ## All escapes -/

/-- Reads an escape; the reader stands at the backslash. -/
def readEscape (r : Reader) : Except Problem (Escape × Reader) := do
  let start := r.place
  let r := r.next
  match r.rest with
  | [] => refuse .escapeUnfinished (r.since start)
  | c :: _ =>
    let behind := r.next
    let span := behind.since start
    if c.isDigit then refuse .backreference span
    else
      match c with
      | 'x' => readNumber start 2 true r
      | 'u' => readNumber start 4 false r
      | 'U' => readNumber start 8 false r
      | 'p' => readProperty start r
      | 'P' => readProperty start r
      | 'd' => return (.kind span .digit false, behind)
      | 's' => return (.kind span .blank false, behind)
      | 'w' => return (.kind span .word false, behind)
      | 'D' => return (.kind span .digit true, behind)
      | 'S' => return (.kind span .blank true, behind)
      | 'W' => return (.kind span .word true, behind)
      | 'A' => return (.place span .textStart, behind)
      | 'z' => return (.place span .textStop, behind)
      | 'b' =>
        let (place, behind) ← readWordPlace start behind
        return (.place (behind.since start) (.word place), behind)
      | 'B' => return (.place span (.word .noBorder), behind)
      | '<' => return (.place span (.word .start), behind)
      | '>' => return (.place span (.word .stop), behind)
      | c =>
        if isEscapable c then return (.literal ⟨span, c, false⟩, behind)
        else
          match control? c with
          | some d => return (.literal ⟨span, d, false⟩, behind)
          | none => refuse .escapeUnknown span

end TwinFiles.Pattern
