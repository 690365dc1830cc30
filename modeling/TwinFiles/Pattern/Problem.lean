import TwinFiles.Text.Decimal
import TwinFiles.Text.Utf8

/-!
# Problems of patterns

What can be wrong with a written pattern, where it is, and how both are told: the pattern is quoted
with carets below the part in question. A pattern of one line is quoted as it is; of several lines
each has its number in front.
-/

namespace TwinFiles.Pattern

/-- A part of a written pattern, from the character at `start` up to the one before `stop`; it may
hold no character at all. -/
structure Span where
  start : Nat
  stop : Nat
  deriving DecidableEq, Repr

/-- What is wrong with a written pattern. -/
inductive Fault where
  | classEscape
  | classRangeOrder
  | classRangeBound
  | classUnclosed
  | countTooLarge
  | hexEmpty
  | hexNoCharacter
  | hexDigit
  | escapeUnfinished
  | escapeUnknown
  | flagNegationDangling
  | flagTwice
  | flagNegationTwice
  | flagsUnfinished
  | flagUnknown
  | nameTwice
  | nameEmpty
  | nameCharacter
  | nameUnfinished
  | groupUnclosed
  | groupUnopened
  | tooDeep
  | countOrder
  | countMissing
  | countUnclosed
  | nothingToRepeat
  | wordPlaceUnclosed
  | wordPlaceUnknown
  | wordPlaceUnfinished
  | propertyName
  | backreference
  | lookAround
  | allScriptsRefused
  | notText
  | propertyUnknown
  | propertyValueUnknown
  | kindUnknown
  | caseUnknown
  deriving DecidableEq, Repr

/-- How deep groups, classes and repetitions may lie in one another. -/
def deepest : Nat := 250

/-- The fault in words. -/
def Fault.message : Fault → Bytes
  | classEscape => utf8 "invalid escape sequence found in character class"
  | classRangeOrder => utf8 "invalid character class range, the start must be <= the end"
  | classRangeBound => utf8 "invalid range boundary, must be a literal"
  | classUnclosed => utf8 "unclosed character class"
  | countTooLarge => utf8 "decimal literal invalid"
  | hexEmpty => utf8 "hexadecimal literal empty"
  | hexNoCharacter => utf8 "hexadecimal literal is not a Unicode scalar value"
  | hexDigit => utf8 "invalid hexadecimal digit"
  | escapeUnfinished =>
    utf8 "incomplete escape sequence, reached end of pattern prematurely"
  | escapeUnknown => utf8 "unrecognized escape sequence"
  | flagNegationDangling => utf8 "dangling flag negation operator"
  | flagTwice => utf8 "duplicate flag"
  | flagNegationTwice => utf8 "flag negation operator repeated"
  | flagsUnfinished => utf8 "expected flag but got end of regex"
  | flagUnknown => utf8 "unrecognized flag"
  | nameTwice => utf8 "duplicate capture group name"
  | nameEmpty => utf8 "empty capture group name"
  | nameCharacter => utf8 "invalid capture group character"
  | nameUnfinished => utf8 "unclosed capture group name"
  | groupUnclosed => utf8 "unclosed group"
  | groupUnopened => utf8 "unopened group"
  | tooDeep =>
    utf8 "exceed the maximum number of nested parentheses/brackets (" ++ Decimal.text deepest ++
      utf8 ")"
  | countOrder => utf8 "invalid repetition count range, the start must be <= the end"
  | countMissing => utf8 "repetition quantifier expects a valid decimal"
  | countUnclosed => utf8 "unclosed counted repetition"
  | nothingToRepeat => utf8 "repetition operator missing expression"
  | wordPlaceUnclosed =>
    utf8 "special word boundary assertion is either unclosed or contains an invalid character"
  | wordPlaceUnknown =>
    utf8 "unrecognized special word boundary assertion, valid choices are: start, end, " ++
      utf8 "start-half or end-half"
  | wordPlaceUnfinished =>
    utf8 "found either the beginning of a special word boundary or a bounded repetition on a " ++
      utf8 "\\b with an opening brace, but no closing brace"
  | propertyName => utf8 "invalid Unicode character class"
  | backreference => utf8 "backreferences are not supported"
  | lookAround => utf8 "look-around, including look-ahead and look-behind, is not supported"
  | allScriptsRefused => utf8 "Unicode not allowed here"
  | notText => utf8 "pattern can match invalid UTF-8"
  | propertyUnknown => utf8 "Unicode property not found"
  | propertyValueUnknown => utf8 "Unicode property value not found"
  | kindUnknown =>
    utf8 "Unicode-aware Perl class not found " ++
      utf8 "(make sure the unicode-perl feature is enabled)"
  | caseUnknown =>
    utf8 "Unicode-aware case insensitivity matching is not available " ++
      utf8 "(make sure the unicode-case feature is enabled)"

/-- A fault, the part of the pattern where it shows, and another part that it is at odds with. -/
structure Problem where
  fault : Fault
  span : Span
  other : Option Span
  deriving DecidableEq, Repr

/-- Refuses a part. -/
def refuse {α : Type} (fault : Fault) (span : Span) : Except Problem α :=
  .error ⟨fault, span, none⟩

/-! ## Quotation -/

/-- The lines of a text. A newline ends a line, also the last one, and takes a carriage return
before it along. -/
def linesOf : List Char → List (List Char)
  | [] => []
  | '\n' :: rest => [] :: linesOf rest
  | '\r' :: '\n' :: rest => [] :: linesOf rest
  | c :: rest =>
    match linesOf rest with
    | [] => [[c]]
    | line :: lines => (c :: line) :: lines

/-- Line and column of a place in a text, both counted from one. -/
def lineAndColumn (text : List Char) (place : Nat) : Nat × Nat :=
  let before := text.take place
  (before.count '\n' + 1, (before.reverse.takeWhile (· != '\n')).length + 1)

namespace Problem

/-- The parts to be shown, in the order of the text. -/
def spans (p : Problem) : List Span :=
  match p.other with
  | none => [p.span]
  | some o =>
    if p.span.start < o.start ∨ (p.span.start = o.start ∧ p.span.stop ≤ o.stop) then [p.span, o]
    else [o, p.span]

/-- A part lies within one line. -/
def isInLine (text : List Char) (s : Span) : Bool :=
  (lineAndColumn text s.start).1 == (lineAndColumn text s.stop).1

/-- Carets below the given columns: from each start to its stop, at least one. `column` is the one
that has been reached, counted from zero. -/
def carets : Nat → List (Nat × Nat) → Bytes
  | _, [] => []
  | column, (start, stop) :: rest =>
    let blanks := start - 1 - column
    let marks := max 1 (stop - start)
    List.replicate blanks Ascii.space ++ List.replicate marks 0x5E ++
      carets (column + blanks + marks) rest

/-- The line with the carets below a line, if there are any. -/
def notes (p : Problem) (text : List Char) (line margin : Nat) : Bytes :=
  let here := p.spans.filter fun s =>
    isInLine text s && (lineAndColumn text s.start).1 == line
  if here.isEmpty then []
  else
    List.replicate margin Ascii.space ++
      carets 0 (here.map fun s =>
        ((lineAndColumn text s.start).2, (lineAndColumn text s.stop).2)) ++
      [Ascii.newline]

/-- The lines of the pattern from number `line` on, each with its carets below it. A number of
`width` digits stands in front, or an indentation if `width` is zero. -/
def quotation (p : Problem) (text : List Char) (width : Nat) : Nat → List (List Char) → Bytes
  | _, [] => []
  | line, content :: rest =>
    let number := Decimal.text line
    let (margin, front) :=
      if width = 0 then (4, List.replicate 4 Ascii.space)
      else
        (width + 2, List.replicate (width - number.length) Ascii.space ++ number ++ utf8 ": ")
    front ++ Utf8.ofChars content ++ [Ascii.newline] ++ p.notes text line margin ++
      quotation p text width (line + 1) rest

/-- What is said about a part that goes over several lines. -/
def acrossLines (text : List Char) (s : Span) : Bytes :=
  let (line, column) := lineAndColumn text s.start
  let (lastLine, lastColumn) := lineAndColumn text s.stop
  utf8 "on line " ++ Decimal.text line ++ utf8 " (column " ++ Decimal.text column ++
    utf8 ") through line " ++ Decimal.text lastLine ++ utf8 " (column " ++
    Decimal.text (lastColumn - 1) ++ utf8 ")\n"

/-- The problem of a written pattern in words. -/
def message (p : Problem) (text : List Char) : Bytes :=
  let lines := linesOf text
  let title := utf8 "regex parse error:\n"
  let cause := utf8 "error: " ++ p.fault.message
  if text.contains '\n' then
    -- behind a last newline lies one more line, where a problem may be found
    let count := lines.length + (if text.getLast? = some '\n' then 1 else 0)
    let width := if count ≤ 1 then 0 else (Decimal.text count).length
    let divider := List.replicate 79 0x7E ++ [Ascii.newline]
    title ++ divider ++ p.quotation text width 1 lines ++ divider ++
      ((p.spans.filter fun s => !isInLine text s).flatMap (acrossLines text)) ++ cause
  else title ++ p.quotation text 0 1 lines ++ cause

end Problem

end TwinFiles.Pattern
