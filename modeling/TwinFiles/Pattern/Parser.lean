import TwinFiles.Pattern.Bracket
import TwinFiles.Text.Letter

/-!
# Reading patterns

From the characters of a written pattern to its parts. Of several faults the one that is met first
from the left is told; depth is checked when everything has been read.
-/

namespace TwinFiles.Pattern

/-! ## Repetitions -/

/-- Reads the digits of a count. -/
def readCountDigits : Nat → Reader → List Char × Reader
  | 0, r => ([], r)
  | fuel + 1, r =>
    match r.rest with
    | [] => ([], r)
    | c :: _ =>
      if c.isDigit then
        let (digits, r) := readCountDigits fuel r.advance
        (c :: digits, r)
      else ([], r)

/-- Passes white space. -/
def skipBlanks : Nat → Reader → Reader
  | 0, r => r
  | fuel + 1, r => if r.rest.head?.any Blank.isBlank then skipBlanks fuel r.advance else r

/-- Reads a count, which may stand between white space. That there is none is no reason to stop: the
reader goes on, and the fault counts only if the count is needed. -/
def readCount (r : Reader) : Except Problem Nat × Reader :=
  let r := r.skip (r.rest.takeWhile Blank.isBlank).length
  let (digits, behind) := readCountDigits r.rest.length r
  let span := behind.since r.place
  let count := digits.foldl (fun n c => n * 10 + (c.toNat - 48)) 0
  let result :=
    if digits.isEmpty then refuse .countMissing span
    else if Nat.pow 2 32 ≤ count then refuse .countTooLarge span
    else .ok count
  (result, skipBlanks behind.rest.length behind)

/-- Passes the question mark that makes a repetition take as little as it can: whether a pattern
occurs does not depend on it. -/
def skipLazy (r : Reader) : Reader :=
  if r.at? '?' then r.next else r

/-- Reads counts in braces; the reader stands at the opening one. -/
def readCounts (r : Reader) : Except Problem ((Nat × Option Nat) × Reader) := do
  let start := r.place
  let r := r.advance
  if r.atEnd then refuse .countUnclosed (r.since start)
  else
    let (first, r) := readCount r
    if r.atEnd then refuse .countUnclosed (r.since start)
    else
      let ((least, most), r) ←
        if r.at? ',' then
          let r := r.advance
          if r.atEnd then refuse .countUnclosed (r.since start)
          else if r.at? '\x7d' then pure ((← first, none), r)
          else
            let least ← first
            let (second, r) := readCount r
            pure ((least, some (← second)), r)
        else
          let count ← first
          pure ((count, some count), r)
      if !r.at? '\x7d' then refuse .countUnclosed (r.since start)
      else
        let r := skipLazy r.advance
        if most.any (· < least) then refuse .countOrder (r.since start)
        else return ((least, most), r)

/-- Takes the last part of a sequence, the latest part of which comes first, to repeat it. -/
def takeLast (run : List Part) (r : Reader) : Except Problem (Part × List Part) :=
  match run with
  | [] => refuse .nothingToRepeat r.here
  | .nothing _ :: _ => refuse .nothingToRepeat r.here
  | .flags _ _ :: _ => refuse .nothingToRepeat r.here
  | part :: rest => .ok (part, rest)

/-! ## Groups -/

def flagOf? : Char → Option Flag
  | 'i' => some .ignoreCase
  | 'm' => some .multiLine
  | 's' => some .dotNewline
  | 'U' => some .lazy
  | 'u' => some .allScripts
  | 'R' => some .returns
  | 'x' => some .loose
  | _ => none

/-- The flags that have been read, each with its place and its new value, the latest one first, and
the place of the hyphen behind which flags are cleared. -/
structure FlagsRead where
  flags : List (Flag × Bool × Span)
  hyphen : Option Span

/-- Reads flags up to a colon or a closing parenthesis. -/
def readFlags : Nat → FlagsRead → Reader → Except Problem (FlagChanges × Reader)
  | 0, _, r => refuse .flagsUnfinished r.here
  | fuel + 1, found, r =>
    match r.rest with
    | [] => refuse .flagsUnfinished r.here
    | c :: _ =>
      if c == ':' || c == ')' then
        match found.hyphen with
        | some hyphen =>
          if hyphen.stop = r.place then refuse .flagNegationDangling hyphen
          else .ok ((found.flags.map fun (flag, value, _) => (flag, value)).reverse, r)
        | none => .ok ((found.flags.map fun (flag, value, _) => (flag, value)).reverse, r)
      else if c == '-' then
        match found.hyphen with
        | some hyphen => .error ⟨.flagNegationTwice, r.char, some hyphen⟩
        | none => readFlags fuel { found with hyphen := some r.char } r.next
      else
        match flagOf? c with
        | none => refuse .flagUnknown r.char
        | some flag =>
          match found.flags.lookup flag with
          | some (_, span) => .error ⟨.flagTwice, r.char, some span⟩
          | none =>
            let entry := (flag, found.hyphen.isNone, r.char)
            readFlags fuel { found with flags := entry :: found.flags } r.next

/-- A character of a group's name. -/
def isNameChar (isFirst : Bool) (c : Char) : Bool :=
  c == '_' || Letter.isAlphabetic c ||
    (!isFirst && (c == '.' || c == '[' || c == ']' || Letter.isNumeric c))

/-- Reads the characters of a name up to the closing angle bracket. -/
def readNameChars : Bool → Nat → Reader → Except Problem (List Char × Reader)
  | _, 0, r => refuse .nameUnfinished r.here
  | isFirst, fuel + 1, r =>
    match r.rest with
    | [] => refuse .nameUnfinished r.here
    | '>' :: _ => .ok ([], r)
    | c :: _ =>
      if isNameChar isFirst c then
        (readNameChars false fuel r.next).map fun (name, r) => (c :: name, r)
      else refuse .nameCharacter r.char

/-- Reads the name of a group with the bracket behind it. -/
def readGroupName (r : Reader) : Except Problem Reader := do
  let (name, close) ← readNameChars true (r.rest.length + 1) r
  if name.isEmpty then refuse .nameEmpty r.here
  else
    let span := close.since r.place
    match close.names.lookup name with
    | some other => .error ⟨.nameTwice, span, some other⟩
    | none => return { close.next with names := (name, span) :: close.names }

/-- What stands at the front of a group. -/
inductive GroupFront where
  /-- Flags for what follows; there is no group. -/
  | flags (changes : FlagChanges)
  | group (changes : Option FlagChanges)

/-- Where a text for looking ahead or behind ends. -/
def afterLook? (r : Reader) : Option Reader :=
  ((r.after? "?=").or (r.after? "?!")).or ((r.after? "?<=").or (r.after? "?<!"))

/-- Reads the front of a group; the reader stands at the parenthesis. -/
def readGroupFront (r : Reader) : Except Problem (GroupFront × Reader) := do
  let start := r.place
  let opening := r.char
  let r := r.advance
  match afterLook? r with
  | some r => refuse .lookAround (r.since start)
  | none =>
    match (r.after? "?P<").or (r.after? "?<") with
    | some r => return (.group none, ← readGroupName r)
    | none =>
      if !r.at? '?' then return (.group none, r)
      else
        let inner := r.next
        if inner.atEnd then refuse .groupUnclosed opening
        else
          let (changes, close) ← readFlags (inner.rest.length + 1) ⟨[], none⟩ inner
          if close.at? ':' then return (.group (some changes), close.next)
          else if changes.isEmpty then refuse .nothingToRepeat r.here
          else return (.flags changes, close.next)

/-- Whether white space means nothing after a change of flags. -/
def looseAfter (loose : Bool) (changes : FlagChanges) : Bool :=
  (changes.lookup .loose).getD loose

/-! ## Patterns -/

/-- A sequence from its parts, the latest one first. -/
def sequencePart (span : Span) : List Part → Part
  | [] => .nothing span
  | [part] => part
  | run => .sequence span run.reverse

mutual

/-- Reads branches between bars, as far as a closing parenthesis or the end; `start` is where the
first of them starts, and `branches` are those that have been read, the latest one first. -/
def readBranches : Nat → Nat → List Part → Reader → Except Problem (Part × Reader)
  | 0, _, _, r => refuse .groupUnclosed r.here
  | fuel + 1, start, branches, r => do
    let (branch, r) ← readSequence fuel r.place [] r
    let branches := branch :: branches
    if r.at? '|' then readBranches fuel start branches r.next
    else
      match branches with
      | [branch] => return (branch, r)
      | branches => return (.choice (r.since start) branches.reverse, r)

/-- Reads a sequence that starts at `start`, as far as a bar, a closing parenthesis or the end;
`run` holds the parts that have been read, the latest one first. -/
def readSequence : Nat → Nat → List Part → Reader → Except Problem (Part × Reader)
  | 0, _, _, r => refuse .groupUnclosed r.here
  | fuel + 1, start, run, r => do
    let r := r.settle
    match r.rest with
    | [] => return (sequencePart (r.since start) run, r)
    | ')' :: _ => return (sequencePart (r.since start) run, r)
    | '|' :: _ => return (sequencePart (r.since start) run, r)
    | '(' :: _ =>
      let opening := r.char
      let (front, inner) ← readGroupFront r
      match front with
      | .flags changes =>
        let inner := { inner with loose := looseAfter inner.loose changes }
        readSequence fuel start (.flags (inner.since r.place) changes :: run) inner
      | .group changes =>
        let inner := { inner with loose := looseAfter inner.loose (changes.getD []) }
        let (part, close) ← readBranches fuel inner.place [] inner
        if close.atEnd then refuse .groupUnclosed opening
        else
          let behind := { close.next with loose := r.loose }
          readSequence fuel start (.group (behind.since r.place) changes part :: run) behind
    | '[' :: _ =>
      let (part, r) ← Bracket.read r
      readSequence fuel start (.charClass part :: run) r
    | '\x7b' :: _ =>
      let (part, run) ← takeLast run r
      let ((least, most), r) ← readCounts r
      readSequence fuel start (.repeated (r.since part.span.start) part least most :: run) r
    | c :: _ =>
      if c == '?' || c == '*' || c == '+' then
        let (part, run) ← takeLast run r
        let r := skipLazy r.next
        let least := if c == '+' then 1 else 0
        let most := if c == '?' then some 1 else none
        readSequence fuel start (.repeated (r.since part.span.start) part least most :: run) r
      else if c == '\\' then
        let (escape, r) ← readEscape r
        readSequence fuel start (escape.part :: run) r
      else
        let part := match c with
          | '.' => Part.dot r.char
          | '^' => .place r.char .lineStart
          | '$' => .place r.char .lineStop
          | c => .literal ⟨r.char, c, false⟩
        readSequence fuel start (part :: run) r.next

end

/-- Reads a whole pattern. -/
def Part.ofText (text : List Char) : Except Problem Part := do
  let (part, r) ← readBranches (2 * text.length + 2) 0 [] (.start text)
  -- only a parenthesis can be left over
  if !r.atEnd then refuse .groupUnopened r.char
  else
    part.checkDepth 0
    return part

end TwinFiles.Pattern
