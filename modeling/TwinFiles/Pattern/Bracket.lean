import TwinFiles.Pattern.Escape

/-!
# Brackets

A class of characters stands between brackets: characters, ranges, named sets, other classes and
operations on all of these. A closing bracket that comes first, and hyphens at the front, stand for
themselves.
-/

namespace TwinFiles.Pattern

def AsciiName.ofName? (name : List Char) : Option AsciiName :=
  match String.ofList name with
  | "alnum" => some .alnum
  | "alpha" => some .alpha
  | "ascii" => some .ascii
  | "blank" => some .blank
  | "cntrl" => some .cntrl
  | "digit" => some .digit
  | "graph" => some .graph
  | "lower" => some .lower
  | "print" => some .print
  | "punct" => some .punct
  | "space" => some .space
  | "upper" => some .upper
  | "word" => some .word
  | "xdigit" => some .xdigit
  | _ => none

namespace Bracket

/-- A named set, between brackets and colons; nothing if that is not what comes. -/
def named? (r : Reader) : Option (ClassPart × Reader) :=
  match r.rest with
  | '[' :: ':' :: rest =>
    let negated := rest.head? == some '^'
    let body := if negated then rest.drop 1 else rest
    let name := body.takeWhile (· != ':')
    match body.drop name.length, AsciiName.ofName? name with
    | ':' :: ']' :: _, some set =>
      let behind := r.skip ((if negated then 5 else 4) + name.length)
      some (.named (behind.since r.place) set negated, behind)
    | _, _ => none
  | _ => none

/-- Reads one character or escape. -/
def readItem (r : Reader) : Except Problem (Escape × Reader) :=
  match r.rest with
  | [] => refuse .classUnclosed r.here
  | '\\' :: _ => readEscape r
  | c :: _ => .ok (.literal ⟨r.char, c, false⟩, r.next)

/-- Reads a range, or a single character or escape. The class was opened at `opening`. -/
def readRange (opening : Span) (r : Reader) : Except Problem (ClassPart × Reader) := do
  let (first, r) ← readItem r
  let r := r.settle
  if r.atEnd then refuse .classUnclosed opening
  else if !r.at? '-' || r.peek? == some ']' || r.peek? == some '-' then
    return (← first.classPart, r)
  else
    let r := r.advance
    if r.atEnd then refuse .classUnclosed opening
    else
      let (second, r) ← readItem r
      let low ← first.bound
      let high ← second.bound
      let span : Span := ⟨first.span.start, second.span.stop⟩
      if high.char < low.char then refuse .classRangeOrder span
      else return (.range span low high, r)

/-- A class that is being read: where it starts, what its opening takes, whether it is negated,
where its current run of parts starts, and that run, the latest part first. -/
structure Opened where
  start : Nat
  opening : Span
  negated : Bool
  runStart : Nat
  run : List ClassPart
  /-- What stands in front of the run, and the operation between the two. -/
  pending : Option (SetOperation × ClassPart)

namespace Opened

/-- The run as one part. -/
def runPart (o : Opened) : ClassPart :=
  match o.run with
  | [] => .nothing ⟨o.runStart, o.runStart⟩
  | [part] => part
  | last :: rest =>
    .union ⟨((rest.getLast?.getD last).span).start, last.span.stop⟩ (last :: rest).reverse

/-- All parts up to here as one part. -/
def part (o : Opened) : ClassPart :=
  let right := o.runPart
  match o.pending with
  | none => right
  | some (operation, left) =>
    .operation ⟨left.span.start, right.span.stop⟩ operation left right

/-- Adds a part to the run. -/
def add (o : Opened) (part : ClassPart) : Opened :=
  { o with run := part :: o.run }

/-- Ends the run with an operation; the next one starts at `place`. -/
def operate (o : Opened) (operation : SetOperation) (place : Nat) : Opened :=
  { o with pending := some (operation, o.part), run := [], runStart := place }

end Opened

/-- Reads the hyphens at the front of a class that starts at `start`, the latest one first. -/
def readHyphens (start : Nat) :
    Nat → List ClassPart → Reader → Except Problem (List ClassPart × Reader)
  | 0, run, r => .ok (run, r)
  | fuel + 1, run, r =>
    if !r.at? '-' then .ok (run, r)
    else
      let behind := r.advance
      if behind.atEnd then refuse .classUnclosed ⟨start, start⟩
      else readHyphens start fuel (.literal ⟨r.char, '-', false⟩ :: run) behind

/-- Reads the front of a class; the reader stands at the bracket. -/
def readOpening (r : Reader) : Except Problem (Opened × Reader) := do
  let start := r.place
  let r := r.advance
  if r.atEnd then refuse .classUnclosed (r.since start)
  else
    let negated := r.at? '^'
    let r := if negated then r.advance else r
    if r.atEnd then refuse .classUnclosed (r.since start)
    else
      let runStart := r.place
      let (run, r) ← readHyphens start r.rest.length [] r
      let closing := run.isEmpty && r.at? ']'
      let run := if closing then [.literal ⟨r.char, ']', false⟩] else run
      let r := if closing then r.advance else r
      if r.atEnd then refuse .classUnclosed (r.since start)
      else return (⟨start, r.since start, negated, runStart, run, none⟩, r)

mutual

/-- Reads a class; the reader stands at the bracket. -/
def readClass : Nat → Reader → Except Problem (ClassPart × Reader)
  | 0, r => refuse .classUnclosed r.here
  | fuel + 1, r => do
    let (o, r) ← readOpening r
    readParts fuel o r

/-- Reads the parts of a class up to the closing bracket. -/
def readParts : Nat → Opened → Reader → Except Problem (ClassPart × Reader)
  | 0, o, _ => refuse .classUnclosed o.opening
  | fuel + 1, o, r => do
    let r := r.settle
    match r.rest with
    | [] => refuse .classUnclosed o.opening
    | '[' :: _ =>
      match named? r with
      | some (part, r) => readParts fuel (o.add part) r
      | none =>
        let (part, r) ← readClass fuel r
        readParts fuel (o.add part) r
    | ']' :: _ =>
      let r := r.next
      return (.bracketed (r.since o.start) o.negated o.part, r)
    | '&' :: '&' :: _ =>
      let r := r.skip 2
      readParts fuel (o.operate .inter r.place) r
    | '-' :: '-' :: _ =>
      let r := r.skip 2
      readParts fuel (o.operate .diff r.place) r
    | '~' :: '~' :: _ =>
      let r := r.skip 2
      readParts fuel (o.operate .symmDiff r.place) r
    | _ =>
      let (part, r) ← readRange o.opening r
      readParts fuel (o.add part) r

end

/-- Reads a class; the reader stands at the bracket. -/
def read (r : Reader) : Except Problem (ClassPart × Reader) :=
  readClass (2 * r.rest.length + 2) r

end Bracket

end TwinFiles.Pattern
