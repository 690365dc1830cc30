import TwinFiles.Pattern.Basic
import TwinFiles.Pattern.Problem

/-!
# Written patterns

The parts of a pattern as they are written, each with the place where it stands. What they mean
depends on the flags in force.
-/

namespace TwinFiles.Pattern

/-- A character that stands for itself, written as it is or by an escape. It `isByte` if it is
written as `\x` with two digits: where patterns are about bytes it is one then. -/
structure Literal where
  span : Span
  char : Char
  isByte : Bool
  deriving DecidableEq, Repr

/-- The kinds of characters that have an escape of one letter. -/
inductive Kind where
  | digit
  | blank
  | word
  deriving DecidableEq, Repr

/-- A property of characters that is asked for by its name. -/
structure PropertyQuery where
  span : Span
  name : List Char
  deriving DecidableEq, Repr

/-- Places as they are written; lines and words depend on the flags. -/
inductive WrittenPlace where
  | lineStart
  | lineStop
  | textStart
  | textStop
  | word (kind : WordPlace)
  deriving DecidableEq, Repr

/-- What makes one set of two. -/
inductive SetOperation where
  | inter
  | diff
  | symmDiff
  deriving DecidableEq, Repr

/-- The names that sets of ASCII characters have. -/
inductive AsciiName where
  | alnum
  | alpha
  | ascii
  | blank
  | cntrl
  | digit
  | graph
  | lower
  | print
  | punct
  | space
  | upper
  | word
  | xdigit
  deriving DecidableEq, Repr

/-- A part between brackets. -/
inductive ClassPart where
  | nothing (span : Span)
  | literal (literal : Literal)
  | range (span : Span) (low high : Literal)
  | named (span : Span) (name : AsciiName) (negated : Bool)
  | kind (span : Span) (kind : Kind) (negated : Bool)
  | property (query : PropertyQuery)
  | bracketed (span : Span) (negated : Bool) (inner : ClassPart)
  | union (span : Span) (parts : List ClassPart)
  | operation (span : Span) (operation : SetOperation) (left right : ClassPart)

/-- Where a part between brackets stands. -/
def ClassPart.span : ClassPart → Span
  | nothing s => s
  | literal l => l.span
  | range s _ _ => s
  | named s _ _ => s
  | kind s _ _ => s
  | property q => q.span
  | bracketed s _ _ => s
  | union s _ => s
  | operation s _ _ _ => s

/-- What flags can be set or cleared. -/
inductive Flag where
  | ignoreCase
  | multiLine
  | dotNewline
  | lazy
  | allScripts
  | returns
  | loose
  deriving DecidableEq, Repr

/-- Flags with their new values. -/
abbrev FlagChanges := List (Flag × Bool)

/-- A part of a written pattern. -/
inductive Part where
  | nothing (span : Span)
  | flags (span : Span) (changes : FlagChanges)
  | literal (literal : Literal)
  | dot (span : Span)
  | place (span : Span) (place : WrittenPlace)
  | kind (span : Span) (kind : Kind) (negated : Bool)
  | property (query : PropertyQuery)
  | charClass (part : ClassPart)
  | repeated (span : Span) (inner : Part) (least : Nat) (most : Option Nat)
  /-- A group; one without flags is remembered. -/
  | group (span : Span) (changes : Option FlagChanges) (inner : Part)
  | choice (span : Span) (parts : List Part)
  | sequence (span : Span) (parts : List Part)

/-- Where a part stands. -/
def Part.span : Part → Span
  | nothing s => s
  | flags s _ => s
  | literal l => l.span
  | dot s => s
  | place s _ => s
  | kind s _ _ => s
  | property q => q.span
  | charClass p => p.span
  | repeated s _ _ _ => s
  | group s _ _ => s
  | choice s _ => s
  | sequence s _ => s

/-! ## Depth -/

/-- What lies deeper than allowed is refused. -/
def checkDepth (depth : Nat) (span : Span) : Except Problem Unit :=
  if deepest ≤ depth then .error ⟨.tooDeep, span, none⟩ else .ok ()

mutual

/-- Refuses a part between brackets that, `depth` levels down, goes too deep. -/
def ClassPart.checkDepth (depth : Nat) : ClassPart → Except Problem Unit
  | bracketed span _ inner => do
    Pattern.checkDepth depth span
    inner.checkDepth (depth + 1)
  | union span parts => do
    Pattern.checkDepth depth span
    ClassPart.checkDepths (depth + 1) parts
  | operation span _ left right => do
    Pattern.checkDepth depth span
    left.checkDepth (depth + 1)
    right.checkDepth (depth + 1)
  | _ => .ok ()

def ClassPart.checkDepths (depth : Nat) : List ClassPart → Except Problem Unit
  | [] => .ok ()
  | part :: parts => do
    part.checkDepth depth
    ClassPart.checkDepths depth parts

end

mutual

/-- Refuses a part that, `depth` levels down, goes too deep. -/
def Part.checkDepth (depth : Nat) : Part → Except Problem Unit
  | charClass part => part.checkDepth depth
  | repeated span inner _ _ => do
    Pattern.checkDepth depth span
    inner.checkDepth (depth + 1)
  | group span _ inner => do
    Pattern.checkDepth depth span
    inner.checkDepth (depth + 1)
  | choice span parts => do
    Pattern.checkDepth depth span
    Part.checkDepths (depth + 1) parts
  | sequence span parts => do
    Pattern.checkDepth depth span
    Part.checkDepths (depth + 1) parts
  | _ => .ok ()

def Part.checkDepths (depth : Nat) : List Part → Except Problem Unit
  | [] => .ok ()
  | part :: parts => do
    part.checkDepth depth
    Part.checkDepths depth parts

end

end TwinFiles.Pattern
