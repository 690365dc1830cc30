import TwinFiles.Pattern.CharSet

/-!
# Patterns

What a text is searched for: characters of a set, places between characters, and sequences, choices
and repetitions of these.
-/

namespace TwinFiles

/-- What there may be around a place: letters, digits and underscores make words. -/
inductive WordPlace where
  /-- A word starts or ends. -/
  | border
  | noBorder
  | start
  | stop
  /-- No word goes on from the left. -/
  | halfStart
  /-- No word goes on to the right. -/
  | halfStop
  deriving DecidableEq, Repr

/-- A kind of place between two characters. -/
inductive Place where
  | textStart
  | textStop
  /-- A line starts; a carriage return ends a line too if `returns` is set, but nothing lies between
  it and a newline. -/
  | lineStart (returns : Bool)
  | lineStop (returns : Bool)
  /-- A place in or around words, made of ASCII characters or of those of all scripts. -/
  | word (kind : WordPlace) (ascii : Bool)
  deriving DecidableEq, Repr

/-- A pattern. -/
inductive Pattern where
  /-- Nothing, at any place. -/
  | nothing
  /-- One character of a set. -/
  | oneOf (set : CharSet)
  /-- Nothing, at places of a kind. -/
  | anchor (place : Place)
  | sequence (first second : Pattern)
  | choice (first second : Pattern)
  /-- At least `least` times in a row and, if there is a bound, at most `most` times. -/
  | repeated (inner : Pattern) (least : Nat) (most : Option Nat)
  /-- A part whose place is to be remembered. -/
  | group (inner : Pattern)
  deriving DecidableEq, Repr

namespace Pattern

/-- The parts one after another. -/
def sequenceOf : List Pattern → Pattern
  | [] => nothing
  | [p] => p
  | p :: rest => sequence p (sequenceOf rest)

/-- Any one of the parts. -/
def choiceOf : List Pattern → Pattern
  | [] => nothing
  | [p] => p
  | p :: rest => choice p (choiceOf rest)

/-- The pattern takes up no character wherever it occurs. -/
def isWidthless : Pattern → Bool
  | nothing => true
  | oneOf _ => false
  | anchor _ => true
  | sequence p q => p.isWidthless && q.isWidthless
  | choice p q => p.isWidthless && q.isWidthless
  | repeated p _ _ => p.isWidthless
  | group p => p.isWidthless

/-- The pattern may take up no character. -/
def mayBeWidthless : Pattern → Bool
  | nothing => true
  | oneOf _ => false
  | anchor _ => true
  | sequence p q => p.mayBeWidthless && q.mayBeWidthless
  | choice p q => p.mayBeWidthless || q.mayBeWidthless
  | repeated p least _ => least == 0 || p.mayBeWidthless
  | group p => p.mayBeWidthless

/-- A repetition in its shortest form: one of no times is nothing, one of one time is the pattern
itself, and what takes up no character need not occur twice. -/
def times (p : Pattern) (least : Nat) (most : Option Nat) : Pattern :=
  let (least, most) :=
    if p.isWidthless then (min least 1, some (min (most.getD 1) 1)) else (least, most)
  if most = some 0 then nothing
  else if least = 1 ∧ most = some 1 then p
  else repeated p least most

/-- The pattern asks for places around words of all scripts. -/
def usesAllScripts : Pattern → Bool
  | nothing => false
  | oneOf _ => false
  | anchor (.word _ ascii) => !ascii
  | anchor _ => false
  | sequence p q => p.usesAllScripts || q.usesAllScripts
  | choice p q => p.usesAllScripts || q.usesAllScripts
  | repeated p _ _ => p.usesAllScripts
  | group p => p.usesAllScripts

end Pattern

end TwinFiles
