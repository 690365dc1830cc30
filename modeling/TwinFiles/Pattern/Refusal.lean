import TwinFiles.Pattern.Meaning
import TwinFiles.Pattern.Parser

/-!
# Patterns that are accepted

A written pattern is refused if something is wrong with it, if it asks for words of all scripts, or
if the machine that would search for it is too large. That machine has a state for each step: those
of a repetition are there as often as it may go on, and a reverse one is built beside it.
-/

namespace TwinFiles.Pattern

/-! ## Size -/

/-- What one state of a machine takes. -/
def stateSize : Nat := 32

/-- The most that a machine may take. -/
def largestSize : Nat := 10485760

/-- How many bytes of UTF-8 the character with a number takes. -/
def byteCount (number : Nat) : Nat :=
  if number < 0x80 then 1
  else if number < 0x800 then 2
  else if number < 0xF800 then 3
  else 4

/-- About how much the machine for a pattern takes, if one set with characters beyond ASCII takes
`wide` and remembering the place of a group takes `remembering`. -/
def size (wide remembering : Nat) : Pattern → Nat
  | nothing => stateSize
  | oneOf set =>
    match set.ranges with
    | [(low, high)] =>
      if low = high then byteCount low * stateSize
      else if high < 0x80 then 2 * stateSize + 8
      else wide
    | ranges => if set.isAscii then 2 * stateSize + 8 * ranges.length else wide
  | anchor _ => stateSize
  | sequence p q => p.size wide remembering + q.size wide remembering
  | choice p q => p.size wide remembering + q.size wide remembering + stateSize
  | repeated p least none =>
    let once := p.size wide remembering
    if least = 0 then
      if p.mayBeWidthless then once + 3 * stateSize + 16 else once + stateSize + 8
    else least * once + stateSize + 8
  | repeated p least (some most) =>
    let once := p.size wide remembering
    if most ≤ least then least * once
    else least * once + (most - least) * (once + stateSize + 8) + stateSize
  | group p => p.size wide remembering + remembering

/-- What a machine takes beside the states for its pattern. -/
def frameSize : Nat := 8 * stateSize

/-- The machine for a pattern is too large. -/
def isTooLarge (p : Pattern) : Bool :=
  largestSize < p.size 416 (2 * stateSize) + frameSize

/-- The reverse machine for a pattern is too large. -/
def isTooLargeReversed (p : Pattern) : Bool :=
  largestSize < p.size 1000 0 + frameSize

/-! ## Refusals -/

/-- Why a written pattern is refused. -/
inductive Refusal where
  | problem (problem : Problem)
  | words
  | tooLarge
  deriving DecidableEq, Repr

/-- The reason in words, for a written pattern. -/
def Refusal.message (text : List Char) : Refusal → Bytes
  | problem p => p.message text
  | words => utf8 "error building NFA"
  | tooLarge =>
    utf8 "Compiled regex exceeds size limit of " ++ Decimal.text largestSize ++ utf8 " bytes."

/-- The pattern that a text describes. -/
def ofText (text : List Char) : Except Refusal Pattern := do
  let part ← (Part.ofText text).mapError .problem
  let (p, _) ← (part.meaning .initial).mapError .problem
  if p.isTooLarge then .error .tooLarge
  else if p.usesAllScripts then .error .words
  else if p.isTooLargeReversed then .error .tooLarge
  else return p

end TwinFiles.Pattern
