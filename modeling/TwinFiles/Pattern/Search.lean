import TwinFiles.Pattern.Basic

/-!
# Searching for patterns

The occurrences of a pattern are followed through the text all at once: from a set of places where
they may have started to the set of places where they may end.
-/

namespace TwinFiles

/-- A character of a word in ASCII. -/
def Place.isWordChar (c : Char) : Bool :=
  c.isAlphanum || c == '_'

/-- The place between the characters `before` and `after`, where there are any, is of the kind.
Words are those of ASCII. -/
def Place.holds (before after : Option Char) : Place → Bool
  | textStart => before.isNone
  | textStop => after.isNone
  | lineStart false => before.all (· == '\n')
  | lineStop false => after.all (· == '\n')
  | lineStart true => before.all fun c => c == '\n' || (c == '\r' && !after.any (· == '\n'))
  | lineStop true => after.all fun c => c == '\r' || (c == '\n' && !before.any (· == '\r'))
  | word kind _ =>
    let left := before.any isWordChar
    let right := after.any isWordChar
    match kind with
    | .border => left != right
    | .noBorder => left == right
    | .start => !left && right
    | .stop => left && !right
    | .halfStart => !left
    | .halfStop => !right

namespace Pattern

/-- Two ascending lists of places as one. -/
def merge : List Nat → List Nat → List Nat
  | [], places => places
  | place :: rest, others =>
    let (before, behind) := (others.takeWhile (· < place), others.dropWhile (· < place))
    before ++ place :: merge rest (behind.dropWhile (· == place))

/-- Does a step `n` times, or until it changes nothing. -/
def iterate (step : List Nat → List Nat) : Nat → List Nat → List Nat
  | 0, places => places
  | n + 1, places =>
    let next := step places
    if next == places then places else iterate step n next

/-- The places that up to `n` more steps lead to: `seen` have been reached, those in `fresh` by the
last step. A place that is reached again leads nowhere new. -/
def reach (step : List Nat → List Nat) : Nat → List Nat → List Nat → List Nat
  | 0, seen, _ => seen
  | n + 1, seen, fresh =>
    match (step fresh).filter (!seen.contains ·) with
    | [] => seen
    | next => reach step n (merge seen next) next

/-- The places where occurrences end that start at one of the given places, ascending. Of more than
`text.size` steps in a row one leads nowhere and can be done any number of times, so counts beyond
that number make no difference. -/
def ends (text : Array Char) : Pattern → List Nat → List Nat
  | nothing, places => places
  | oneOf set, places =>
    places.filterMap fun i => if text[i]?.any set.contains then some (i + 1) else none
  | anchor place, places =>
    places.filter fun i => place.holds (if i = 0 then none else text[i - 1]?) text[i]?
  | sequence p q, places => ends text q (ends text p places)
  | choice p q, places => merge (ends text p places) (ends text q places)
  | repeated p least most, places =>
    let enough := text.size + 1
    let more := match most with
      | some most => min (most - least) enough
      | none => enough
    let first := iterate (ends text p) (min least enough) places
    reach (ends text p) more first first
  | group p, places => ends text p places

/-- The pattern occurs somewhere in a text. -/
def occursIn (p : Pattern) (text : List Char) : Bool :=
  !(ends text.toArray p (List.range (text.length + 1))).isEmpty

end Pattern

end TwinFiles
