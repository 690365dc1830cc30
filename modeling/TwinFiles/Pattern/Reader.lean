import TwinFiles.Pattern.Written
import TwinFiles.Text.Blank

/-!
# Reading through a pattern

A reader stands at a place in a written pattern. Where the flag for it is set, white space and
comments, from a number sign to the end of the line, mean nothing and are passed over.
-/

namespace TwinFiles.Pattern

/-- How far a pattern has been read. -/
structure Reader where
  /-- How many characters lie behind. -/
  place : Nat
  rest : List Char
  /-- White space and comments mean nothing. -/
  loose : Bool
  /-- The names of groups so far. -/
  names : List (List Char × Span)

namespace Reader

/-- A reader at the start of a pattern. -/
def start (text : List Char) : Reader := ⟨0, text, false, []⟩

def atEnd (r : Reader) : Bool := r.rest.isEmpty

/-- The next character is `c`. -/
def at? (r : Reader) (c : Char) : Bool := r.rest.head? == some c

/-- Passes one character. -/
def next (r : Reader) : Reader :=
  { r with place := r.place + 1, rest := r.rest.drop 1 }

/-- Passes some characters. -/
def skip (r : Reader) (n : Nat) : Reader :=
  { r with place := r.place + n, rest := r.rest.drop n }

/-- How many characters of white space and comments stand at the front of a text. -/
def blanks (inComment : Bool) : List Char → Nat
  | [] => 0
  | c :: rest =>
    if inComment then blanks (c != '\n') rest + 1
    else if Blank.isBlank c then blanks false rest + 1
    else if c == '#' then blanks true rest + 1
    else 0

/-- Passes what means nothing. -/
def settle (r : Reader) : Reader :=
  if r.loose then r.skip (blanks false r.rest) else r

/-- Passes one character and what means nothing behind it. -/
def advance (r : Reader) : Reader := r.next.settle

/-- The empty part at the place of the reader. -/
def here (r : Reader) : Span := ⟨r.place, r.place⟩

/-- The part that the next character takes. -/
def char (r : Reader) : Span := ⟨r.place, r.place + 1⟩

/-- The part from a place up to the reader. -/
def since (r : Reader) (start : Nat) : Span := ⟨start, r.place⟩

/-- What comes behind the next character, white space and the sign of one comment left aside. -/
def peek? (r : Reader) : Option Char :=
  let rest := r.rest.drop 1
  if r.loose then
    match rest.dropWhile Blank.isBlank with
    | '#' :: rest => (rest.dropWhile Blank.isBlank).head?
    | rest => rest.head?
  else rest.head?

/-- Passes a word if it comes next. -/
def after? (r : Reader) (word : String) : Option Reader :=
  if word.toList.isPrefixOf r.rest then some (r.skip word.length) else none

end Reader

end TwinFiles.Pattern
