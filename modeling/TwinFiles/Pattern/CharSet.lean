/-!
# Sets of characters

A set is kept as ranges of numbers, in ascending order with gaps between them. A character's number
is its code point, less the surrogates for those behind them, so that numbers have no holes and two
neighbours are always characters.
-/

namespace TwinFiles

/-- A set of characters. It is `caseClosed` if it is known to hold the other case of every letter in
it; a set without members is. -/
structure CharSet where
  ranges : List (Nat × Nat)
  caseClosed : Bool
  deriving DecidableEq, Repr

namespace CharSet

/-- The number of a character. -/
def number (c : Char) : Nat :=
  if c.toNat < 0xD800 then c.toNat else c.toNat - 0x800

/-- The number of the last character. -/
def last : Nat := 0x10F7FF

/-! ## Ranges -/

/-- Adds a range; ranges that it meets or touches become one with it. -/
def addRange (low high : Nat) : List (Nat × Nat) → List (Nat × Nat)
  | [] => [(low, high)]
  | (l, h) :: rest =>
    if high + 1 < l then (low, high) :: (l, h) :: rest
    else if h + 1 < low then (l, h) :: addRange low high rest
    else addRange (min low l) (max high h) rest

/-- What lies from `start` up to and including `stop` outside the ranges. -/
def gaps (start stop : Nat) : List (Nat × Nat) → List (Nat × Nat)
  | [] => if start ≤ stop then [(start, stop)] else []
  | (l, h) :: rest =>
    if start < l then (start, l - 1) :: gaps (h + 1) stop rest else gaps (h + 1) stop rest

/-- The part of a range that lies in ranges. -/
def cut (low high : Nat) (ranges : List (Nat × Nat)) : List (Nat × Nat) :=
  ranges.filterMap fun (l, h) =>
    if max low l ≤ min high h then some (max low l, min high h) else none

/-! ## Sets -/

/-- The set without members. -/
def empty : CharSet := ⟨[], true⟩

/-- All characters. -/
def full : CharSet := ⟨[(0, last)], true⟩

def isEmpty (s : CharSet) : Bool := s.ranges.isEmpty

/-- The character is a member. -/
def contains (s : CharSet) (c : Char) : Bool :=
  s.ranges.any fun (low, high) => decide (low ≤ number c ∧ number c ≤ high)

/-- Adds the characters from `low` to `high`. -/
def insert (s : CharSet) (low high : Char) : CharSet :=
  ⟨addRange (number low) (number high) s.ranges, false⟩

/-- One character alone. -/
def single (c : Char) : CharSet := empty.insert c c

/-- A set from ranges of characters. -/
def ofRanges (ranges : List (Char × Char)) : CharSet :=
  ranges.foldl (fun s (low, high) => s.insert low high) empty

/-- Members of either set. -/
def union (s t : CharSet) : CharSet :=
  if t.isEmpty || s.ranges == t.ranges then s
  else
    ⟨t.ranges.foldl (fun ranges (low, high) => addRange low high ranges) s.ranges,
      s.caseClosed && t.caseClosed⟩

/-- Members of both sets. -/
def inter (s t : CharSet) : CharSet :=
  if s.isEmpty || t.isEmpty then empty
  else ⟨s.ranges.flatMap fun (low, high) => cut low high t.ranges, s.caseClosed && t.caseClosed⟩

/-- Members of the first set alone. -/
def diff (s t : CharSet) : CharSet :=
  if s.isEmpty || t.isEmpty then s
  else
    ⟨s.ranges.flatMap fun (low, high) => cut low high (gaps 0 last t.ranges),
      s.caseClosed && t.caseClosed⟩

/-- Members of just one of the two sets. -/
def symmDiff (s t : CharSet) : CharSet :=
  (s.union t).diff (s.inter t)

/-- All characters outside the set. -/
def complement (s : CharSet) : CharSet :=
  if s.isEmpty then full else ⟨gaps 0 last s.ranges, s.caseClosed⟩

/-- The set with the other case of each ASCII letter in it. -/
def foldAscii (s : CharSet) : CharSet :=
  let shifted (low high : Char) (distance : Int) : List (Nat × Nat) :=
    (cut (number low) (number high) s.ranges).map fun (l, h) =>
      ((l + distance).toNat, (h + distance).toNat)
  s.union ⟨(shifted 'a' 'z' (-32) ++ shifted 'A' 'Z' 32).foldl
    (fun ranges (low, high) => addRange low high ranges) [], true⟩

/-- All members are ASCII. -/
def isAscii (s : CharSet) : Bool :=
  s.ranges.all fun (_, high) => high < 0x80

end CharSet

end TwinFiles
