import TwinFiles.Text.Decimal

/-!
# Floating-point numbers as text

A number of 64 bits is a mantissa below 2^53 times a power of two. `ofDecimal` rounds a decimal
number to the nearest of them, a tie to the even mantissa; `text` writes the fewest decimal digits
that are rounded back to the number, in positional notation.
-/

namespace TwinFiles

/-- A floating-point number of 64 bits. -/
inductive Binary64 where
  | finite (negative : Bool) (mantissa : Nat) (exponent : Int)
  | infinite (negative : Bool)
  | nan
  deriving DecidableEq, Repr

namespace Binary64

/-- Mantissas lie below this. -/
def mantissaEnd : Nat := Nat.pow 2 53

/-- The exponent of the smallest and of the largest numbers. -/
def minExponent : Int := -1074
def maxExponent : Int := 971

/-- A ratio times a power, as a ratio. -/
def scaled (base : Nat) (power : Int) (ratio : Nat × Nat) : Nat × Nat :=
  if 0 ≤ power then (ratio.1 * Nat.pow base power.toNat, ratio.2)
  else (ratio.1, ratio.2 * Nat.pow base (-power).toNat)

/-- The nearest natural number to a ratio; of two, the even one. -/
def nearest (ratio : Nat × Nat) : Nat :=
  let whole := ratio.1 / ratio.2
  let twice := 2 * (ratio.1 % ratio.2)
  if twice < ratio.2 then whole
  else if ratio.2 < twice then whole + 1
  else whole + whole % 2

/-- The number nearest to a positive ratio. -/
def ofRatio (negative : Bool) (ratio : Nat × Nat) : Binary64 :=
  -- the logarithms are rounded down, so the quotient has 53 or 54 bits at the guess
  let guess := max minExponent ((Nat.log2 ratio.1 : Int) - (Nat.log2 ratio.2 : Int) - 53)
  let fits := (scaled 2 (-guess) ratio).1 / (scaled 2 (-guess) ratio).2 < mantissaEnd
  let exponent := if fits then guess else guess + 1
  let mantissa := nearest (scaled 2 (-exponent) ratio)
  -- rounding up can use one bit more
  let (mantissa, exponent) :=
    if mantissa = mantissaEnd then (mantissaEnd / 2, exponent + 1) else (mantissa, exponent)
  if maxExponent < exponent then infinite negative else finite negative mantissa exponent

/-- The number nearest to `digits · 10 ^ scale`. -/
def ofDecimal (negative : Bool) (digits : Nat) (scale : Int) : Binary64 :=
  let magnitude := ((Decimal.text digits).length : Int) + scale
  -- numbers far out of range are settled before their powers of ten are computed
  if digits = 0 ∨ magnitude < -400 then finite negative 0 minExponent
  else if 400 < magnitude then infinite negative
  else ofRatio negative (scaled 10 scale (digits, 1))

/-- The least power of ten, from `-n` on, that exceeds a ratio below one. -/
def leadingZeros : Nat → Nat × Nat → Nat
  | 0, _ => 0
  | n + 1, ratio =>
    if ratio.2 ≤ ratio.1 * 10 then 0 else leadingZeros n (ratio.1 * 10, ratio.2) + 1

/-- The number of digits before the point; zeros right after the point count below zero. -/
def magnitude (ratio : Nat × Nat) : Int :=
  if ratio.2 ≤ ratio.1 then (Decimal.text (ratio.1 / ratio.2)).length
  else -(leadingZeros 400 ratio : Int)

/-- A decimal number with a zero at its end made shorter by that zero. -/
def withoutZero (digits : Nat) (scale : Int) : Nat × Int :=
  if digits % 10 = 0 then (digits / 10, scale + 1) else (digits, scale)

/-- The nearer of the ratio's neighbours among decimals of `places` digits that is rounded to the
number, if there is one; of two alike the greater one. The greater neighbour can be the next power
of ten, which needs one digit less. -/
def candidate? (x : Binary64) (ratio : Nat × Nat) (places : Nat) : Option (Nat × Int) :=
  let scale := magnitude ratio - places
  let (num, den) := scaled 10 (-scale) ratio
  let low := num / den
  let readsBack := fun digits : Nat => ofDecimal false digits scale == x
  let lowIsNearer := 2 * (num % den) < den
  match readsBack low, readsBack (low + 1) with
  | true, true => some (withoutZero (if lowIsNearer then low else low + 1) scale)
  | true, false => some (withoutZero low scale)
  | false, true => some (withoutZero (low + 1) scale)
  | false, false => none

/-- The fewest digits that are rounded back to a positive number: `digits · 10 ^ scale`. -/
def shortest (mantissa : Nat) (exponent : Int) : Nat × Int :=
  let ratio := scaled 2 exponent (mantissa, 1)
  ((List.range 17).findSome? fun i =>
    candidate? (finite false mantissa exponent) ratio (i + 1)).getD (mantissa, 0)

/-- Digits with a point in their place and no exponent. -/
def positional (digits : Nat) (scale : Int) : Bytes :=
  let ds := Decimal.text digits
  if 0 ≤ scale then ds ++ List.replicate scale.toNat 0x30
  else
    let places := (-scale).toNat
    if places < ds.length then
      ds.take (ds.length - places) ++ Ascii.dot :: ds.drop (ds.length - places)
    else utf8 "0." ++ List.replicate (places - ds.length) 0x30 ++ ds

def sign (negative : Bool) : Bytes :=
  if negative then [Ascii.dash] else []

/-- A number as text. -/
def text : Binary64 → Bytes
  | finite negative 0 _ => sign negative ++ utf8 "0"
  | finite negative mantissa exponent =>
    let (digits, scale) := shortest mantissa exponent
    sign negative ++ positional digits scale
  | infinite negative => sign negative ++ utf8 "inf"
  | nan => utf8 "NaN"

end Binary64

end TwinFiles
