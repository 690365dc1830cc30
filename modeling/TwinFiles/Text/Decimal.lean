import TwinFiles.Bytes

/-!
# Decimal text

Natural numbers are written without leading zeros. `read?` takes a run of digits for the number it
stands for. Numbers that are kept in words of 64 bits have bounds.
-/

namespace TwinFiles.Decimal

/-- The digits of a number before the text `tail`, the least significant one next to it. -/
def digitsOnto (n : Nat) (tail : Bytes) : Bytes :=
  let last := UInt8.ofNat (0x30 + n % 10)
  if n < 10 then last :: tail else digitsOnto (n / 10) (last :: tail)
termination_by n
decreasing_by omega

/-- A number in decimal digits, with no leading zero. -/
def text (n : Nat) : Bytes :=
  digitsOnto n []

/-- An integer in decimal digits, with a minus sign if it is negative. -/
def signed : Int → Bytes
  | .ofNat n => text n
  | .negSucc n => Ascii.dash :: text (n + 1)

/-- A number in at least `width` digits, filled up with zeros at the front. -/
def padded (width n : Nat) : Bytes :=
  List.replicate (width - (text n).length) 0x30 ++ text n

/-- The number that digits stand for when they follow the number `high`. -/
def readFrom (high : Nat) : Bytes → Option Nat
  | [] => some high
  | b :: rest =>
    if Ascii.isDigit b then readFrom (high * 10 + (b.toNat - 0x30)) rest else none

/-- The number that a text of one or more digits stands for. -/
def read? (s : Bytes) : Option Nat :=
  if s.isEmpty then none else readFrom 0 s

/-- The number fits an unsigned word of 64 bits. -/
def fitsUnsigned (n : Nat) : Bool :=
  n < Nat.pow 2 64

/-- The number fits a signed word of 64 bits. -/
def fitsSigned : Int → Bool
  | .ofNat n => n < Nat.pow 2 63
  | .negSucc n => n < Nat.pow 2 63

end TwinFiles.Decimal
