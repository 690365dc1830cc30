import TwinFiles.Bytes

/-!
# Hexadecimal text

A byte is written as two lower-case digits, the high half first. Reading accepts such pairs in
either case, so `decode` undoes `encode`.
-/

namespace TwinFiles.Hex

/-- The lower-case digit of a value below sixteen. -/
def digit (n : UInt8) : UInt8 :=
  if n < 10 then 0x30 + n else 0x57 + n

/-- The value of a digit in either case. -/
def value? (b : UInt8) : Option UInt8 :=
  if 0x30 ≤ b ∧ b ≤ 0x39 then some (b - 0x30)
  else if 0x41 ≤ b ∧ b ≤ 0x46 then some (b - 0x37)
  else if 0x61 ≤ b ∧ b ≤ 0x66 then some (b - 0x57)
  else none

/-- The value of the digit with a code point, in either case. -/
def digitValue? (code : Nat) : Option Nat :=
  if 0x30 ≤ code ∧ code ≤ 0x39 then some (code - 0x30)
  else if 0x41 ≤ code ∧ code ≤ 0x46 then some (code - 0x37)
  else if 0x61 ≤ code ∧ code ≤ 0x66 then some (code - 0x57)
  else none

/-- The number that digits, given by their code points, stand for. -/
def number? (codes : List Nat) : Option Nat :=
  codes.foldlM (fun n code => (digitValue? code).map (n * 16 + ·)) 0

/-- Two digits for each byte. -/
def encode (s : Bytes) : Bytes :=
  s.flatMap fun (b : UInt8) => [digit (b >>> 4), digit (b &&& 0x0F)]

/-- The bytes that a text of digit pairs stands for. -/
def decode : Bytes → Option Bytes
  | [] => some []
  | [_] => none
  | high :: low :: rest =>
    match value? high, value? low, decode rest with
    | some h, some l, some bytes => some ((h <<< 4 ||| l) :: bytes)
    | _, _, _ => none

end TwinFiles.Hex
