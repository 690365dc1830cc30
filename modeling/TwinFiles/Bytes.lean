/-!
# Byte strings

Names, paths, file contents and everything that is printed are byte strings: a file system promises
no encoding, and a report is cut at any byte when its destination runs full. `utf8` gives the bytes
of a literal text.
-/

namespace TwinFiles

/-- A byte string. -/
abbrev Bytes := List UInt8

/-- The bytes of a text in UTF-8. -/
def utf8 (s : String) : Bytes :=
  s.toUTF8.data.toList

/-! ## Characters that have a meaning to paths and documents -/

namespace Ascii

@[match_pattern] abbrev nul : UInt8 := 0x00
@[match_pattern] abbrev tab : UInt8 := 0x09
@[match_pattern] abbrev newline : UInt8 := 0x0A
@[match_pattern] abbrev carriageReturn : UInt8 := 0x0D
@[match_pattern] abbrev escape : UInt8 := 0x1B
@[match_pattern] abbrev space : UInt8 := 0x20
@[match_pattern] abbrev quote : UInt8 := 0x22
@[match_pattern] abbrev comma : UInt8 := 0x2C
@[match_pattern] abbrev dash : UInt8 := 0x2D
@[match_pattern] abbrev dot : UInt8 := 0x2E
@[match_pattern] abbrev slash : UInt8 := 0x2F
@[match_pattern] abbrev backslash : UInt8 := 0x5C

/-- `0` to `9`. -/
def isDigit (b : UInt8) : Bool :=
  0x30 ≤ b && b ≤ 0x39

/-- The lower-case form of a letter `A` to `Z`; any other byte stays. -/
def toLower (b : UInt8) : UInt8 :=
  if 0x41 ≤ b && b ≤ 0x5A then b + 0x20 else b

/-- The upper-case form of a letter `a` to `z`; any other byte stays. -/
def toUpper (b : UInt8) : UInt8 :=
  if 0x61 ≤ b && b ≤ 0x7A then b - 0x20 else b

end Ascii

namespace Bytes

/-- The parts of a byte string between the occurrences of a byte: one part more than occurrences. -/
def splitOn (sep : UInt8) : Bytes → List Bytes
  | [] => [[]]
  | b :: rest =>
    if b = sep then [] :: splitOn sep rest
    else
      match splitOn sep rest with
      | [] => [[b]]
      | part :: parts => (b :: part) :: parts

/-- Parts put together with a separator between neighbours. -/
def join (sep : Bytes) : List Bytes → Bytes
  | [] => []
  | [part] => part
  | part :: next :: parts => part ++ sep ++ join sep (next :: parts)

/-- Order by the first byte that differs; a proper prefix comes first. -/
def le : Bytes → Bytes → Bool
  | [], _ => true
  | _ :: _, [] => false
  | a :: as, b :: bs => if a = b then le as bs else a < b

theorem splitOn_ne_nil (sep : UInt8) (s : Bytes) : splitOn sep s ≠ [] := by
  cases s with
  | nil => simp [splitOn]
  | cons b rest =>
    rw [splitOn]
    split
    · simp
    · split <;> simp

/-- Splitting loses nothing: the parts, joined again by the byte, are the string. -/
theorem join_splitOn (sep : UInt8) (s : Bytes) : join [sep] (splitOn sep s) = s := by
  induction s with
  | nil => rfl
  | cons b rest ih =>
    have hne := splitOn_ne_nil sep rest
    rw [splitOn]
    split
    · next h =>
      cases hs : splitOn sep rest with
      | nil => exact absurd hs hne
      | cons part parts => rw [hs] at ih; simp [join, ih, h]
    · cases hs : splitOn sep rest with
      | nil => exact absurd hs hne
      | cons part parts =>
        rw [hs] at ih
        cases parts with
        | nil => simpa [join] using ih
        | cons p ps => simpa [join] using ih

end Bytes

end TwinFiles
