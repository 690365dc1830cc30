import TwinFiles.Text.Utf8

/-!
# Blank characters

The characters that Unicode counts as white space, and texts without them at their ends.
-/

namespace TwinFiles.Blank

/-- White space in Unicode. -/
def isBlank (c : Char) : Bool :=
  let n := c.toNat
  (0x09 ≤ n && n ≤ 0x0D) || n == 0x20 || n == 0x85 || n == 0xA0 || n == 0x1680 ||
    (0x2000 ≤ n && n ≤ 0x200A) || n == 0x2028 || n == 0x2029 || n == 0x202F || n == 0x205F ||
    n == 0x3000

/-- Characters without white space at both ends. -/
def trimChars (cs : List Char) : List Char :=
  ((cs.dropWhile isBlank).reverse.dropWhile isBlank).reverse

/-- A text without white space at both ends. -/
def trim (s : Bytes) : Bytes :=
  Utf8.ofChars (trimChars (Utf8.chars s))

end TwinFiles.Blank
