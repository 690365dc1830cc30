import TwinFiles.Text.Decimal
import TwinFiles.Text.Hex
import TwinFiles.Text.Shapeless
import TwinFiles.Text.Utf8

/-!
# Quoted texts

A text between double quotes, with everything escaped that could not be told from its looks: quotes,
backslashes, controls and characters without a shape of their own. A path is quoted alike; in
addition its single quotes are escaped and its invalid bytes are shown one by one.
-/

namespace TwinFiles.Literal

/-- The lower-case hexadecimal digits of a number, without leading zeros. -/
def hexDigits (n : Nat) : Bytes :=
  (Nat.toDigits 16 n).map Char.toUInt8

/-- A character as it stands between quotes. -/
def character (bytes : Bytes) : Bytes :=
  match bytes with
  | [0x00] => utf8 "\\0"
  | [0x09] => utf8 "\\t"
  | [0x0A] => utf8 "\\n"
  | [0x0D] => utf8 "\\r"
  | [0x22] => utf8 "\\\""
  | [0x5C] => utf8 "\\\\"
  | _ =>
    let code := Utf8.codePoint bytes
    if Shapeless.contains code then utf8 "\\u\x7b" ++ hexDigits code ++ utf8 "\x7d" else bytes

/-- An invalid byte. -/
def broken (b : UInt8) : Bytes :=
  utf8 "\\x" ++ (Hex.encode [b]).map Ascii.toUpper

/-- A text between quotes. -/
def ofText (s : Bytes) : Bytes :=
  Ascii.quote :: ((Utf8.pieces s).flatMap fun
    | .character bytes => character bytes
    | .broken bytes => bytes.flatMap broken) ++ [Ascii.quote]

/-- A path between quotes. -/
def ofPath (p : Bytes) : Bytes :=
  Ascii.quote :: ((Utf8.pieces p).flatMap fun
    | .character [0x27] => utf8 "\\'"
    | .character bytes => character bytes
    | .broken bytes => bytes.flatMap broken) ++ [Ascii.quote]

/-- A truth value in words. -/
def ofBool (b : Bool) : Bytes :=
  if b then utf8 "true" else utf8 "false"

end TwinFiles.Literal
