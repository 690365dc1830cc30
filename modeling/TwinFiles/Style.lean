import TwinFiles.Text.Decimal

/-!
# Decoration

A painted text stands between an escape sequence that opens its style and one that resets it. The
text itself is left as it is, also when it is empty. `strip` removes escape sequences again, and
`balanced` says that each style is reset before another is opened.
-/

namespace TwinFiles

/-- The styles in use. -/
inductive Style where
  | bold
  | red
  | green
  | yellow
  | cyan
  | boldRed
  | boldYellow
  deriving DecidableEq, Repr

namespace Style

/-- The numbers between the brackets of the opening sequence. -/
def codes : Style → Bytes
  | bold => utf8 "1"
  | red => utf8 "31"
  | green => utf8 "32"
  | yellow => utf8 "33"
  | cyan => utf8 "36"
  | boldRed => utf8 "1;31"
  | boldYellow => utf8 "1;33"

/-- An escape sequence with codes. -/
def sequence (codes : Bytes) : Bytes :=
  Ascii.escape :: utf8 "[" ++ codes ++ utf8 "m"

/-- The sequence that ends every style. -/
def reset : Bytes :=
  sequence (utf8 "0")

/-- A text in a style when color is on. -/
def paint (color : Bool) (style : Style) (text : Bytes) : Bytes :=
  if color then sequence style.codes ++ text ++ reset else text

/-! ## Reading decorated text -/

/-- Removes escape sequences; `inside` tells whether the text starts in one. -/
def stripFrom : Bool → Bytes → Bytes
  | _, [] => []
  | true, b :: rest => if b = 0x6D then stripFrom false rest else stripFrom true rest
  | false, b :: rest =>
    if b = Ascii.escape then stripFrom true rest else b :: stripFrom false rest

/-- A text without its escape sequences. -/
def strip (s : Bytes) : Bytes :=
  stripFrom false s

/-- The codes of the escape sequences of a text, in order: `inside` holds those of a sequence that
has begun. -/
def sequencesFrom : Option Bytes → Bytes → List Bytes
  | _, [] => []
  | some codes, b :: rest =>
    if b = 0x6D then codes :: sequencesFrom none rest else sequencesFrom (some (codes ++ [b])) rest
  | none, b :: rest =>
    if b = Ascii.escape then sequencesFrom (some []) rest else sequencesFrom none rest

/-- Openings and resets alternate, and a reset comes last. -/
def alternates : List Bytes → Bool
  | [] => true
  | [_] => false
  | opening :: closing :: rest =>
    opening != utf8 "[0" && closing == utf8 "[0" && alternates rest

/-- Every style is reset before another is opened and before the text ends. -/
def balanced (s : Bytes) : Bool :=
  alternates (sequencesFrom none s)

end Style

end TwinFiles
