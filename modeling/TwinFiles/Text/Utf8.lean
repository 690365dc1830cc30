import TwinFiles.Bytes

/-!
# UTF-8 with invalid parts

`pieces` cuts a byte string, one byte at a time, into characters and maximal invalid parts: a part
is given up as soon as no character can start with it, and the byte that rules it out starts the
next piece. A text is `Valid` when every piece is a character. `lossy` writes U+FFFD for each
invalid part and keeps the characters, so it changes nothing in a valid text.
-/

namespace TwinFiles.Utf8

/-- A cut of a byte string: a character's bytes, or a maximal invalid part. -/
inductive Piece where
  | character (bytes : Bytes)
  | broken (bytes : Bytes)
  deriving DecidableEq, Repr

namespace Piece

/-- The bytes a piece covers. -/
def bytes : Piece → Bytes
  | character bs => bs
  | broken bs => bs

def isCharacter : Piece → Bool
  | character _ => true
  | broken _ => false

end Piece

/-- Where the cutting stands: between pieces, or inside a character that still owes `owed + 1`
bytes, the next of which has to lie between `low` and `high`. -/
inductive State where
  | between
  | within (held : Bytes) (owed : Nat) (low high : UInt8)

/-- The bytes of the unfinished character. -/
def State.held : State → Bytes
  | between => []
  | within held _ _ _ => held

/-- Takes the first byte of a piece. The bounds of the second byte rule out overlong forms,
surrogates and everything above U+10FFFF. -/
def start (b : UInt8) : List Piece × State :=
  if b < 0x80 then ([.character [b]], .between)
  else if b < 0xC2 then ([.broken [b]], .between)
  else if b < 0xE0 then ([], .within [b] 0 0x80 0xBF)
  else if b = 0xE0 then ([], .within [b] 1 0xA0 0xBF)
  else if b = 0xED then ([], .within [b] 1 0x80 0x9F)
  else if b < 0xF0 then ([], .within [b] 1 0x80 0xBF)
  else if b = 0xF0 then ([], .within [b] 2 0x90 0xBF)
  else if b < 0xF4 then ([], .within [b] 2 0x80 0xBF)
  else if b = 0xF4 then ([], .within [b] 2 0x80 0x8F)
  else ([.broken [b]], .between)

/-- Takes one byte: the pieces it completes and the state after it. -/
def step : State → UInt8 → List Piece × State
  | .between, b => start b
  | .within held owed low high, b =>
    if low ≤ b ∧ b ≤ high then
      match owed with
      | 0 => ([.character (held ++ [b])], .between)
      | n + 1 => ([], .within (held ++ [b]) n 0x80 0xBF)
    else
      (.broken held :: (start b).1, (start b).2)

/-- The pieces of a byte string from a state on. An unfinished character at the end is invalid. -/
def piecesFrom : State → Bytes → List Piece
  | .between, [] => []
  | .within held _ _ _, [] => [.broken held]
  | state, b :: rest => (step state b).1 ++ piecesFrom (step state b).2 rest

/-- The characters and the maximal invalid parts of a byte string, in order. -/
def pieces (s : Bytes) : List Piece :=
  piecesFrom .between s

/-- Every piece is a character. -/
def valid (s : Bytes) : Bool :=
  (pieces s).all Piece.isCharacter

/-- A byte string that is UTF-8 text. -/
abbrev Valid (s : Bytes) : Prop := valid s = true

/-- U+FFFD, written in place of an invalid part. -/
def replacement : Bytes := [0xEF, 0xBF, 0xBD]

/-- A piece as text. -/
def Piece.text : Piece → Bytes
  | .character bs => bs
  | .broken _ => replacement

/-- The text of a byte string, with U+FFFD for each maximal invalid part. -/
def lossy (s : Bytes) : Bytes :=
  (pieces s).flatMap Piece.text

/-- The code point that the bytes of a character stand for. -/
def codePoint : Bytes → Nat
  | [a] => a.toNat
  | [a, b] => (a.toNat % 32) * 64 + b.toNat % 64
  | [a, b, c] => (a.toNat % 16) * 4096 + (b.toNat % 64) * 64 + c.toNat % 64
  | [a, b, c, d] =>
    (a.toNat % 8) * 262144 + (b.toNat % 64) * 4096 + (c.toNat % 64) * 64 + d.toNat % 64
  | _ => 0xFFFD

/-- The bytes of a code point. -/
def encode (c : Char) : Bytes :=
  String.utf8EncodeChar c

/-- The character with a code point, unless that is a surrogate's or beyond the last one. -/
def character? (code : Nat) : Option Char :=
  if code < 0xD800 ∨ (0xE000 ≤ code ∧ code ≤ 0x10FFFF) then some (Char.ofNat code) else none

/-- The characters of a byte string, with U+FFFD for each maximal invalid part. -/
def chars (s : Bytes) : List Char :=
  (pieces s).map fun piece => Char.ofNat (codePoint piece.text)

/-- The bytes of a list of characters. -/
def ofChars (cs : List Char) : Bytes :=
  cs.flatMap encode

/-! ## Laws -/

theorem flatMap_bytes_start (b : UInt8) :
    (start b).1.flatMap Piece.bytes ++ (start b).2.held = [b] := by
  unfold start
  repeat' split
  all_goals rfl

theorem flatMap_bytes_step (state : State) (b : UInt8) :
    (step state b).1.flatMap Piece.bytes ++ (step state b).2.held = state.held ++ [b] := by
  cases state with
  | between => exact flatMap_bytes_start b
  | within held owed low high =>
    have hb := flatMap_bytes_start b
    unfold step
    simp only
    split
    · cases owed <;> simp [Piece.bytes, State.held]
    · simpa [Piece.bytes, State.held] using hb

/-- Cutting from a state loses no byte. -/
theorem flatMap_bytes_piecesFrom (state : State) (s : Bytes) :
    (piecesFrom state s).flatMap Piece.bytes = state.held ++ s := by
  induction s generalizing state with
  | nil => cases state <;> simp [piecesFrom, Piece.bytes, State.held]
  | cons b rest ih =>
    have hb := flatMap_bytes_step state b
    rw [piecesFrom, List.flatMap_append, ih, ← List.append_assoc, hb]
    simp

/-- The pieces, put together again, are the byte string. -/
theorem flatMap_bytes_pieces (s : Bytes) : (pieces s).flatMap Piece.bytes = s := by
  simp [pieces, flatMap_bytes_piecesFrom, State.held]

/-- A valid text is its own lossy form. -/
theorem lossy_of_valid {s : Bytes} (h : Valid s) : lossy s = s := by
  have key : ∀ ps : List Piece, ps.all Piece.isCharacter = true →
      ps.flatMap Piece.text = ps.flatMap Piece.bytes := by
    intro ps
    induction ps with
    | nil => intro _; rfl
    | cons p ps ih =>
      intro hp
      rw [List.all_cons, Bool.and_eq_true] at hp
      cases p with
      | character bs => simp [Piece.text, Piece.bytes, ih hp.2]
      | broken bs => exact absurd hp.1 (by simp [Piece.isCharacter])
  rw [lossy, key _ h, flatMap_bytes_pieces]

end TwinFiles.Utf8
