import TwinFiles.Digest.Sha256
import TwinFiles.Text.Hex

/-!
# Content digests

A digest is thirty-two bytes. `Digest.of` takes the digest of a content, and two files are held to
have the same content when their digests are equal.
-/

namespace TwinFiles

/-- A digest of 256 bits. -/
structure Digest where
  bytes : Bytes
  length_eq : bytes.length = 32
  deriving DecidableEq

namespace Digest

/-- The digest of a content: its SHA-256 hash. -/
def of (content : Bytes) : Digest :=
  ⟨Sha256.hash content, Sha256.length_hash content⟩

/-- The digest that every empty file has. -/
def ofEmpty : Digest where
  bytes := [
    0xe3, 0xb0, 0xc4, 0x42, 0x98, 0xfc, 0x1c, 0x14, 0x9a, 0xfb, 0xf4, 0xc8, 0x99, 0x6f, 0xb9, 0x24,
    0x27, 0xae, 0x41, 0xe4, 0x64, 0x9b, 0x93, 0x4c, 0xa4, 0x95, 0x99, 0x1b, 0x78, 0x52, 0xb8, 0x55]
  length_eq := rfl

/-- Sixty-four lower-case hexadecimal digits. -/
def hex (d : Digest) : Bytes :=
  Hex.encode d.bytes

/-- The digest that a text of sixty-four digits stands for. -/
def ofHex? (s : Bytes) : Option Digest :=
  match Hex.decode s with
  | some bytes => if h : bytes.length = 32 then some ⟨bytes, h⟩ else none
  | none => none

theorem of_nil : Digest.of [] = ofEmpty := by
  decide +kernel

end Digest

end TwinFiles
