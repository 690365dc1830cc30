import TwinFiles.Digest.Basic

/-!
# Hexadecimal text and back

`Hex.decode` undoes `Hex.encode` (`decode_encode`), so a digest can be read off its text
(`Digest.ofHex?_hex`).
-/

namespace TwinFiles

/-- What holds of the first 256 numbers as bytes holds of every byte. -/
theorem Bytes.forall_byte {P : UInt8 → Prop} (h : ∀ n < 256, P (UInt8.ofNat n)) (b : UInt8) :
    P b := by
  have hb := h b.toNat b.toNat_lt
  rwa [UInt8.ofNat_toNat] at hb

namespace Hex

/-- The digits of a byte are read as its halves, which make up the byte. -/
theorem halves (b : UInt8) :
    value? (digit (b >>> 4)) = some (b >>> 4) ∧ value? (digit (b &&& 0x0F)) = some (b &&& 0x0F) ∧
      ((b >>> 4) <<< 4 ||| (b &&& 0x0F)) = b := by
  revert b
  apply Bytes.forall_byte
  decide +kernel

/-- What is encoded can be decoded. -/
theorem decode_encode (s : Bytes) : decode (encode s) = some s := by
  induction s with
  | nil => rfl
  | cons b rest ih =>
    obtain ⟨hhigh, hlow, hbyte⟩ := halves b
    show decode (digit (b >>> 4) :: digit (b &&& 0x0F) :: encode rest) = _
    rw [decode, hhigh, hlow, ih]
    simp only [hbyte]

/-- A decimal digit or one of the small letters up to `f`. -/
def IsSmallDigit (b : UInt8) : Prop :=
  0x30 ≤ b ∧ b ≤ 0x39 ∨ 0x61 ≤ b ∧ b ≤ 0x66

instance (b : UInt8) : Decidable (IsSmallDigit b) :=
  inferInstanceAs (Decidable (_ ∨ _))

/-- Hexadecimal text is made of digits and small letters. -/
theorem isSmallDigit_of_mem_encode {s : Bytes} {b : UInt8} (h : b ∈ encode s) :
    IsSmallDigit b := by
  have hdigits : ∀ c : UInt8,
      IsSmallDigit (digit (c >>> 4)) ∧ IsSmallDigit (digit (c &&& 0x0F)) := by
    apply Bytes.forall_byte
    decide +kernel
  obtain ⟨c, _, hb⟩ := List.mem_flatMap.mp h
  rcases List.mem_cons.mp hb with rfl | hb
  · exact (hdigits c).1
  · obtain rfl := List.mem_singleton.mp hb
    exact (hdigits c).2

theorem IsSmallDigit.range {b : UInt8} (h : IsSmallDigit b) : 0x30 ≤ b ∧ b < 0x80 := by
  revert b
  apply Bytes.forall_byte
  decide +kernel

theorem range_of_mem_encode {s : Bytes} {b : UInt8} (h : b ∈ encode s) : 0x30 ≤ b ∧ b < 0x80 :=
  (isSmallDigit_of_mem_encode h).range

/-- A byte takes two digits. -/
theorem length_encode (s : Bytes) : (encode s).length = 2 * s.length := by
  induction s with
  | nil => rfl
  | cons b rest ih =>
    show (encode rest).length + 2 = _
    rw [ih, List.length_cons]
    omega

/-- A number in hexadecimal digits has nothing else in it. -/
theorem digitValue?_of_number? {codes : List Nat} {n : Nat} (h : number? codes = some n) :
    ∀ code ∈ codes, ∃ value, digitValue? code = some value := by
  have hfold : ∀ (codes : List Nat) (start n : Nat),
      codes.foldlM (fun n code => (digitValue? code).map (n * 16 + ·)) start = some n →
      ∀ code ∈ codes, ∃ value, digitValue? code = some value := by
    intro codes
    induction codes with
    | nil => simp
    | cons code codes ih =>
      intro start n h
      rw [List.foldlM_cons] at h
      obtain ⟨next, hnext, h⟩ := Option.bind_eq_some_iff.mp h
      obtain ⟨value, hvalue, _⟩ := Option.map_eq_some_iff.mp hnext
      exact List.forall_mem_cons.mpr ⟨⟨value, hvalue⟩, ih next n h⟩
  exact hfold codes 0 n h

end Hex

theorem Digest.length_hex (d : Digest) : d.hex.length = 64 := by
  rw [hex, Hex.length_encode, d.length_eq]

/-- A digest can be read off its text. -/
theorem Digest.ofHex?_hex (d : Digest) : Digest.ofHex? d.hex = some d := by
  simp only [ofHex?, hex, Hex.decode_encode, d.length_eq, dif_pos]

end TwinFiles
