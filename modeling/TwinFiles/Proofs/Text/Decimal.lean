import TwinFiles.Proofs.Text.Utf8
import TwinFiles.Text.Decimal

/-!
# Decimal text and back

`Decimal.read?` undoes `Decimal.text` (`read?_text`). The text of a number is a run of digits, has
at least one of them, and starts with a zero only if it is that of zero.
-/

namespace TwinFiles.Decimal

/-- The byte of a digit. -/
theorem toNat_digit (n : Nat) : (UInt8.ofNat (0x30 + n % 10)).toNat = 0x30 + n % 10 := by
  rw [UInt8.toNat_ofNat']
  omega

theorem isDigit_iff (b : UInt8) : Ascii.isDigit b = true ↔ 0x30 ≤ b.toNat ∧ b.toNat ≤ 0x39 := by
  simp [Ascii.isDigit, UInt8.le_iff_toNat_le]

theorem isDigit_digit (n : Nat) : Ascii.isDigit (UInt8.ofNat (0x30 + n % 10)) = true := by
  rw [isDigit_iff, toNat_digit]
  omega

/-- The digits of a number in front of a tail, the first of them split off. It is no zero unless the
number is zero. -/
theorem digitsOnto_eq (n : Nat) (tail : Bytes) :
    ∃ first others, digitsOnto n tail = first :: others ++ tail ∧
      (∀ b ∈ first :: others, Ascii.isDigit b = true) ∧
      (first = 0x30 → n = 0 ∧ others = []) := by
  induction n using Nat.strongRecOn generalizing tail with
  | ind n ih =>
    rw [digitsOnto]
    by_cases hsmall : n < 10
    · rw [if_pos hsmall]
      refine ⟨UInt8.ofNat (0x30 + n % 10), [], rfl, ?_, ?_⟩
      · intro b hb
        rw [List.mem_singleton.mp hb]
        exact isDigit_digit n
      · intro hzero
        have hvalue := toNat_digit n
        rw [hzero] at hvalue
        have hthirty : (0x30 : UInt8).toNat = 0x30 := rfl
        exact ⟨by omega, rfl⟩
    · rw [if_neg hsmall]
      obtain ⟨first, others, heq, hdigits, hfirst⟩ :=
        ih (n / 10) (by omega) (UInt8.ofNat (0x30 + n % 10) :: tail)
      refine ⟨first, others ++ [UInt8.ofNat (0x30 + n % 10)], ?_, ?_, ?_⟩
      · rw [heq]
        simp
      · intro b hb
        rw [← List.cons_append, List.mem_append] at hb
        rcases hb with hb | hb
        · exact hdigits b hb
        · rw [List.mem_singleton.mp hb]
          exact isDigit_digit n
      · -- the number without its last digit is not zero
        intro hzero
        have hnone := (hfirst hzero).1
        omega

/-- The text of a number: digits, of which the first is a zero for the number zero alone. -/
theorem text_eq (n : Nat) :
    ∃ first others, text n = first :: others ∧
      (∀ b ∈ first :: others, Ascii.isDigit b = true) ∧ (first = 0x30 → others = []) := by
  obtain ⟨first, others, heq, hdigits, hfirst⟩ := digitsOnto_eq n []
  rw [List.append_nil] at heq
  exact ⟨first, others, heq, hdigits, fun hzero => (hfirst hzero).2⟩

theorem text_ne_nil (n : Nat) : text n ≠ [] := by
  obtain ⟨first, others, heq, _⟩ := text_eq n
  simp [heq]

theorem isDigit_of_mem_text {n : Nat} {b : UInt8} (h : b ∈ text n) : Ascii.isDigit b = true := by
  obtain ⟨first, others, heq, hdigits, _⟩ := text_eq n
  rw [heq] at h
  exact hdigits b h

/-- The text of a number starts with a digit. -/
theorem text_append_ne_cons {b : UInt8} (h : Ascii.isDigit b = false) (n : Nat)
    (tail rest : Bytes) : text n ++ tail ≠ b :: rest := by
  obtain ⟨first, others, heq, hdigits, _⟩ := text_eq n
  have hfirst : Ascii.isDigit first = true := hdigits first List.mem_cons_self
  rw [heq]
  intro he
  rw [(List.cons.inj he).1, h] at hfirst
  cases hfirst

/-- Reading the digits of a number and a tail is reading the tail behind that number. -/
theorem readFrom_digitsOnto (n : Nat) (tail : Bytes) :
    readFrom 0 (digitsOnto n tail) = readFrom n tail := by
  induction n using Nat.strongRecOn generalizing tail with
  | ind n ih =>
    have hlast : ∀ high, readFrom high (UInt8.ofNat (0x30 + n % 10) :: tail) =
        readFrom (high * 10 + n % 10) tail := by
      intro high
      rw [readFrom, if_pos (isDigit_digit n), toNat_digit, Nat.add_sub_cancel_left]
    rw [digitsOnto]
    by_cases hsmall : n < 10
    · rw [if_pos hsmall, hlast, Nat.mod_eq_of_lt hsmall, Nat.zero_mul, Nat.zero_add]
    · rw [if_neg hsmall, ih (n / 10) (by omega), hlast, Nat.div_add_mod']

/-- The text of a number is read as that number. -/
theorem read?_text (n : Nat) : read? (text n) = some n := by
  have hne : ¬ (text n).isEmpty = true := by simp [text_ne_nil]
  rw [read?, if_neg hne, text, readFrom_digitsOnto]
  rfl

/-- Reading digits adds them up. -/
theorem readFrom_eq_foldl {s : Bytes} (h : ∀ b ∈ s, Ascii.isDigit b = true) (high : Nat) :
    readFrom high s = some (s.foldl (fun n b => n * 10 + (b.toNat - 0x30)) high) := by
  induction s generalizing high with
  | nil => rfl
  | cons b rest ih =>
    rw [readFrom, if_pos (h b List.mem_cons_self),
      ih fun c hc => h c (List.mem_cons_of_mem _ hc)]
    rfl

/-- The digits of a number, added up, are the number. -/
theorem foldl_text (n : Nat) :
    (text n).foldl (fun n b => n * 10 + (b.toNat - 0x30)) 0 = n := by
  have hread : readFrom 0 (text n) = some n := by
    rw [text, readFrom_digitsOnto]
    rfl
  rw [readFrom_eq_foldl fun b hb => isDigit_of_mem_text hb] at hread
  exact Option.some.inj hread

/-! ## Numerals are ASCII -/

theorem isAscii_text (n : Nat) : Utf8.IsAscii (text n) := by
  intro b hb
  have hdigit := (isDigit_iff b).mp (isDigit_of_mem_text hb)
  rw [UInt8.lt_iff_toNat_lt]
  exact Nat.lt_of_le_of_lt hdigit.2 (by decide)

theorem isAscii_padded (width n : Nat) : Utf8.IsAscii (padded width n) := by
  refine Utf8.isAscii_append ?_ (isAscii_text n)
  intro b hb
  rw [List.eq_of_mem_replicate hb]
  decide

theorem isAscii_signed (n : Int) : Utf8.IsAscii (signed n) := by
  cases n with
  | ofNat n => exact isAscii_text n
  | negSucc n => exact List.forall_mem_cons.mpr ⟨by decide, isAscii_text _⟩

end TwinFiles.Decimal
