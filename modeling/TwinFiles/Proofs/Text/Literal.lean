import TwinFiles.Proofs.Text.Boundary
import TwinFiles.Text.Literal

/-!
# Quoted texts are texts

Whatever bytes are quoted, the quoted form is UTF-8: characters are kept or escaped, and invalid
bytes are shown by their digits.
-/

namespace TwinFiles.Literal

theorem isAscii_hexDigits (n : Nat) : Utf8.IsAscii (hexDigits n) := by
  have hdigit : ∀ d < 16, (Nat.digitChar d).toUInt8 < 0x80 := by decide
  have hcore : ∀ fuel n : Nat, ∀ digits : List Char, (∀ c ∈ digits, c.toUInt8 < 0x80) →
      ∀ c ∈ Nat.toDigitsCore 16 fuel n digits, c.toUInt8 < 0x80 := by
    intro fuel
    induction fuel with
    | zero => exact fun _ _ h => h
    | succ fuel ih =>
      intro n digits h
      have hmore : ∀ c ∈ Nat.digitChar (n % 16) :: digits, c.toUInt8 < 0x80 :=
        List.forall_mem_cons.mpr ⟨hdigit _ (Nat.mod_lt n (by decide)), h⟩
      rw [Nat.toDigitsCore]
      split
      · exact hmore
      · exact ih _ _ hmore
  exact List.forall_mem_map.mpr (hcore _ _ _ (List.forall_mem_nil _))

theorem valid_character {bs : Bytes} (h : Utf8.IsCharacter bs) : Utf8.Valid (character bs) := by
  unfold character
  split
  case h_7 =>
    show Utf8.Valid (if Shapeless.contains (Utf8.codePoint bs) then _ else bs)
    split
    · refine Utf8.valid_of_isAscii ?_
      exact Utf8.isAscii_append (Utf8.isAscii_append (by decide) (isAscii_hexDigits _)) (by decide)
    · simpa using Utf8.valid_flatten (List.forall_mem_singleton.mpr h)
  all_goals decide

theorem isAscii_broken (b : UInt8) : Utf8.IsAscii (broken b) := by
  revert b
  apply Bytes.forall_byte
  decide +kernel

/-- The quoted form of any bytes is UTF-8. -/
theorem valid_ofText (s : Bytes) : Utf8.Valid (ofText s) := by
  unfold ofText
  refine (Utf8.valid_append_cons_iff (t := []) (by decide)).mpr
    ⟨(Utf8.valid_cons_iff (by decide)).mpr (Utf8.valid_flatMap fun piece hpiece => ?_), rfl⟩
  cases piece with
  | character bs => exact valid_character (Utf8.isCharacter_of_mem_pieces hpiece)
  | broken bs => exact Utf8.valid_flatMap fun b _ => Utf8.valid_of_isAscii (isAscii_broken b)

end TwinFiles.Literal
