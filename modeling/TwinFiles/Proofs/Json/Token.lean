import TwinFiles.Json.Parser
import TwinFiles.Json.Printer
import TwinFiles.Proofs.Text.Decimal
import TwinFiles.Proofs.Text.Hex

/-!
# Tokens of JSON text and back

Blanks are skipped up to a token (`skipBlanks_append_cons`). A string is read back up to its closing
quote (`readText_quoted`), since each character is read back from its escaped form; a number is read
back in front of anything that may follow a value (`readNumber_numeral`).
-/

namespace TwinFiles.Json

/-! ## Blanks -/

/-- Nothing but blanks. -/
def Blanks (s : Bytes) : Prop :=
  ∀ b ∈ s, isBlank b = true

/-- A layout that puts nothing but blanks between tokens. -/
structure Layout.Blank (layout : Layout) : Prop where
  gap : ∀ level, Blanks (layout.gap level)
  colon : ∃ after, layout.colon = 0x3A :: after ∧ Blanks after

theorem blanks_nil : Blanks [] := by
  simp [Blanks]

theorem compact_blank : Layout.compact.Blank :=
  ⟨fun _ => blanks_nil, [], rfl, blanks_nil⟩

theorem pretty_blank : Layout.pretty.Blank := by
  refine ⟨?_, [0x20], rfl, by simp [Blanks, isBlank]⟩
  intro level b hb
  rcases List.mem_cons.mp hb with rfl | hb
  · rfl
  · rw [List.eq_of_mem_replicate hb]
    rfl

theorem skipBlanks_append {blanks : Bytes} (h : Blanks blanks) (s : Bytes) :
    skipBlanks (blanks ++ s) = skipBlanks s := by
  induction blanks with
  | nil => rfl
  | cons b blanks ih =>
    have hb : isBlank b = true := h b List.mem_cons_self
    rw [List.cons_append, skipBlanks, List.dropWhile_cons_of_pos hb]
    exact ih fun c hc => h c (List.mem_cons_of_mem _ hc)

theorem skipBlanks_cons {b : UInt8} (h : isBlank b = false) (s : Bytes) :
    skipBlanks (b :: s) = b :: s :=
  List.dropWhile_cons_of_neg (by simp [h])

/-- Blanks, and then a byte that is none. -/
theorem skipBlanks_append_cons {blanks : Bytes} (h : Blanks blanks) {b : UInt8}
    (hb : isBlank b = false) (s : Bytes) : skipBlanks (blanks ++ b :: s) = b :: s := by
  rw [skipBlanks_append h, skipBlanks_cons hb]

/-- What may follow a value: nothing, a blank, a comma or a closing bracket. -/
def Ends (rest : Bytes) : Prop :=
  ∀ b, rest.head? = some b → isBlank b = true ∨ b = 0x2C ∨ b = 0x5D ∨ b = 0x7D

theorem ends_nil : Ends [] := by
  simp [Ends]

theorem ends_cons {b : UInt8} (h : b = 0x2C ∨ b = 0x5D ∨ b = 0x7D) (tail : Bytes) :
    Ends (b :: tail) := by
  intro c hc
  exact .inr (Option.some.inj hc ▸ h)

/-- Blanks end a value, and so does what follows them. -/
theorem ends_append {blanks : Bytes} (h : Blanks blanks) {rest : Bytes} (hrest : Ends rest) :
    Ends (blanks ++ rest) := by
  cases blanks with
  | nil => exact hrest
  | cons b blanks =>
    intro c hc
    rw [List.cons_append, List.head?_cons, Option.some.injEq] at hc
    exact .inl (hc ▸ h b List.mem_cons_self)

/-- No byte of a number ends a value. -/
theorem Ends.head_ne {b : UInt8} {tail : Bytes} (h : Ends (b :: tail)) :
    Ascii.isDigit b = false ∧ b ≠ 0x2E ∧ b ≠ 0x65 ∧ b ≠ 0x45 := by
  have hbyte := h b rfl
  simp only [isBlank, Bool.or_eq_true, beq_iff_eq, or_assoc] at hbyte
  rcases hbyte with rfl | rfl | rfl | rfl | rfl | rfl | rfl <;> decide

/-! ## Strings -/

theorem readString_plain {b : UInt8} (hquote : b ≠ 0x22) (hslash : b ≠ 0x5C) (hctl : ¬ b < 0x20)
    (rest : Bytes) :
    readString (b :: rest) = (readString rest).map fun (text, after) => (b :: text, after) := by
  rw [readString.eq_4 b rest (fun _ _ _ _ _ h => absurd h hslash) fun _ _ h => absurd h hslash,
    if_neg hquote, if_neg (not_or.mpr ⟨hslash, hctl⟩)]

theorem readString_escape {b c : UInt8} (h : unescaped? b = some c) (rest : Bytes) :
    readString (0x5C :: b :: rest) =
      (readString rest).map fun (text, after) => (c :: text, after) := by
  have hunit : unescaped? 0x75 = none := by decide
  have hb : b ≠ 0x75 := by
    rintro rfl
    rw [hunit] at h
    cases h
  rw [readString.eq_3 b rest fun _ _ _ _ _ he => absurd he hb, h]

/-- A control character is written as its unit, and the unit is read as that character. -/
theorem unit_of_control (b : UInt8) (h : b < 0x20) :
    hexUnit? 0x30 0x30 (Hex.digit (b >>> 4)) (Hex.digit (b &&& 0x0F)) = some b.toNat ∧
      Utf8.encode (Char.ofNat b.toNat) = [b] := by
  have hcontrol : ∀ n < 0x20,
      hexUnit? 0x30 0x30 (Hex.digit (UInt8.ofNat n >>> 4)) (Hex.digit (UInt8.ofNat n &&& 0x0F)) =
          some n ∧
        Utf8.encode (Char.ofNat n) = [UInt8.ofNat n] := by
    decide +kernel
  have hunit := hcontrol b.toNat (UInt8.lt_iff_toNat_lt.mp h)
  rwa [UInt8.ofNat_toNat] at hunit

theorem readString_control {b : UInt8} (h : b < 0x20) (rest : Bytes) :
    readString (utf8 "\\u" ++ Hex.encode [0x00, b] ++ rest) =
      (readString rest).map fun (text, after) => (b :: text, after) := by
  obtain ⟨hunit, hencode⟩ := unit_of_control b h
  have hsmall : b.toNat < 0x20 := h
  show readString (0x5C :: 0x75 :: 0x30 :: 0x30 :: Hex.digit (b >>> 4) ::
    Hex.digit (b &&& 0x0F) :: rest) = _
  rw [readString.eq_2, hunit]
  simp only [hencode]
  rw [if_pos (.inl (by omega))]
  rfl

/-- How a character of a string is written: behind a backslash by a letter or by its unit, or as it
is. -/
theorem escaped_cases (b : UInt8) :
    (∃ c, 0x20 ≤ c ∧ unescaped? c = some b ∧ escaped b = [0x5C, c]) ∨
      (b < 0x20 ∧ escaped b = utf8 "\\u" ++ Hex.encode [0x00, b]) ∨
      (b ≠ 0x22 ∧ b ≠ 0x5C ∧ ¬ b < 0x20 ∧ escaped b = [b]) := by
  unfold escaped
  repeat' split
  all_goals first
    | next h => exact .inl ⟨_, by decide, h ▸ rfl, rfl⟩
    | next h => exact .inr (.inl ⟨h, rfl⟩)
    | next hquote hslash _ _ _ _ _ hctl => exact .inr (.inr ⟨hquote, hslash, hctl, rfl⟩)

/-- A character is read back from its escaped form. -/
theorem readString_escaped (b : UInt8) (rest : Bytes) :
    readString (escaped b ++ rest) =
      (readString rest).map fun (text, after) => (b :: text, after) := by
  rcases escaped_cases b with ⟨c, _, hc, h⟩ | ⟨hctl, h⟩ | ⟨hquote, hslash, hctl, h⟩
  · rw [h]
    exact readString_escape hc rest
  · rw [h]
    exact readString_control hctl rest
  · rw [h]
    exact readString_plain hquote hslash hctl rest

/-- The text between quotes is read up to the closing quote. -/
theorem readString_quoted (s rest : Bytes) :
    readString (s.flatMap escaped ++ Ascii.quote :: rest) = some (s, rest) := by
  induction s with
  | nil =>
    have hslash : Ascii.quote ≠ 0x5C := by decide
    rw [List.flatMap_nil, List.nil_append, readString.eq_4 _ _
      (fun _ _ _ _ _ h => absurd h hslash) fun _ _ h => absurd h hslash, if_pos rfl]
  | cons b s ih =>
    rw [List.flatMap_cons, List.append_assoc, readString_escaped, ih]
    rfl

theorem readText_quoted {s : Bytes} (h : Utf8.Valid s) (rest : Bytes) :
    readText (s.flatMap escaped ++ Ascii.quote :: rest) = some (s, rest) := by
  rw [readText, readString_quoted]
  exact if_pos h

/-! ## Numbers -/

/-- Behind a number no byte goes on with it. -/
theorem Ends.not_isDigit {rest : Bytes} (h : Ends rest) :
    ∀ b, rest.head? = some b → Ascii.isDigit b = false := by
  intro b hb
  cases rest with
  | nil => cases hb
  | cons c tail =>
    rw [List.head?_cons, Option.some.injEq] at hb
    exact hb ▸ h.head_ne.1

/-- The digits of a number are taken up to what is no digit. -/
theorem spanDigits_text (n : Nat) {rest : Bytes}
    (h : ∀ b, rest.head? = some b → Ascii.isDigit b = false) :
    spanDigits (Decimal.text n ++ rest) = (Decimal.text n, rest) := by
  have hdigits : ∀ b ∈ Decimal.text n, Ascii.isDigit b = true :=
    fun b hb => Decimal.isDigit_of_mem_text hb
  rw [spanDigits, List.takeWhile_append_of_pos hdigits, List.dropWhile_append_of_pos hdigits]
  cases rest with
  | nil => simp
  | cons b tail =>
    have hb := h b rfl
    rw [List.takeWhile_cons_of_neg (by simp [hb]), List.dropWhile_cons_of_neg (by simp [hb]),
      List.append_nil]

theorem readSigned_text (negative : Bool) (n : Nat) {rest : Bytes} (h : Ends rest) :
    readSigned negative (Decimal.text n ++ rest) =
      some (if negative then -(n : Int) else n, rest) := by
  obtain ⟨first, others, htext, _⟩ := Decimal.text_eq n
  have hvalue : digitsValue (first :: others) = n := by
    rw [← htext]
    exact Decimal.foldl_text n
  rw [readSigned, spanDigits_text n h.not_isDigit, htext]
  simp only [hvalue]

/-- No exponent is read where none is written. -/
theorem readExponent_nil {rest : Bytes} (h : Ends rest) : readExponent rest = some (0, rest) := by
  cases rest with
  | nil => rfl
  | cons b tail =>
    obtain ⟨_, _, hsmall, hlarge⟩ := h.head_ne
    unfold readExponent
    exact if_neg (not_or.mpr ⟨hsmall, hlarge⟩)

theorem readExponent_signed (exponent : Int) {rest : Bytes} (h : Ends rest) :
    readExponent (0x65 :: (Decimal.signed exponent ++ rest)) = some (exponent, rest) := by
  unfold readExponent
  refine (if_pos (.inl rfl)).trans ?_
  cases exponent with
  | negSucc n => exact readSigned_text true (n + 1) h
  | ofNat n =>
    rw [Decimal.signed]
    split
    · next heq => exact absurd heq (Decimal.text_append_ne_cons rfl n _ _)
    · next heq => exact absurd heq (Decimal.text_append_ne_cons rfl n _ _)
    · exact readSigned_text false n h

/-- What may stand behind the digits of a number: its exponent, or the end of it. -/
theorem readUnsigned_text (negative : Bool) (n : Nat) {tail rest : Bytes} {exponent : Int}
    (hdigit : ∀ b, tail.head? = some b → Ascii.isDigit b = false)
    (hdot : tail.head? ≠ some 0x2E) (hexponent : readExponent tail = some (exponent, rest)) :
    readUnsigned negative (Decimal.text n ++ tail) =
      some (.number (if negative then -(n : Int) else n) exponent, rest) := by
  obtain ⟨first, others, htext, _, hzero⟩ := Decimal.text_eq n
  have hfraction : readFraction tail = some ([], tail) := by
    unfold readFraction
    split
    · exact absurd rfl hdot
    · rfl
  have hvalue : digitsValue (first :: others) = n := by
    rw [← htext]
    exact Decimal.foldl_text n
  have hlead : ¬ ((first :: others).length > 1 ∧ (first :: others).head? = some 0x30) := by
    rintro ⟨hlength, hhead⟩
    rw [hzero (Option.some.inj hhead)] at hlength
    exact absurd hlength (Nat.lt_irrefl 1)
  rw [readUnsigned, spanDigits_text n hdigit, htext]
  simp only [if_neg hlead, hfraction, hexponent, List.append_nil, hvalue, List.length_nil,
    Int.ofNat_zero, Int.sub_zero]

/-- A number is read back from its numeral. -/
theorem readNumber_numeral (digits exponent : Int) {rest : Bytes} (h : Ends rest) :
    readNumber (numeral digits exponent ++ rest) = some (.number digits exponent, rest) := by
  -- behind the digits: nothing, or the exponent
  obtain ⟨tail, hnumeral, hdigit, hdot, hexponent⟩ : ∃ tail,
      numeral digits exponent ++ rest = Decimal.signed digits ++ tail ∧
      (∀ b, tail.head? = some b → Ascii.isDigit b = false) ∧ tail.head? ≠ some 0x2E ∧
      readExponent tail = some (exponent, rest) := by
    by_cases hzero : exponent = 0
    · refine ⟨rest, by rw [numeral, if_pos hzero], h.not_isDigit, ?_, ?_⟩
      · cases rest with
        | nil => simp
        | cons b tail => exact fun he => h.head_ne.2.1 (Option.some.inj he)
      · rw [hzero]
        exact readExponent_nil h
    · refine ⟨0x65 :: (Decimal.signed exponent ++ rest), ?_, ?_, ?_, readExponent_signed exponent h⟩
      · rw [numeral, if_neg hzero, List.append_assoc, List.append_assoc]
        rfl
      · intro b hb
        rw [← Option.some.inj hb]
        decide
      · exact fun he => absurd (Option.some.inj he) (by decide)
  rw [hnumeral]
  cases digits with
  | negSucc n => exact readUnsigned_text true (n + 1) hdigit hdot hexponent
  | ofNat n =>
    rw [Decimal.signed]
    unfold readNumber
    split
    · next heq => exact absurd heq (Decimal.text_append_ne_cons rfl n _ _)
    · exact readUnsigned_text false n hdigit hdot hexponent

end TwinFiles.Json
