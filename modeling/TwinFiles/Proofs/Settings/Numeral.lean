import Mathlib.Data.List.Infix
import TwinFiles.Proofs.Text.Span
import TwinFiles.Settings.EnvironmentValue

/-!
# Numbers in variables

Which words are read as numbers (`Numeral`): whole numbers that fit into 64 bits, and numbers with a
point, of any size and with an exponent or without. Those are read as no text
(`bare_ne_text_of_numeral`), while every other word is (`bare_of_not_numeral`).
-/

namespace TwinFiles.EnvironmentValue

/-- One digit or more. -/
def Digits (s : List Char) : Prop :=
  s ≠ [] ∧ ∀ c ∈ s, c.isDigit = true

/-- The number that digits stand for. -/
def ofDigits (s : List Char) : Nat :=
  s.foldl (fun n c => n * 10 + (c.toNat - 48)) 0

/-- A sign, or none. -/
def Sign (s : List Char) : Prop :=
  s = [] ∨ s = ['+'] ∨ s = ['-']

/-- An exponent, or none. -/
inductive Exponent : List Char → Prop where
  | none : Exponent []
  | power {e : Char} {sign digits : List Char} :
      (e = 'e' ∨ e = 'E') → Sign sign → Digits digits → Exponent (e :: (sign ++ digits))

/-- Digits with a point between them or at one of their ends, and the exponent behind them. -/
inductive Pointed : List Char → Prop where
  | intro {whole fraction exponent : List Char} :
      Digits (whole ++ fraction) → Exponent exponent →
      Pointed (whole ++ '.' :: (fraction ++ exponent))

/-- Numbers as words. -/
inductive Numeral : List Char → Prop where
  | natural {digits : List Char} : Digits digits → ofDigits digits < Nat.pow 2 64 → Numeral digits
  | positive {digits : List Char} :
      Digits digits → ofDigits digits < Nat.pow 2 64 → Numeral ('+' :: digits)
  | negative {digits : List Char} :
      Digits digits → ofDigits digits ≤ Nat.pow 2 63 → Numeral ('-' :: digits)
  | pointed {sign s : List Char} : Sign sign → Pointed s → Numeral (sign ++ s)

variable {s : List Char}

/-! ## Digits -/

theorem digits?_eq_some_iff {n : Nat} : digits? s = some n ↔ Digits s ∧ ofDigits s = n := by
  rw [digits?]
  split
  · next h =>
    refine iff_of_false (fun h => by cases h) ?_
    rintro ⟨⟨hne, hall⟩, _⟩
    rw [Bool.or_eq_true, List.isEmpty_iff, Bool.not_eq_true', ← Bool.not_eq_true,
      List.all_eq_true] at h
    exact h.elim hne fun hnot => hnot hall
  · next h =>
    simp only [Bool.or_eq_true, List.isEmpty_iff, Bool.not_eq_true', not_or, Bool.not_eq_false,
      List.all_eq_true] at h
    rw [Option.some.injEq]
    exact (and_iff_right h).symm

theorem digits?_isSome_iff : (digits? s).isSome ↔ Digits s := by
  rw [Option.isSome_iff_exists]
  simp [digits?_eq_some_iff]

/-! ## Signs -/

/-- No sign stands at the front. -/
def Unsigned (s : List Char) : Prop :=
  (∀ rest, s ≠ '-' :: rest) ∧ ∀ rest, s ≠ '+' :: rest

theorem sign_cases (s : List Char) :
    (∃ rest, s = '-' :: rest) ∨ (∃ rest, s = '+' :: rest) ∨ Unsigned s := by
  by_cases hminus : ∃ rest, s = '-' :: rest
  · exact .inl hminus
  · by_cases hplus : ∃ rest, s = '+' :: rest
    · exact .inr (.inl hplus)
    · rw [not_exists] at hminus hplus
      exact .inr (.inr ⟨hminus, hplus⟩)

/-- A sign is no digit. -/
theorem Digits.unsigned (h : Digits s) : Unsigned s := by
  constructor
  · rintro rest rfl
    exact absurd (h.2 '-' List.mem_cons_self) (by decide)
  · rintro rest rfl
    exact absurd (h.2 '+' List.mem_cons_self) (by decide)

theorem digits?_minus (s : List Char) : digits? ('-' :: s) = none := by
  rw [Option.eq_none_iff_forall_ne_some]
  intro n hn
  exact (digits?_eq_some_iff.mp hn).1.unsigned.1 s rfl

/-! ## Whole numbers -/

theorem unsigned?_of_unsigned (h : Unsigned s) :
    unsigned? s = (digits? s).filter Decimal.fitsUnsigned := by
  rw [unsigned?]
  exact h.2

theorem signed?_of_unsigned (h : Unsigned s) :
    signed? s = ((digits? s).map Int.ofNat).filter Decimal.fitsSigned := by
  rw [signed?]
  · cases digits? s <;> rfl
  · exact h.1
  · exact h.2

theorem signed?_plus (s : List Char) :
    signed? ('+' :: s) = ((digits? s).map Int.ofNat).filter Decimal.fitsSigned := by
  rw [signed?]
  cases digits? s <;> rfl

theorem signed?_minus (s : List Char) :
    signed? ('-' :: s) = ((digits? s).map fun n : Nat => -(n : Int)).filter Decimal.fitsSigned := by
  rw [signed?]
  cases digits? s <;> rfl

theorem filter_digits?_isSome_iff :
    ((digits? s).filter Decimal.fitsUnsigned).isSome ↔ Digits s ∧ ofDigits s < Nat.pow 2 64 := by
  rw [Option.isSome_iff_exists]
  simp [Option.filter_eq_some_iff, digits?_eq_some_iff, Decimal.fitsUnsigned]

/-- What fits with a sign fits without one. -/
theorem isSome_filter_of_signed
    (h : (((digits? s).map Int.ofNat).filter Decimal.fitsSigned).isSome) :
    Digits s ∧ ofDigits s < Nat.pow 2 64 := by
  obtain ⟨i, hi⟩ := Option.isSome_iff_exists.mp h
  obtain ⟨hi, hfits⟩ := Option.filter_eq_some_iff.mp hi
  obtain ⟨n, hn, rfl⟩ := Option.map_eq_some_iff.mp hi
  obtain ⟨hdigits, rfl⟩ := digits?_eq_some_iff.mp hn
  have hlt : ofDigits s < Nat.pow 2 63 := of_decide_eq_true hfits
  exact ⟨hdigits, Nat.lt_trans hlt (by decide)⟩

theorem fitsSigned_neg (n : Nat) : Decimal.fitsSigned (-(n : Int)) = true ↔ n ≤ Nat.pow 2 63 := by
  cases n with
  | zero => exact iff_of_true rfl (Nat.zero_le _)
  | succ n =>
    show decide (n < Nat.pow 2 63) = true ↔ _
    rw [decide_eq_true_iff]
    exact Iff.rfl

theorem signed?_minus_isSome_iff :
    (signed? ('-' :: s)).isSome ↔ Digits s ∧ ofDigits s ≤ Nat.pow 2 63 := by
  rw [signed?_minus, Option.isSome_iff_exists]
  constructor
  · rintro ⟨i, hi⟩
    obtain ⟨hi, hfits⟩ := Option.filter_eq_some_iff.mp hi
    obtain ⟨n, hn, rfl⟩ := Option.map_eq_some_iff.mp hi
    obtain ⟨hdigits, rfl⟩ := digits?_eq_some_iff.mp hn
    exact ⟨hdigits, (fitsSigned_neg _).mp hfits⟩
  · rintro ⟨hdigits, hfits⟩
    refine ⟨-(ofDigits s : Int), Option.filter_eq_some_iff.mpr ⟨?_, (fitsSigned_neg _).mpr hfits⟩⟩
    rw [digits?_eq_some_iff.mpr ⟨hdigits, rfl⟩]
    rfl

/-! ## Numbers with a point -/

theorem isSome_exponent? {e : Char} (he : e = 'e' ∨ e = 'E') :
    ((exponent? (e :: '-' :: s)).isSome ↔ Digits s) ∧
      ((exponent? (e :: '+' :: s)).isSome ↔ Digits s) ∧
      (Unsigned s → ((exponent? (e :: s)).isSome ↔ Digits s)) := by
  have hletter : (e == 'e' || e == 'E') = true := by simpa using he
  rw [← digits?_isSome_iff, exponent?, exponent?, if_pos hletter, if_pos hletter]
  refine ⟨?_, ?_, ?_⟩
  · cases digits? s <;> rfl
  · cases digits? s <;> rfl
  · intro h
    rw [exponent?, if_pos hletter]
    · cases digits? s <;> rfl
    · exact h.1
    · exact h.2

theorem exponent?_isSome_iff : (exponent? s).isSome ↔ Exponent s := by
  constructor
  · intro h
    cases s with
    | nil => exact .none
    | cons e rest =>
      by_cases he : e = 'e' ∨ e = 'E'
      · rcases sign_cases rest with ⟨digits, rfl⟩ | ⟨digits, rfl⟩ | hrest
        · exact .power he (.inr (.inr rfl)) ((isSome_exponent? he).1.mp h)
        · exact .power he (.inr (.inl rfl)) ((isSome_exponent? he).2.1.mp h)
        · exact .power he (.inl rfl) (((isSome_exponent? he).2.2 hrest).mp h)
      · have hletter : ¬ (e == 'e' || e == 'E') = true := by simpa using he
        simp [exponent?, hletter] at h
  · intro h
    cases h with
    | none => rfl
    | power he hsign hdigits =>
      rcases hsign with rfl | rfl | rfl
      · exact ((isSome_exponent? he).2.2 hdigits.unsigned).mpr hdigits
      · exact (isSome_exponent? he).2.1.mpr hdigits
      · exact (isSome_exponent? he).1.mpr hdigits

/-- The number with a point behind its sign. -/
def pointed? (negative : Bool) (s : List Char) : Option Binary64 :=
  let whole := s.takeWhile Char.isDigit
  match s.dropWhile Char.isDigit with
  | '.' :: rest =>
    let fraction := rest.takeWhile Char.isDigit
    match digits? (whole ++ fraction), exponent? (rest.dropWhile Char.isDigit) with
    | some n, some e => some (.ofDecimal negative n (e - fraction.length))
    | _, _ => none
  | _ => none

theorem pointed?_append {whole fraction exponent : List Char} (hwhole : ∀ c ∈ whole, c.isDigit)
    (hfraction : ∀ c ∈ fraction, c.isDigit) (hexponent : ∀ c ∈ exponent.head?, c.isDigit = false)
    (negative : Bool) :
    pointed? negative (whole ++ '.' :: (fraction ++ exponent)) =
      match digits? (whole ++ fraction), exponent? exponent with
      | some n, some e => some (.ofDecimal negative n (e - fraction.length))
      | _, _ => none := by
  have hpoint : ∀ c ∈ ('.' :: (fraction ++ exponent)).head?, c.isDigit = false := by
    intro c hc
    cases hc
    rfl
  rw [pointed?, takeWhile_append_stop hwhole hpoint, dropWhile_append_stop hwhole hpoint]
  simp only [takeWhile_append_stop hfraction hexponent, dropWhile_append_stop hfraction hexponent]

theorem pointed?_isSome_iff (negative : Bool) : (pointed? negative s).isSome ↔ Pointed s := by
  constructor
  · intro h
    have hs : s.takeWhile Char.isDigit ++ s.dropWhile Char.isDigit = s :=
      List.takeWhile_append_dropWhile
    rw [pointed?] at h
    split at h
    · next rest hdrop =>
      rw [hdrop] at hs
      simp only at h
      split at h
      · next n e hdigits hexponent =>
        rw [← hs, ← List.takeWhile_append_dropWhile (l := rest)]
        refine .intro (digits?_eq_some_iff.mp hdigits).1 (exponent?_isSome_iff.mp ?_)
        rw [hexponent]
        rfl
      · cases h
    · cases h
  · rintro ⟨hdigits, hexponent⟩
    obtain ⟨hwhole, hfraction⟩ := List.forall_mem_append.mp hdigits.2
    have hhead : ∀ e : List Char, Exponent e → ∀ c ∈ e.head?, c.isDigit = false := by
      intro e he c hc
      cases he with
      | none => cases hc
      | power hletter _ _ =>
        cases hc
        rcases hletter with rfl | rfl <;> decide
    rw [pointed?_append hwhole hfraction (hhead _ hexponent)]
    obtain ⟨n, hn⟩ := Option.isSome_iff_exists.mp (digits?_isSome_iff.mpr hdigits)
    obtain ⟨e, he⟩ := Option.isSome_iff_exists.mp (exponent?_isSome_iff.mpr hexponent)
    rw [hn, he]
    rfl

/-- A number with a point begins with a digit or with the point. -/
theorem Pointed.unsigned (h : Pointed s) : Unsigned s := by
  obtain @⟨whole, fraction, exponent, hdigits, _⟩ := h
  cases whole with
  | nil => simp [Unsigned]
  | cons c whole =>
    have hc := hdigits.unsigned
    simp only [Unsigned, List.cons_append] at hc ⊢
    constructor
    · rintro rest ⟨⟩
      exact hc.1 _ rfl
    · rintro rest ⟨⟩
      exact hc.2 _ rfl

theorem float?_of_unsigned (h : Unsigned s) : float? s = pointed? false s := by
  rw [float?]
  · rfl
  · exact h.1
  · exact h.2

/-! ## Words -/

/-- Numerals are read as numbers, one way or another. -/
theorem numeral_iff :
    Numeral s ↔ (float? s).isSome ∨ (unsigned? s).isSome ∨ (signed? s).isSome := by
  constructor
  · intro h
    cases h with
    | natural hdigits hfits =>
      rw [unsigned?_of_unsigned hdigits.unsigned]
      exact .inr (.inl (filter_digits?_isSome_iff.mpr ⟨hdigits, hfits⟩))
    | positive hdigits hfits => exact .inr (.inl (filter_digits?_isSome_iff.mpr ⟨hdigits, hfits⟩))
    | negative hdigits hfits => exact .inr (.inr (signed?_minus_isSome_iff.mpr ⟨hdigits, hfits⟩))
    | pointed hsign hpointed =>
      refine .inl ?_
      rcases hsign with rfl | rfl | rfl
      · rw [List.nil_append, float?_of_unsigned hpointed.unsigned]
        exact (pointed?_isSome_iff false).mpr hpointed
      · exact (pointed?_isSome_iff false).mpr hpointed
      · exact (pointed?_isSome_iff true).mpr hpointed
  · rcases sign_cases s with ⟨rest, rfl⟩ | ⟨rest, rfl⟩ | hs
    · rintro (h | h | h)
      · exact .pointed (.inr (.inr rfl)) ((pointed?_isSome_iff true).mp h)
      · have hnone : unsigned? ('-' :: rest) = none := by
          rw [unsigned?, digits?_minus]
          · rfl
          · exact fun _ hs => by cases hs
        rw [hnone] at h
        cases h
      · obtain ⟨hdigits, hfits⟩ := signed?_minus_isSome_iff.mp h
        exact .negative hdigits hfits
    · rintro (h | h | h)
      · exact .pointed (.inr (.inl rfl)) ((pointed?_isSome_iff false).mp h)
      · obtain ⟨hdigits, hfits⟩ := filter_digits?_isSome_iff.mp h
        exact .positive hdigits hfits
      · rw [signed?_plus] at h
        obtain ⟨hdigits, hfits⟩ := isSome_filter_of_signed h
        exact .positive hdigits hfits
    · rintro (h | h | h)
      · rw [float?_of_unsigned hs] at h
        exact .pointed (.inl rfl) ((pointed?_isSome_iff false).mp h)
      · rw [unsigned?_of_unsigned hs] at h
        obtain ⟨hdigits, hfits⟩ := filter_digits?_isSome_iff.mp h
        exact .natural hdigits hfits
      · rw [signed?_of_unsigned hs] at h
        obtain ⟨hdigits, hfits⟩ := isSome_filter_of_signed h
        exact .natural hdigits hfits

/-- A word is a text unless it is a numeral. -/
theorem bare_of_not_numeral (h : ¬ Numeral s) : bare s = .text (Utf8.ofChars s) := by
  rw [numeral_iff, not_or, not_or, Option.not_isSome_iff_eq_none, Option.not_isSome_iff_eq_none,
    Option.not_isSome_iff_eq_none] at h
  rw [bare, h.1, h.2.1, h.2.2]

theorem bare_ne_text_of_numeral (h : Numeral s) (text : Bytes) :
    bare s ≠ .text text ∧ bare s ≠ .character text := by
  rw [numeral_iff] at h
  rw [bare]
  cases hfloat : float? s with
  | some x => simp
  | none =>
    cases hunsigned : unsigned? s with
    | some n => simp
    | none =>
      cases hsigned : signed? s with
      | some i => simp
      | none => simp [hfloat, hunsigned, hsigned] at h

end TwinFiles.EnvironmentValue
