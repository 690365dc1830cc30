import Mathlib.Data.List.Basic
import TwinFiles.Proofs.Text.Utf8

/-!
# Characters and their bytes

The bytes of a character are cut as one piece (`isCharacter_encode`) that stands for this character
(`codePoint_encode`). So the characters of a text can be read off its bytes (`chars_ofChars`). The
other way round, every piece that is whole stands for a character (`exists_encode_eq`), and the valid
texts are those of characters (`valid_iff`).
-/

namespace TwinFiles.Utf8

variable {a b c d : UInt8}

/-! ## The first byte -/

theorem not_lt_of_le {m n : UInt8} (hmn : m ≤ n) (ha : n ≤ a) : ¬ a < m :=
  UInt8.not_lt.mpr (UInt8.le_trans hmn ha)

theorem start_two (hlow : 0xC2 ≤ a) (hhigh : a < 0xE0) :
    start a = ([], .within [a] 0 0x80 0xBF) := by
  rw [start, if_neg (not_lt_of_le (by decide) hlow), if_neg (not_lt_of_le (by decide) hlow),
    if_pos hhigh]

theorem start_three (hlow : 0xE0 ≤ a) (hhigh : a < 0xF0) :
    start a = ([], .within [a] 1 (if a = 0xE0 then 0xA0 else 0x80)
      (if a = 0xED then 0x9F else 0xBF)) := by
  by_cases hfirst : a = 0xE0
  · subst hfirst
    rfl
  · by_cases hsurrogates : a = 0xED
    · subst hsurrogates
      rfl
    · rw [start, if_neg (not_lt_of_le (by decide) hlow), if_neg (not_lt_of_le (by decide) hlow),
        if_neg (not_lt_of_le (by decide) hlow), if_neg hfirst, if_neg hsurrogates, if_pos hhigh,
        if_neg hfirst, if_neg hsurrogates]

theorem start_four (hlow : 0xF0 ≤ a) (hhigh : a ≤ 0xF4) :
    start a = ([], .within [a] 2 (if a = 0xF0 then 0x90 else 0x80)
      (if a = 0xF4 then 0x8F else 0xBF)) := by
  by_cases hfirst : a = 0xF0
  · subst hfirst
    rfl
  · by_cases hlast : a = 0xF4
    · subst hlast
      rfl
    · have hlt : a < 0xF4 := UInt8.lt_of_le_of_ne hhigh hlast
      have hthree : a ≠ 0xE0 ∧ a ≠ 0xED := by
        constructor <;>
          · rintro rfl
            exact absurd hlow (by decide)
      rw [start, if_neg (not_lt_of_le (by decide) hlow), if_neg (not_lt_of_le (by decide) hlow),
        if_neg (not_lt_of_le (by decide) hlow), if_neg hthree.1, if_neg hthree.2,
        if_neg (not_lt_of_le (by decide) hlow), if_neg hfirst, if_pos hlt, if_neg hfirst,
        if_neg hlast]

/-! ## Whole characters -/

theorem isCharacter_two (hlow : 0xC2 ≤ a) (hhigh : a < 0xE0) (hb : 0x80 ≤ b ∧ b ≤ 0xBF) :
    IsCharacter [a, b] := by
  intro rest
  show piecesFrom .between (a :: b :: rest) = _
  rw [piecesFrom_cons, step, start_two hlow hhigh]
  show piecesFrom (.within [a] 0 0x80 0xBF) (b :: rest) = _
  rw [piecesFrom_cons, step, if_pos hb]
  rfl

theorem isCharacter_three (hlow : 0xE0 ≤ a) (hhigh : a < 0xF0)
    (hb : (if a = 0xE0 then 0xA0 else 0x80) ≤ b ∧ b ≤ if a = 0xED then 0x9F else 0xBF)
    (hc : 0x80 ≤ c ∧ c ≤ 0xBF) : IsCharacter [a, b, c] := by
  intro rest
  show piecesFrom .between (a :: b :: c :: rest) = _
  rw [piecesFrom_cons, step, start_three hlow hhigh]
  show piecesFrom (.within [a] 1 _ _) (b :: c :: rest) = _
  rw [piecesFrom_cons, step, if_pos hb]
  show piecesFrom (.within [a, b] 0 0x80 0xBF) (c :: rest) = _
  rw [piecesFrom_cons, step, if_pos hc]
  rfl

theorem isCharacter_four (hlow : 0xF0 ≤ a) (hhigh : a ≤ 0xF4)
    (hb : (if a = 0xF0 then 0x90 else 0x80) ≤ b ∧ b ≤ if a = 0xF4 then 0x8F else 0xBF)
    (hc : 0x80 ≤ c ∧ c ≤ 0xBF) (hd : 0x80 ≤ d ∧ d ≤ 0xBF) : IsCharacter [a, b, c, d] := by
  intro rest
  show piecesFrom .between (a :: b :: c :: d :: rest) = _
  rw [piecesFrom_cons, step, start_four hlow hhigh]
  show piecesFrom (.within [a] 2 _ _) (b :: c :: d :: rest) = _
  rw [piecesFrom_cons, step, if_pos hb]
  show piecesFrom (.within [a, b] 1 0x80 0xBF) (c :: d :: rest) = _
  rw [piecesFrom_cons, step, if_pos hc]
  show piecesFrom (.within [a, b, c] 0 0x80 0xBF) (d :: rest) = _
  rw [piecesFrom_cons, step, if_pos hd]
  rfl

/-- Numbers in a range are bytes in it. -/
theorem ofNat_mem_range {m n : UInt8} {k : Nat} (hlow : m.toNat ≤ k) (hhigh : k ≤ n.toNat) :
    m ≤ UInt8.ofNat k ∧ UInt8.ofNat k ≤ n := by
  have hk : (UInt8.ofNat k).toNat = k := by
    rw [UInt8.toNat_ofNat']
    exact Nat.mod_eq_of_lt (Nat.lt_of_le_of_lt hhigh n.toNat_lt)
  rw [UInt8.le_iff_toNat_le, UInt8.le_iff_toNat_le, hk]
  exact ⟨hlow, hhigh⟩

/-! ## The bytes of a character -/

/-- What is left of a division by 64 goes on with a character. -/
theorem continues (n : Nat) :
    0x80 ≤ UInt8.ofNat (n % 64 + 128) ∧ UInt8.ofNat (n % 64 + 128) ≤ 0xBF :=
  ofNat_mem_range (Nat.le_add_left 128 _) (show n % 64 + 128 ≤ 191 by omega)

/-- Behind some first bytes the second one has closer bounds. -/
theorem continues_within {p q : Prop} [Decidable p] [Decidable q] {m k : UInt8} (n : Nat)
    (hlow : p → m.toNat ≤ n % 64 + 128) (hhigh : q → n % 64 + 128 ≤ k.toNat) :
    (if p then m else 0x80) ≤ UInt8.ofNat (n % 64 + 128) ∧
      UInt8.ofNat (n % 64 + 128) ≤ if q then k else 0xBF := by
  have hbyte : (UInt8.ofNat (n % 64 + 128)).toNat = n % 64 + 128 := by
    rw [UInt8.toNat_ofNat']
    omega
  constructor
  · split
    · next hp =>
      rw [UInt8.le_iff_toNat_le, hbyte]
      exact hlow hp
    · exact (continues n).1
  · split
    · next hq =>
      rw [UInt8.le_iff_toNat_le, hbyte]
      exact hhigh hq
    · exact (continues n).2

theorem eq_of_ofNat_eq {k : Nat} {m : UInt8} (hk : k < 256) (h : UInt8.ofNat k = m) :
    k = m.toNat := by
  rw [← h, UInt8.toNat_ofNat', Nat.mod_eq_of_lt hk]

/-- The bytes of a character are cut as one piece. The bounds on the second byte hold because a
character is no surrogate and not beyond the last one, and because it does not fit in fewer bytes. -/
theorem isCharacter_encode (c : Char) : IsCharacter (encode c) := by
  have hvalid : c.val.toNat < 0xD800 ∨ (0xDFFF < c.val.toNat ∧ c.val.toNat < 0x110000) := c.valid
  rw [encode, String.utf8EncodeChar]
  generalize c.val.toNat = v at hvalid
  by_cases hone : v ≤ 127
  · simp only [if_pos hone]
    exact isCharacter_ascii (UInt8.lt_of_le_of_lt
      (ofNat_mem_range (m := 0) (n := 0x7F) (Nat.zero_le v) hone).2 (by decide))
  · by_cases htwo : v ≤ 2047
    · simp only [if_neg hone, if_pos htwo]
      have hfirst := ofNat_mem_range (m := 0xC2) (n := 0xDF) (k := v / 64 % 32 + 192)
        (show 194 ≤ _ by omega) (show _ ≤ 223 by omega)
      exact isCharacter_two hfirst.1 (UInt8.lt_of_le_of_lt hfirst.2 (by decide)) (continues v)
    · by_cases hthree : v ≤ 65535
      · simp only [if_neg hone, if_neg htwo, if_pos hthree]
        have hfirst := ofNat_mem_range (m := 0xE0) (n := 0xEF) (k := v / 4096 % 16 + 224)
          (show 224 ≤ _ by omega) (show _ ≤ 239 by omega)
        refine isCharacter_three hfirst.1 (UInt8.lt_of_le_of_lt hfirst.2 (by decide))
          (continues_within _ (fun h => ?_) fun h => ?_) (continues v)
        · have hoverlong : v / 4096 % 16 + 224 = 224 := eq_of_ofNat_eq (by omega) h
          show 160 ≤ v / 64 % 64 + 128
          omega
        · have hsurrogate : v / 4096 % 16 + 224 = 237 := eq_of_ofNat_eq (by omega) h
          show v / 64 % 64 + 128 ≤ 159
          omega
      · simp only [if_neg hone, if_neg htwo, if_neg hthree]
        have hfirst := ofNat_mem_range (m := 0xF0) (n := 0xF4) (k := v / 262144 % 8 + 240)
          (show 240 ≤ _ by omega) (show _ ≤ 244 by omega)
        refine isCharacter_four hfirst.1 hfirst.2
          (continues_within _ (fun h => ?_) fun h => ?_) (continues (v / 64)) (continues v)
        · have hoverlong : v / 262144 % 8 + 240 = 240 := eq_of_ofNat_eq (by omega) h
          show 144 ≤ v / 4096 % 64 + 128
          omega
        · have hbeyond : v / 262144 % 8 + 240 = 244 := eq_of_ofNat_eq (by omega) h
          show v / 4096 % 64 + 128 ≤ 143
          omega

theorem codePoint_encode (c : Char) : codePoint (encode c) = c.toNat := by
  have hvalid : c.val.toNat < 0xD800 ∨ (0xDFFF < c.val.toNat ∧ c.val.toNat < 0x110000) := c.valid
  show _ = c.val.toNat
  rw [encode, String.utf8EncodeChar]
  generalize c.val.toNat = v at hvalid
  split
  · simp only [codePoint, UInt8.toNat_ofNat']
    omega
  · split
    · simp only [codePoint, UInt8.toNat_ofNat']
      omega
    · split
      · simp only [codePoint, UInt8.toNat_ofNat']
        omega
      · simp only [codePoint, UInt8.toNat_ofNat']
        omega

/-! ## Texts -/

theorem pieces_ofChars (cs : List Char) :
    pieces (ofChars cs) = cs.map fun c => .character (encode c) := by
  have hall : ∀ bs ∈ cs.map encode, IsCharacter bs := by
    intro bs hbs
    obtain ⟨c, _, rfl⟩ := List.mem_map.mp hbs
    exact isCharacter_encode c
  have hpieces := pieces_flatten hall []
  rw [List.append_nil] at hpieces
  rw [ofChars, List.flatMap_def, hpieces, List.map_map]
  exact List.append_nil _

theorem ofChars_singleton (c : Char) : ofChars [c] = encode c :=
  List.append_nil _

theorem valid_ofChars (cs : List Char) : Valid (ofChars cs) := by
  rw [Valid, valid, pieces_ofChars]
  simp [Piece.isCharacter]

/-- The characters of a text are read off its bytes. -/
theorem chars_ofChars (cs : List Char) : chars (ofChars cs) = cs := by
  rw [chars, pieces_ofChars, List.map_map]
  conv_rhs => rw [← List.map_id cs]
  refine List.map_congr_left fun c _ => ?_
  show Char.ofNat (codePoint (encode c)) = c
  rw [codePoint_encode, Char.ofNat_toNat]

/-! ## Every valid text is one of characters -/

/-- A byte outside these ranges starts nothing. -/
theorem start_broken (h : 0x80 ≤ a ∧ a < 0xC2 ∨ 0xF4 < a) :
    start a = ([.broken [a]], .between) := by
  rcases h with ⟨hlow, hhigh⟩ | hlow
  · rw [start, if_neg (UInt8.not_lt.mpr hlow), if_pos hhigh]
  · have hne : a ≠ 0xF4 ∧ a ≠ 0xF0 ∧ a ≠ 0xED ∧ a ≠ 0xE0 := by
      refine ⟨?_, ?_, ?_, ?_⟩ <;>
        · rintro rfl
          exact absurd hlow (by decide)
    have hle : 0xF4 ≤ a := UInt8.le_of_lt hlow
    rw [start, if_neg (not_lt_of_le (by decide) hle), if_neg (not_lt_of_le (by decide) hle),
      if_neg (not_lt_of_le (by decide) hle), if_neg hne.2.2.2, if_neg hne.2.2.1,
      if_neg (not_lt_of_le (by decide) hle), if_neg hne.2.1, if_neg (UInt8.not_lt.mpr hle),
      if_neg hne.1]

/-- The last byte of a character. -/
theorem exists_last {held r bs : Bytes} {low high : UInt8}
    (h : piecesFrom (.within held 0 low high) r = [.character bs]) :
    ∃ b, (low ≤ b ∧ b ≤ high) ∧ bs = held ++ [b] := by
  cases r with
  | nil => cases h
  | cons b r =>
    rw [piecesFrom_cons, step] at h
    split at h
    · next hb =>
      obtain ⟨hbs, _⟩ := List.cons.inj h
      exact ⟨b, hb, (Piece.character.inj hbs).symm⟩
    · cases h

/-- A byte inside a character. -/
theorem exists_next {held r bs : Bytes} {n : Nat} {low high : UInt8}
    (h : piecesFrom (.within held (n + 1) low high) r = [.character bs]) :
    ∃ b r', (low ≤ b ∧ b ≤ high) ∧
      piecesFrom (.within (held ++ [b]) n 0x80 0xBF) r' = [.character bs] := by
  cases r with
  | nil => cases h
  | cons b r =>
    rw [piecesFrom_cons, step] at h
    split at h
    · next hb => exact ⟨b, r, hb, h⟩
    · cases h

/-- The forms that the bytes of a character can have. -/
theorem character_cases {bs : Bytes} (h : IsCharacter bs) :
    (∃ a, a < 0x80 ∧ bs = [a]) ∨
      (∃ a b, 0xC2 ≤ a ∧ a < 0xE0 ∧ (0x80 ≤ b ∧ b ≤ 0xBF) ∧ bs = [a, b]) ∨
      (∃ a b c, 0xE0 ≤ a ∧ a < 0xF0 ∧
        ((if a = 0xE0 then 0xA0 else 0x80) ≤ b ∧ b ≤ if a = 0xED then 0x9F else 0xBF) ∧
        (0x80 ≤ c ∧ c ≤ 0xBF) ∧ bs = [a, b, c]) ∨
      ∃ a b c d, 0xF0 ≤ a ∧ a ≤ 0xF4 ∧
        ((if a = 0xF0 then 0x90 else 0x80) ≤ b ∧ b ≤ if a = 0xF4 then 0x8F else 0xBF) ∧
        (0x80 ≤ c ∧ c ≤ 0xBF) ∧ (0x80 ≤ d ∧ d ≤ 0xBF) ∧ bs = [a, b, c, d] := by
  have hpieces : pieces bs = [.character bs] := by
    have hrest := h []
    rwa [List.append_nil] at hrest
  cases bs with
  | nil => cases hpieces
  | cons a r =>
    rw [pieces, piecesFrom_cons, step] at hpieces
    rcases UInt8.lt_or_le a 0x80 with hascii | hascii
    · rw [start, if_pos hascii] at hpieces
      cases hpieces
      exact .inl ⟨a, hascii, rfl⟩
    · rcases UInt8.lt_or_le a 0xC2 with htwo | htwo
      · rw [start_broken (.inl ⟨hascii, htwo⟩)] at hpieces
        cases hpieces
      · rcases UInt8.lt_or_le a 0xE0 with hthree | hthree
        · rw [start_two htwo hthree] at hpieces
          obtain ⟨b, hb, hbs⟩ := exists_last hpieces
          exact .inr (.inl ⟨a, b, htwo, hthree, hb, hbs⟩)
        · rcases UInt8.lt_or_le a 0xF0 with hfour | hfour
          · rw [start_three hthree hfour] at hpieces
            obtain ⟨b, r', hb, hnext⟩ := exists_next hpieces
            obtain ⟨c, hc, hbs⟩ := exists_last hnext
            exact .inr (.inr (.inl ⟨a, b, c, hthree, hfour, hb, hc, hbs⟩))
          · rcases UInt8.lt_or_le 0xF4 a with hbeyond | hbeyond
            · rw [start_broken (.inr hbeyond)] at hpieces
              cases hpieces
            · rw [start_four hfour hbeyond] at hpieces
              obtain ⟨b, r', hb, hnext⟩ := exists_next hpieces
              obtain ⟨c, r', hc, hnext⟩ := exists_next hnext
              obtain ⟨d, hd, hbs⟩ := exists_last hnext
              exact .inr (.inr (.inr ⟨a, b, c, d, hfour, hbeyond, hb, hc, hd, hbs⟩))

theorem encode_ofNat {n : Nat} (h : n < 0xD800 ∨ (0xDFFF < n ∧ n < 0x110000)) :
    encode (Char.ofNat n) =
      if n ≤ 127 then [UInt8.ofNat n]
      else if n ≤ 2047 then [UInt8.ofNat (n / 64 % 32 + 192), UInt8.ofNat (n % 64 + 128)]
      else if n ≤ 65535 then
        [UInt8.ofNat (n / 4096 % 16 + 224), UInt8.ofNat (n / 64 % 64 + 128),
          UInt8.ofNat (n % 64 + 128)]
      else
        [UInt8.ofNat (n / 262144 % 8 + 240), UInt8.ofNat (n / 4096 % 64 + 128),
          UInt8.ofNat (n / 64 % 64 + 128), UInt8.ofNat (n % 64 + 128)] := by
  have hvalid : n.isValidChar := h
  have hn : (Char.ofNat n).val.toNat = n := by
    rw [Char.ofNat, dif_pos hvalid]
    rfl
  rw [encode, String.utf8EncodeChar, hn]

theorem ofNat_eq {k : Nat} (h : k = a.toNat) : UInt8.ofNat k = a := by
  rw [h, UInt8.ofNat_toNat]

/-- The bounds of a second byte, as numbers. -/
theorem second_bounds {p q : Prop} [Decidable p] [Decidable q] {m n : UInt8} (hm : 0x80 ≤ m)
    (hn : n ≤ 0xBF) (h : (if p then m else 0x80) ≤ b ∧ b ≤ if q then n else 0xBF) :
    128 ≤ b.toNat ∧ b.toNat ≤ 191 ∧ (p → m.toNat ≤ b.toNat) ∧ (q → b.toNat ≤ n.toNat) := by
  obtain ⟨hlow, hhigh⟩ := h
  rw [UInt8.le_iff_toNat_le] at hm hn hlow hhigh
  refine ⟨?_, ?_, fun hp => by rwa [if_pos hp] at hlow, fun hq => by rwa [if_pos hq] at hhigh⟩
  · split at hlow
    · exact Nat.le_trans hm hlow
    · exact hlow
  · split at hhigh
    · exact Nat.le_trans hhigh hn
    · exact hhigh

/-- The bytes of a character are those of the character that they stand for. -/
theorem exists_encode_eq {bs : Bytes} (h : IsCharacter bs) : ∃ c, encode c = bs := by
  refine ⟨Char.ofNat (codePoint bs), ?_⟩
  rcases character_cases h with ⟨a, ha, rfl⟩ | ⟨a, b, hlow, hhigh, hb, rfl⟩ |
    ⟨a, b, c, hlow, hhigh, hb, hc, rfl⟩ | ⟨a, b, c, d, hlow, hhigh, hb, hc, hd, rfl⟩
  · have hlt : a.toNat < 128 := UInt8.lt_iff_toNat_lt.mp ha
    rw [codePoint, encode_ofNat (by omega), if_pos (by omega), UInt8.ofNat_toNat]
  · simp only [UInt8.le_iff_toNat_le, UInt8.lt_iff_toNat_lt, UInt8.reduceToNat] at hlow hhigh hb
    rw [codePoint, encode_ofNat (by omega), if_neg (by omega), if_pos (by omega),
      ofNat_eq (a := a) (by omega), ofNat_eq (a := b) (by omega)]
  · obtain ⟨hblow, hbhigh, hoverlong, hsurrogate⟩ := second_bounds (by decide) (by decide) hb
    simp only [UInt8.le_iff_toNat_le, UInt8.lt_iff_toNat_lt, ← UInt8.toNat_inj,
      UInt8.reduceToNat] at hlow hhigh hc hoverlong hsurrogate
    rw [codePoint, encode_ofNat (by omega), if_neg (by omega), if_neg (by omega),
      if_pos (by omega), ofNat_eq (a := a) (by omega), ofNat_eq (a := b) (by omega),
      ofNat_eq (a := c) (by omega)]
  · obtain ⟨hblow, hbhigh, hoverlong, hbeyond⟩ := second_bounds (by decide) (by decide) hb
    simp only [UInt8.le_iff_toNat_le, ← UInt8.toNat_inj,
      UInt8.reduceToNat] at hlow hhigh hc hd hoverlong hbeyond
    rw [codePoint, encode_ofNat (by omega), if_neg (by omega), if_neg (by omega),
      if_neg (by omega), ofNat_eq (a := a) (by omega), ofNat_eq (a := b) (by omega),
      ofNat_eq (a := c) (by omega), ofNat_eq (a := d) (by omega)]

theorem valid_iff (s : Bytes) : Valid s ↔ ∃ cs, s = ofChars cs := by
  constructor
  · intro h
    obtain ⟨characters, hall, rfl⟩ := exists_characters h
    clear h
    induction characters with
    | nil => exact ⟨[], rfl⟩
    | cons bs characters ih =>
      obtain ⟨hbs, hrest⟩ := List.forall_mem_cons.mp hall
      obtain ⟨c, rfl⟩ := exists_encode_eq hbs
      obtain ⟨cs, hcs⟩ := ih hrest
      exact ⟨c :: cs, by rw [List.flatten_cons, hcs]; rfl⟩
  · rintro ⟨cs, rfl⟩
    exact valid_ofChars cs

/-- Texts of ASCII characters but the first one have no zero in them. -/
theorem nul_notMem_ofChars {cs : List Char} (h : ∀ c ∈ cs, 0 < c.toNat ∧ c.toNat < 128) :
    Ascii.nul ∉ ofChars cs := by
  intro hmem
  obtain ⟨c, hc, hnul⟩ := List.mem_flatMap.mp hmem
  obtain ⟨hpos, hlt⟩ := h c hc
  have hencode : encode c = [UInt8.ofNat c.toNat] :=
    if_pos (show c.val.toNat ≤ 127 from Nat.le_of_lt_succ hlt)
  rw [hencode, List.mem_singleton] at hnul
  have hzero : c.toNat = 0 := eq_of_ofNat_eq (by omega) hnul.symm
  omega

end TwinFiles.Utf8
