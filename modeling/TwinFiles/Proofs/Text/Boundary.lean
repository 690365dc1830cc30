import TwinFiles.Proofs.Text.Characters
import TwinFiles.Proofs.Text.Hex

/-!
# Where a text can be cut

No ASCII byte lies inside a character, so a text falls into two texts around one
(`valid_append_cons_iff`). What stands between ASCII bytes is text, then (`valid_of_mem_splitOn`),
and so is a text with ASCII bytes put in the place of ASCII bytes.
-/

namespace TwinFiles.Utf8

variable {s t : Bytes} {b : UInt8}

/-! ## Around an ASCII byte -/

/-- A character that holds an ASCII byte is that byte. -/
theorem IsCharacter.eq_of_ascii_mem {bs : Bytes} (h : IsCharacter bs) (hb : b < 0x80)
    (hmem : b ∈ bs) : bs = [b] := by
  have hlow : ∀ {c : UInt8}, 0x80 ≤ c → b ≠ c := by
    rintro c hc rfl
    exact absurd hb (UInt8.not_lt.mpr hc)
  have hsecond : ∀ {p : Prop} [Decidable p] {m c : UInt8}, 0x80 ≤ m →
      (if p then m else 0x80) ≤ c → b ≠ c := by
    intro p _ m c hm hc
    refine hlow (UInt8.le_trans ?_ hc)
    split
    · exact hm
    · exact UInt8.le_refl _
  rcases character_cases h with ⟨a, _, rfl⟩ | ⟨a, c, ha, _, hc, rfl⟩ |
    ⟨a, c, d, ha, _, hc, hd, rfl⟩ | ⟨a, c, d, e, ha, _, hc, hd, he, rfl⟩
  · rw [List.mem_singleton.mp hmem]
  · have hfirst : b ≠ a := hlow (UInt8.le_trans (by decide) ha)
    simp [hfirst, hlow hc.1] at hmem
  · have hfirst : b ≠ a := hlow (UInt8.le_trans (by decide) ha)
    simp [hfirst, hsecond (by decide) hc.1, hlow hd.1] at hmem
  · have hfirst : b ≠ a := hlow (UInt8.le_trans (by decide) ha)
    simp [hfirst, hsecond (by decide) hc.1, hlow hd.1, hlow he.1] at hmem

/-- A text falls into two around an ASCII byte, and two texts can be put around one. -/
theorem valid_append_cons_iff (hb : b < 0x80) : Valid (s ++ b :: t) ↔ Valid s ∧ Valid t := by
  constructor
  · intro h
    obtain ⟨characters, hall, heq⟩ := exists_characters h
    clear h
    induction characters generalizing s with
    | nil => simp at heq
    | cons bs characters ih =>
      obtain ⟨hbs, hrest⟩ := List.forall_mem_cons.mp hall
      rw [List.flatten_cons, List.append_eq_append_iff] at heq
      rcases heq with ⟨more, rfl, hmore⟩ | ⟨more, rfl, hmore⟩
      · obtain ⟨hvalid, ht⟩ := ih hrest hmore
        refine ⟨?_, ht⟩
        rw [← List.flatten_singleton (l := bs)]
        exact valid_append (valid_flatten (List.forall_mem_singleton.mpr hbs)) hvalid
      · -- the byte would lie in the character, unless it is the next one
        cases more with
        | nil =>
          obtain ⟨_, ht⟩ := ih (s := []) hrest hmore.symm
          rw [List.append_nil] at hbs
          exact ⟨by simpa using valid_flatten (List.forall_mem_singleton.mpr hbs), ht⟩
        | cons c more =>
          obtain ⟨rfl, rfl⟩ := List.cons.inj hmore
          have hone := hbs.eq_of_ascii_mem hb (by simp)
          rw [List.append_eq_singleton_iff] at hone
          rcases hone with ⟨rfl, hone⟩ | ⟨_, hone⟩
          · rw [List.cons.injEq] at hone
            rw [hone.2]
            exact ⟨rfl, valid_flatten hrest⟩
          · cases hone
  · rintro ⟨hs, ht⟩
    rw [← List.singleton_append]
    exact valid_append hs (valid_append (valid_of_isAscii (by simpa [IsAscii] using hb)) ht)

theorem IsCharacter.valid_append_iff {bs : Bytes} (h : IsCharacter bs) :
    Valid (bs ++ t) ↔ Valid t := by
  simp [Valid, valid, h t, Piece.isCharacter]

theorem valid_cons_iff (hb : b < 0x80) : Valid (b :: t) ↔ Valid t :=
  (isCharacter_ascii hb).valid_append_iff

/-- ASCII characters can be taken away from the front of a text. -/
theorem valid_ascii_append_iff (hs : IsAscii s) : Valid (s ++ t) ↔ Valid t := by
  induction s with
  | nil => rfl
  | cons b s ih =>
    obtain ⟨hb, hrest⟩ := List.forall_mem_cons.mp hs
    rw [List.cons_append, valid_cons_iff hb, ih hrest]

/-- What stands behind an ASCII byte in a text is a text. -/
theorem valid_of_suffix (hs : Valid s) (hb : b < 0x80) (h : b :: t <:+ s) : Valid t := by
  obtain ⟨front, rfl⟩ := h
  exact ((valid_append_cons_iff hb).mp hs).2

/-! ## Texts put together and cut -/

theorem valid_flatMap {α : Type} {l : List α} {f : α → Bytes} (h : ∀ a ∈ l, Valid (f a)) :
    Valid (l.flatMap f) := by
  induction l with
  | nil => rfl
  | cons a l ih =>
    rw [List.flatMap_cons]
    exact valid_append (h a List.mem_cons_self) (ih fun a' ha' => h a' (List.mem_cons_of_mem _ ha'))

theorem valid_join {sep : Bytes} (hsep : Valid sep) {parts : List Bytes}
    (h : ∀ part ∈ parts, Valid part) : Valid (Bytes.join sep parts) := by
  induction parts with
  | nil => rfl
  | cons part parts ih =>
    obtain ⟨hpart, hparts⟩ := List.forall_mem_cons.mp h
    cases parts with
    | nil => exact hpart
    | cons next parts => exact valid_append (valid_append hpart hsep) (ih hparts)

/-- The parts of a text between ASCII bytes are texts. -/
theorem valid_of_mem_splitOn (hb : b < 0x80) (hs : Valid s) :
    ∀ part ∈ Bytes.splitOn b s, Valid part := by
  have hparts : ∀ parts : List Bytes, Valid (Bytes.join [b] parts) →
      ∀ part ∈ parts, Valid part := by
    intro parts h
    induction parts with
    | nil => exact List.forall_mem_nil _
    | cons part parts ih =>
      cases parts with
      | nil => exact List.forall_mem_singleton.mpr h
      | cons next parts =>
        rw [Bytes.join, List.append_assoc, List.singleton_append, valid_append_cons_iff hb] at h
        exact List.forall_mem_cons.mpr ⟨h.1, ih h.2⟩
  rw [← Bytes.join_splitOn b s] at hs
  exact hparts _ hs

/-- A text stays one if its ASCII bytes are changed into others. -/
theorem valid_map {f : UInt8 → UInt8} (hascii : ∀ b < 0x80, f b < 0x80)
    (hother : ∀ b, ¬ b < 0x80 → f b = b) (hs : Valid s) : Valid (s.map f) := by
  have hheld : ∀ held : Bytes, Valid (held ++ s) → Valid (held ++ s.map f) := by
    clear hs
    induction s with
    | nil => exact fun held h => h
    | cons b s ih =>
      intro held h
      rw [List.map_cons]
      by_cases hb : b < 0x80
      · obtain ⟨hfront, hrest⟩ := (valid_append_cons_iff hb).mp h
        exact (valid_append_cons_iff (hascii b hb)).mpr ⟨hfront, ih [] hrest⟩
      · rw [hother b hb, List.append_cons]
        exact ih _ (by rwa [← List.append_cons])
  exact hheld [] hs

end TwinFiles.Utf8

namespace TwinFiles.Ascii

/-- No byte beyond ASCII has another case, and no case of a letter lies there. -/
theorem toLower_ascii (b : UInt8) :
    (b < 0x80 → toLower b < 0x80) ∧ (¬ b < 0x80 → toLower b = b) := by
  revert b
  apply Bytes.forall_byte
  decide +kernel

end TwinFiles.Ascii
