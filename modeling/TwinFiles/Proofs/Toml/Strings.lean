import TwinFiles.Proofs.Text.Boundary
import TwinFiles.Proofs.Text.Span
import TwinFiles.Proofs.Toml.Rest

/-!
# Strings and keys of a document are texts

What a string stands for is UTF-8 if the document is: plain bytes are taken over one by one, an
escape stands for a character, and the quotes and backslashes between are ASCII, so that no
character is torn. The same holds of the parts of a key.
-/

namespace TwinFiles.Toml

open Utf8 (Valid IsAscii)

variable {s rest : Bytes}

/-! ## Skipping -/

theorem valid_skipBlanks (hs : Valid s) : Valid (skipBlanks s) := by
  have hfront : IsAscii (s.takeWhile isBlank) := by
    intro b hb
    have hblank := List.mem_takeWhile_imp hb
    simp only [isBlank, Bool.or_eq_true, beq_iff_eq] at hblank
    rcases hblank with rfl | rfl <;> decide
  rw [← List.takeWhile_append_dropWhile (p := isBlank) (l := s)] at hs
  exact (Utf8.valid_ascii_append_iff hfront).mp hs

/-- A text is cut in two by a line end. -/
theorem valid_append_afterNewline? {held : Bytes} (hs : Valid (held ++ s))
    (h : afterNewline? s = some rest) : Valid held ∧ Valid rest := by
  unfold afterNewline? at h
  split at h
  · cases h
    exact (Utf8.valid_append_cons_iff (by decide)).mp hs
  · cases h
    obtain ⟨hheld, hs⟩ := (Utf8.valid_append_cons_iff (by decide)).mp hs
    exact ⟨hheld, (Utf8.valid_cons_iff (by decide)).mp hs⟩
  · cases h

theorem valid_afterNewline? (hs : Valid s) (h : afterNewline? s = some rest) : Valid rest := by
  have hs : Valid ([] ++ s) := hs
  exact (valid_append_afterNewline? hs h).2

theorem valid_skipLines (fuel : Nat) (hs : Valid s) : Valid (skipLines fuel s) := by
  induction fuel generalizing s with
  | zero => exact hs
  | succ fuel ih =>
    rw [skipLines]
    split
    · next h =>
      have hnewline := (newline_cons_suffix h).trans
        ((skipComment_suffix _).trans (skipBlanks_suffix s))
      exact ih (Utf8.valid_of_suffix hs (by decide) hnewline)
    · exact valid_skipBlanks hs

/-- Behind a line the document goes on as a text. -/
theorem valid_afterLine? {behind : Bytes} (hs : Valid s) (hbehind : behind <:+ s)
    (h : afterLine? behind = some rest) : Valid rest := by
  have hskip := (skipComment_suffix (skipBlanks behind)).trans
    ((skipBlanks_suffix behind).trans hbehind)
  unfold afterLine? at h
  split at h
  · cases h
    rfl
  · exact Utf8.valid_of_suffix hs (by decide) ((newline_cons_suffix h).trans hskip)

theorem valid_skipBlankLines (hs : Valid s) : Valid (skipBlankLines s) := by
  fun_induction skipBlankLines s with
  | case1 rest ih =>
    exact ih ((Utf8.valid_cons_iff (by decide)).mp ((Utf8.valid_cons_iff (by decide)).mp hs))
  | case2 b rest _ hblank ih =>
    have hb : b < 0x80 := by
      simp only [isBlank, Bool.or_eq_true, beq_iff_eq] at hblank
      rcases hblank with (rfl | rfl) | rfl <;> decide
    exact ih ((Utf8.valid_cons_iff hb).mp hs)
  | case3 => exact hs
  | case4 => exact hs

theorem valid_afterFoldedLine? (hs : Valid s) (h : afterFoldedLine? s = some rest) :
    Valid rest := by
  obtain ⟨line, hline, rfl⟩ := Option.map_eq_some_iff.mp h
  exact valid_skipBlankLines (valid_afterNewline? (valid_skipBlanks hs) hline)

/-! ## Escapes -/

/-- Digits of a code point are ASCII, so a text goes on behind them. -/
theorem valid_readCodePoint {count : Nat} {part : Bytes} (hs : Valid s)
    (h : readCodePoint count s = some (part, rest)) : Valid part ∧ Valid rest := by
  unfold readCodePoint at h
  split at h
  · cases h
  · obtain ⟨c, hc, heq⟩ := Option.map_eq_some_iff.mp h
    cases heq
    obtain ⟨n, hnumber, _⟩ := Option.bind_eq_some_iff.mp hc
    have hdigits : IsAscii (s.take count) := by
      intro b hb
      obtain ⟨value, hvalue⟩ := Hex.digitValue?_of_number? hnumber b.toNat (List.mem_map_of_mem hb)
      rw [UInt8.lt_iff_toNat_lt]
      unfold Hex.digitValue? at hvalue
      split at hvalue
      · simp; omega
      · split at hvalue
        · simp; omega
        · split at hvalue
          · simp; omega
          · cases hvalue
    refine ⟨?_, ?_⟩
    · rw [← Utf8.ofChars_singleton]
      exact Utf8.valid_ofChars [c]
    · rw [← List.take_append_drop count s] at hs
      exact (Utf8.valid_ascii_append_iff hdigits).mp hs

theorem valid_readEscape {part : Bytes} (hs : Valid s) (h : readEscape s = some (part, rest)) :
    Valid part ∧ Valid rest := by
  unfold readEscape at h
  split at h
  case h_8 => exact valid_readCodePoint ((Utf8.valid_cons_iff (by decide)).mp hs) h
  case h_9 => exact valid_readCodePoint ((Utf8.valid_cons_iff (by decide)).mp hs) h
  case h_10 => cases h
  all_goals
    cases h
    exact ⟨by decide, (Utf8.valid_cons_iff (by decide)).mp hs⟩

/-! ## Strings -/

/-- An escape may follow where a text may be cut. -/
theorem valid_append_readEscape {held part : Bytes} (hs : Valid (held ++ 0x5C :: s))
    (h : readEscape s = some (part, rest)) : Valid (held ++ part ++ rest) := by
  obtain ⟨hheld, hs⟩ := (Utf8.valid_append_cons_iff (by decide)).mp hs
  obtain ⟨hpart, hrest⟩ := valid_readEscape hs h
  exact Utf8.valid_append (Utf8.valid_append hheld hpart) hrest

/-- A string goes on from what has been read of it: `held` may end inside a character, of which the
next bytes are the rest. -/
theorem valid_append_readBasic {fuel : Nat} {held text : Bytes} (hs : Valid (held ++ s))
    (h : readBasic fuel s = some (text, rest)) : Valid (held ++ text) := by
  induction fuel generalizing s held text with
  | zero => cases h
  | succ fuel ih =>
    cases s with
    | nil => cases h
    | cons b s =>
      rw [readBasic] at h
      split at h
      · next hquote =>
        cases h
        rw [List.append_nil]
        exact ((Utf8.valid_append_cons_iff (by rw [hquote]; decide)).mp hs).1
      · split at h
        · next hslash =>
          obtain ⟨⟨part, behind⟩, hescape, h⟩ := Option.bind_eq_some_iff.mp h
          obtain ⟨⟨more, last⟩, hmore, h⟩ := Option.bind_eq_some_iff.mp h
          cases h
          rw [hslash] at hs
          rw [← List.append_assoc]
          exact ih (valid_append_readEscape hs hescape) hmore
        · split at h
          · obtain ⟨⟨more, last⟩, hmore, h⟩ := Option.bind_eq_some_iff.mp h
            cases h
            rw [List.append_cons] at hs ⊢
            exact ih hs hmore
          · cases h

theorem valid_readBasic {fuel : Nat} {text : Bytes} (hs : Valid s)
    (h : readBasic fuel s = some (text, rest)) : Valid text := by
  have hs : Valid ([] ++ s) := hs
  exact valid_append_readBasic hs h

theorem valid_readLiteral {text : Bytes} (hs : Valid s) (h : readLiteral s = some (text, rest)) :
    Valid text := by
  unfold readLiteral at h
  split at h
  · next heq =>
    cases h
    rw [← List.takeWhile_append_dropWhile (p := fun b => isTextByte b && b != 0x27) (l := s),
      heq] at hs
    exact ((Utf8.valid_append_cons_iff (by decide)).mp hs).1
  · cases h

/-- Quotes that end no string are all part of it. -/
theorem append_of_quoteRun_inside {quote : UInt8} {run : Bytes}
    (h : quoteRun quote s = .inside run rest) : run ++ rest = s := by
  simp only [quoteRun] at h
  split at h
  · cases h
    exact List.takeWhile_append_dropWhile
  · split at h <;> cases h

/-- In front of the quotes that end a string there are only more of them. -/
theorem eq_of_mem_quoteRun_closing {quote : UInt8} {text : Bytes}
    (h : quoteRun quote s = .closing text rest) : ∀ b ∈ text, b = quote := by
  simp only [quoteRun] at h
  split at h
  · cases h
  · split at h
    · cases h
      intro b hb
      have hrun := List.mem_takeWhile_imp (List.mem_of_mem_drop hb)
      exact beq_iff_eq.mp hrun
    · cases h

theorem valid_append_readLines {quote : UInt8} (hquote : quote < 0x80) {escapes : Bool} {fuel : Nat}
    {held text : Bytes} (hs : Valid (held ++ s))
    (h : readLines quote escapes fuel s = some (text, rest)) : Valid (held ++ text) := by
  induction fuel generalizing s held text with
  | zero => cases h
  | succ fuel ih =>
    cases s with
    | nil => cases h
    | cons b s =>
      rw [readLines] at h
      split at h
      · next hb =>
        split at h
        · next hrun =>
          cases h
          have htext : IsAscii text := fun c hc => eq_of_mem_quoteRun_closing hrun c hc ▸ hquote
          exact Utf8.valid_append ((Utf8.valid_append_cons_iff (hb ▸ hquote)).mp hs).1
            (Utf8.valid_of_isAscii htext)
        · next hrun =>
          obtain ⟨⟨more, last⟩, hmore, h⟩ := Option.bind_eq_some_iff.mp h
          cases h
          rw [← append_of_quoteRun_inside hrun, ← List.append_assoc] at hs
          rw [← List.append_assoc]
          exact ih hs hmore
        · cases h
      · split at h
        · next hslash =>
          rw [hslash.1] at hs
          split at h
          · next hfold =>
            obtain ⟨hheld, hs⟩ := (Utf8.valid_append_cons_iff (by decide)).mp hs
            exact ih (Utf8.valid_append hheld (valid_afterFoldedLine? hs hfold)) h
          · obtain ⟨⟨part, behind⟩, hescape, h⟩ := Option.bind_eq_some_iff.mp h
            obtain ⟨⟨more, last⟩, hmore, h⟩ := Option.bind_eq_some_iff.mp h
            cases h
            rw [← List.append_assoc]
            exact ih (valid_append_readEscape hs hescape) hmore
        · split at h
          · next hnewline =>
            obtain ⟨⟨more, last⟩, hmore, h⟩ := Option.bind_eq_some_iff.mp h
            cases h
            obtain ⟨hheld, hbehind⟩ := valid_append_afterNewline? hs hnewline
            rw [List.append_cons]
            refine ih ?_ hmore
            rw [← List.append_cons]
            exact (Utf8.valid_append_cons_iff (by decide)).mpr ⟨hheld, hbehind⟩
          · split at h
            · obtain ⟨⟨more, last⟩, hmore, h⟩ := Option.bind_eq_some_iff.mp h
              cases h
              rw [List.append_cons] at hs ⊢
              exact ih hs hmore
            · cases h

theorem valid_readLines {quote : UInt8} (hquote : quote < 0x80) {escapes : Bool} {fuel : Nat}
    {text : Bytes} (hs : Valid s) (h : readLines quote escapes fuel s = some (text, rest)) :
    Valid text := by
  have hs : Valid ([] ++ s) := hs
  exact valid_append_readLines hquote hs h

theorem valid_skipFirstNewline (hs : Valid s) : Valid (skipFirstNewline s) := by
  unfold skipFirstNewline
  cases h : afterNewline? s with
  | none => exact hs
  | some rest => exact valid_afterNewline? hs h

/-- A string of any form that stands in a text is a text. -/
theorem valid_readString {text : Bytes} (hs : Valid s) (h : readString s = some (text, rest)) :
    Valid text := by
  have hbehind : ∀ {b : UInt8} {s : Bytes}, b < 0x80 → Valid (b :: s) → Valid s :=
    fun hb => (Utf8.valid_cons_iff hb).mp
  unfold readString at h
  split at h
  · have hs := hbehind (by decide) (hbehind (by decide) (hbehind (by decide) hs))
    exact valid_readLines (by decide) (valid_skipFirstNewline hs) h
  · have hs := hbehind (by decide) (hbehind (by decide) (hbehind (by decide) hs))
    exact valid_readLines (by decide) (valid_skipFirstNewline hs) h
  · exact valid_readBasic (hbehind (by decide) hs) h
  · exact valid_readLiteral (hbehind (by decide) hs) h
  · cases h

/-! ## Keys -/

theorem isAscii_of_isKeyByte {b : UInt8} (h : isKeyByte b = true) : b < 0x80 := by
  revert b
  apply Bytes.forall_byte
  decide +kernel

theorem valid_readKeyPart {part : Bytes} (hs : Valid s) (h : readKeyPart s = some (part, rest)) :
    Valid part := by
  unfold readKeyPart at h
  split at h
  · exact valid_readBasic ((Utf8.valid_cons_iff (by decide)).mp hs) h
  · exact valid_readLiteral ((Utf8.valid_cons_iff (by decide)).mp hs) h
  · split at h
    · cases h
    · cases h
      exact Utf8.valid_of_isAscii fun b hb => isAscii_of_isKeyByte (List.mem_takeWhile_imp hb)

theorem valid_readKeyParts {fuel : Nat} {parts : List Bytes} (hs : Valid s)
    (h : readKeyParts fuel s = some (parts, rest)) : ∀ part ∈ parts, Valid part := by
  induction fuel generalizing s parts with
  | zero => cases h
  | succ fuel ih =>
    rw [readKeyParts] at h
    obtain ⟨⟨part, behind⟩, hread, h⟩ := Option.bind_eq_some_iff.mp h
    have hpart := valid_readKeyPart (valid_skipBlanks hs) hread
    dsimp only at h
    split at h
    · next hdot =>
      obtain ⟨⟨more, last⟩, hmore, h⟩ := Option.bind_eq_some_iff.mp h
      cases h
      have hsuffix := (skipBlanks_suffix behind).trans
        ((readKeyPart_suffix hread).trans (skipBlanks_suffix s))
      rw [hdot] at hsuffix
      exact List.forall_mem_cons.mpr
        ⟨hpart, ih (Utf8.valid_of_suffix hs (by decide) hsuffix) hmore⟩
    · cases h
      exact List.forall_mem_singleton.mpr hpart

/-- The parts of a key that stands in a text are texts. -/
theorem valid_readKey {key : List Bytes} (hs : Valid s) (h : readKey s = some (key, rest)) :
    ∀ part ∈ key, Valid part := by
  obtain ⟨⟨parts, behind⟩, hparts, h⟩ := Option.bind_eq_some_iff.mp h
  dsimp only at h
  split at h
  · cases h
  · cases h
    exact valid_readKeyParts hs hparts

end TwinFiles.Toml
