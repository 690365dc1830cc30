import Mathlib.Data.List.Forall2
import TwinFiles.Style

/-!
# Colors and plain text

`Style.Decorates colored plain` says that one text is another with some parts of it painted, none of
which holds an escape byte. Decorations can be put together (`Decorates.append`), so what is painted
piece by piece is decoration as a whole. Without its sequences the colored text is the plain one
(`Decorates.strip_eq`), and every style is reset before another is opened (`Decorates.balanced`).
-/

namespace TwinFiles.Style

variable {text codes rest : Bytes}

/-! ## Sequences and what stands between them -/

theorem sequence_append (codes rest : Bytes) :
    sequence codes ++ rest = Ascii.escape :: ((utf8 "[" ++ codes) ++ 0x6D :: rest) := by
  rw [sequence]
  simp only [List.append_assoc, List.cons_append]
  rfl

/-- Text without an escape byte stays. -/
theorem strip_append (h : Ascii.escape ∉ text) (rest : Bytes) :
    strip (text ++ rest) = text ++ strip rest := by
  induction text with
  | nil => rfl
  | cons b text ih =>
    rw [List.mem_cons, not_or] at h
    have hstays : strip (b :: (text ++ rest)) = b :: strip (text ++ rest) := if_neg (Ne.symm h.1)
    rw [List.cons_append, hstays, ih h.2, List.cons_append]

theorem stripFrom_inside (h : 0x6D ∉ codes) (rest : Bytes) :
    stripFrom true (codes ++ 0x6D :: rest) = strip rest := by
  induction codes with
  | nil => rfl
  | cons b codes ih =>
    rw [List.mem_cons, not_or] at h
    have hgoes : stripFrom true (b :: (codes ++ 0x6D :: rest)) =
        stripFrom true (codes ++ 0x6D :: rest) := if_neg (Ne.symm h.1)
    rw [List.cons_append, hgoes, ih h.2]

/-- A sequence goes, up to the letter that ends it. -/
theorem strip_sequence (h : 0x6D ∉ codes) (rest : Bytes) :
    strip (sequence codes ++ rest) = strip rest := by
  have hinside : (0x6D : UInt8) ∉ utf8 "[" ++ codes := by
    rw [List.mem_append, not_or]
    exact ⟨by decide, h⟩
  rw [sequence_append]
  exact stripFrom_inside hinside rest

theorem sequencesFrom_append (h : Ascii.escape ∉ text) (rest : Bytes) :
    sequencesFrom none (text ++ rest) = sequencesFrom none rest := by
  induction text with
  | nil => rfl
  | cons b text ih =>
    rw [List.mem_cons, not_or] at h
    have hgoes : sequencesFrom none (b :: (text ++ rest)) = sequencesFrom none (text ++ rest) :=
      if_neg (Ne.symm h.1)
    rw [List.cons_append, hgoes, ih h.2]

theorem sequencesFrom_inside (held : Bytes) (h : 0x6D ∉ codes) (rest : Bytes) :
    sequencesFrom (some held) (codes ++ 0x6D :: rest) =
      (held ++ codes) :: sequencesFrom none rest := by
  induction codes generalizing held with
  | nil =>
    rw [List.append_nil]
    rfl
  | cons b codes ih =>
    rw [List.mem_cons, not_or] at h
    have hheld : sequencesFrom (some held) (b :: (codes ++ 0x6D :: rest)) =
        sequencesFrom (some (held ++ [b])) (codes ++ 0x6D :: rest) := if_neg (Ne.symm h.1)
    rw [List.cons_append, hheld, ih _ h.2, List.append_assoc]
    rfl

/-- A sequence is read with its bracket. -/
theorem sequencesFrom_sequence (h : 0x6D ∉ codes) (rest : Bytes) :
    sequencesFrom none (sequence codes ++ rest) =
      (utf8 "[" ++ codes) :: sequencesFrom none rest := by
  have hinside : (0x6D : UInt8) ∉ utf8 "[" ++ codes := by
    rw [List.mem_append, not_or]
    exact ⟨by decide, h⟩
  rw [sequence_append]
  exact sequencesFrom_inside [] hinside rest

/-! ## Styles -/

/-- The codes of a style are numbers. -/
theorem letter_notMem_codes (style : Style) : 0x6D ∉ style.codes := by
  cases style <;> decide

/-- No style is opened by what resets it. -/
theorem codes_ne_reset (style : Style) : utf8 "[" ++ style.codes ≠ utf8 "[0" := by
  cases style <;> decide

theorem paint_append (style : Style) (text rest : Bytes) :
    style.paint true text ++ rest =
      sequence style.codes ++ (text ++ (sequence (utf8 "0") ++ rest)) := by
  rw [paint, if_pos rfl, reset, List.append_assoc, List.append_assoc]

/-! ## Decoration -/

/-- One text is another with some parts of it painted. No escape byte stands in either but for those
of the paint. -/
inductive Decorates : Bytes → Bytes → Prop where
  | nil : Decorates [] []
  | plain {text colored plain : Bytes} (hquiet : Ascii.escape ∉ text) :
      Decorates colored plain → Decorates (text ++ colored) (text ++ plain)
  | painted (style : Style) {text colored plain : Bytes} (hquiet : Ascii.escape ∉ text) :
      Decorates colored plain → Decorates (style.paint true text ++ colored) (text ++ plain)

namespace Decorates

variable {colored plain colored' plain' : Bytes}

/-- Text that is not painted. -/
theorem of_plain (hquiet : Ascii.escape ∉ text) : Decorates text text := by
  have h := plain hquiet nil
  rwa [List.append_nil] at h

/-- A painted text and the same text without color. -/
theorem of_painted (style : Style) (hquiet : Ascii.escape ∉ text) :
    Decorates (style.paint true text) (style.paint false text) := by
  have h := painted style hquiet nil
  rwa [List.append_nil, List.append_nil] at h

theorem append (h : Decorates colored plain) (h' : Decorates colored' plain') :
    Decorates (colored ++ colored') (plain ++ plain') := by
  induction h with
  | nil => exact h'
  | plain hquiet _ ih =>
    rw [List.append_assoc, List.append_assoc]
    exact .plain hquiet ih
  | painted style hquiet _ ih =>
    rw [List.append_assoc, List.append_assoc]
    exact .painted style hquiet ih

theorem strip_eq (h : Decorates colored plain) : strip colored = plain := by
  induction h with
  | nil => rfl
  | plain hquiet _ ih => rw [strip_append hquiet, ih]
  | painted style hquiet _ ih =>
    have hreset : (0x6D : UInt8) ∉ utf8 "0" := by decide
    rw [paint_append, strip_sequence (letter_notMem_codes style), strip_append hquiet,
      strip_sequence hreset, ih]

theorem balanced (h : Decorates colored plain) : balanced colored = true := by
  rw [Style.balanced]
  induction h with
  | nil => rfl
  | plain hquiet _ ih =>
    rw [sequencesFrom_append hquiet]
    exact ih
  | painted style hquiet _ ih =>
    have hreset : (0x6D : UInt8) ∉ utf8 "0" := by decide
    rw [paint_append, sequencesFrom_sequence (letter_notMem_codes style),
      sequencesFrom_append hquiet, sequencesFrom_sequence hreset, alternates, ih,
      bne_iff_ne.mpr (codes_ne_reset style)]
    rfl

theorem escape_notMem (h : Decorates colored plain) : Ascii.escape ∉ plain := by
  induction h with
  | nil => exact List.not_mem_nil
  | plain hquiet _ ih =>
    rw [List.mem_append, not_or]
    exact ⟨hquiet, ih⟩
  | painted style hquiet _ ih =>
    rw [List.mem_append, not_or]
    exact ⟨hquiet, ih⟩

/-- Lines that are decorated one by one make up a decorated text. -/
theorem flatMap_lines {coloreds plains : List Bytes}
    (h : List.Forall₂ Decorates coloreds plains) :
    Decorates (coloreds.flatMap (· ++ [Ascii.newline]))
      (plains.flatMap (· ++ [Ascii.newline])) := by
  induction h with
  | nil => exact nil
  | cons hline _ ih =>
    rw [List.flatMap_cons, List.flatMap_cons]
    exact (hline.append (of_plain (by decide))).append ih

end Decorates

end TwinFiles.Style
