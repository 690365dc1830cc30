import TwinFiles.Path
import TwinFiles.Proofs.Text.Utf8

/-!
# Texts without a byte

Splitting at newlines gives the lines that were put together (`Bytes.splitOn_lines`), if none of
them holds a newline itself. Nothing that is done to a path for display puts one in, nor any other
byte that is `Foreign` to it: not the lossy form (`Path.Foreign.notMem_display`), nor the file name,
nor the absolute form.
-/

namespace TwinFiles

namespace Bytes

/-- A part is followed by the separator, and holds none. -/
theorem splitOn_append_cons {sep : UInt8} {part : Bytes} (h : sep ∉ part) (rest : Bytes) :
    splitOn sep (part ++ sep :: rest) = part :: splitOn sep rest := by
  induction part with
  | nil => rw [List.nil_append, splitOn, if_pos rfl]
  | cons b part ih =>
    rw [List.mem_cons, not_or] at h
    rw [List.cons_append, splitOn, if_neg (Ne.symm h.1), ih h.2]

/-- The lines that a text was put together from are its parts between newlines. -/
theorem splitOn_lines {lines : List Bytes} (h : ∀ line ∈ lines, Ascii.newline ∉ line)
    (rest : Bytes) :
    splitOn Ascii.newline (lines.flatMap (· ++ [Ascii.newline]) ++ rest) =
      lines ++ splitOn Ascii.newline rest := by
  induction lines with
  | nil => rfl
  | cons line lines ih =>
    have hline : Ascii.newline ∉ line := h line List.mem_cons_self
    rw [List.flatMap_cons, List.append_assoc, List.append_assoc, List.singleton_append,
      splitOn_append_cons hline, ih fun other hother => h other (List.mem_cons_of_mem _ hother),
      List.cons_append]

/-- No separator stands in what it separates. -/
theorem notMem_of_mem_splitOn {sep : UInt8} {s part : Bytes} (h : part ∈ splitOn sep s) :
    sep ∉ part := by
  induction s generalizing part with
  | nil =>
    rw [splitOn, List.mem_singleton] at h
    rw [h]
    exact List.not_mem_nil
  | cons b rest ih =>
    obtain ⟨first, parts, hparts⟩ := List.exists_cons_of_ne_nil (splitOn_ne_nil sep rest)
    rw [hparts] at ih
    rw [splitOn, hparts] at h
    split at h
    · rcases List.mem_cons.mp h with rfl | h
      · exact List.not_mem_nil
      · exact ih h
    · next hb =>
      rcases List.mem_cons.mp h with rfl | h
      · rw [List.mem_cons, not_or]
        exact ⟨Ne.symm hb, ih List.mem_cons_self⟩
      · exact ih (List.mem_cons_of_mem _ h)

/-- The bytes of a part are bytes of the whole. -/
theorem mem_of_mem_splitOn {sep : UInt8} {s part : Bytes} (hpart : part ∈ splitOn sep s) {b : UInt8}
    (hb : b ∈ part) : b ∈ s := by
  induction s generalizing part with
  | nil =>
    rw [splitOn, List.mem_singleton] at hpart
    rw [hpart] at hb
    exact hb
  | cons c rest ih =>
    rw [splitOn] at hpart
    by_cases hsep : c = sep
    · rw [if_pos hsep, List.mem_cons] at hpart
      rcases hpart with rfl | hpart
      · cases hb
      · exact List.mem_cons_of_mem _ (ih hpart hb)
    · rw [if_neg hsep] at hpart
      obtain ⟨first, parts, hparts⟩ := List.exists_cons_of_ne_nil (splitOn_ne_nil sep rest)
      rw [hparts] at hpart ih
      rcases List.mem_cons.mp hpart with rfl | hpart
      · rcases List.mem_cons.mp hb with rfl | hb
        · exact List.mem_cons_self
        · exact List.mem_cons_of_mem _ (ih List.mem_cons_self hb)
      · exact List.mem_cons_of_mem _ (ih (List.mem_cons_of_mem _ hpart) hb)

end Bytes

namespace Path

/-- The bytes of a component are those of the path, or dots and slashes. -/
theorem mem_of_mem_component {p : Path} {c : Component} (hc : c ∈ components p) {b : UInt8}
    (hb : b ∈ c.bytes) : b ∈ p ∨ b = Ascii.dot ∨ b = Ascii.slash := by
  have hparts : ∀ parts : List Bytes, (∀ part ∈ parts, ∀ b ∈ part, b ∈ p) →
      ∀ c ∈ componentsOf parts, ∀ b ∈ c.bytes, b ∈ p ∨ b = Ascii.dot ∨ b = Ascii.slash := by
    intro parts hbytes
    induction parts with
    | nil => simp [componentsOf]
    | cons part parts ih =>
      have hrest := ih fun other hother => hbytes other (List.mem_cons_of_mem _ hother)
      rw [componentsOf]
      split
      · exact hrest
      · split
        · refine List.forall_mem_cons.mpr ⟨?_, hrest⟩
          simp [Component.bytes]
        · refine List.forall_mem_cons.mpr ⟨?_, hrest⟩
          exact fun b hb => .inl (hbytes part List.mem_cons_self b hb)
  have hsplit : ∀ part ∈ Bytes.splitOn Ascii.slash p, ∀ b ∈ part, b ∈ p :=
    fun part hpart b hb => Bytes.mem_of_mem_splitOn hpart hb
  unfold components at hc
  split at hc
  · cases hc
  · next first parts heq =>
    rw [heq] at hsplit
    have hrest := hparts parts fun part hpart => hsplit part (List.mem_cons_of_mem _ hpart)
    split at hc
    · rcases List.mem_cons.mp hc with rfl | hc
      · exact .inr (.inr (List.mem_singleton.mp hb))
      · exact hrest c hc b hb
    · split at hc
      · rcases List.mem_cons.mp hc with rfl | hc
        · exact .inr (.inl (List.mem_singleton.mp hb))
        · exact hrest c hc b hb
      · exact hparts _ hsplit c hc b hb

/-- A byte that showing a path does not put in: neither the dots and slashes of an absolute form,
nor what stands for an invalid part. -/
def Foreign (b : UInt8) : Prop :=
  b ≠ Ascii.dot ∧ b ≠ Ascii.slash ∧ b ∉ Utf8.replacement

theorem newline_foreign : Foreign Ascii.newline := by
  unfold Foreign
  decide

section Foreign

variable {b : UInt8} {p home : Path}

theorem Foreign.notMem_component (hb : Foreign b) (h : b ∉ p) :
    ∀ c ∈ components p, b ∉ c.bytes := by
  intro c hc hmem
  rcases mem_of_mem_component hc hmem with hmem | hmem | hmem
  · exact h hmem
  · exact hb.1 hmem
  · exact hb.2.1 hmem

theorem Foreign.notMem_display (hb : Foreign b) (h : b ∉ p) : b ∉ p.display := by
  intro hmem
  rcases Utf8.mem_of_mem_lossy hmem with hmem | hmem
  · exact h hmem
  · exact hb.2.2 hmem

theorem Foreign.notMem_join (hb : Foreign b) (h : b ∉ p) {part : Bytes} (hpart : b ∉ part) :
    b ∉ p.join part := by
  rw [join]
  split
  · simp [h, hpart]
  · simp [h, hpart, hb.2.1]

theorem Foreign.notMem_extend (hb : Foreign b) (h : b ∉ p) {cs : List Component}
    (hcs : ∀ c ∈ cs, b ∉ c.bytes) : b ∉ extend p cs := by
  induction cs generalizing p with
  | nil => exact h
  | cons c cs ih =>
    have hrest : ∀ c ∈ cs, b ∉ c.bytes := fun c' hc' => hcs c' (List.mem_cons_of_mem _ hc')
    have hjoin : b ∉ p.join c.bytes := hb.notMem_join h (hcs c List.mem_cons_self)
    have hroot : b ∉ [Ascii.slash] := by simp [hb.2.1]
    cases c with
    | root => exact ih hroot hrest
    | here => exact ih hjoin hrest
    | parent => exact ih hjoin hrest
    | name bytes => exact ih hjoin hrest

/-- The working folder is part of the absolute form of a relative path alone. -/
theorem Foreign.notMem_absolute (hb : Foreign b)
    (hhome : p ≠ [] → isAbsolute p = false → b ∉ home) (h : b ∉ p) {q : Path}
    (hq : absolute? home p = some q) : b ∉ q := by
  have hcs := hb.notMem_component h
  have hbody : ∀ body : Path, b ∉ body →
      b ∉ if p.getLast? == some Ascii.slash then join body [] else body := by
    intro body hbody
    split
    · exact hb.notMem_join hbody List.not_mem_nil
    · exact hbody
  unfold absolute? at hq
  split at hq
  · cases hq
  · next hne =>
    rw [← Option.some.inj hq]
    apply hbody
    split
    · exact hb.notMem_extend (by simp [hb.2.1]) fun c hc => hcs c (List.mem_of_mem_tail hc)
    · split
      · exact hb.notMem_extend List.not_mem_nil hcs
      · next hrelative =>
        have hnil : p ≠ [] := fun h => hne (h ▸ rfl)
        exact hb.notMem_extend (hhome hnil (Bool.not_eq_true _ ▸ hrelative))
          fun c hc => hcs c (List.dropWhile_subset _ hc)

theorem Foreign.notMem_displayAbsolute (hb : Foreign b)
    (hhome : p ≠ [] → isAbsolute p = false → b ∉ home) (h : b ∉ p) :
    b ∉ displayAbsolute home p := by
  rw [displayAbsolute]
  apply hb.notMem_display
  cases hq : absolute? home p with
  | none => exact h
  | some q => exact hb.notMem_absolute hhome h hq

end Foreign

end Path

end TwinFiles
