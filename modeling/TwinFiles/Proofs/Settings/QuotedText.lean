import Mathlib.Data.List.Infix
import TwinFiles.Proofs.Fallible
import TwinFiles.Proofs.Text.Hex
import TwinFiles.Proofs.Text.Span
import TwinFiles.Settings.EnvironmentValue

/-!
# Quoted texts in variables

What may stand between quotes (`Closed`, `Quoted`) and which text it is read as. In front of its
first escape a quoted text is cut to as many bytes as it has characters there. Where that cut falls
inside a character (`Torn`) the reading breaks off; otherwise `quoted` reads just what is `Quoted`
(`quoted_eq_ok_iff`, `quoted_eq_torn_iff`).
-/

namespace TwinFiles.EnvironmentValue

/-! ## Escapes -/

/-- The characters behind a backslash that stand for a character on their own. -/
def shortEscapes : List (Char × Char) := [
  ('"', '"'), ('\\', '\\'), ('b', '\x08'), ('f', '\x0c'), ('n', '\n'), ('r', '\r'), ('t', '\t')]

/-- What may stand behind a backslash, and the character that it stands for. -/
inductive Escape : List Char → Char → Prop where
  | short {e c : Char} : (e, c) ∈ shortEscapes → Escape [e] c
  | fourDigits {digits : List Char} {c : Char} :
      digits.length = 4 → codePoint? digits = some c → Escape ('u' :: digits) c
  | eightDigits {digits : List Char} {c : Char} :
      digits.length = 8 → codePoint? digits = some c → Escape ('U' :: digits) c

theorem readEscape_append {e : List Char} {c : Char} (h : Escape e c) (rest : List Char) :
    readEscape (e ++ rest) = some (c, rest) := by
  cases h with
  | short h =>
    simp only [shortEscapes, List.mem_cons, Prod.mk.injEq, List.not_mem_nil, or_false] at h
    rcases h with ⟨rfl, rfl⟩ | ⟨rfl, rfl⟩ | ⟨rfl, rfl⟩ | ⟨rfl, rfl⟩ | ⟨rfl, rfl⟩ | ⟨rfl, rfl⟩ |
      ⟨rfl, rfl⟩ <;> rfl
  | fourDigits hlength hcode =>
    simp [readEscape, hlength, hcode]
  | eightDigits hlength hcode =>
    simp [readEscape, hlength, hcode]

theorem exists_escape_of_readEscape {s rest : List Char} {c : Char}
    (h : readEscape s = some (c, rest)) : ∃ e, s = e ++ rest ∧ Escape e c := by
  unfold readEscape at h
  split at h
  case h_8 digits =>
    split at h
    · cases h
    · obtain ⟨c', hcode, h⟩ := Option.map_eq_some_iff.mp h
      cases h
      refine ⟨'u' :: digits.take 4, ?_, .fourDigits ?_ hcode⟩
      · simp
      · simp
        omega
  case h_9 digits =>
    split at h
    · cases h
    · obtain ⟨c', hcode, h⟩ := Option.map_eq_some_iff.mp h
      cases h
      refine ⟨'U' :: digits.take 8, ?_, .eightDigits ?_ hcode⟩
      · simp
      · simp
        omega
  case h_10 => cases h
  all_goals
    cases h
    exact ⟨[_], rfl, .short (by simp [shortEscapes])⟩

/-- The digits of a code point neither close a text nor escape anything. -/
theorem ne_of_mem_codePoint {digits : List Char} {c : Char} (h : codePoint? digits = some c) :
    ∀ d ∈ digits, d ≠ '"' ∧ d ≠ '\\' := by
  obtain ⟨n, hnumber, _⟩ := Option.bind_eq_some_iff.mp h
  intro d hd
  obtain ⟨value, hvalue⟩ := Hex.digitValue?_of_number? hnumber d.toNat (List.mem_map_of_mem hd)
  constructor
  · rintro rfl
    simp [Hex.digitValue?] at hvalue
  · rintro rfl
    simp [Hex.digitValue?] at hvalue

/-! ## Between quotes -/

/-- No quote but behind a backslash, and no backslash at the end. -/
inductive Closed : List Char → Prop where
  | nil : Closed []
  | single {c : Char} {s : List Char} : c ≠ '"' → c ≠ '\\' → Closed s → Closed (c :: s)
  | pair {c : Char} {s : List Char} : Closed s → Closed ('\\' :: c :: s)

theorem closed_cons_iff {c : Char} (hc : c ≠ '\\') (s : List Char) :
    Closed (c :: s) ↔ c ≠ '"' ∧ Closed s := by
  constructor
  · intro h
    cases h with
    | single hquote _ h => exact ⟨hquote, h⟩
    | pair _ => exact absurd rfl hc
  · rintro ⟨hquote, h⟩
    exact .single hquote hc h

theorem closed_pair_iff (c : Char) (s : List Char) : Closed ('\\' :: c :: s) ↔ Closed s := by
  refine ⟨fun h => ?_, .pair⟩
  cases h with
  | single _ hbackslash _ => exact absurd rfl hbackslash
  | pair h => exact h

theorem spanQuoted_eq_some_iff {s inner rest : List Char} :
    spanQuoted s = some (inner, rest) ↔ s = inner ++ '"' :: rest ∧ Closed inner := by
  constructor
  · intro h
    fun_induction spanQuoted s generalizing inner with
    | case1 => cases h
    | case2 =>
      cases h
      exact ⟨rfl, .nil⟩
    | case3 c s ih =>
      obtain ⟨⟨inner', rest'⟩, hs, h⟩ := Option.map_eq_some_iff.mp h
      cases h
      obtain ⟨rfl, hclosed⟩ := ih hs
      exact ⟨rfl, .pair hclosed⟩
    | case4 c s hquote hpair ih =>
      obtain ⟨⟨inner', rest'⟩, hs, h⟩ := Option.map_eq_some_iff.mp h
      cases h
      obtain ⟨rfl, hclosed⟩ := ih hs
      refine ⟨rfl, .single hquote ?_ hclosed⟩
      rintro rfl
      -- a backslash would have been taken with what follows it
      cases inner' <;> exact hpair _ _ rfl rfl
  · rintro ⟨rfl, hclosed⟩
    induction hclosed with
    | nil => rfl
    | single hquote hbackslash _ ih =>
      rw [List.cons_append, spanQuoted, ih]
      · rfl
      · exact hquote
      · exact fun _ _ hc _ => hbackslash hc
    | pair _ ih =>
      rw [List.cons_append, List.cons_append, spanQuoted, ih]
      rfl

theorem closed_append_iff {s : List Char} (hs : ∀ c ∈ s, c ≠ '"' ∧ c ≠ '\\') (rest : List Char) :
    Closed (s ++ rest) ↔ Closed rest := by
  induction s with
  | nil => rfl
  | cons c s ih =>
    obtain ⟨⟨hquote, hbackslash⟩, hs⟩ := List.forall_mem_cons.mp hs
    rw [List.cons_append, closed_cons_iff hbackslash, ih hs]
    exact and_iff_right hquote

/-- Behind an escape that is complete, a text is as closed as with it. -/
theorem Escape.closed_iff {e : List Char} {c : Char} (h : Escape e c) (rest : List Char) :
    Closed ('\\' :: (e ++ rest)) ↔ Closed rest := by
  cases h with
  | short _ => exact closed_pair_iff _ rest
  | fourDigits _ hcode =>
    exact (closed_pair_iff _ _).trans (closed_append_iff (ne_of_mem_codePoint hcode) rest)
  | eightDigits _ hcode =>
    exact (closed_pair_iff _ _).trans (closed_append_iff (ne_of_mem_codePoint hcode) rest)

/-- The front of a text up to its first backslash has no quote in it. -/
theorem Closed.ne_quote {s rest : List Char} (h : Closed (s ++ rest)) (hs : '\\' ∉ s) :
    ∀ c ∈ s, c ≠ '"' := by
  induction s with
  | nil => simp
  | cons c s ih =>
    rw [List.mem_cons, not_or] at hs
    rw [List.cons_append, closed_cons_iff (Ne.symm hs.1)] at h
    exact List.forall_mem_cons.mpr ⟨h.1, ih h.2 hs.2⟩

/-- Characters that stand for themselves between quotes. -/
def Plain (s : List Char) : Prop :=
  ∀ c ∈ s, isPlain c = true ∧ c ≠ '"' ∧ c ≠ '\\'

theorem Plain.notMem {s : List Char} (h : Plain s) : '\\' ∉ s :=
  fun hmem => (h _ hmem).2.2 rfl

theorem plain_iff_all {s rest : List Char} (hclosed : Closed (s ++ rest)) (hs : '\\' ∉ s) :
    Plain s ↔ s.all isPlain = true := by
  rw [List.all_eq_true]
  refine ⟨fun h c hc => (h c hc).1, fun h c hc => ⟨h c hc, hclosed.ne_quote hs c hc, ?_⟩⟩
  rintro rfl
  exact hs hc

/-! ## What escapes stand for -/

/-- Characters and escapes, and the text that they stand for. -/
inductive Unescapes : List Char → List Char → Prop where
  | nil : Unescapes [] []
  | plain {c : Char} {s text : List Char} :
      isPlain c = true → c ≠ '"' → c ≠ '\\' → Unescapes s text → Unescapes (c :: s) (c :: text)
  | escape {e s text : List Char} {c : Char} :
      Escape e c → Unescapes s text → Unescapes ('\\' :: (e ++ s)) (c :: text)

theorem Unescapes.closed {s text : List Char} (h : Unescapes s text) : Closed s := by
  induction h with
  | nil => exact .nil
  | plain _ hquote hbackslash _ ih => exact .single hquote hbackslash ih
  | escape he _ ih => exact (he.closed_iff _).mpr ih

/-- Fuel that suffices for something is enough for one step. -/
theorem exists_succ_of_lt {m n : Nat} (h : m < n) : ∃ k, n = k + 1 :=
  Nat.exists_eq_succ_of_ne_zero (Nat.ne_zero_of_lt h)

theorem unescape_of_unescapes {s text : List Char} (h : Unescapes s text) {fuel : Nat}
    (hfuel : s.length < fuel) : unescape fuel s = some text := by
  induction h generalizing fuel with
  | nil =>
    obtain ⟨fuel, rfl⟩ := exists_succ_of_lt hfuel
    rfl
  | plain hplain _ hbackslash _ ih =>
    obtain ⟨fuel, rfl⟩ := exists_succ_of_lt hfuel
    rw [unescape, if_pos hplain, ih (Nat.lt_of_succ_lt_succ hfuel)]
    · rfl
    · exact hbackslash
  | @escape e s text c he _ ih =>
    obtain ⟨fuel, rfl⟩ := exists_succ_of_lt hfuel
    have hrest : s.length < fuel := by
      simp at hfuel
      omega
    rw [unescape, readEscape_append he]
    show (unescape fuel s).map _ = _
    rw [ih hrest]
    rfl

theorem unescapes_of_unescape {fuel : Nat} {s text : List Char} (hclosed : Closed s)
    (h : unescape fuel s = some text) : Unescapes s text := by
  fun_induction unescape fuel s generalizing text with
  | case1 => cases h
  | case2 =>
    cases h
    exact .nil
  | case3 fuel s c rest hescape ih =>
    obtain ⟨text', htext, rfl⟩ := Option.map_eq_some_iff.mp h
    obtain ⟨e, rfl, he⟩ := exists_escape_of_readEscape hescape
    exact .escape he (ih ((he.closed_iff rest).mp hclosed) htext)
  | case4 => cases h
  | case5 fuel c s hbackslash hplain ih =>
    obtain ⟨text', htext, rfl⟩ := Option.map_eq_some_iff.mp h
    cases hclosed with
    | single hquote hne hclosed => exact .plain hplain hquote hne (ih hclosed htext)
    | pair _ => exact absurd rfl hbackslash
  | case6 => cases h

/-! ## The cut -/

/-- A front is found by the bytes that it takes. -/
theorem front?_eq_some_iff {n : Nat} {s front : List Char} :
    front? n s = some front ↔ front <+: s ∧ (Utf8.ofChars front).length = n := by
  have hcons : ∀ (c : Char) (cs : List Char),
      (Utf8.ofChars (c :: cs)).length = c.utf8Size + (Utf8.ofChars cs).length := by
    intro c cs
    simp [Utf8.ofChars, Utf8.encode]
  fun_induction front? n s generalizing front with
  | case1 s =>
    constructor
    · intro h
      cases h
      exact ⟨List.nil_prefix, rfl⟩
    · rintro ⟨_, hlength⟩
      cases front with
      | nil => rfl
      | cons c cs =>
        rw [hcons] at hlength
        have hsize := c.utf8Size_pos
        omega
  | case2 room =>
    refine iff_of_false (fun h => by cases h) ?_
    rintro ⟨hbegins, hlength⟩
    cases List.prefix_nil.mp hbegins
    cases hlength
  | case3 room c rest hfits ih =>
    rw [Option.map_eq_some_iff]
    constructor
    · rintro ⟨front', hfront, rfl⟩
      obtain ⟨hbegins, hlength⟩ := ih.mp hfront
      refine ⟨(List.prefix_cons_inj c).mpr hbegins, ?_⟩
      rw [hcons, hlength]
      omega
    · rintro ⟨hbegins, hlength⟩
      rcases List.prefix_cons_iff.mp hbegins with rfl | ⟨front', rfl, hrest⟩
      · cases hlength
      · rw [hcons] at hlength
        exact ⟨front', ih.mpr ⟨hrest, by omega⟩, rfl⟩
  | case4 room c rest hfits =>
    refine iff_of_false (fun h => by cases h) ?_
    rintro ⟨hbegins, hlength⟩
    rcases List.prefix_cons_iff.mp hbegins with rfl | ⟨front', rfl, _⟩
    · cases hlength
    · rw [hcons] at hlength
      omega

/-! ## Quoted texts -/

/-- What stands between quotes, and the text that it is read as. Without an escape that is what
stands there. In front of the first escape it is as many bytes as there are characters. -/
inductive Quoted : List Char → List Char → Prop where
  | plain {s : List Char} : Plain s → Quoted s s
  | escaped {s front rest text : List Char} :
      Plain s → front <+: s → (Utf8.ofChars front).length = s.length →
      Unescapes ('\\' :: rest) text → Quoted (s ++ '\\' :: rest) (front ++ text)

/-- What stands between quotes would be cut inside a character: no front of what stands before its
first backslash has as many bytes as there are characters. -/
def Torn (inner : List Char) : Prop :=
  ∃ s rest, inner = s ++ '\\' :: rest ∧ Plain s ∧
    (∀ front, front <+: s → (Utf8.ofChars front).length ≠ s.length) ∧ Closed inner

theorem Quoted.closed {inner text : List Char} (h : Quoted inner text) : Closed inner := by
  cases h with
  | plain hplain =>
    rw [← List.append_nil inner]
    exact (closed_append_iff (fun c hc => (hplain c hc).2) []).mpr .nil
  | escaped hplain _ _ hrest =>
    exact (closed_append_iff (fun c hc => (hplain c hc).2) _).mpr hrest.closed

theorem quoted_of_notMem {s : List Char} (hs : '\\' ∉ s) :
    quoted s = if s.all isPlain then .ok s else .error .malformed := by
  have hfront : s.takeWhile (· != '\\') = s := by
    rw [List.takeWhile_eq_self_iff]
    intro c hc
    exact bne_iff_ne.mpr fun h => hs (h ▸ hc)
  rw [quoted, hfront, List.drop_length]
  cases s.all isPlain <;> rfl

theorem quoted_append {s : List Char} (hs : '\\' ∉ s) (rest : List Char) :
    quoted (s ++ '\\' :: rest) =
      if s.all isPlain then
        match front? s.length s, unescape (rest.length + 2) ('\\' :: rest) with
        | none, _ => .error .torn
        | some _, none => .error .malformed
        | some front, some text => .ok (front ++ text)
      else .error .malformed := by
  have hfront : (s ++ '\\' :: rest).takeWhile (· != '\\') = s := by
    refine takeWhile_append_stop (fun c hc => bne_iff_ne.mpr fun h => hs (h ▸ hc)) ?_
    intro c hc
    cases hc
    rfl
  rw [quoted, hfront, List.drop_left]
  cases s.all isPlain <;> rfl

theorem quoted_eq_ok_iff {inner text : List Char} (hclosed : Closed inner) :
    quoted inner = .ok text ↔ Quoted inner text := by
  constructor
  · intro h
    by_cases hescape : '\\' ∈ inner
    · obtain ⟨s, rest, rfl, hs⟩ := List.eq_append_cons_of_mem hescape
      rw [quoted_append hs] at h
      split at h
      · next hall =>
        have hplain := (plain_iff_all hclosed hs).mpr hall
        have hrest := (closed_append_iff (fun c hc => (hplain c hc).2) _).mp hclosed
        split at h
        · cases h
        · cases h
        · next front text hfront htext =>
          cases h
          obtain ⟨hbegins, hlength⟩ := front?_eq_some_iff.mp hfront
          exact .escaped hplain hbegins hlength (unescapes_of_unescape hrest htext)
      · cases h
    · rw [quoted_of_notMem hescape] at h
      split at h
      · next hall =>
        cases h
        rw [← List.append_nil inner] at hclosed
        exact .plain ((plain_iff_all hclosed hescape).mpr hall)
      · cases h
  · intro h
    cases h with
    | plain hplain =>
      rw [quoted_of_notMem hplain.notMem, if_pos]
      exact List.all_eq_true.mpr fun c hc => (hplain c hc).1
    | escaped hplain hbegins hlength hrest =>
      rw [quoted_append hplain.notMem, if_pos,
        front?_eq_some_iff.mpr ⟨hbegins, hlength⟩, unescape_of_unescapes hrest (by simp)]
      exact List.all_eq_true.mpr fun c hc => (hplain c hc).1

theorem quoted_eq_torn_iff {inner : List Char} (hclosed : Closed inner) :
    quoted inner = .error .torn ↔ Torn inner := by
  constructor
  · intro h
    by_cases hescape : '\\' ∈ inner
    · obtain ⟨s, rest, rfl, hs⟩ := List.eq_append_cons_of_mem hescape
      rw [quoted_append hs] at h
      split at h
      · next hall =>
        refine ⟨s, rest, rfl, (plain_iff_all hclosed hs).mpr hall, ?_, hclosed⟩
        intro front hbegins hlength
        rw [front?_eq_some_iff.mpr ⟨hbegins, hlength⟩] at h
        split at h <;> simp_all
      · cases h
    · rw [quoted_of_notMem hescape] at h
      split at h <;> cases h
  · rintro ⟨s, rest, rfl, hplain, hcut, _⟩
    have hnone : front? s.length s = none := by
      rw [Option.eq_none_iff_forall_ne_some]
      intro front hfront
      obtain ⟨hbegins, hlength⟩ := front?_eq_some_iff.mp hfront
      exact hcut front hbegins hlength
    rw [quoted_append hplain.notMem, if_pos, hnone]
    exact List.all_eq_true.mpr fun c hc => (hplain c hc).1

/-! ## Reading behind the opening quote -/

theorem readQuoted_eq_ok_iff {s text rest : List Char} :
    readQuoted s = .ok (text, rest) ↔ ∃ inner, s = inner ++ '"' :: rest ∧ Quoted inner text := by
  constructor
  · intro h
    rw [readQuoted] at h
    split at h
    · next inner rest' hspan =>
      obtain ⟨rfl, hclosed⟩ := spanQuoted_eq_some_iff.mp hspan
      cases hquoted : quoted inner with
      | error e =>
        rw [hquoted] at h
        cases h
      | ok text' =>
        rw [hquoted] at h
        cases h
        exact ⟨inner, rfl, (quoted_eq_ok_iff hclosed).mp hquoted⟩
    · cases h
  · rintro ⟨inner, rfl, hquoted⟩
    rw [readQuoted, spanQuoted_eq_some_iff.mpr ⟨rfl, hquoted.closed⟩]
    simp only [(quoted_eq_ok_iff hquoted.closed).mpr hquoted]
    rfl

theorem readQuoted_eq_torn_iff {s : List Char} :
    readQuoted s = .error .torn ↔ ∃ inner rest, s = inner ++ '"' :: rest ∧ Torn inner := by
  constructor
  · intro h
    rw [readQuoted] at h
    split at h
    · next inner rest hspan =>
      obtain ⟨rfl, hclosed⟩ := spanQuoted_eq_some_iff.mp hspan
      cases hquoted : quoted inner with
      | ok text =>
        rw [hquoted] at h
        cases h
      | error e =>
        rw [hquoted] at h
        cases h
        exact ⟨inner, rest, rfl, (quoted_eq_torn_iff hclosed).mp hquoted⟩
    · cases h
  · rintro ⟨inner, rest, rfl, htorn⟩
    have hclosed : Closed inner := by
      obtain ⟨_, _, _, _, _, hclosed⟩ := htorn
      exact hclosed
    rw [readQuoted, spanQuoted_eq_some_iff.mpr ⟨rfl, hclosed⟩]
    simp only [(quoted_eq_torn_iff hclosed).mpr htorn]
    rfl

end TwinFiles.EnvironmentValue
