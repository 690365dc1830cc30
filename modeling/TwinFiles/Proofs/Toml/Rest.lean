import TwinFiles.Toml.Scalar

/-!
# What readers leave

A reader of a document reads from its front, so what it leaves is an end of what it was given. That
holds of each reader for what stands on its own: blanks, strings, keys, dates and numbers.
-/

namespace TwinFiles.Toml

variable {s rest : Bytes}

/-! ## Blanks, line ends and comments -/

theorem skipBlanks_suffix (s : Bytes) : skipBlanks s <:+ s :=
  List.dropWhile_suffix _

/-- A newline stands right in front of what follows a line end. -/
theorem newline_cons_suffix (h : afterNewline? s = some rest) : Ascii.newline :: rest <:+ s := by
  unfold afterNewline? at h
  split at h
  · cases h
    exact List.suffix_rfl
  · cases h
    exact List.suffix_cons _ _
  · cases h

theorem afterNewline?_suffix (h : afterNewline? s = some rest) : rest <:+ s :=
  (List.suffix_cons _ _).trans (newline_cons_suffix h)

theorem skipComment_suffix (s : Bytes) : skipComment s <:+ s := by
  unfold skipComment
  split
  · exact (List.dropWhile_suffix _).trans (List.suffix_cons _ _)
  · exact List.suffix_rfl

theorem skipLines_suffix (fuel : Nat) (s : Bytes) : skipLines fuel s <:+ s := by
  induction fuel generalizing s with
  | zero => exact List.suffix_rfl
  | succ fuel ih =>
    rw [skipLines]
    split
    · next rest h =>
      exact (ih rest).trans ((afterNewline?_suffix h).trans
        ((skipComment_suffix _).trans (skipBlanks_suffix s)))
    · exact skipBlanks_suffix s

/-! ## Strings -/

theorem readCodePoint_suffix {count : Nat} {part : Bytes}
    (h : readCodePoint count s = some (part, rest)) : rest <:+ s := by
  unfold readCodePoint at h
  split at h
  · cases h
  · obtain ⟨c, _, hc⟩ := Option.map_eq_some_iff.mp h
    cases hc
    exact List.drop_suffix count s

theorem readEscape_suffix {part : Bytes} (h : readEscape s = some (part, rest)) : rest <:+ s := by
  unfold readEscape at h
  split at h
  case h_8 => exact (readCodePoint_suffix h).trans (List.suffix_cons _ _)
  case h_9 => exact (readCodePoint_suffix h).trans (List.suffix_cons _ _)
  case h_10 => cases h
  all_goals
    cases h
    exact List.suffix_cons _ _

theorem readBasic_suffix {fuel : Nat} {text : Bytes} (h : readBasic fuel s = some (text, rest)) :
    rest <:+ s := by
  induction fuel generalizing s text with
  | zero => cases h
  | succ fuel ih =>
    cases s with
    | nil => cases h
    | cons b s =>
      refine List.IsSuffix.trans ?_ (List.suffix_cons b s)
      rw [readBasic] at h
      split at h
      · cases h
        exact List.suffix_rfl
      · split at h
        · obtain ⟨⟨part, behind⟩, hescape, h⟩ := Option.bind_eq_some_iff.mp h
          obtain ⟨⟨more, last⟩, hmore, h⟩ := Option.bind_eq_some_iff.mp h
          cases h
          exact (ih hmore).trans (readEscape_suffix hescape)
        · split at h
          · obtain ⟨⟨more, last⟩, hmore, h⟩ := Option.bind_eq_some_iff.mp h
            cases h
            exact ih hmore
          · cases h

theorem readLiteral_suffix {text : Bytes} (h : readLiteral s = some (text, rest)) : rest <:+ s := by
  unfold readLiteral at h
  split at h
  · next heq =>
    cases h
    exact (List.suffix_cons 0x27 _).trans (heq ▸ List.dropWhile_suffix _)
  · cases h

theorem skipBlankLines_suffix (s : Bytes) : skipBlankLines s <:+ s := by
  fun_induction skipBlankLines s with
  | case1 rest ih => exact ih.trans ((List.suffix_cons _ _).trans (List.suffix_cons _ _))
  | case2 b rest _ _ ih => exact ih.trans (List.suffix_cons _ _)
  | case3 => exact List.suffix_rfl
  | case4 => exact List.suffix_rfl

theorem afterFoldedLine?_suffix (h : afterFoldedLine? s = some rest) : rest <:+ s := by
  obtain ⟨line, hline, rfl⟩ := Option.map_eq_some_iff.mp h
  exact (skipBlankLines_suffix line).trans
    ((afterNewline?_suffix hline).trans (skipBlanks_suffix s))

/-- What a run of quotes leaves, unless it is too long. -/
def QuoteRun.rest? : QuoteRun → Option Bytes
  | inside _ rest => some rest
  | closing _ rest => some rest
  | tooLong => none

theorem quoteRun_suffix {quote : UInt8} (h : (quoteRun quote s).rest? = some rest) :
    rest <:+ s := by
  simp only [quoteRun] at h
  split at h
  · cases h
    exact List.dropWhile_suffix _
  · split at h
    · cases h
      exact List.dropWhile_suffix _
    · cases h

theorem readLines_suffix {quote : UInt8} {escapes : Bool} {fuel : Nat} {text : Bytes}
    (h : readLines quote escapes fuel s = some (text, rest)) : rest <:+ s := by
  induction fuel generalizing s text with
  | zero => cases h
  | succ fuel ih =>
    cases s with
    | nil => cases h
    | cons b s =>
      rw [readLines] at h
      split at h
      · split at h
        · next heq =>
          cases h
          exact quoteRun_suffix (by rw [heq]; rfl)
        · next heq =>
          obtain ⟨⟨more, last⟩, hmore, h⟩ := Option.bind_eq_some_iff.mp h
          cases h
          exact (ih hmore).trans (quoteRun_suffix (by rw [heq]; rfl))
        · cases h
      · split at h
        · refine List.IsSuffix.trans ?_ (List.suffix_cons b s)
          split at h
          · next hfold => exact (ih h).trans (afterFoldedLine?_suffix hfold)
          · obtain ⟨⟨part, behind⟩, hescape, h⟩ := Option.bind_eq_some_iff.mp h
            obtain ⟨⟨more, last⟩, hmore, h⟩ := Option.bind_eq_some_iff.mp h
            cases h
            exact (ih hmore).trans (readEscape_suffix hescape)
        · split at h
          · next hnewline =>
            obtain ⟨⟨more, last⟩, hmore, h⟩ := Option.bind_eq_some_iff.mp h
            cases h
            exact (ih hmore).trans (afterNewline?_suffix hnewline)
          · split at h
            · obtain ⟨⟨more, last⟩, hmore, h⟩ := Option.bind_eq_some_iff.mp h
              cases h
              exact (ih hmore).trans (List.suffix_cons b s)
            · cases h

theorem skipFirstNewline_suffix (s : Bytes) : skipFirstNewline s <:+ s := by
  unfold skipFirstNewline
  cases h : afterNewline? s with
  | none => exact List.suffix_rfl
  | some rest => exact afterNewline?_suffix h

theorem readString_suffix {text : Bytes} (h : readString s = some (text, rest)) : rest <:+ s := by
  have hthree : ∀ (quote : UInt8) (s : Bytes),
      skipFirstNewline s <:+ quote :: quote :: quote :: s := by
    intro quote s
    exact (skipFirstNewline_suffix s).trans (List.suffix_append [quote, quote, quote] s)
  unfold readString at h
  split at h
  · exact (readLines_suffix h).trans (hthree 0x22 _)
  · exact (readLines_suffix h).trans (hthree 0x27 _)
  · exact (readBasic_suffix h).trans (List.suffix_cons _ _)
  · exact (readLiteral_suffix h).trans (List.suffix_cons _ _)
  · cases h

/-! ## Keys -/

theorem readKeyPart_suffix {part : Bytes} (h : readKeyPart s = some (part, rest)) :
    rest <:+ s := by
  unfold readKeyPart at h
  split at h
  · exact (readBasic_suffix h).trans (List.suffix_cons _ _)
  · exact (readLiteral_suffix h).trans (List.suffix_cons _ _)
  · split at h
    · cases h
    · cases h
      exact List.dropWhile_suffix _

theorem readKeyParts_suffix {fuel : Nat} {parts : List Bytes}
    (h : readKeyParts fuel s = some (parts, rest)) : rest <:+ s := by
  induction fuel generalizing s parts with
  | zero => cases h
  | succ fuel ih =>
    rw [readKeyParts] at h
    obtain ⟨⟨part, behind⟩, hpart, h⟩ := Option.bind_eq_some_iff.mp h
    have hbehind : skipBlanks behind <:+ s :=
      (skipBlanks_suffix behind).trans ((readKeyPart_suffix hpart).trans (skipBlanks_suffix s))
    dsimp only at h
    split at h
    · next heq =>
      obtain ⟨⟨more, last⟩, hmore, h⟩ := Option.bind_eq_some_iff.mp h
      cases h
      rw [heq] at hbehind
      exact (ih hmore).trans ((List.suffix_cons _ _).trans hbehind)
    · cases h
      exact hbehind

theorem readKey_suffix {key : List Bytes} (h : readKey s = some (key, rest)) : rest <:+ s := by
  obtain ⟨⟨parts, behind⟩, hparts, h⟩ := Option.bind_eq_some_iff.mp h
  dsimp only at h
  split at h
  · cases h
  · cases h
    exact readKeyParts_suffix hparts

/-! ## Dates and times -/

theorem readBounded_suffix {count low high n : Nat}
    (h : readBounded count low high s = some (n, rest)) : rest <:+ s := by
  unfold readBounded at h
  split at h
  · cases h
  · split at h
    · split at h
      · cases h
        exact List.drop_suffix count s
      · cases h
    · cases h

theorem eq_cons_of_after? {b : UInt8} (h : after? b s = some rest) : s = b :: rest := by
  unfold after? at h
  split at h
  · split at h
    · next hb =>
      cases h
      rw [hb]
    · cases h
  · cases h

theorem after?_suffix {b : UInt8} (h : after? b s = some rest) : rest <:+ s :=
  eq_cons_of_after? h ▸ List.suffix_cons b rest

theorem afterDate?_suffix (h : afterDate? s = some rest) : rest <:+ s := by
  obtain ⟨⟨year, s₁⟩, hyear, h⟩ := Option.bind_eq_some_iff.mp h
  obtain ⟨s₂, hdash, h⟩ := Option.bind_eq_some_iff.mp h
  obtain ⟨⟨month, s₃⟩, hmonth, h⟩ := Option.bind_eq_some_iff.mp h
  obtain ⟨s₄, hdash', h⟩ := Option.bind_eq_some_iff.mp h
  obtain ⟨⟨day, s₅⟩, hday, h⟩ := Option.bind_eq_some_iff.mp h
  cases h
  exact (readBounded_suffix hday).trans ((after?_suffix hdash').trans
    ((readBounded_suffix hmonth).trans ((after?_suffix hdash).trans (readBounded_suffix hyear))))

theorem afterFraction_suffix (s : Bytes) : afterFraction s <:+ s := by
  unfold afterFraction
  split
  · split
    · exact (List.dropWhile_suffix _).trans ((List.suffix_cons _ _).trans (List.suffix_cons _ _))
    · exact List.suffix_rfl
  · exact List.suffix_rfl

theorem afterTime?_suffix (h : afterTime? s = some rest) : rest <:+ s := by
  obtain ⟨⟨hours, s₁⟩, hhours, h⟩ := Option.bind_eq_some_iff.mp h
  obtain ⟨s₂, hcolon, h⟩ := Option.bind_eq_some_iff.mp h
  obtain ⟨⟨minutes, s₃⟩, hminutes, h⟩ := Option.bind_eq_some_iff.mp h
  obtain ⟨s₄, hcolon', h⟩ := Option.bind_eq_some_iff.mp h
  obtain ⟨⟨seconds, s₅⟩, hseconds, h⟩ := Option.bind_eq_some_iff.mp h
  cases h
  exact (afterFraction_suffix s₅).trans ((readBounded_suffix hseconds).trans
    ((after?_suffix hcolon').trans ((readBounded_suffix hminutes).trans
      ((after?_suffix hcolon).trans (readBounded_suffix hhours)))))

theorem afterOffset?_suffix (h : afterOffset? s = some rest) : rest <:+ s := by
  unfold afterOffset? at h
  split at h
  · next b s =>
    refine List.IsSuffix.trans ?_ (List.suffix_cons b s)
    split at h
    · cases h
      exact List.suffix_rfl
    · split at h
      · obtain ⟨⟨hours, s₁⟩, hhours, h⟩ := Option.bind_eq_some_iff.mp h
        obtain ⟨s₂, hcolon, h⟩ := Option.bind_eq_some_iff.mp h
        obtain ⟨⟨minutes, s₃⟩, hminutes, h⟩ := Option.bind_eq_some_iff.mp h
        cases h
        exact (readBounded_suffix hminutes).trans
          ((after?_suffix hcolon).trans (readBounded_suffix hhours))
      · cases h
  · cases h

theorem afterTimeOfDate_suffix (s : Bytes) : afterTimeOfDate s <:+ s := by
  unfold afterTimeOfDate
  split
  · next b s =>
    split
    · split
      · next behind htime =>
        have hbehind := (afterTime?_suffix htime).trans (List.suffix_cons b s)
        cases hoffset : afterOffset? behind with
        | none => exact hbehind
        | some last => exact (afterOffset?_suffix hoffset).trans hbehind
      · exact List.suffix_rfl
    · exact List.suffix_rfl
  · exact List.suffix_rfl

theorem afterMoment?_suffix (h : afterMoment? s = some rest) : rest <:+ s := by
  unfold afterMoment? at h
  split at h
  · next hdate =>
    cases h
    exact (afterTimeOfDate_suffix _).trans (afterDate?_suffix hdate)
  · exact afterTime?_suffix h

/-! ## Numbers -/

theorem spanDigits_suffix (isDigit : UInt8 → Bool) (s : Bytes) :
    (spanDigits isDigit s).2 <:+ s := by
  fun_induction spanDigits isDigit s with
  | case1 => exact List.suffix_rfl
  | case2 => exact List.nil_suffix
  | case3 => exact List.suffix_rfl
  | case4 b _ d tail _ _ _ _ ih =>
    -- the underscore goes with the digit in front of it
    exact ih.trans (List.suffix_append [b, 0x5F] (d :: tail))
  | case5 => exact List.suffix_cons _ _
  | case6 => exact List.suffix_cons _ _
  | case7 b c rest _ _ _ _ hspan ih =>
    rw [hspan] at ih
    exact ih.trans (List.suffix_cons b (c :: rest))
  | case8 => exact List.suffix_rfl

theorem readDigits_suffix {isDigit : UInt8 → Bool} {digits : Bytes}
    (h : readDigits isDigit s = some (digits, rest)) : rest <:+ s := by
  have hspan := spanDigits_suffix isDigit s
  unfold readDigits at h
  split at h
  · cases h
  · next heq =>
    cases h
    rwa [heq] at hspan

theorem readBased_suffix {base : Nat} {value : Value} (h : readBased base s = some (value, rest)) :
    rest <:+ s := by
  obtain ⟨⟨digits, behind⟩, hdigits, h⟩ := Option.bind_eq_some_iff.mp h
  obtain ⟨n, _, h⟩ := Option.bind_eq_some_iff.mp h
  cases h
  exact readDigits_suffix hdigits

theorem readWhole_suffix {digits : Bytes} (h : readWhole s = some (digits, rest)) :
    rest <:+ s := by
  unfold readWhole at h
  split at h
  · cases h
    exact List.suffix_cons _ _
  · exact readDigits_suffix h

theorem splitSign_suffix (s : Bytes) : (splitSign s).2 <:+ s := by
  unfold splitSign
  split
  · exact List.suffix_cons _ _
  · exact List.suffix_cons _ _
  · exact List.suffix_rfl

theorem readFraction_suffix {digits : Bytes} (h : readFraction s = some (digits, rest)) :
    rest <:+ s := by
  unfold readFraction at h
  split at h
  · exact (readDigits_suffix h).trans (List.suffix_cons _ _)
  · cases h

theorem readExponent_suffix {n : Int} (h : readExponent s = some (n, rest)) : rest <:+ s := by
  unfold readExponent at h
  split at h
  · next b s =>
    split at h
    · obtain ⟨⟨digits, behind⟩, hdigits, h⟩ := Option.bind_eq_some_iff.mp h
      cases h
      exact (readDigits_suffix hdigits).trans
        ((splitSign_suffix s).trans (List.suffix_cons b s))
    · cases h
  · cases h

theorem readDecimal_suffix {value : Value} (h : readDecimal s = some (value, rest)) :
    rest <:+ s := by
  obtain ⟨⟨whole, behind⟩, hwhole, h⟩ := Option.bind_eq_some_iff.mp h
  have hbehind := (readWhole_suffix hwhole).trans (splitSign_suffix s)
  dsimp only at h
  split at h
  · next fraction behind' hfraction =>
    have hfraction' := (readFraction_suffix hfraction).trans hbehind
    obtain ⟨x, _, h⟩ := Option.bind_eq_some_iff.mp h
    cases h
    cases hexponent : readExponent behind' with
    | none => exact hfraction'
    | some found => exact (readExponent_suffix hexponent).trans hfraction'
  · split at h
    · next hexponent =>
      obtain ⟨x, _, h⟩ := Option.bind_eq_some_iff.mp h
      cases h
      exact (readExponent_suffix hexponent).trans hbehind
    · obtain ⟨n, _, h⟩ := Option.bind_eq_some_iff.mp h
      cases h
      exact hbehind

theorem afterWord?_suffix {word : Bytes} (h : afterWord? word s = some rest) : rest <:+ s := by
  unfold afterWord? at h
  split at h
  · cases h
    exact List.drop_suffix _ _
  · cases h

theorem readSpecial_suffix {value : Value} (h : readSpecial s = some (value, rest)) :
    rest <:+ s := by
  simp only [readSpecial] at h
  split at h
  · next hinf =>
    cases h
    exact (afterWord?_suffix hinf).trans (splitSign_suffix s)
  · obtain ⟨behind, hnan, h⟩ := Option.map_eq_some_iff.mp h
    cases h
    exact (afterWord?_suffix hnan).trans (splitSign_suffix s)

theorem readNumber_suffix {value : Value} (h : readNumber s = some (value, rest)) :
    rest <:+ s := by
  have hbased : ∀ {base : Nat} {letter : UInt8} {s : Bytes},
      readBased base s = some (value, rest) → rest <:+ 0x30 :: letter :: s := by
    intro base letter s h
    exact (readBased_suffix h).trans (List.suffix_append [0x30, letter] s)
  unfold readNumber at h
  split at h
  · next hmoment =>
    cases h
    exact afterMoment?_suffix hmoment
  · split at h
    · exact hbased h
    · exact hbased h
    · exact hbased h
    · split at h
      · next hspecial =>
        cases h
        exact readSpecial_suffix hspecial
      · exact readDecimal_suffix h

end TwinFiles.Toml
