import TwinFiles.Proofs.Settings.ValueGrammar

/-!
# Reading follows the grammar

What is read is spelled, and what makes reading break off does break (`follows`, by induction on the
fuel). What is spelled is read, with fuel for twice the text (`Spells.readAs`, by induction on the
spelling), and what breaks makes reading break off (`Breaks.stopsIn`). So a variable is read to its
end just where it spells a value (`readFront_eq_ok_iff`), and the reading breaks off just where a torn
text comes up (`readFront_eq_torn_iff`).
-/

namespace TwinFiles.EnvironmentValue

/-! ## What is read is spelled -/

/-- With this fuel, reading follows the grammar. -/
structure Follows (fuel : Nat) : Prop where
  value : ∀ {s rest value}, readValue fuel s = .ok (value, rest) →
    ∃ front, s = front ++ rest ∧ Spells front (.value value)
  items : ∀ {s rest items}, readItems fuel s = .ok (items, rest) →
    ∃ front, s = front ++ ']' :: rest ∧ Spells front (.items items)
  fields : ∀ {s rest fields}, readFields fuel s = .ok (fields, rest) →
    ∃ front, s = front ++ '\x7d' :: rest ∧ Spells front (.fields fields)
  tornValue : ∀ {s}, readValue fuel s = .error .torn → Breaks .value s
  tornItems : ∀ {s}, readItems fuel s = .error .torn → Breaks .items s
  tornFields : ∀ {s}, readFields fuel s = .error .torn → Breaks .fields s

theorem Wordlike.takeWhile {s : List Char} (h : Wordlike s)
    (hblank : ∀ c ∈ s.head?, isBlank c = false) : Word (s.takeWhile (!isSeparator ·)) := by
  have hbegins : s.takeWhile (!isSeparator ·) <+: s := List.takeWhile_prefix _
  have hhead : ∀ c ∈ (s.takeWhile (!isSeparator ·)).head?, c ∈ s.head? := by
    intro c hc
    cases s with
    | nil => exact hc
    | cons d s =>
      rw [List.takeWhile_cons] at hc
      split at hc
      · exact hc
      · cases hc
  exact
    { notBool := fun b hb => h.notBool b (hb.trans hbegins)
      notOpening := fun c hc => h.notOpening c (hhead c hc)
      noSeparator := fun c hc => by simpa using List.mem_takeWhile_imp hc
      noBlank := fun c hc => hblank c (hhead c hc) }

/-- Behind a word a separator comes, or nothing, but no blank. -/
theorem skipBlanks_dropWhile (s : List Char) :
    skipBlanks (s.dropWhile (!isSeparator ·)) = s.dropWhile (!isSeparator ·) := by
  refine skipBlanks_eq_self fun c hc => not_isBlank_of_isSeparator ?_
  have hnot := List.head?_dropWhile_not (!isSeparator ·) s
  rw [Option.mem_def.mp hc] at hnot
  simpa using hnot

variable {fuel : Nat}

theorem Follows.value_succ (h : Follows fuel) {s rest : List Char} {value : LayerValue}
    (hread : readValue (fuel + 1) s = .ok (value, rest)) :
    ∃ front, s = front ++ rest ∧ Spells front (.value value) := by
  obtain ⟨before, hbefore, hs⟩ := exists_blanks s
  have hblank := not_isBlank_head_skipBlanks s
  rw [readValue_succ] at hread
  obtain ⟨⟨_, rest'⟩, hcore, hrest⟩ := map_eq_ok_iff.mp hread
  obtain ⟨behind, hbehind, hrest'⟩ := exists_blanks rest'
  cases hrest
  generalize skipBlanks s = core at hs hblank hcore
  -- the blanks around it belong to the spelling, and its core tells which one it is
  rcases core_cases core with ⟨b, core, rfl⟩ | ⟨core, rfl⟩ | ⟨core, rfl⟩ | ⟨core, rfl⟩ |
    ⟨c, core, rfl⟩ | hword | hmalformed
  · rw [readCore_bool] at hcore
    cases hcore
    refine ⟨_, ?_, .bool b hbefore hbehind⟩
    simp [hs, ← hrest']
  · obtain ⟨⟨fields, _⟩, hfields, hcore⟩ := map_eq_ok_iff.mp hcore
    cases hcore
    obtain ⟨inner, hinner, hspells⟩ := h.fields hfields
    refine ⟨_, ?_, .table hbefore hbehind hspells⟩
    simp [hs, hinner, ← hrest']
  · obtain ⟨⟨items, _⟩, hitems, hcore⟩ := map_eq_ok_iff.mp hcore
    cases hcore
    obtain ⟨inner, hinner, hspells⟩ := h.items hitems
    refine ⟨_, ?_, .list hbefore hbehind hspells⟩
    simp [hs, hinner, ← hrest']
  · obtain ⟨⟨text, _⟩, htext, hcore⟩ := map_eq_ok_iff.mp hcore
    cases hcore
    obtain ⟨inner, hinner, hquoted⟩ := readQuoted_eq_ok_iff.mp htext
    refine ⟨_, ?_, .text hbefore hbehind hquoted⟩
    simp [hs, hinner, ← hrest']
  · cases hcore
    refine ⟨_, ?_, .character c hbefore hbehind⟩
    simp [hs, ← hrest']
  · rw [readCore_wordlike hword] at hcore
    cases hcore
    refine ⟨before ++ core.takeWhile (!isSeparator ·), ?_, ?_⟩
    · rw [skipBlanks_dropWhile, List.append_assoc, List.takeWhile_append_dropWhile, hs]
    · by_cases hnumeral : Numeral (Blank.trimChars (core.takeWhile (!isSeparator ·)))
      · exact .number hbefore (hword.takeWhile hblank) hnumeral
      · rw [bare_of_not_numeral hnumeral]
        exact .word hbefore (hword.takeWhile hblank) hnumeral
  · rw [hmalformed] at hcore
    cases hcore

theorem Follows.items_succ (h : Follows fuel) {s rest : List Char} {items : List LayerValue}
    (hread : readItems (fuel + 1) s = .ok (items, rest)) :
    ∃ front, s = front ++ ']' :: rest ∧ Spells front (.items items) := by
  by_cases hclose : ∃ rest, s = ']' :: rest
  · obtain ⟨rest, rfl⟩ := hclose
    cases hread
    exact ⟨[], rfl, .noItems⟩
  · rw [not_exists] at hclose
    rw [readItems_succ hclose] at hread
    split at hread
    · cases hread
    · next item rest' hvalue =>
      obtain ⟨⟨items, _⟩, hitems, hread⟩ := map_eq_ok_iff.mp hread
      cases hread
      obtain ⟨front, rfl, hspells⟩ := h.value hvalue
      obtain ⟨inner, rfl, hmore⟩ := h.items hitems
      exact ⟨front ++ ',' :: inner, by simp, .moreItems hspells hmore⟩
    · next item rest' hvalue =>
      cases hread
      obtain ⟨front, rfl, hspells⟩ := h.value hvalue
      refine ⟨front, rfl, .lastItem ?_ hspells⟩
      rintro rfl
      exact hclose _ rfl
    · cases hread

theorem Follows.fields_succ (h : Follows fuel) {s rest : List Char} {fields : Layer}
    (hread : readFields (fuel + 1) s = .ok (fields, rest)) :
    ∃ front, s = front ++ '\x7d' :: rest ∧ Spells front (.fields fields) := by
  rcases field_cases s with ⟨rest, rfl⟩ | ⟨front, name, s, rfl, hnamed⟩ |
    ⟨before, inner, rest', hbefore, htorn, rfl⟩ | hmalformed
  · cases hread
    exact ⟨[], rfl, .noFields⟩
  · rw [readFields_append hnamed] at hread
    split at hread
    · cases hread
    · next value rest' hvalue =>
      obtain ⟨⟨fields, _⟩, hfields, hread⟩ := map_eq_ok_iff.mp hread
      cases hread
      obtain ⟨s, rfl, hspells⟩ := h.value hvalue
      obtain ⟨inner, rfl, hmore⟩ := h.fields hfields
      exact ⟨front ++ (s ++ ',' :: inner), by simp, .moreFields hnamed hspells hmore⟩
    · next value rest' hvalue =>
      cases hread
      obtain ⟨s, rfl, hspells⟩ := h.value hvalue
      exact ⟨front ++ s, by simp, .lastField hnamed hspells⟩
    · cases hread
  · rw [readFields_torn hbefore htorn] at hread
    cases hread
  · rw [hmalformed] at hread
    cases hread

theorem Follows.tornValue_succ (h : Follows fuel) {s : List Char}
    (hread : readValue (fuel + 1) s = .error .torn) : Breaks .value s := by
  obtain ⟨before, hbefore, hs⟩ := exists_blanks s
  rw [readValue_succ, map_eq_error_iff] at hread
  rw [hs]
  generalize skipBlanks s = core at hread
  rcases core_cases core with ⟨b, core, rfl⟩ | ⟨core, rfl⟩ | ⟨core, rfl⟩ | ⟨core, rfl⟩ |
    ⟨c, core, rfl⟩ | hword | hmalformed
  · rw [readCore_bool] at hread
    cases hread
  · exact .table hbefore (h.tornFields (map_eq_error_iff.mp hread))
  · exact .list hbefore (h.tornItems (map_eq_error_iff.mp hread))
  · obtain ⟨inner, rest, rfl, htorn⟩ := readQuoted_eq_torn_iff.mp (map_eq_error_iff.mp hread)
    exact .text hbefore htorn
  · cases hread
  · rw [readCore_wordlike hword] at hread
    cases hread
  · rw [hmalformed] at hread
    cases hread

theorem Follows.tornItems_succ (h : Follows fuel) {s : List Char}
    (hread : readItems (fuel + 1) s = .error .torn) : Breaks .items s := by
  by_cases hclose : ∃ rest, s = ']' :: rest
  · obtain ⟨rest, rfl⟩ := hclose
    cases hread
  · rw [readItems_succ (not_exists.mp hclose)] at hread
    split at hread
    · next stop hvalue =>
      cases hread
      exact .item (h.tornValue hvalue)
    · next item rest hvalue =>
      obtain ⟨front, rfl, hspells⟩ := h.value hvalue
      exact .laterItem hspells (h.tornItems (map_eq_error_iff.mp hread))
    · cases hread
    · cases hread

theorem Follows.tornFields_succ (h : Follows fuel) {s : List Char}
    (hread : readFields (fuel + 1) s = .error .torn) : Breaks .fields s := by
  rcases field_cases s with ⟨rest, rfl⟩ | ⟨front, name, s, rfl, hnamed⟩ |
    ⟨before, inner, rest, hbefore, htorn, rfl⟩ | hmalformed
  · cases hread
  · rw [readFields_append hnamed] at hread
    split at hread
    · next stop hvalue =>
      cases hread
      exact .field hnamed (h.tornValue hvalue)
    · next value rest hvalue =>
      obtain ⟨s, rfl, hspells⟩ := h.value hvalue
      exact .laterField hnamed hspells (h.tornFields (map_eq_error_iff.mp hread))
    · cases hread
    · cases hread
  · exact .key hbefore htorn
  · rw [hmalformed] at hread
    cases hread

/-- The three readers call each other with less fuel, so they follow the grammar together. -/
theorem follows (fuel : Nat) : Follows fuel := by
  induction fuel with
  | zero =>
    constructor <;>
      · intros
        rename_i hread
        cases hread
  | succ fuel ih =>
    exact
      { value := ih.value_succ
        items := ih.items_succ
        fields := ih.fields_succ
        tornValue := ih.tornValue_succ
        tornItems := ih.tornItems_succ
        tornFields := ih.tornFields_succ }

/-! ## What is spelled is read -/

/-- A word with no separator in it is not cut by what ends the text in front of it. -/
theorem prefix_of_prefix_append {w s rest : List Char} (hw : ∀ c ∈ w, isSeparator c = false)
    (hrest : Ends rest) (h : w <+: s ++ rest) : w <+: s := by
  induction w generalizing s with
  | nil => exact List.nil_prefix
  | cons c w ih =>
    obtain ⟨hc, hw⟩ := List.forall_mem_cons.mp hw
    cases s with
    | nil =>
      obtain ⟨tail, htail⟩ := h
      have hhead : rest.head? = some c := by
        rw [← List.nil_append rest, ← htail]
        rfl
      rw [hrest.isSeparator c hhead] at hc
      cases hc
    | cons d s =>
      rw [List.cons_append, List.cons_prefix_cons] at h
      obtain ⟨rfl, h⟩ := h
      exact (List.prefix_cons_inj c).mpr (ih hw h)

theorem Word.wordlike_append {word rest : List Char} (h : Word word) (hrest : Ends rest) :
    Wordlike (word ++ rest) := by
  constructor
  · intro b hb
    exact h.notBool b (prefix_of_prefix_append not_isSeparator_of_mem_boolWord hrest hb)
  · intro c hc
    cases word with
    | nil => rcases hrest c hc with rfl | rfl | rfl <;> decide
    | cons d word => exact h.notOpening c hc

/-- A word is read up to where it ends. -/
theorem readCore_word {word rest : List Char} (h : Word word) (hrest : Ends rest) (fuel : Nat) :
    readCore fuel (word ++ rest) = .ok (scalar (bare (Blank.trimChars word)), rest) := by
  have hall : ∀ c ∈ word, (!isSeparator c) = true := by
    intro c hc
    rw [h.noSeparator c hc]
    rfl
  have hstop : ∀ c ∈ rest.head?, (!isSeparator c) = false := by
    intro c hc
    rw [hrest.isSeparator c hc]
    rfl
  rw [readCore_wordlike (h.wordlike_append hrest), takeWhile_append_stop hall hstop,
    dropWhile_append_stop hall hstop]

/-- A value is read between its blanks. -/
theorem readValue_between {before core behind rest : List Char} {value : LayerValue}
    (hbefore : Blanks before) (hcore : ∀ c ∈ core.head?, isBlank c = false)
    (hread : readCore fuel core = .ok (value, behind ++ rest)) (hbehind : Blanks behind)
    (hrest : Ends rest) : readValue (fuel + 1) (before ++ core) = .ok (value, rest) := by
  rw [readValue_succ, skipBlanks_append hbefore hcore, hread]
  show Except.ok (value, skipBlanks (behind ++ rest)) = _
  rw [skipBlanks_append_ends hbehind hrest]

/-- A word is a bare value. -/
theorem readValue_word {before word rest : List Char} (hbefore : Blanks before) (hword : Word word)
    (hrest : Ends rest) :
    readValue (fuel + 1) (before ++ word ++ rest) =
      .ok (scalar (bare (Blank.trimChars word)), rest) := by
  have hnone : Blanks [] := fun c hc => absurd hc List.not_mem_nil
  have hcore : readCore fuel (word ++ rest) =
      .ok (scalar (bare (Blank.trimChars word)), [] ++ rest) := readCore_word hword hrest fuel
  rw [List.append_assoc]
  refine readValue_between hbefore ?_ hcore hnone hrest
  intro c hc
  cases word with
  | nil => exact not_isBlank_of_isSeparator (hrest.isSeparator c hc)
  | cons d word => exact hword.noBlank c hc

/-- No value begins with the bracket that closes a list. -/
theorem Spells.ne_close {s : List Char} {value : LayerValue} (h : Spells s (.value value))
    (rest : List Char) : s ≠ ']' :: rest := by
  have hword : ∀ {word : List Char}, Word word → ∀ rest, word ≠ ']' :: rest := by
    rintro word hword rest rfl
    exact absurd (hword.noSeparator ']' List.mem_cons_self) (by decide)
  cases h with
  | bool b hbefore _ =>
    refine hbefore.append_ne_cons rfl (fun rest h => ?_) rest
    cases b <;> cases h
  | character c hbefore _ => exact hbefore.append_ne_cons rfl (fun rest h => by cases h) rest
  | text hbefore _ _ => exact hbefore.append_ne_cons rfl (fun rest h => by cases h) rest
  | list hbefore _ _ => exact hbefore.append_ne_cons rfl (fun rest h => by cases h) rest
  | table hbefore _ _ => exact hbefore.append_ne_cons rfl (fun rest h => by cases h) rest
  | number hbefore hw _ => exact hbefore.append_ne_cons rfl (hword hw) rest
  | word hbefore hw _ => exact hbefore.append_ne_cons rfl (hword hw) rest

theorem Spells.append_ne_close {s rest : List Char} {value : LayerValue}
    (h : Spells s (.value value)) (hrest : s = [] → ∀ rest', rest ≠ ']' :: rest')
    (rest' : List Char) : s ++ rest ≠ ']' :: rest' := by
  intro hclose
  cases s with
  | nil => exact hrest rfl rest' hclose
  | cons c s =>
    cases hclose
    exact h.ne_close s rfl

theorem Breaks.ne_close {s : List Char} (h : Breaks .value s) (rest : List Char) :
    s ≠ ']' :: rest := by
  cases h with
  | text hbefore _ => exact hbefore.append_ne_cons rfl (fun rest h => by cases h) rest
  | list hbefore _ => exact hbefore.append_ne_cons rfl (fun rest h => by cases h) rest
  | table hbefore _ => exact hbefore.append_ne_cons rfl (fun rest h => by cases h) rest

/-- Reading finds what is spelled, with fuel for twice the text. -/
def ReadAs (s : List Char) : Part → Prop
  | .value value => ∀ rest fuel, Ends rest → 2 * s.length < fuel →
    readValue fuel (s ++ rest) = .ok (value, rest)
  | .items items => ∀ rest fuel, 2 * s.length + 1 < fuel →
    readItems fuel (s ++ ']' :: rest) = .ok (items, rest)
  | .fields fields => ∀ rest fuel, 2 * s.length + 1 < fuel →
    readFields fuel (s ++ '\x7d' :: rest) = .ok (fields, rest)

/-- What is spelled is read, whatever follows. The induction is on the spelling; the fuel that is
left suffices for a part because a part is shorter. -/
theorem Spells.readAs {s : List Char} {part : Part} (h : Spells s part) : ReadAs s part := by
  have hhead : ∀ {c : Char} {s : List Char}, isBlank c = false →
      ∀ d ∈ (c :: s).head?, isBlank d = false := by
    intro c s hc d hd
    cases hd
    exact hc
  induction h with
  | @bool before behind b hbefore hbehind =>
    intro rest fuel hrest hfuel
    obtain ⟨fuel, rfl⟩ := exists_succ_of_lt hfuel
    rw [List.append_assoc, List.append_assoc]
    refine readValue_between hbefore ?_ (readCore_bool fuel b _) hbehind hrest
    cases b <;> exact hhead rfl
  | @character before behind c hbefore hbehind =>
    intro rest fuel hrest hfuel
    obtain ⟨fuel, rfl⟩ := exists_succ_of_lt hfuel
    rw [List.append_assoc]
    exact readValue_between hbefore (hhead rfl) rfl hbehind hrest
  | @text before behind inner text hbefore hbehind hquoted =>
    intro rest fuel hrest hfuel
    obtain ⟨fuel, rfl⟩ := exists_succ_of_lt hfuel
    rw [List.append_assoc]
    refine readValue_between hbefore (hhead rfl) ?_ hbehind hrest
    refine map_eq_ok_iff.mpr ⟨(text, behind ++ rest), ?_, rfl⟩
    exact readQuoted_eq_ok_iff.mpr ⟨inner, by simp, hquoted⟩
  | @list before behind inner items hbefore hbehind _ ih =>
    intro rest fuel hrest hfuel
    obtain ⟨fuel, rfl⟩ := exists_succ_of_lt hfuel
    -- the brackets pay for the step to the items
    have hitems : readItems fuel (inner ++ ']' :: (behind ++ rest)) = .ok (items, behind ++ rest) :=
      ih _ _ (by simp at hfuel; omega)
    rw [List.append_assoc]
    refine readValue_between hbefore (hhead rfl) ?_ hbehind hrest
    exact map_eq_ok_iff.mpr ⟨(items, behind ++ rest), by simpa using hitems, rfl⟩
  | @table before behind inner fields hbefore hbehind _ ih =>
    intro rest fuel hrest hfuel
    obtain ⟨fuel, rfl⟩ := exists_succ_of_lt hfuel
    have hfields : readFields fuel (inner ++ '\x7d' :: (behind ++ rest)) =
        .ok (fields, behind ++ rest) := ih _ _ (by simp at hfuel; omega)
    rw [List.append_assoc]
    refine readValue_between hbefore (hhead rfl) ?_ hbehind hrest
    exact map_eq_ok_iff.mpr ⟨(fields, behind ++ rest), by simpa using hfields, rfl⟩
  | number hbefore hword _ =>
    intro rest fuel hrest hfuel
    obtain ⟨fuel, rfl⟩ := exists_succ_of_lt hfuel
    exact readValue_word hbefore hword hrest
  | word hbefore hword hnumeral =>
    intro rest fuel hrest hfuel
    obtain ⟨fuel, rfl⟩ := exists_succ_of_lt hfuel
    rw [← bare_of_not_numeral hnumeral]
    exact readValue_word hbefore hword hrest
  | noItems =>
    intro rest fuel hfuel
    obtain ⟨fuel, rfl⟩ := exists_succ_of_lt hfuel
    rfl
  | @lastItem item value hne hitem ih =>
    intro rest fuel hfuel
    obtain ⟨fuel, rfl⟩ := exists_succ_of_lt hfuel
    have hvalue : readValue fuel (item ++ ']' :: rest) = .ok (value, ']' :: rest) :=
      ih _ _ (by simp [Ends]) (by omega)
    rw [readItems_succ, hvalue]
    · rfl
    · exact hitem.append_ne_close fun hnil => absurd hnil hne
  | @moreItems item more value items hitem _ ih ihmore =>
    intro rest fuel hfuel
    obtain ⟨fuel, rfl⟩ := exists_succ_of_lt hfuel
    simp only [List.length_append, List.length_cons] at hfuel
    have hvalue : readValue fuel (item ++ ',' :: (more ++ ']' :: rest)) =
        .ok (value, ',' :: (more ++ ']' :: rest)) := ih _ _ (by simp [Ends]) (by omega)
    have hmore : readItems fuel (more ++ ']' :: rest) = .ok (items, rest) := ihmore _ _ (by omega)
    rw [List.append_assoc, List.cons_append, readItems_succ, hvalue]
    · exact map_eq_ok_iff.mpr ⟨_, hmore, rfl⟩
    · exact hitem.append_ne_close fun _ rest' h => by cases h
  | noFields =>
    intro rest fuel hfuel
    obtain ⟨fuel, rfl⟩ := exists_succ_of_lt hfuel
    rfl
  | @lastField front s name value hnamed _ ih =>
    intro rest fuel hfuel
    obtain ⟨fuel, rfl⟩ := exists_succ_of_lt hfuel
    simp only [List.length_append] at hfuel
    have hvalue : readValue fuel (s ++ '\x7d' :: rest) = .ok (value, '\x7d' :: rest) :=
      ih _ _ (by simp [Ends]) (by omega)
    rw [List.append_assoc, readFields_append hnamed, hvalue]
    rfl
  | @moreFields front s more name value fields hnamed _ _ ih ihmore =>
    intro rest fuel hfuel
    obtain ⟨fuel, rfl⟩ := exists_succ_of_lt hfuel
    simp only [List.length_append, List.length_cons] at hfuel
    have hvalue : readValue fuel (s ++ ',' :: (more ++ '\x7d' :: rest)) =
        .ok (value, ',' :: (more ++ '\x7d' :: rest)) := ih _ _ (by simp [Ends]) (by omega)
    have hmore : readFields fuel (more ++ '\x7d' :: rest) = .ok (fields, rest) :=
      ihmore _ _ (by omega)
    rw [List.append_assoc, List.append_assoc, List.cons_append, readFields_append hnamed, hvalue]
    exact map_eq_ok_iff.mpr ⟨_, hmore, rfl⟩

/-! ## What breaks off -/

/-- Reading breaks off, with fuel for twice the text. -/
def StopsIn (s : List Char) : Place → Prop
  | .value => ∀ fuel, 2 * s.length < fuel → readValue fuel s = .error .torn
  | .items => ∀ fuel, 2 * s.length + 1 < fuel → readItems fuel s = .error .torn
  | .fields => ∀ fuel, 2 * s.length + 1 < fuel → readFields fuel s = .error .torn

theorem Breaks.stopsIn {place : Place} {s : List Char} (h : Breaks place s) : StopsIn s place := by
  have hcore : ∀ {fuel : Nat} {before : List Char} {c : Char} {core : List Char}, Blanks before →
      isBlank c = false → readCore fuel (c :: core) = .error .torn →
      readValue (fuel + 1) (before ++ c :: core) = .error .torn := by
    intro fuel before c core hbefore hc hread
    rw [readValue_succ, skipBlanks_append hbefore, hread]
    · rfl
    · intro d hd
      cases hd
      exact hc
  induction h with
  | @text before inner rest hbefore htorn =>
    intro fuel hfuel
    obtain ⟨fuel, rfl⟩ := exists_succ_of_lt hfuel
    refine hcore hbefore rfl (map_eq_error_iff.mpr ?_)
    exact readQuoted_eq_torn_iff.mpr ⟨inner, rest, rfl, htorn⟩
  | @list before s hbefore _ ih =>
    intro fuel hfuel
    obtain ⟨fuel, rfl⟩ := exists_succ_of_lt hfuel
    refine hcore hbefore rfl (map_eq_error_iff.mpr (ih fuel ?_))
    simp at hfuel
    omega
  | @table before s hbefore _ ih =>
    intro fuel hfuel
    obtain ⟨fuel, rfl⟩ := exists_succ_of_lt hfuel
    refine hcore hbefore rfl (map_eq_error_iff.mpr (ih fuel ?_))
    simp at hfuel
    omega
  | @item s hvalue ih =>
    intro fuel hfuel
    obtain ⟨fuel, rfl⟩ := exists_succ_of_lt hfuel
    rw [readItems_succ hvalue.ne_close, ih fuel (by omega)]
  | @laterItem item s value hitem _ ih =>
    intro fuel hfuel
    obtain ⟨fuel, rfl⟩ := exists_succ_of_lt hfuel
    simp only [List.length_append, List.length_cons] at hfuel
    have hvalue : readValue fuel (item ++ ',' :: s) = .ok (value, ',' :: s) :=
      hitem.readAs _ _ (by simp [Ends]) (by omega)
    rw [readItems_succ, hvalue]
    · exact map_eq_error_iff.mpr (ih fuel (by omega))
    · exact hitem.append_ne_close fun _ rest h => by cases h
  | @key before inner rest hbefore htorn =>
    intro fuel hfuel
    obtain ⟨fuel, rfl⟩ := exists_succ_of_lt hfuel
    exact readFields_torn hbefore htorn fuel rest
  | @field front s name hnamed _ ih =>
    intro fuel hfuel
    obtain ⟨fuel, rfl⟩ := exists_succ_of_lt hfuel
    simp only [List.length_append] at hfuel
    rw [readFields_append hnamed, ih fuel (by omega)]
  | @laterField front s rest name value hnamed hvalue _ ih =>
    intro fuel hfuel
    obtain ⟨fuel, rfl⟩ := exists_succ_of_lt hfuel
    simp only [List.length_append, List.length_cons] at hfuel
    have hread : readValue fuel (s ++ ',' :: rest) = .ok (value, ',' :: rest) :=
      hvalue.readAs _ _ (by simp [Ends]) (by omega)
    rw [readFields_append hnamed, hread]
    exact map_eq_error_iff.mpr (ih fuel (by omega))

/-! ## Whole texts -/

/-- A text is read to its end just where it spells a value. -/
theorem readFront_eq_ok_iff {cs : List Char} {value : LayerValue} :
    readFront cs = .ok (value, []) ↔ Spells cs (.value value) := by
  constructor
  · intro h
    obtain ⟨front, rfl, hspells⟩ := (follows _).value h
    rwa [List.append_nil]
  · intro h
    have hread := h.readAs [] (2 * cs.length + 2) (by simp [Ends]) (by omega)
    rwa [List.append_nil] at hread

/-- Reading breaks off just where it comes to a torn text. -/
theorem readFront_eq_torn_iff {cs : List Char} :
    readFront cs = .error .torn ↔ Breaks .value cs :=
  ⟨(follows _).tornValue, fun h => h.stopsIn _ (by omega)⟩

theorem isTorn_iff (s : Bytes) : isTorn s = true ↔ Breaks .value (Utf8.chars s) := by
  rw [← readFront_eq_torn_iff, isTorn]
  split <;> simp_all

/-- A variable holds what it spells, and is text as a whole if it spells nothing. -/
theorem read_eq_of_spells {s : Bytes} {value : LayerValue}
    (h : Spells (Utf8.chars s) (.value value)) : read s = value := by
  rw [read, readFront_eq_ok_iff.mpr h]

theorem read_eq_of_not_spells {s : Bytes} (h : ∀ value, ¬ Spells (Utf8.chars s) (.value value)) :
    read s = scalar (.text (Utf8.ofChars (Utf8.chars s))) := by
  rw [read]
  split
  · next value hread => exact absurd (readFront_eq_ok_iff.mp hread) (h value)
  · rfl

end TwinFiles.EnvironmentValue
