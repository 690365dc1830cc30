import Mathlib.Data.List.TakeWhile
import TwinFiles.Proofs.Settings.Numeral
import TwinFiles.Proofs.Settings.QuotedText

/-!
# The grammar of values in variables

`Spells` says how values are spelled, and what lists and tables hold. `Breaks` says which texts bring
reading to a text that is torn, over parts that are spelled well. A value in a list or in a table
ends at a separator, so a word goes on to the next one, whatever else it holds. Along with the
grammar comes how reading begins: the cases for the front of a value (`core_cases`) and of a field
(`field_cases`).
-/

namespace TwinFiles.EnvironmentValue

/-! ## The grammar -/

/-- Blanks alone. -/
def Blanks (s : List Char) : Prop :=
  ∀ c ∈ s, isBlank c = true

/-- The word for a truth value. -/
def boolWord : Bool → List Char
  | true => "true".toList
  | false => "false".toList

/-- What begins neither with the word for a truth value nor with an opening sign. -/
structure Wordlike (s : List Char) : Prop where
  notBool : ∀ b, ¬ boolWord b <+: s
  notOpening : ∀ c ∈ s.head?, c ≠ '\x7b' ∧ c ≠ '[' ∧ c ≠ '"' ∧ c ≠ '\''

/-- A bare value behind its blanks, up to the next separator. It may be empty. -/
structure Word (s : List Char) : Prop extends Wordlike s where
  noSeparator : ∀ c ∈ s, isSeparator c = false
  noBlank : ∀ c ∈ s.head?, isBlank c = false

/-- A key of a table, and the text that it is read as. -/
inductive Key : List Char → List Char → Prop where
  | bare {key : List Char} : key ≠ [] → (∀ c ∈ key, isKeyChar c = true) → Key key key
  | quoted {inner text : List Char} : Quoted inner text → Key ('"' :: (inner ++ ['"'])) text

/-- A key with the equals sign behind it. -/
inductive Named : List Char → List Char → Prop where
  | intro {before key name behind : List Char} :
      Blanks before → Key key name → Blanks behind →
      Named (before ++ (key ++ (behind ++ ['=']))) name

/-- What is spelled: a value, the items of a list or the fields of a table. -/
inductive Part where
  | value (value : LayerValue)
  | items (items : List LayerValue)
  | fields (fields : Layer)

/-- Fields with one more in front of them, which does not count if they have its key. -/
def addField (name : List Char) (value : LayerValue) (fields : Layer) : Layer :=
  if fields.any fun field => field.1 = Utf8.ofChars name then fields
  else (Utf8.ofChars name, value) :: fields

/-- Spellings of values and of what they are made of. -/
inductive Spells : List Char → Part → Prop where
  | bool {before behind : List Char} (b : Bool) :
      Blanks before → Blanks behind →
      Spells (before ++ (boolWord b ++ behind)) (.value (scalar (.bool b)))
  | character {before behind : List Char} (c : Char) :
      Blanks before → Blanks behind →
      Spells (before ++ '\'' :: c :: '\'' :: behind)
        (.value (scalar (.character (Utf8.encode c))))
  | text {before behind inner text : List Char} :
      Blanks before → Blanks behind → Quoted inner text →
      Spells (before ++ '"' :: (inner ++ '"' :: behind))
        (.value (scalar (.text (Utf8.ofChars text))))
  | list {before behind inner : List Char} {items : List LayerValue} :
      Blanks before → Blanks behind → Spells inner (.items items) →
      Spells (before ++ '[' :: (inner ++ ']' :: behind)) (.value (.list .environment items))
  | table {before behind inner : List Char} {fields : Layer} :
      Blanks before → Blanks behind → Spells inner (.fields fields) →
      Spells (before ++ '\x7b' :: (inner ++ '\x7d' :: behind))
        (.value (.table .environment fields))
  | number {before word : List Char} :
      Blanks before → Word word → Numeral (Blank.trimChars word) →
      Spells (before ++ word) (.value (scalar (bare (Blank.trimChars word))))
  | word {before word : List Char} :
      Blanks before → Word word → ¬ Numeral (Blank.trimChars word) →
      Spells (before ++ word) (.value (scalar (.text (Utf8.ofChars (Blank.trimChars word)))))
  | noItems : Spells [] (.items [])
  | lastItem {item : List Char} {value : LayerValue} :
      item ≠ [] → Spells item (.value value) → Spells item (.items [value])
  | moreItems {item rest : List Char} {value : LayerValue} {items : List LayerValue} :
      Spells item (.value value) → Spells rest (.items items) →
      Spells (item ++ ',' :: rest) (.items (value :: items))
  | noFields : Spells [] (.fields [])
  | lastField {front s name : List Char} {value : LayerValue} :
      Named front name → Spells s (.value value) →
      Spells (front ++ s) (.fields [(Utf8.ofChars name, value)])
  | moreFields {front s rest name : List Char} {value : LayerValue} {fields : Layer} :
      Named front name → Spells s (.value value) → Spells rest (.fields fields) →
      Spells (front ++ (s ++ ',' :: rest)) (.fields (addField name value fields))

/-- What is being read. -/
inductive Place where
  | value
  | items
  | fields

/-- Texts that bring reading to a text that is torn, over parts that are spelled well. -/
inductive Breaks : Place → List Char → Prop where
  | text {before inner rest : List Char} :
      Blanks before → Torn inner → Breaks .value (before ++ '"' :: (inner ++ '"' :: rest))
  | list {before s : List Char} :
      Blanks before → Breaks .items s → Breaks .value (before ++ '[' :: s)
  | table {before s : List Char} :
      Blanks before → Breaks .fields s → Breaks .value (before ++ '\x7b' :: s)
  | item {s : List Char} : Breaks .value s → Breaks .items s
  | laterItem {item s : List Char} {value : LayerValue} :
      Spells item (.value value) → Breaks .items s → Breaks .items (item ++ ',' :: s)
  | key {before inner rest : List Char} :
      Blanks before → Torn inner → Breaks .fields (before ++ '"' :: (inner ++ '"' :: rest))
  | field {front s name : List Char} :
      Named front name → Breaks .value s → Breaks .fields (front ++ s)
  | laterField {front s rest name : List Char} {value : LayerValue} :
      Named front name → Spells s (.value value) → Breaks .fields rest →
      Breaks .fields (front ++ (s ++ ',' :: rest))

/-! ## Blanks and separators -/

/-- The text is over, or goes on as it may behind a value of a list or of a table. -/
def Ends (s : List Char) : Prop :=
  ∀ c ∈ s.head?, c = ',' ∨ c = ']' ∨ c = '\x7d'

theorem isBlank_iff (c : Char) :
    isBlank c = true ↔ c = ' ' ∨ c = '\t' ∨ c = '\n' ∨ c = '\x0c' ∨ c = '\r' := by
  simp [isBlank, or_assoc]

theorem isSeparator_iff (c : Char) :
    isSeparator c = true ↔ c = ',' ∨ c = '\x7b' ∨ c = '\x7d' ∨ c = '[' ∨ c = ']' := by
  simp [isSeparator, or_assoc]

theorem not_isBlank_of_isSeparator {c : Char} (h : isSeparator c = true) : isBlank c = false := by
  rcases (isSeparator_iff c).mp h with rfl | rfl | rfl | rfl | rfl <;> rfl

theorem not_isSeparator_of_mem_boolWord {b : Bool} :
    ∀ c ∈ boolWord b, isSeparator c = false := by
  cases b <;> simp [boolWord, isSeparator]

theorem Ends.isSeparator {s : List Char} (h : Ends s) : ∀ c ∈ s.head?, isSeparator c = true := by
  intro c hc
  rcases h c hc with rfl | rfl | rfl <;> rfl

theorem not_isKeyChar_of_isBlank {c : Char} (h : isBlank c = true) : isKeyChar c = false := by
  rcases (isBlank_iff c).mp h with rfl | rfl | rfl | rfl | rfl <;> rfl

theorem skipBlanks_eq_self {s : List Char} (h : ∀ c ∈ s.head?, isBlank c = false) :
    skipBlanks s = s := by
  cases s with
  | nil => rfl
  | cons c s => exact List.dropWhile_cons_of_neg (by simp [h c rfl])

theorem skipBlanks_append {before s : List Char} (hbefore : Blanks before)
    (hs : ∀ c ∈ s.head?, isBlank c = false) : skipBlanks (before ++ s) = s := by
  exact dropWhile_append_stop hbefore hs

theorem skipBlanks_append_ends {behind rest : List Char} (hbehind : Blanks behind)
    (hrest : Ends rest) : skipBlanks (behind ++ rest) = rest :=
  skipBlanks_append hbehind fun c hc => not_isBlank_of_isSeparator (hrest.isSeparator c hc)

theorem exists_blanks (s : List Char) : ∃ before, Blanks before ∧ s = before ++ skipBlanks s :=
  ⟨s.takeWhile isBlank, fun _ => List.mem_takeWhile_imp, List.takeWhile_append_dropWhile.symm⟩

theorem not_isBlank_head_skipBlanks (s : List Char) :
    ∀ c ∈ (skipBlanks s).head?, isBlank c = false := by
  intro c hc
  have hnot := List.head?_dropWhile_not isBlank s
  rw [skipBlanks, Option.mem_def] at hc
  rwa [hc] at hnot

/-- Blanks do not make a text begin with what is no blank. -/
theorem Blanks.append_ne_cons {before core : List Char} {c : Char} (hbefore : Blanks before)
    (hc : isBlank c = false) (hcore : ∀ rest, core ≠ c :: rest) (rest : List Char) :
    before ++ core ≠ c :: rest := by
  intro h
  cases before with
  | nil => exact hcore rest h
  | cons b before =>
    cases h
    rw [hbefore c List.mem_cons_self] at hc
    cases hc

/-! ## Keys -/

theorem readKey_bare {s : List Char} (h : ∀ rest, s ≠ '"' :: rest) :
    readKey s =
      if s.takeWhile isKeyChar = [] then .error .malformed
      else .ok (s.takeWhile isKeyChar, s.dropWhile isKeyChar) := by
  rw [readKey]
  · cases s.takeWhile isKeyChar <;> rfl
  · exact h

theorem readKey_append {key name rest : List Char} (h : Key key name)
    (hrest : ∀ c ∈ rest.head?, isKeyChar c = false) : readKey (key ++ rest) = .ok (name, rest) := by
  cases h with
  | bare hne hall =>
    rw [readKey_bare, takeWhile_append_stop hall hrest, dropWhile_append_stop hall hrest,
      if_neg hne]
    intro s hs
    cases key with
    | nil => exact hne rfl
    | cons c key =>
      cases hs
      exact absurd (hall '"' List.mem_cons_self) (by decide)
  | @quoted inner _ hquoted =>
    show readQuoted ((inner ++ ['"']) ++ rest) = _
    rw [List.append_assoc]
    exact readQuoted_eq_ok_iff.mpr ⟨_, rfl, hquoted⟩

theorem exists_key_of_readKey {s name rest : List Char} (h : readKey s = .ok (name, rest)) :
    ∃ key, s = key ++ rest ∧ Key key name := by
  by_cases hquote : ∃ rest, s = '"' :: rest
  · obtain ⟨s, rfl⟩ := hquote
    obtain ⟨inner, rfl, hquoted⟩ := readQuoted_eq_ok_iff.mp h
    exact ⟨'"' :: (inner ++ ['"']), by simp, .quoted hquoted⟩
  · rw [readKey_bare (not_exists.mp hquote)] at h
    split at h
    · cases h
    · next hne =>
      cases h
      exact ⟨_, List.takeWhile_append_dropWhile.symm, .bare hne fun _ => List.mem_takeWhile_imp⟩

theorem readKey_eq_torn_iff {s : List Char} :
    readKey s = .error .torn ↔ ∃ inner rest, s = '"' :: (inner ++ '"' :: rest) ∧ Torn inner := by
  constructor
  · intro h
    by_cases hquote : ∃ rest, s = '"' :: rest
    · obtain ⟨s, rfl⟩ := hquote
      obtain ⟨inner, rest, rfl, htorn⟩ := readQuoted_eq_torn_iff.mp h
      exact ⟨inner, rest, rfl, htorn⟩
    · rw [readKey_bare (not_exists.mp hquote)] at h
      split at h <;> cases h
  · rintro ⟨inner, rest, rfl, htorn⟩
    exact readQuoted_eq_torn_iff.mpr ⟨inner, rest, rfl, htorn⟩

/-- A key does not begin with a blank or a separator. -/
theorem Key.exists_cons {key name : List Char} (h : Key key name) :
    ∃ c rest, key = c :: rest ∧ isBlank c = false ∧ isSeparator c = false := by
  cases h with
  | bare hne hall =>
    cases key with
    | nil => exact absurd rfl hne
    | cons c rest =>
      have hc := hall c List.mem_cons_self
      refine ⟨c, rest, rfl, ?_, ?_⟩
      · rw [Bool.eq_false_iff]
        intro hblank
        rw [not_isKeyChar_of_isBlank hblank] at hc
        cases hc
      · rw [Bool.eq_false_iff]
        intro hseparator
        rcases (isSeparator_iff c).mp hseparator with rfl | rfl | rfl | rfl | rfl <;>
          exact absurd hc (by decide)
  | quoted _ => exact ⟨'"', _, rfl, rfl, rfl⟩

/-! ## How a value begins -/

/-- Reading a value behind its blanks. -/
def readCore (fuel : Nat) (s : List Char) : Except Stop (LayerValue × List Char) :=
  match after? "true".toList s, after? "false".toList s, s with
  | some rest, _, _ => .ok (scalar (.bool true), rest)
  | _, some rest, _ => .ok (scalar (.bool false), rest)
  | _, _, '\x7b' :: rest =>
    (readFields fuel rest).map fun (fields, rest) => (.table .environment fields, rest)
  | _, _, '[' :: rest =>
    (readItems fuel rest).map fun (items, rest) => (.list .environment items, rest)
  | _, _, '"' :: rest =>
    (readQuoted rest).map fun (text, rest) => (scalar (.text (Utf8.ofChars text)), rest)
  | _, _, '\'' :: c :: '\'' :: rest => .ok (scalar (.character (Utf8.encode c)), rest)
  | _, _, '\'' :: _ => .error .malformed
  | _, _, s =>
    let word := s.takeWhile (!isSeparator ·)
    .ok (scalar (bare (Blank.trimChars word)), s.dropWhile (!isSeparator ·))

theorem readValue_succ (fuel : Nat) (s : List Char) :
    readValue (fuel + 1) s =
      (readCore fuel (skipBlanks s)).map fun (value, rest) => (value, skipBlanks rest) := by
  have hmap : ∀ x : Except Stop (LayerValue × List Char),
      (do let (value, rest) ← x; return (value, skipBlanks rest)) =
        x.map fun (value, rest) => (value, skipBlanks rest) := by
    intro x
    cases x <;> rfl
  rw [← hmap, readValue]
  unfold readCore
  generalize after? "true".toList (skipBlanks s) = true?
  generalize after? "false".toList (skipBlanks s) = false?
  generalize skipBlanks s = core
  cases true? with
  | some rest => rfl
  | none =>
    cases false? with
    | some rest => rfl
    | none =>
      split
      case h_1 h => cases h
      case h_2 h _ => cases h
      -- what is left is known by what it does not begin with
      case h_7 => simp_all
      case h_8 => simp_all
      all_goals rfl

theorem readCore_bool (fuel : Nat) (b : Bool) (s : List Char) :
    readCore fuel (boolWord b ++ s) = .ok (scalar (.bool b), s) := by
  cases b <;> rfl

theorem after?_eq_none {word s : List Char} (h : ¬ word <+: s) : after? word s = none := by
  rw [after?, if_neg]
  rwa [List.isPrefixOf_iff_prefix]

theorem readCore_wordlike {s : List Char} (h : Wordlike s) (fuel : Nat) :
    readCore fuel s =
      .ok (scalar (bare (Blank.trimChars (s.takeWhile (!isSeparator ·)))),
        s.dropWhile (!isSeparator ·)) := by
  have htrue : after? "true".toList s = none := after?_eq_none (h.notBool true)
  have hfalse : after? "false".toList s = none := after?_eq_none (h.notBool false)
  unfold readCore
  rw [htrue, hfalse]
  cases s with
  | nil => rfl
  | cons c rest =>
    obtain ⟨hbrace, hbracket, hquote, hapostrophe⟩ := h.notOpening c rfl
    split <;> simp_all

/-- How a value can begin. -/
theorem core_cases (s : List Char) :
    (∃ b rest, s = boolWord b ++ rest) ∨ (∃ rest, s = '\x7b' :: rest) ∨ (∃ rest, s = '[' :: rest) ∨
      (∃ rest, s = '"' :: rest) ∨ (∃ c rest, s = '\'' :: c :: '\'' :: rest) ∨ Wordlike s ∨
      ∀ fuel, readCore fuel s = .error .malformed := by
  by_cases hbool : ∃ b, boolWord b <+: s
  · obtain ⟨b, rest, rfl⟩ := hbool
    exact .inl ⟨b, rest, rfl⟩
  · rw [not_exists] at hbool
    have htrue : after? "true".toList s = none := after?_eq_none (hbool true)
    have hfalse : after? "false".toList s = none := after?_eq_none (hbool false)
    by_cases hopening : ∀ c ∈ s.head?, c ≠ '\x7b' ∧ c ≠ '[' ∧ c ≠ '"' ∧ c ≠ '\''
    · exact .inr (.inr (.inr (.inr (.inr (.inl ⟨hbool, hopening⟩)))))
    · cases s with
      | nil => exact absurd (fun c hc => by cases hc) hopening
      | cons c rest =>
        have hc : c = '\x7b' ∨ c = '[' ∨ c = '"' ∨ c = '\'' := by
          by_contra hnone
          simp only [not_or] at hnone
          refine hopening fun d hd => ?_
          cases hd
          exact hnone
        rcases hc with rfl | rfl | rfl | rfl
        · exact .inr (.inl ⟨rest, rfl⟩)
        · exact .inr (.inr (.inl ⟨rest, rfl⟩))
        · exact .inr (.inr (.inr (.inl ⟨rest, rfl⟩)))
        · by_cases hclosed : ∃ d rest', rest = d :: '\'' :: rest'
          · obtain ⟨d, rest', rfl⟩ := hclosed
            exact .inr (.inr (.inr (.inr (.inl ⟨d, rest', rfl⟩))))
          · -- an apostrophe that opens no character
            refine .inr (.inr (.inr (.inr (.inr (.inr fun fuel => ?_)))))
            unfold readCore
            rw [htrue, hfalse]
            split <;> simp_all

/-! ## How lists and tables go on -/

theorem readItems_succ {s : List Char} (h : ∀ rest, s ≠ ']' :: rest) (fuel : Nat) :
    readItems (fuel + 1) s =
      match readValue fuel s with
      | .error stop => .error stop
      | .ok (item, ',' :: rest) =>
        (readItems fuel rest).map fun (items, rest) => (item :: items, rest)
      | .ok (item, ']' :: rest) => .ok ([item], rest)
      | .ok _ => .error .malformed := by
  rw [readItems]
  · cases readValue fuel s with
    | error stop => rfl
    | ok found =>
      obtain ⟨item, rest⟩ := found
      dsimp only [bind, Except.bind]
      split
      · next rest =>
        show _ = (readItems fuel rest).map _
        cases readItems fuel rest <;> rfl
      · rfl
      · next hcomma hclose =>
        split
        · next heq => cases heq
        · next heq => exact absurd (congrArg Prod.snd (Except.ok.inj heq)) (hcomma _)
        · next heq => exact absurd (congrArg Prod.snd (Except.ok.inj heq)) (hclose _)
        · rfl
  · exact h

/-- A key and what it is called, in front of anything. -/
theorem Named.readKey_eq {front name : List Char} (h : Named front name) (s : List Char) :
    ∃ rest, readKey (skipBlanks (front ++ s)) = .ok (name, rest) ∧ skipBlanks rest = '=' :: s := by
  obtain @⟨before, key, _, behind, hbefore, hkey, hbehind⟩ := h
  obtain ⟨c, rest, hcons, hblank, _⟩ := hkey.exists_cons
  refine ⟨behind ++ '=' :: s, ?_, skipBlanks_append hbehind (by simp; rfl)⟩
  have hskip : skipBlanks (before ++ (key ++ (behind ++ ['='])) ++ s) =
      key ++ (behind ++ '=' :: s) := by
    rw [List.append_assoc, skipBlanks_append hbefore]
    · simp
    · intro d hd
      rw [hcons] at hd
      cases hd
      exact hblank
  rw [hskip]
  refine readKey_append hkey ?_
  intro d hd
  cases behind with
  | nil =>
    cases hd
    rfl
  | cons b behind =>
    cases hd
    exact not_isKeyChar_of_isBlank (hbehind _ List.mem_cons_self)

theorem Named.ne_close {front name : List Char} (h : Named front name) (s rest : List Char) :
    front ++ s ≠ '\x7d' :: rest := by
  obtain @⟨before, key, _, behind, hbefore, hkey, _⟩ := h
  obtain ⟨c, key', rfl, _, hseparator⟩ := hkey.exists_cons
  rw [List.append_assoc]
  refine hbefore.append_ne_cons rfl (fun rest h => ?_) rest
  cases h
  cases hseparator

theorem readFields_append {front name : List Char} (h : Named front name) (fuel : Nat)
    (s : List Char) :
    readFields (fuel + 1) (front ++ s) =
      match readValue fuel s with
      | .error stop => .error stop
      | .ok (value, ',' :: rest) =>
        (readFields fuel rest).map fun (fields, rest) => (addField name value fields, rest)
      | .ok (value, '\x7d' :: rest) => .ok ([(Utf8.ofChars name, value)], rest)
      | .ok _ => .error .malformed := by
  obtain ⟨rest, hkey, hskip⟩ := h.readKey_eq s
  rw [readFields]
  · rw [hkey]
    dsimp only [bind, Except.bind]
    rw [hskip]
    show (readValue fuel s).bind _ = _
    cases readValue fuel s with
    | error stop => rfl
    | ok found =>
      obtain ⟨value, rest⟩ := found
      dsimp only [Except.bind]
      split
      · next rest =>
        show _ = (readFields fuel rest).map _
        cases readFields fuel rest <;> rfl
      · rfl
      · next hcomma hclose =>
        split
        · next heq => cases heq
        · next heq => exact absurd (congrArg Prod.snd (Except.ok.inj heq)) (hcomma _)
        · next heq => exact absurd (congrArg Prod.snd (Except.ok.inj heq)) (hclose _)
        · rfl
  · exact fun rest => h.ne_close s rest

theorem readFields_torn {before inner : List Char} (hbefore : Blanks before) (htorn : Torn inner)
    (fuel : Nat) (rest : List Char) :
    readFields (fuel + 1) (before ++ '"' :: (inner ++ '"' :: rest)) = .error .torn := by
  have hskip : skipBlanks (before ++ '"' :: (inner ++ '"' :: rest)) =
      '"' :: (inner ++ '"' :: rest) :=
    skipBlanks_append hbefore fun c hc => by cases hc; rfl
  rw [readFields]
  · rw [hskip, readKey_eq_torn_iff.mpr ⟨inner, rest, rfl, htorn⟩]
    rfl
  · exact hbefore.append_ne_cons rfl fun rest h => by cases h

/-- How a field can begin. -/
theorem field_cases (s : List Char) :
    (∃ rest, s = '\x7d' :: rest) ∨ (∃ front name rest, s = front ++ rest ∧ Named front name) ∨
      (∃ before inner rest, Blanks before ∧ Torn inner ∧
        s = before ++ '"' :: (inner ++ '"' :: rest)) ∨
      ∀ fuel, readFields (fuel + 1) s = .error .malformed := by
  by_cases hclose : ∃ rest, s = '\x7d' :: rest
  · exact .inl hclose
  · obtain ⟨before, hbefore, hs⟩ := exists_blanks s
    have hread : ∀ fuel, readFields (fuel + 1) s = (readKey (skipBlanks s)).bind _ := fun fuel => by
      rw [readFields]
      · rfl
      · exact not_exists.mp hclose
    cases hkey : readKey (skipBlanks s) with
    | error stop =>
      cases stop with
      | torn =>
        obtain ⟨inner, rest, hquoted, htorn⟩ := readKey_eq_torn_iff.mp hkey
        rw [hquoted] at hs
        exact .inr (.inr (.inl ⟨before, inner, rest, hbefore, htorn, hs⟩))
      | malformed =>
        refine .inr (.inr (.inr fun fuel => ?_))
        rw [hread, hkey]
        rfl
    | ok found =>
      obtain ⟨name, rest⟩ := found
      obtain ⟨key, hfront, hname⟩ := exists_key_of_readKey hkey
      obtain ⟨behind, hbehind, hrest⟩ := exists_blanks rest
      by_cases hequals : ∃ rest', skipBlanks rest = '=' :: rest'
      · obtain ⟨rest', hrest'⟩ := hequals
        refine .inr (.inl ⟨_, name, rest', ?_, .intro hbefore hname hbehind⟩)
        rw [hs, hfront, hrest, hrest']
        simp
      · refine .inr (.inr (.inr fun fuel => ?_))
        rw [hread, hkey]
        dsimp only [Except.bind]
        split
        · next rest' h => exact absurd ⟨rest', h⟩ hequals
        · rfl

end TwinFiles.EnvironmentValue
