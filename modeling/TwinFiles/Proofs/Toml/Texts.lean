import TwinFiles.Proofs.Toml.Strings
import TwinFiles.Proofs.Toml.Tables

/-!
# What a document holds is text

Every string and every key that comes out of a document is UTF-8, as the document is. A value starts
where a text may be cut (`Reads`), statement by statement the tables are put together from such keys
and values (`Assembly.IsText`), and so all fields of the document are made of them
(`isText_of_parse?`).
-/

namespace TwinFiles.Toml

open Utf8 (Valid)

/-! ## Reading values -/

/-- The statement about the readers of values, items and pairs, for some fuel: what they read from a
text is text, and what they leave is an end of it. -/
structure Reads (fuel : Nat) : Prop where
  value {depth : Nat} {s rest : Bytes} {v : Value} :
    Valid s → readValue fuel depth s = some (v, rest) → v.IsText ∧ rest <:+ s
  items {depth : Nat} {s rest : Bytes} {items : List Value} :
    Valid s → readItems fuel depth s = some (items, rest) →
      (∀ item ∈ items, item.IsText) ∧ rest <:+ s
  pairs {depth : Nat} {s rest : Bytes} {pairs : List (List Bytes × Value)} :
    Valid s → readPairs fuel depth s = some (pairs, rest) →
      (∀ pair ∈ pairs, IsTextPair pair) ∧ rest <:+ s

section Steps

variable {fuel depth : Nat} {s rest : Bytes}

theorem isText_float? {negative : Bool} {digits : Bytes} {scale : Int} {v : Value}
    (h : float? negative digits scale = some v) : v.IsText := by
  simp only [float?] at h
  split at h
  · cases h
  · cases h
    exact .float _

theorem isText_readBased {base : Nat} {v : Value} (h : readBased base s = some (v, rest)) :
    v.IsText := by
  obtain ⟨_, _, h⟩ := Option.bind_eq_some_iff.mp h
  obtain ⟨n, _, h⟩ := Option.bind_eq_some_iff.mp h
  cases h
  exact .integer n

theorem isText_readSpecial {v : Value} (h : readSpecial s = some (v, rest)) : v.IsText := by
  simp only [readSpecial] at h
  split at h
  · cases h
    exact .float _
  · obtain ⟨_, _, h⟩ := Option.map_eq_some_iff.mp h
    cases h
    exact .float _

theorem isText_readDecimal {v : Value} (h : readDecimal s = some (v, rest)) : v.IsText := by
  obtain ⟨_, _, h⟩ := Option.bind_eq_some_iff.mp h
  dsimp only at h
  split at h
  · obtain ⟨x, hx, h⟩ := Option.bind_eq_some_iff.mp h
    cases h
    exact isText_float? hx
  · split at h
    · obtain ⟨x, hx, h⟩ := Option.bind_eq_some_iff.mp h
      cases h
      exact isText_float? hx
    · obtain ⟨n, _, h⟩ := Option.bind_eq_some_iff.mp h
      cases h
      exact .integer n

/-- A date or a number holds no text. -/
theorem isText_readNumber {v : Value} (h : readNumber s = some (v, rest)) : v.IsText := by
  unfold readNumber at h
  split at h
  · cases h
    exact .moment
  · split at h
    · exact isText_readBased h
    · exact isText_readBased h
    · exact isText_readBased h
    · split at h
      · next hfound =>
        cases h
        exact isText_readSpecial hfound
      · exact isText_readDecimal h

/-- Behind a key and its equals sign a text goes on. -/
theorem valid_behind_key {key : List Bytes} {behind : Bytes} (hs : Valid s)
    (hkey : readKey s = some (key, behind)) (hequals : after? 0x3D behind = some rest) :
    (∀ part ∈ key, Valid part) ∧ Valid (skipBlanks rest) ∧ skipBlanks rest <:+ s := by
  have hsuffix := readKey_suffix hkey
  rw [eq_cons_of_after? hequals] at hsuffix
  have hrest := Utf8.valid_of_suffix hs (by decide) hsuffix
  exact ⟨valid_readKey hs hkey, valid_skipBlanks hrest,
    (skipBlanks_suffix rest).trans ((List.suffix_cons _ _).trans hsuffix)⟩

theorem Reads.value_succ (ih : Reads fuel) {v : Value} (hs : Valid s)
    (h : readValue (fuel + 1) depth s = some (v, rest)) : v.IsText ∧ rest <:+ s := by
  cases s with
  | nil =>
    rw [readValue] at h
    cases h
  | cons b s =>
    have hbelow : b < 0x80 → Valid s := fun hb => (Utf8.valid_cons_iff hb).mp hs
    rw [readValue] at h
    split at h
    · obtain ⟨⟨text, behind⟩, htext, h⟩ := Option.map_eq_some_iff.mp h
      cases h
      exact ⟨.string (valid_readString hs htext), readString_suffix htext⟩
    · split at h
      · next hb =>
        split at h
        · cases h
        · obtain ⟨⟨items, behind⟩, hitems, h⟩ := Option.map_eq_some_iff.mp h
          cases h
          obtain ⟨hitems, hrest⟩ := ih.items (hbelow (by rw [hb]; decide)) hitems
          exact ⟨.array hitems, hrest.trans (List.suffix_cons b s)⟩
      · split at h
        · next hb =>
          split at h
          · cases h
          · split at h
            · next hclose =>
              cases h
              have hblanks := skipBlanks_suffix s
              rw [hclose] at hblanks
              exact ⟨.table (List.forall_mem_nil _) (List.forall_mem_nil _),
                (List.suffix_cons _ _).trans (hblanks.trans (List.suffix_cons b s))⟩
            · obtain ⟨⟨pairs, behind⟩, hpairs, h⟩ := Option.bind_eq_some_iff.mp h
              obtain ⟨table, htable, h⟩ := Option.bind_eq_some_iff.mp h
              cases h
              have hs := valid_skipBlanks (hbelow (by rw [hb]; decide))
              obtain ⟨hpairs, hrest⟩ := ih.pairs hs hpairs
              exact ⟨isText_inlineTable? hpairs htable,
                hrest.trans ((skipBlanks_suffix s).trans (List.suffix_cons b s))⟩
        · split at h
          · obtain ⟨behind, hword, h⟩ := Option.map_eq_some_iff.mp h
            cases h
            exact ⟨.bool true, afterWord?_suffix hword⟩
          · split at h
            · obtain ⟨behind, hword, h⟩ := Option.map_eq_some_iff.mp h
              cases h
              exact ⟨.bool false, afterWord?_suffix hword⟩
            · exact ⟨isText_readNumber h, readNumber_suffix h⟩

theorem Reads.items_succ (ih : Reads fuel) {items : List Value} (hs : Valid s)
    (h : readItems (fuel + 1) depth s = some (items, rest)) :
    (∀ item ∈ items, item.IsText) ∧ rest <:+ s := by
  rw [readItems] at h
  have hskip := skipLines_suffix s.length s
  have hvalid := valid_skipLines s.length hs
  split at h
  · next hclose =>
    cases h
    rw [hclose] at hskip
    exact ⟨List.forall_mem_nil _, (List.suffix_cons _ _).trans hskip⟩
  · obtain ⟨⟨item, behind⟩, hitem, h⟩ := Option.bind_eq_some_iff.mp h
    obtain ⟨hitem, hbehind⟩ := ih.value hvalid hitem
    have hlater := (skipLines_suffix behind.length behind).trans (hbehind.trans hskip)
    dsimp only at h
    split at h
    · next hcomma =>
      obtain ⟨⟨more, last⟩, hmore, h⟩ := Option.bind_eq_some_iff.mp h
      cases h
      rw [hcomma] at hlater
      obtain ⟨hmore, hlast⟩ := ih.items (Utf8.valid_of_suffix hs (by decide) hlater) hmore
      exact ⟨List.forall_mem_cons.mpr ⟨hitem, hmore⟩,
        hlast.trans ((List.suffix_cons _ _).trans hlater)⟩
    · next hclose =>
      cases h
      rw [hclose] at hlater
      exact ⟨List.forall_mem_singleton.mpr hitem, (List.suffix_cons _ _).trans hlater⟩
    · cases h

theorem Reads.pairs_succ (ih : Reads fuel) {pairs : List (List Bytes × Value)} (hs : Valid s)
    (h : readPairs (fuel + 1) depth s = some (pairs, rest)) :
    (∀ pair ∈ pairs, IsTextPair pair) ∧ rest <:+ s := by
  rw [readPairs] at h
  obtain ⟨⟨key, s₁⟩, hkey, h⟩ := Option.bind_eq_some_iff.mp h
  obtain ⟨s₂, hequals, h⟩ := Option.bind_eq_some_iff.mp h
  obtain ⟨⟨v, s₃⟩, hv, h⟩ := Option.bind_eq_some_iff.mp h
  obtain ⟨hkey, hvalid, hbehind⟩ := valid_behind_key hs hkey hequals
  obtain ⟨hv, hlater⟩ := ih.value hvalid hv
  have hpair : IsTextPair (key, v) := ⟨hkey, hv⟩
  have hlater := (skipBlanks_suffix s₃).trans (hlater.trans hbehind)
  dsimp only at h
  split at h
  · next hcomma =>
    obtain ⟨⟨more, last⟩, hmore, h⟩ := Option.bind_eq_some_iff.mp h
    cases h
    rw [hcomma] at hlater
    obtain ⟨hmore, hlast⟩ := ih.pairs (Utf8.valid_of_suffix hs (by decide) hlater) hmore
    exact ⟨List.forall_mem_cons.mpr ⟨hpair, hmore⟩,
      hlast.trans ((List.suffix_cons _ _).trans hlater)⟩
  · next hclose =>
    cases h
    rw [hclose] at hlater
    exact ⟨List.forall_mem_singleton.mpr hpair, (List.suffix_cons _ _).trans hlater⟩
  · cases h

theorem reads (fuel : Nat) : Reads fuel := by
  induction fuel with
  | zero =>
    constructor
    · intro _ _ _ _ _ h
      cases h
    · intro _ _ _ _ _ h
      cases h
    · intro _ _ _ _ _ h
      cases h
  | succ fuel ih => exact ⟨ih.value_succ, ih.items_succ, ih.pairs_succ⟩

end Steps

/-! ## Statements -/

/-- All keys and values of a statement are UTF-8. -/
def Statement.IsText : Statement → Prop
  | pair key v => IsTextPair (key, v)
  | header key => ∀ part ∈ key, Valid part
  | itemHeader key => ∀ part ∈ key, Valid part

theorem isText_readStatement {s rest : Bytes} {statement : Statement} (hs : Valid s)
    (h : readStatement s = some (statement, rest)) : statement.IsText ∧ rest <:+ s := by
  unfold readStatement at h
  split at h
  · next s =>
    have hs := (Utf8.valid_cons_iff (by decide)).mp ((Utf8.valid_cons_iff (by decide)).mp hs)
    obtain ⟨⟨key, s₁⟩, hkey, h⟩ := Option.bind_eq_some_iff.mp h
    obtain ⟨s₂, hclose, h⟩ := Option.bind_eq_some_iff.mp h
    obtain ⟨s₃, hclose', h⟩ := Option.bind_eq_some_iff.mp h
    cases h
    exact ⟨valid_readKey hs hkey, (after?_suffix hclose').trans ((after?_suffix hclose).trans
      ((readKey_suffix hkey).trans (List.suffix_append [0x5B, 0x5B] s)))⟩
  · next s _ =>
    have hs := (Utf8.valid_cons_iff (by decide)).mp hs
    obtain ⟨⟨key, s₁⟩, hkey, h⟩ := Option.bind_eq_some_iff.mp h
    obtain ⟨s₂, hclose, h⟩ := Option.bind_eq_some_iff.mp h
    cases h
    exact ⟨valid_readKey hs hkey, (after?_suffix hclose).trans
      ((readKey_suffix hkey).trans (List.suffix_cons 0x5B s))⟩
  · obtain ⟨⟨key, s₁⟩, hkey, h⟩ := Option.bind_eq_some_iff.mp h
    obtain ⟨s₂, hequals, h⟩ := Option.bind_eq_some_iff.mp h
    obtain ⟨⟨v, s₃⟩, hv, h⟩ := Option.bind_eq_some_iff.mp h
    cases h
    obtain ⟨hkey, hvalid, hbehind⟩ := valid_behind_key hs hkey hequals
    obtain ⟨hv, hrest⟩ := (reads _).value hvalid hv
    exact ⟨⟨hkey, hv⟩, hrest.trans hbehind⟩

theorem isText_readStatements {fuel : Nat} {s : Bytes} {statements : List Statement}
    (hs : Valid s) (h : readStatements fuel s = some statements) :
    ∀ statement ∈ statements, statement.IsText := by
  induction fuel generalizing s statements with
  | zero => cases h
  | succ fuel ih =>
    have hvalid := valid_skipBlanks hs
    rw [readStatements] at h
    split at h
    · cases h
      exact List.forall_mem_nil _
    · split at h
      · next hline =>
        have hnewline := (newline_cons_suffix hline).trans (skipComment_suffix _)
        exact ih (Utf8.valid_of_suffix hvalid (by decide) hnewline) h
      · split at h
        · cases h
          exact List.forall_mem_nil _
        · obtain ⟨⟨statement, s₁⟩, hstatement, h⟩ := Option.bind_eq_some_iff.mp h
          obtain ⟨s₂, hline, h⟩ := Option.bind_eq_some_iff.mp h
          obtain ⟨more, hmore, h⟩ := Option.bind_eq_some_iff.mp h
          cases h
          obtain ⟨hstatement, hrest⟩ := isText_readStatement hvalid hstatement
          exact List.forall_mem_cons.mpr
            ⟨hstatement, ih (valid_afterLine? hvalid hrest hline) hmore⟩

/-! ## Assembly -/

namespace Assembly

/-- All keys and values in an assembly are UTF-8, and so are the keys that lead to its table. -/
structure IsText (a : Assembly) : Prop where
  root : a.root.IsText
  current : a.current.IsText
  place : match a.place with
    | .top => True
    | .table path => ∀ part ∈ path, Valid part
    | .item path => ∀ part ∈ path, Valid part

variable {a a' : Assembly} {root s : Section} {path : List Bytes}

theorem isText_finish (ha : a.IsText) (h : a.finish = some s) : s.IsText := by
  have hplace := ha.place
  unfold finish at h
  split at h
  · cases h
    exact ha.current
  · next path hpath =>
    rw [hpath] at hplace
    split at h
    · cases h
    · next key hkey =>
      have hkey := hplace key (List.mem_of_getLast? hkey)
      refine Section.IsText.update ?_
        (valid_dropLast hplace) ha.root h
      intro t t' ht ht'
      have hput : (t.put key a.current.node).IsText :=
        ht.put hkey (Section.isText_section_iff.mpr ha.current)
      split at ht'
      · cases ht'
        exact hput
      · cases ht'
        exact hput
      · cases ht'
  · next path hpath =>
    rw [hpath] at hplace
    split at h
    · cases h
    · next key hkey =>
      have hkey := hplace key (List.mem_of_getLast? hkey)
      refine Section.IsText.update ?_
        (valid_dropLast hplace) ha.root h
      intro t t' ht ht'
      split at ht'
      · cases ht'
        exact ht.put hkey (Section.isText_sections_iff.mpr
          (List.forall_mem_singleton.mpr ha.current))
      · next items hget =>
        cases ht'
        have hitems := Section.isText_sections_iff.mp (ht.get? hget)
        exact ht.put hkey (Section.isText_sections_iff.mpr
          (List.forall_mem_append.mpr ⟨hitems, List.forall_mem_singleton.mpr ha.current⟩))
      · cases ht'

theorem isText_openable? {key : Bytes} {parent : Section} (hparent : parent.IsText)
    (h : openable? key parent = some s) : s.IsText := by
  unfold openable? at h
  split at h
  · cases h
    exact Section.isText_fresh
  · next hget =>
    cases h
    have hfound := Section.isText_section_iff.mp (hparent.get? hget)
    exact hfound
  · cases h

theorem isText_sectionAt? (hroot : root.IsText) (h : sectionAt? path root = some s) :
    s.IsText := by
  induction path generalizing root with
  | nil =>
    cases h
    exact hroot
  | cons key path ih =>
    rw [sectionAt?] at h
    split at h
    · next hget => exact ih (Section.isText_section_iff.mp (hroot.get? hget)) h
    · next items hget =>
      split at h
      · next last hlast =>
        exact ih (Section.isText_sections_iff.mp (hroot.get? hget) last
          (List.mem_of_getLast? hlast)) h
      · cases h
    · cases h

theorem isText_openTable (hroot : root.IsText) (hpath : ∀ part ∈ path, Valid part)
    (h : openTable root path = some a) : a.IsText := by
  have hfront := valid_dropLast hpath
  unfold openTable at h
  split at h
  · cases h
  · obtain ⟨made, hmade, h⟩ := Option.bind_eq_some_iff.mp h
    obtain ⟨parent, hparent, h⟩ := Option.bind_eq_some_iff.mp h
    obtain ⟨current, hcurrent, h⟩ := Option.bind_eq_some_iff.mp h
    obtain ⟨left, hleft, h⟩ := Option.bind_eq_some_iff.mp h
    cases h
    have hmade : made.IsText := hroot.update
      (fun ht ht' => Option.some.inj ht' ▸ ht) hfront hmade
    have hleft : left.IsText := hmade.update
      (fun ht ht' => Option.some.inj ht' ▸ ht.erase _) hfront hleft
    exact ⟨hleft, isText_openable? (isText_sectionAt? hmade hparent) hcurrent, hpath⟩

theorem isText_openItem (hroot : root.IsText) (hpath : ∀ part ∈ path, Valid part)
    (h : openItem root path = some a) : a.IsText := by
  unfold openItem at h
  split at h
  · cases h
  · obtain ⟨made, hmade, h⟩ := Option.bind_eq_some_iff.mp h
    cases h
    have hmade : made.IsText := by
      refine hroot.update ?_ (valid_dropLast hpath) hmade
      intro t t' ht ht'
      split at ht'
      · cases ht'
        exact ht
      · cases ht'
        exact ht
      · cases ht'
    exact ⟨hmade, Section.isText_fresh, hpath⟩

/-- A statement that is text keeps an assembly so. -/
theorem isText_take {statement : Statement} (ha : a.IsText) (hstatement : statement.IsText)
    (h : a.take statement = some a') : a'.IsText := by
  cases statement with
  | pair key v =>
    obtain ⟨current, hcurrent, h⟩ := Option.bind_eq_some_iff.mp h
    cases h
    exact ⟨ha.root, ha.current.insert hstatement hcurrent, ha.place⟩
  | header path =>
    obtain ⟨root, hroot, h⟩ := Option.bind_eq_some_iff.mp h
    exact isText_openTable (isText_finish ha hroot) hstatement h
  | itemHeader path =>
    obtain ⟨root, hroot, h⟩ := Option.bind_eq_some_iff.mp h
    exact isText_openItem (isText_finish ha hroot) hstatement h

theorem isText_foldlM_take {statements : List Statement} (ha : a.IsText)
    (hstatements : ∀ statement ∈ statements, statement.IsText)
    (h : statements.foldlM take a = some a') : a'.IsText :=
  foldlM_keeps
    (fun _ ha statement hstatement _ => isText_take ha (hstatements statement hstatement)) ha h

end Assembly

/-- A text without its byte order mark is a text. -/
theorem valid_skipMark {s : Bytes} (hs : Valid s) : Valid (skipMark s) := by
  unfold skipMark
  split
  · have hmark : Utf8.IsCharacter [0xEF, 0xBB, 0xBF] :=
      Utf8.isCharacter_three (by decide) (by decide) (by decide) (by decide)
    exact hmark.valid_append_iff.mp hs
  · exact hs

/-- All keys and values of the fields of a document are UTF-8. -/
theorem isText_of_parse? {s : Bytes} {fields : List (Bytes × Value)}
    (h : parse? s = some fields) : ∀ field ∈ fields, Valid field.1 ∧ field.2.IsText := by
  unfold parse? at h
  split at h
  · next hs =>
    obtain ⟨statements, hstatements, h⟩ := Option.bind_eq_some_iff.mp h
    obtain ⟨a, ha, h⟩ := Option.bind_eq_some_iff.mp h
    obtain ⟨root, hroot, h⟩ := Option.bind_eq_some_iff.mp h
    cases h
    have hstart : Assembly.start.IsText := ⟨Section.isText_fresh, Section.isText_fresh, trivial⟩
    have ha := Assembly.isText_foldlM_take hstart
      (isText_readStatements (valid_skipMark hs) hstatements) ha
    have hroot := Assembly.isText_finish ha hroot
    exact isText_entryValues (fun entry hentry => (hroot entry hentry).1)
      fun entry hentry => (hroot entry hentry).2.toValue
  · cases h

end TwinFiles.Toml
