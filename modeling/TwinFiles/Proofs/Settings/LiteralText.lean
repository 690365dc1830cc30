import TwinFiles.Proofs.CommandLine.Expression
import TwinFiles.Proofs.Settings.Precedence
import TwinFiles.Proofs.Settings.ValueSpelling
import TwinFiles.Proofs.Text.Characters

/-!
# Literal texts from the environment

A prefix or a folder on the command line is taken as it stands. In the environment it is taken as
it stands only if it spells no other value (`TakenLiterally`): a number, a truth value, a text in
quotes or a list is not.
-/

namespace TwinFiles

/-! ## Texts that stand for themselves -/

namespace EnvironmentValue

/-- A text that a variable holds as it stands: reading it does not break off, and if it spells a
value then that is the text itself. -/
structure TakenLiterally (cs : List Char) : Prop where
  whole : ¬ Breaks .value cs
  itself : ∀ value, Spells cs (.value value) → value = scalar (.text (Utf8.ofChars cs))

/-- A character in quotes is not its own spelling, which has the quotes around it. -/
theorem Spells.ne_character {cs : List Char} {value : LayerValue} (h : Spells cs (.value value)) :
    value ≠ scalar (.character (Utf8.ofChars cs)) := by
  intro hvalue
  cases h with
  | @character before behind c _ _ =>
    injection hvalue with _ hscalar
    injection hscalar with hbytes
    have hchars := congrArg Utf8.chars hbytes
    rw [Utf8.chars_ofChars, ← Utf8.ofChars_singleton, Utf8.chars_ofChars] at hchars
    have hlength := congrArg List.length hchars
    simp at hlength
    omega
  | number _ _ hnumeral =>
    injection hvalue with _ hscalar
    exact (bare_ne_text_of_numeral hnumeral _).2 hscalar
  | _ => cases hvalue

/-- A value that a variable spells comes from the environment. -/
theorem Spells.origin_eq {cs : List Char} {value : LayerValue} (h : Spells cs (.value value)) :
    value.origin = .environment := by
  cases h <;> rfl

/-- A valid text is read as itself if, and only if, it is taken literally. -/
theorem text?_read_iff {t : Bytes} (ht : Utf8.Valid t) (key expected : Bytes) :
    isTorn t = false ∧ LayerValue.text? key expected (read t) = .ok t ↔
      TakenLiterally (Utf8.chars t) := by
  obtain ⟨cs, rfl⟩ := (Utf8.valid_iff t).mp ht
  have hread : ∀ {value}, Spells cs (.value value) → read (Utf8.ofChars cs) = value :=
    fun h => read_eq_of_spells (by rwa [Utf8.chars_ofChars])
  rw [← Bool.not_eq_true, isTorn_iff, Utf8.chars_ofChars]
  constructor
  · -- a character would be taken for text too, but none is spelled without its quotes
    rintro ⟨hwhole, htext⟩
    refine ⟨hwhole, fun value hspells => ?_⟩
    have horigin := hspells.origin_eq
    have hcharacter := hspells.ne_character
    rw [hread hspells] at htext
    unfold LayerValue.text? at htext
    split at htext
    · cases horigin
      cases htext
      rfl
    · cases horigin
      cases htext
      exact absurd rfl hcharacter
    · cases htext
  · rintro ⟨hwhole, hitself⟩
    refine ⟨hwhole, ?_⟩
    by_cases hspells : ∃ value, Spells cs (.value value)
    · obtain ⟨value, hspells⟩ := hspells
      rw [hread hspells, hitself value hspells]
      rfl
    · rw [read_eq_of_not_spells, Utf8.chars_ofChars]
      · rfl
      · rw [Utf8.chars_ofChars]
        exact not_exists.mp hspells

/-- A word without blanks at its ends is taken literally unless it is a number. -/
theorem takenLiterally_of_word {cs : List Char} (hword : Word cs) (htrim : Blank.trimChars cs = cs)
    (hnumeral : ¬ Numeral cs) : TakenLiterally cs := by
  have hspells : Spells cs (.value (scalar (.text (Utf8.ofChars cs)))) := by
    have hblanks : Blanks [] := fun c hc => absurd hc List.not_mem_nil
    have h := Spells.word hblanks hword (by rwa [htrim])
    rwa [htrim] at h
  have hread := readFront_eq_ok_iff.mpr hspells
  constructor
  · intro hbreaks
    rw [readFront_eq_torn_iff.mpr hbreaks] at hread
    cases hread
  · intro value hvalue
    rw [readFront_eq_ok_iff.mpr hvalue] at hread
    cases hread
    rfl

/-! ## Quoting -/

/-- A hexadecimal digit. -/
def hexDigit (n : Nat) : Char :=
  Char.ofNat (if n < 10 then 0x30 + n else 0x57 + n)

/-- A number in so many hexadecimal digits. -/
def hexDigits : Nat → Nat → List Char
  | 0, _ => []
  | width + 1, n => hexDigits width (n / 16) ++ [hexDigit (n % 16)]

theorem length_hexDigits (width n : Nat) : (hexDigits width n).length = width := by
  induction width generalizing n with
  | zero => rfl
  | succ width ih => rw [hexDigits, List.length_append, ih, List.length_singleton]

theorem number?_hexDigits {width n : Nat} (h : n < Nat.pow 16 width) :
    Hex.number? ((hexDigits width n).map Char.toNat) = some n := by
  have hdigit : ∀ d < 16, Hex.digitValue? (hexDigit d).toNat = some d := by decide
  induction width generalizing n with
  | zero =>
    have hzero : n = 0 := by simpa using h
    rw [hzero]
    rfl
  | succ width ih =>
    -- the last digit is read onto the number of those in front
    have hhigh : Hex.number? ((hexDigits width (n / 16)).map Char.toNat) = some (n / 16) := by
      refine ih (Nat.div_lt_of_lt_mul ?_)
      rw [Nat.mul_comm]
      exact h
    rw [Hex.number?] at hhigh ⊢
    rw [hexDigits, List.map_append, List.foldlM_append, hhigh]
    show ((Hex.digitValue? (hexDigit (n % 16)).toNat).map (n / 16 * 16 + ·)).bind _ = _
    rw [hdigit _ (Nat.mod_lt _ (by decide))]
    show some (n / 16 * 16 + n % 16) = some n
    rw [Nat.div_add_mod']

/-- A character as an escape, behind its backslash. -/
def escaped (c : Char) : List Char :=
  'U' :: hexDigits 8 c.toNat

theorem escape_escaped (c : Char) : Escape (escaped c) c := by
  have hvalid : c.toNat < 0xD800 ∨ (0xDFFF < c.toNat ∧ c.toNat < 0x110000) := c.valid
  refine .eightDigits (length_hexDigits 8 c.toNat) ?_
  rw [codePoint?, number?_hexDigits (show c.toNat < 4294967296 by omega)]
  show Utf8.character? c.toNat = some c
  rw [Utf8.character?, if_pos (by omega), Char.ofNat_toNat]

/-- A text in quotes, with every character escaped. -/
def quote (cs : List Char) : List Char :=
  '"' :: (cs.flatMap (fun c => '\\' :: escaped c) ++ ['"'])

theorem unescapes_escaped (cs : List Char) :
    Unescapes (cs.flatMap fun c => '\\' :: escaped c) cs := by
  induction cs with
  | nil => exact .nil
  | cons c cs ih => exact .escape (escape_escaped c) ih

/-- In front of the first escape nothing is left that could be cut. -/
theorem spells_quote {cs : List Char} (h : cs ≠ []) :
    Spells (quote cs) (.value (scalar (.text (Utf8.ofChars cs)))) := by
  have hescaped := unescapes_escaped cs
  have hquoted : Quoted (cs.flatMap fun c => '\\' :: escaped c) cs := by
    cases cs with
    | nil => exact absurd rfl h
    | cons c cs =>
      exact .escaped (s := []) (fun c hc => absurd hc List.not_mem_nil) List.nil_prefix rfl hescaped
  have hblanks : Blanks [] := fun c hc => absurd hc List.not_mem_nil
  exact .text hblanks hblanks hquoted

/-- What is quoted has ASCII characters only, and none of them is zero. -/
theorem ascii_of_mem_quote {cs : List Char} : ∀ c ∈ quote cs, 0 < c.toNat ∧ c.toNat < 128 := by
  have hdigit : ∀ d < 16, 0 < (hexDigit d).toNat ∧ (hexDigit d).toNat < 128 := by decide
  have hdigits : ∀ width n, ∀ c ∈ hexDigits width n, 0 < c.toNat ∧ c.toNat < 128 := by
    intro width
    induction width with
    | zero => exact fun n c hc => absurd hc List.not_mem_nil
    | succ width ih =>
      intro n
      rw [hexDigits, List.forall_mem_append, List.forall_mem_singleton]
      exact ⟨ih (n / 16), hdigit _ (Nat.mod_lt _ (by decide))⟩
  rw [quote, List.forall_mem_cons, List.forall_mem_append, List.forall_mem_singleton]
  refine ⟨by decide, ?_, by decide⟩
  intro c hc
  obtain ⟨d, _, hd⟩ := List.mem_flatMap.mp hc
  have hescaped : ∀ e ∈ '\\' :: escaped d, 0 < e.toNat ∧ e.toNat < 128 := by
    rw [escaped, List.forall_mem_cons, List.forall_mem_cons]
    exact ⟨by decide, by decide, hdigits 8 d.toNat⟩
  exact hescaped c hd

end EnvironmentValue

/-! ## One setting in the environment -/

namespace Environment

/-- No variable is for a setting, and none expresses the wish for plain text. -/
structure SetsNothing (env : Environment) : Prop where
  noSetting : ∀ entry ∈ env, keyOf? entry.1 = none
  noWish : env.get? (utf8 "NO_COLOR") = none

variable {env : Environment}

/-- With one variable for a setting, the layer has one field. -/
theorem SetsNothing.layer_cons (h : env.SetsNothing) {name key : Bytes}
    (hname : keyOf? name = some [key]) (value : Bytes) :
    layer ((name, value) :: env) = [(key, EnvironmentValue.read value)] := by
  have hkeys : env.filterMap (fun entry => keyOf? entry.1) = [] :=
    List.filterMap_eq_nil_iff.mpr h.noSetting
  have hplain : Plain ((name, value) :: env) := by
    constructor <;> simp [hname, hkeys]
  have hrest : env.filterMap field? = [] := by
    rw [List.filterMap_eq_nil_iff]
    intro entry hentry
    rw [field?, h.noSetting entry hentry]
  have hfirst : field? (name, value) = some (key, EnvironmentValue.read value) := by
    rw [field?, hname]
  rw [hplain.layer_eq, List.filterMap_cons_some hfirst, hrest]

theorem SetsNothing.layer_eq (h : env.SetsNothing) : env.layer = [] := by
  have hkeys : env.filterMap (fun entry => keyOf? entry.1) = [] :=
    List.filterMap_eq_nil_iff.mpr h.noSetting
  have hplain : env.Plain := by
    constructor <;> simp [hkeys]
  rw [hplain.layer_eq, List.filterMap_eq_nil_iff]
  intro entry hentry
  rw [field?, h.noSetting entry hentry]

theorem SetsNothing.isTorn_eq (h : env.SetsNothing) : env.isTorn = false := by
  rw [isTorn, List.any_eq_false]
  intro entry hentry
  simp [h.noSetting entry hentry]

theorem SetsNothing.isTorn_cons (h : env.SetsNothing) {name key : Bytes}
    (hname : keyOf? name = some [key]) (value : Bytes) :
    isTorn ((name, value) :: env) = EnvironmentValue.isTorn value := by
  have hrest := h.isTorn_eq
  rw [isTorn] at hrest
  rw [isTorn, List.any_cons, hrest, hname]
  simp

/-- A variable for a setting is none of the others. -/
theorem get?_cons_of_keyOf? {name key : Bytes} (hname : keyOf? name = some [key]) (value : Bytes)
    {other : Bytes} (hother : keyOf? other = none) :
    get? ((name, value) :: env) other = env.get? other := by
  have hne : other ≠ name := by
    rintro rfl
    rw [hname] at hother
    cases hother
  rw [get?, List.lookup_cons, beq_eq_false_iff_ne.mpr hne]
  rfl

end Environment

namespace Settings

open Environment EnvironmentValue

/-- The settings that a start of the program leads to, unless it fails. -/
def started? (v : View) (env : Environment) (arguments : List Bytes) : Option Settings :=
  match CommandLine.parse arguments (env.get? (utf8 "NO_COLOR")) with
  | .ok c => (load v env c.config).toOption.map (·.withCommandLine c)
  | .error _ => none

theorem ofLayer_wanted (value : LayerValue) :
    ofLayer [(utf8 "prefix", value)] =
      (LayerValue.text? (utf8 "prefix") (utf8 "a string") value).map fun text =>
        { initial with wanted := text } := by
  show (LayerValue.text? (utf8 "prefix") (utf8 "a string") value).bind _ = _
  cases LayerValue.text? (utf8 "prefix") (utf8 "a string") value <;> rfl

theorem ofLayer_folder (value : LayerValue) :
    ofLayer [(utf8 "folder", value)] =
      (LayerValue.text? (utf8 "folder") (utf8 "path string") value).map fun text =>
        { initial with folder := text } := by
  show (LayerValue.text? (utf8 "folder") (utf8 "path string") value).bind _ = _
  cases LayerValue.text? (utf8 "folder") (utf8 "path string") value <;> rfl

theorem withCommandLine_empty (s : Settings) : s.withCommandLine .empty = s := by
  cases s
  simp [withCommandLine, CommandLine.empty]

variable {v : View} {env : Environment}

theorem fileLayer?_default (hfile : defaultFile? v env = none) :
    fileLayer? v env none = some [] := by
  rw [fileLayer?, pathInUse, hfile]

theorem load_default (hfile : defaultFile? v env = none) :
    load v env none =
      if env.isTorn then .error .torn else (ofLayers [] env).mapError (.wrongValue none) := by
  rw [load_eq fun path h => by cases h]
  rw [fileLayer?_default hfile]

/-- Nothing but the command line says anything. -/
theorem started?_line (henv : env.SetsNothing) (hfile : defaultFile? v env = none)
    {c : CommandLine} (hc : c.Expressible) (hconfig : c.config = none) :
    started? v env (c.wishes ++ c.folderArguments) = some (initial.withCommandLine c) := by
  obtain ⟨hsound, hnot⟩ := (CommandLine.expressible_iff c).mp hc
  have hparse : CommandLine.parse (c.wishes ++ c.folderArguments) none = .ok c :=
    (CommandLine.parse_none_eq_ok_iff _ c).mpr
      ⟨CommandLine.ofArguments_wishes hsound (List.Perm.refl _), hnot⟩
  have hload : load v env none = .ok initial := by
    rw [load_default hfile, henv.isTorn_eq, ofLayers, henv.layer_eq]
    rfl
  rw [started?, henv.noWish, hparse]
  simp only [hconfig, hload]
  rfl

/-- A variable for a setting does not lead to another configuration file. -/
theorem defaultFile?_cons {name key : Bytes} (hname : keyOf? name = some [key]) (value : Bytes)
    (v : View) (env : Environment) :
    defaultFile? v ((name, value) :: env) = defaultFile? v env := by
  have hhome : keyOf? (utf8 "HOME") = none := by decide +kernel
  have hfolder : keyOf? (utf8 "XDG_CONFIG_HOME") = none := by decide +kernel
  rw [defaultFile?, defaultFile?, defaultPath?, defaultPath?, homeFolder?, homeFolder?,
    get?_cons_of_keyOf? hname value hhome, get?_cons_of_keyOf? hname value hfolder]

/-- Nothing but one variable says anything. -/
theorem started?_variable (henv : env.SetsNothing) (hfile : defaultFile? v env = none)
    {name key : Bytes} (hname : keyOf? name = some [key]) (value : Bytes) :
    started? v ((name, value) :: env) [] =
      if EnvironmentValue.isTorn value then none
      else (ofLayer [(key, read value)]).toOption := by
  have hwish : keyOf? (utf8 "NO_COLOR") = none := by decide +kernel
  have hparse : CommandLine.parse [] none = .ok .empty := rfl
  have hmerge : Layer.merge [] [(key, read value)] = [(key, read value)] := by
    rw [Layer.merge, Layer.merge]
    rfl
  have hload : load v ((name, value) :: env) none =
      if EnvironmentValue.isTorn value then .error .torn
      else (ofLayer [(key, read value)]).mapError (.wrongValue none) := by
    rw [load_default (by rwa [defaultFile?_cons hname]), henv.isTorn_cons hname, ofLayers,
      henv.layer_cons hname, hmerge]
  rw [started?, get?_cons_of_keyOf? hname value hwish, henv.noWish, hparse]
  show (load v ((name, value) :: env) none).toOption.map _ = _
  rw [hload]
  split
  · rfl
  · cases ofLayer [(key, read value)] with
    | error e => rfl
    | ok s => exact congrArg some (withCommandLine_empty s)

/-- A setting that holds a text, as one variable gives it. -/
structure HoldsText (name key expected : Bytes) (give : Bytes → Settings) : Prop where
  keyOf : keyOf? name = some [key]
  read : ∀ value, ofLayer [(key, value)] = (LayerValue.text? key expected value).map give
  injective : give.Injective

theorem holdsText_wanted :
    HoldsText (utf8 "PREFIXDUPE_PREFIX") (utf8 "prefix") (utf8 "a string")
      fun text => { initial with wanted := text } where
  keyOf := by decide +kernel
  read := ofLayer_wanted
  injective := fun s t h => congrArg Settings.wanted h

theorem holdsText_folder :
    HoldsText (utf8 "PREFIXDUPE_FOLDER") (utf8 "folder") (utf8 "path string")
      fun text => { initial with folder := text } where
  keyOf := by decide +kernel
  read := ofLayer_folder
  injective := fun s t h => congrArg Settings.folder h

section
variable {name key expected : Bytes} {give : Bytes → Settings}

/-- A text in a variable is what the setting holds just if it is taken literally. -/
theorem HoldsText.started?_eq_iff (h : HoldsText name key expected give) (henv : env.SetsNothing)
    (hfile : defaultFile? v env = none) {t : Bytes} (ht : Utf8.Valid t) :
    started? v ((name, t) :: env) [] = some (give t) ↔ TakenLiterally (Utf8.chars t) := by
  rw [started?_variable henv hfile h.keyOf, ← text?_read_iff ht key expected, h.read]
  cases EnvironmentValue.isTorn t with
  | true => simp
  | false =>
    cases htext : LayerValue.text? key expected (EnvironmentValue.read t) with
    | error e => simp [Except.map, Except.toOption]
    | ok text => simp [Except.map, Except.toOption, h.injective.eq_iff]

/-- In quotes every text can be given to the setting. -/
theorem HoldsText.started?_quote (h : HoldsText name key expected give) (henv : env.SetsNothing)
    (hfile : defaultFile? v env = none) {cs : List Char} (hcs : cs ≠ []) :
    started? v ((name, Utf8.ofChars (quote cs)) :: env) [] = some (give (Utf8.ofChars cs)) := by
  have hspells : Spells (Utf8.chars (Utf8.ofChars (quote cs)))
      (.value (scalar (.text (Utf8.ofChars cs)))) := by
    rw [Utf8.chars_ofChars]
    exact spells_quote hcs
  have hwhole : EnvironmentValue.isTorn (Utf8.ofChars (quote cs)) = false := by
    rw [← Bool.not_eq_true, isTorn_iff]
    intro hbreaks
    have hread := readFront_eq_ok_iff.mpr hspells
    rw [readFront_eq_torn_iff.mpr hbreaks] at hread
    cases hread
  rw [started?_variable henv hfile h.keyOf, hwhole, h.read, read_eq_of_spells hspells]
  rfl

end

theorem started?_isPrefix (henv : env.SetsNothing) (hfile : defaultFile? v env = none)
    {t : Bytes} (ht : Utf8.Valid t) :
    started? v env [utf8 "--prefix=" ++ t] = some { initial with wanted := t } :=
  started?_line (c := { CommandLine.empty with wanted := some t }) henv hfile
    { notBoth := by simp [CommandLine.empty]
      verbose_le := Nat.zero_le _
      wanted_valid := fun _ h => Option.some.inj h ▸ ht
      config_ne_nil := fun _ h => nomatch h
      folder_ne_nil := fun _ h => nomatch h } rfl

theorem started?_folder (henv : env.SetsNothing) (hfile : defaultFile? v env = none)
    {t : Bytes} (hne : t ≠ []) :
    started? v env [utf8 "--", t] = some { initial with folder := t } :=
  started?_line (c := { CommandLine.empty with folder := some t }) henv hfile
    { notBoth := by simp [CommandLine.empty]
      verbose_le := Nat.zero_le _
      wanted_valid := fun _ h => nomatch h
      config_ne_nil := fun _ h => nomatch h
      folder_ne_nil := fun _ h => Option.some.inj h ▸ hne } rfl

/-- Where nothing else is set, a text on the command line is the prefix or the folder as it stands.
The same text in the environment leads to the same settings if, and only if, it is taken literally.
Still, every prefix and every folder can be asked for in the environment by some spelling: in
quotes. -/
theorem environment_agrees_iff_literal (henv : env.SetsNothing)
    (hfile : defaultFile? v env = none) {t : Bytes} (hne : t ≠ []) (ht : Utf8.Valid t) :
    started? v env [utf8 "--prefix=" ++ t] = some { initial with wanted := t } ∧
      started? v env [utf8 "--", t] = some { initial with folder := t } ∧
      (started? v ((utf8 "PREFIXDUPE_PREFIX", t) :: env) [] =
          started? v env [utf8 "--prefix=" ++ t] ↔ TakenLiterally (Utf8.chars t)) ∧
      (started? v ((utf8 "PREFIXDUPE_FOLDER", t) :: env) [] = started? v env [utf8 "--", t] ↔
        TakenLiterally (Utf8.chars t)) ∧
      ∃ value, value ≠ [] ∧ Utf8.Valid value ∧ Ascii.nul ∉ value ∧
        started? v ((utf8 "PREFIXDUPE_PREFIX", value) :: env) [] =
          started? v env [utf8 "--prefix=" ++ t] ∧
        started? v ((utf8 "PREFIXDUPE_FOLDER", value) :: env) [] =
          started? v env [utf8 "--", t] := by
  rw [started?_isPrefix henv hfile ht, started?_folder henv hfile hne]
  refine ⟨rfl, rfl, holdsText_wanted.started?_eq_iff henv hfile ht,
    holdsText_folder.started?_eq_iff henv hfile ht, ?_⟩
  obtain ⟨cs, rfl⟩ := (Utf8.valid_iff t).mp ht
  have hcs : cs ≠ [] := by
    rintro rfl
    exact hne rfl
  refine ⟨Utf8.ofChars (quote cs), ?_, Utf8.valid_ofChars _,
    Utf8.nul_notMem_ofChars ascii_of_mem_quote, holdsText_wanted.started?_quote henv hfile hcs,
    holdsText_folder.started?_quote henv hfile hcs⟩
  exact List.cons_ne_nil _ _

/-- A prefix that is a plain word can be asked for in both ways. -/
theorem environment_agrees_on_run :
    let v : View := ⟨.empty, [], false, none⟩
    let env : Environment := [(utf8 "HOME", utf8 "/home")]
    env.SetsNothing ∧ defaultFile? v env = none ∧ Utf8.Valid (utf8 "run_") ∧
      started? v ((utf8 "PREFIXDUPE_PREFIX", utf8 "run_") :: env) [] =
        started? v env [utf8 "--prefix=run_"] := by
  intro v env
  have henv : env.SetsNothing := ⟨by decide +kernel, by decide +kernel⟩
  have hfile : defaultFile? v env = none := by rfl
  have hvalid : Utf8.Valid (utf8 "run_") := by decide +kernel
  have hchars : Utf8.chars (utf8 "run_") = ['r', 'u', 'n', '_'] := by decide +kernel
  have hword : Word ['r', 'u', 'n', '_'] :=
    { notBool := by decide
      notOpening := by simp
      noSeparator := by simp [isSeparator]
      noBlank := by simp [isBlank] }
  have hnumeral : ¬ Numeral ['r', 'u', 'n', '_'] := by
    rw [numeral_iff]
    decide +kernel
  have hliteral : TakenLiterally (Utf8.chars (utf8 "run_")) := by
    rw [hchars]
    exact takenLiterally_of_word hword (by decide +kernel) hnumeral
  have hagrees := environment_agrees_iff_literal henv hfile (by decide +kernel) hvalid
  exact ⟨henv, hfile, hvalid, hagrees.2.2.1.mpr hliteral⟩

/-- A year is a number: as the prefix it can be asked for on the command line, while the program
does not start with it in the environment. -/
theorem environment_refuses_year :
    ∃ (v : View) (env : Environment) (t : Bytes), env.SetsNothing ∧
      defaultFile? v env = none ∧ t ≠ [] ∧ Utf8.Valid t ∧ Ascii.nul ∉ t ∧
      started? v ((utf8 "PREFIXDUPE_PREFIX", t) :: env) [] ≠
        started? v env [utf8 "--prefix=" ++ t] := by
  have henv : Environment.SetsNothing [] := ⟨by decide, by decide +kernel⟩
  refine ⟨⟨.empty, [], false, none⟩, [], utf8 "2024", henv, by rfl, by decide +kernel,
    by decide +kernel, by decide +kernel, ?_⟩
  have hvariable : started? ⟨.empty, [], false, none⟩
      [(utf8 "PREFIXDUPE_PREFIX", utf8 "2024")] [] = none := by rfl
  rw [started?_isPrefix henv (by rfl) (by decide +kernel), hvariable]
  exact fun h => nomatch h

end Settings

end TwinFiles
