import Mathlib.Data.List.Perm.Basic
import TwinFiles.CommandLine.Printer
import TwinFiles.Proofs.CommandLine.PlainText
import TwinFiles.Proofs.CommandLine.Wish
import TwinFiles.Proofs.Fallible

/-!
# What command lines express

A command line that can be asked for is read back from its wishes, whatever their order
(`takeAll_wishes`), because each wish that is taken leaves the others as they are (`Lacks.grant`).
Whatever is read, on the other hand, can be asked for (`Reading.sound_take`): no argument makes a
switch or an option say what it cannot say. So the command lines that are accepted are just those
that can be asked for (`expresses_exactly`).
-/

namespace TwinFiles.CommandLine

/-! ## Wishes as arguments -/

/-- One wish. -/
inductive Wish where
  | switch (s : Switch)
  | option (slot : Slot) (value : Bytes)
  deriving DecidableEq

/-- A switch as an argument. -/
def Switch.argument : Switch → Bytes
  | .verbose => utf8 "-v"
  | .quiet => utf8 "-q"
  | .noColor => utf8 "--no-color"
  | .jsonErrors => utf8 "--json-errors"
  | .sort => utf8 "--sort"
  | .noFollowSymlinks => utf8 "--no-follow-symlinks"
  | .help => utf8 "--help"
  | .version => utf8 "--version"

/-- The name of an option. That of the folder is only shown: it stands alone. -/
def Slot.name : Slot → Bytes
  | .config => utf8 "config"
  | .wanted => utf8 "prefix"
  | .output => utf8 "output"
  | .folder => utf8 "folder"

namespace Wish

/-- The argument for a wish. -/
def argument : Wish → Bytes
  | switch s => s.argument
  | option slot value => Ascii.dash :: Ascii.dash :: (slot.name ++ 0x3D :: value)

/-- The value that a wish has for an option. -/
def valueFor? (slot : Slot) : Wish → Option Bytes
  | option slot' value => if slot' = slot then some value else none
  | switch _ => none

/-- Grants a wish. -/
def grant (c : CommandLine) : Wish → Except UsageError CommandLine
  | switch s => c.turnOn s
  | option slot value => c.assign value slot

end Wish

/-- The wishes for a switch. -/
def switchWishes (c : CommandLine) (s : Switch) : List Wish :=
  List.replicate (c.times s) (.switch s)

/-- The wishes for an option. -/
def optionWishes (c : CommandLine) (slot : Slot) : List Wish :=
  (c.value? slot).toList.map (.option slot)

/-- The wishes of a command line, in one of the orders, but for the folder. -/
def wishList (c : CommandLine) : List Wish :=
  c.switchWishes .verbose ++ c.switchWishes .quiet ++ c.switchWishes .noColor ++
    c.switchWishes .jsonErrors ++ c.optionWishes .config ++ c.optionWishes .wanted ++
    c.optionWishes .output ++ c.switchWishes .sort ++ c.switchWishes .noFollowSymlinks

theorem map_argument_switchWishes (c : CommandLine) (s : Switch) :
    (c.switchWishes s).map Wish.argument = List.replicate (c.times s) s.argument := by
  simp [switchWishes, Wish.argument]

theorem replicate_toNat (name : Bytes) (on : Bool) :
    List.replicate on.toNat name = switchArgument name on := by
  cases on <;> rfl

theorem map_argument_optionWishes (c : CommandLine) (slot : Slot) :
    (c.optionWishes slot).map Wish.argument =
      optionArgument (Ascii.dash :: Ascii.dash :: slot.name) (c.value? slot) := by
  rw [optionWishes]
  cases c.value? slot <;> rfl

theorem wishes_eq (c : CommandLine) : c.wishes = c.wishList.map Wish.argument := by
  simp only [wishList, List.map_append, map_argument_switchWishes, map_argument_optionWishes,
    times, replicate_toNat]
  rfl

/-! ## Taking the argument for a wish -/

namespace Reading

/-- A reading of options, none of which waits for a value. -/
def ofLine (c : CommandLine) : Reading :=
  ⟨c, none, false, false⟩

variable {c : CommandLine}

theorem takeSwitch_ofLine (s : Switch) :
    (ofLine c).takeSwitch s = (c.turnOn s).map ofLine := by
  show (c.turnOn s).bind _ = _
  cases c.turnOn s <;> rfl

theorem takeOption_ofLine (slot : Slot) (value : Bytes) :
    (ofLine c).takeOption slot value = (c.assign value slot).map ofLine := by
  show (c.assign value slot).bind _ = _
  cases c.assign value slot <;> rfl

theorem takeLetters_ofLine (letter : UInt8) {s : Switch}
    (hletter : letters.lookup letter = some (.switch s)) :
    (ofLine c).takeLetters [letter] = (c.turnOn s).map ofLine := by
  rw [← takeSwitch_ofLine, takeLetters, hletter]
  show ((ofLine c).takeSwitch s).bind _ = _
  cases (ofLine c).takeSwitch s <;> rfl

theorem take_switch (s : Switch) :
    (ofLine c).take s.argument = (c.turnOn s).map ofLine := by
  cases s with
  | verbose => exact takeLetters_ofLine 0x76 rfl
  | quiet => exact takeLetters_ofLine 0x71 rfl
  | _ => exact takeSwitch_ofLine _

theorem take_option {slot : Slot} (hslot : slot ≠ .folder) (value : Bytes) :
    (ofLine c).take (Wish.option slot value).argument = (c.assign value slot).map ofLine := by
  rw [← takeOption_ofLine]
  cases slot with
  | folder => exact absurd rfl hslot
  | _ => rfl

theorem take_argument {w : Wish} (hw : ∀ value, w ≠ .option .folder value) :
    (ofLine c).take w.argument = (w.grant c).map ofLine := by
  cases w with
  | switch s => exact take_switch s
  | option slot value => exact take_option (fun h => hw value (by rw [h])) value

theorem takeAll_append (r : Reading) (first more : List Bytes) :
    r.takeAll (first ++ more) = (r.takeAll first).bind fun r => r.takeAll more := by
  induction first generalizing r with
  | nil => rfl
  | cons argument first ih =>
    rw [List.cons_append, takeAll, takeAll]
    cases r.take argument with
    | error e => rfl
    | ok r => exact ih r

end Reading

/-! ## Granting all wishes -/

/-- A command line says less than another one by just these wishes. -/
structure Lacks (now later : CommandLine) (wishes : List Wish) : Prop where
  switches : ∀ s, now.times s + wishes.count (.switch s) = later.times s
  values : ∀ slot, (now.value? slot).toList ++ wishes.filterMap (Wish.valueFor? slot) =
    (later.value? slot).toList

variable {now later : CommandLine} {w : Wish} {wishes wishes' : List Wish}

/-- The order of the wishes means nothing. -/
theorem Lacks.perm (h : now.Lacks later wishes) (hperm : wishes'.Perm wishes) :
    now.Lacks later wishes' := by
  constructor
  · intro s
    rw [hperm.count_eq]
    exact h.switches s
  · intro slot
    have hvalues := (hperm.filterMap (Wish.valueFor? slot)).append_left (now.value? slot).toList
    rw [h.values slot] at hvalues
    -- an option has one value at most, so there is no other order of its values
    cases hlater : later.value? slot with
    | none =>
      rw [hlater] at hvalues
      exact List.perm_nil.mp hvalues
    | some value =>
      rw [hlater] at hvalues
      exact List.perm_singleton.mp hvalues

theorem Lacks.eq (h : now.Lacks later []) : now = later := by
  refine ext_of_says h.switches fun slot => ?_
  have hvalues := h.values slot
  rw [List.filterMap_nil, List.append_nil] at hvalues
  cases hnow : now.value? slot <;> cases hlater : later.value? slot <;>
    simp_all [Option.toList]

/-- An option that lacks a value has none, and lacks just this one. -/
theorem Lacks.of_option {slot : Slot} {value : Bytes}
    (h : now.Lacks later (.option slot value :: wishes)) :
    now.value? slot = none ∧ later.value? slot = some value ∧
      wishes.filterMap (Wish.valueFor? slot) = [] := by
  have hvalue : (Wish.option slot value).valueFor? slot = some value := if_pos rfl
  have hslot := h.values slot
  rw [List.filterMap_cons_some hvalue] at hslot
  cases hnow : now.value? slot <;> cases hlater : later.value? slot <;>
    simp_all [Option.toList]

/-- The next wish can be granted if the command line in the end says nothing that it cannot say, and
that leaves the others. -/
theorem Lacks.grant (hlater : later.Sound) (h : now.Lacks later (w :: wishes)) :
    ∃ next, w.grant now = .ok next ∧ next.Lacks later wishes := by
  cases w with
  | switch s =>
    have hs := h.switches s
    rw [List.count_cons_self] at hs
    have hlimit := hlater.switches s
    obtain ⟨next, hnext⟩ := exists_turnOn (c := now) (s := s) (by omega)
    obtain ⟨htimes, hvalues⟩ := turnOn_says hnext
    refine ⟨next, hnext, ?_, ?_⟩
    · intro s'
      rw [htimes]
      split
      · next he =>
        subst he
        omega
      · next hne =>
        have hs' := h.switches s'
        rwa [List.count_cons_of_ne (by simpa using Ne.symm hne)] at hs'
    · intro slot
      rw [hvalues]
      exact h.values slot
  | option slot value =>
    obtain ⟨hfree, hvalue, hrest⟩ := h.of_option
    obtain ⟨next, hnext⟩ := exists_assign hfree (hlater.values slot value hvalue)
    obtain ⟨_, hvalues, htimes⟩ := assign_says hnext
    refine ⟨next, hnext, ?_, ?_⟩
    · intro s
      have hs := h.switches s
      rw [List.count_cons_of_ne (by simp)] at hs
      rw [htimes]
      exact hs
    · intro slot'
      rw [hvalues]
      split
      · next he =>
        subst he
        rw [hrest, hvalue, List.append_nil]
      · next hne =>
        have hother : (Wish.option slot value).valueFor? slot' = none := if_neg (Ne.symm hne)
        have hslot' := h.values slot'
        rwa [List.filterMap_cons_none hother] at hslot'

/-- A command line that says less than another one becomes that by its wishes. -/
theorem Lacks.takeAll (hlater : later.Sound) (h : now.Lacks later wishes)
    (hnamed : ∀ w ∈ wishes, ∀ value, w ≠ .option .folder value) :
    (Reading.ofLine now).takeAll (wishes.map Wish.argument) = .ok (Reading.ofLine later) := by
  induction wishes generalizing now with
  | nil =>
    rw [h.eq]
    rfl
  | cons w wishes ih =>
    obtain ⟨next, hnext, hlacks⟩ := h.grant hlater
    obtain ⟨hw, hrest⟩ := List.forall_mem_cons.mp hnamed
    rw [List.map_cons, Reading.takeAll, Reading.take_argument hw, hnext]
    exact ih hlacks hrest

/-! ## What the wishes of a command line say -/

theorem count_switchWishes (c : CommandLine) (s s' : Switch) :
    (c.switchWishes s).count (.switch s') = if s = s' then c.times s else 0 := by
  simp [switchWishes, List.count_replicate]

theorem count_optionWishes (c : CommandLine) (slot : Slot) (s : Switch) :
    (c.optionWishes slot).count (.switch s) = 0 := by
  simp [optionWishes, List.count_eq_zero]

theorem valueFor?_switchWishes (c : CommandLine) (s : Switch) (slot : Slot) :
    (c.switchWishes s).filterMap (Wish.valueFor? slot) = [] := by
  rw [switchWishes, List.filterMap_replicate_of_none rfl]

theorem valueFor?_optionWishes (c : CommandLine) (slot slot' : Slot) :
    (c.optionWishes slot).filterMap (Wish.valueFor? slot') =
      if slot = slot' then (c.value? slot).toList else [] := by
  rw [optionWishes]
  cases c.value? slot <;> by_cases h : slot = slot' <;> simp [Wish.valueFor?, h]

/-- The wishes of a command line are what it says, but for the folder. -/
theorem lacks_wishList (c : CommandLine) :
    empty.Lacks { c with folder := none } c.wishList := by
  constructor
  · intro s
    rw [wishList]
    simp only [List.count_append, count_switchWishes, count_optionWishes]
    cases s <;> simp [times, empty]
  · intro slot
    rw [wishList]
    simp only [List.filterMap_append, valueFor?_switchWishes, valueFor?_optionWishes]
    cases slot <;> simp [value?, empty]

theorem ne_folder_of_mem_wishList {c : CommandLine} (hw : w ∈ c.wishList) (value : Bytes) :
    w ≠ .option .folder value := by
  rintro rfl
  simp [wishList, switchWishes, optionWishes] at hw

/-- What is a list but for the order comes from a list that is the same but for the order. -/
theorem exists_map_of_perm {α β : Type} {f : α → β} {l : List α} {l' : List β}
    (h : l'.Perm (l.map f)) : ∃ l₀ : List α, l₀.Perm l ∧ l' = l₀.map f := by
  have hcomp := congrFun (congrFun (List.eq_map_comp_perm f) l') l
  obtain ⟨l₀, hmap, hperm⟩ := hcomp.mpr h
  exact ⟨l₀, hperm, hmap⟩

/-- The wishes of a command line, in any order, are read as what it says, but for the folder. -/
theorem takeAll_wishes {c : CommandLine} (hc : c.Sound) {arguments : List Bytes}
    (h : arguments.Perm c.wishes) :
    Reading.start.takeAll arguments = .ok (Reading.ofLine { c with folder := none }) := by
  rw [wishes_eq] at h
  obtain ⟨wishes, hperm, rfl⟩ := exists_map_of_perm h
  have hsound : Sound { c with folder := none } := by
    refine ⟨fun s => ?_, fun slot value hvalue => ?_⟩
    · have hs := hc.switches s
      cases s <;> exact hs
    · cases slot with
      | folder => cases hvalue
      | config => exact hc.values .config value hvalue
      | wanted => exact hc.values .wanted value hvalue
      | output => exact hc.values .output value hvalue
  exact ((lacks_wishList c).perm hperm).takeAll hsound fun w hw =>
    ne_folder_of_mem_wishList (hperm.subset hw)

/-- The folder is read behind the wishes. -/
theorem ofArguments_wishes {c : CommandLine} (hc : c.Sound) {arguments : List Bytes}
    (h : arguments.Perm c.wishes) : ofArguments (arguments ++ c.folderArguments) = .ok c := by
  rw [ofArguments, Reading.takeAll_append, takeAll_wishes hc h, folderArguments]
  cases hfolder : c.folder with
  | none =>
    cases c
    cases hfolder
    rfl
  | some folder =>
    -- the folder waits for the end, where it is taken unless it is empty
    have hassign : assign { c with folder := none } folder .folder = .ok c := by
      have hne : folder ≠ [] := hc.values .folder folder hfolder
      cases c
      cases hfolder
      simp [assign, hne]
    have htake : (Reading.ofLine { c with folder := none }).takeAll [utf8 "--", folder] =
        .ok ⟨{ c with folder := none }, some ⟨.folder, some folder⟩, true, true⟩ := rfl
    show ((Reading.ofLine { c with folder := none }).takeAll [utf8 "--", folder] >>= _) = _
    rw [htake]
    show ((assign { c with folder := none } folder .folder >>= _) >>= _) = _
    rw [hassign]
    rfl

/-! ## Whatever is read is sound -/

namespace Reading

variable {r r' : Reading}

theorem sound_settle (hr : r.line.Sound) (h : r.settle = .ok r') : r'.line.Sound := by
  unfold settle at h
  split at h
  · cases h
    exact hr
  · cases h
  · obtain ⟨line, hline, h⟩ := exists_of_bind_eq_ok h
    cases h
    exact hr.assign hline

theorem sound_takeSwitch {s : Switch} (hr : r.line.Sound) (h : r.takeSwitch s = .ok r') :
    r'.line.Sound := by
  obtain ⟨r₁, hsettle, h⟩ := exists_of_bind_eq_ok h
  obtain ⟨line, hline, h⟩ := exists_of_bind_eq_ok h
  cases h
  exact (sound_settle hr hsettle).turnOn hline

theorem sound_takeOption {slot : Slot} {value : Bytes} (hr : r.line.Sound)
    (h : r.takeOption slot value = .ok r') : r'.line.Sound := by
  obtain ⟨r₁, hsettle, h⟩ := exists_of_bind_eq_ok h
  obtain ⟨line, hline, h⟩ := exists_of_bind_eq_ok h
  cases h
  exact (sound_settle hr hsettle).assign hline

theorem sound_awaitValue {slot : Slot} (hr : r.line.Sound) (h : r.awaitValue slot = .ok r') :
    r'.line.Sound := by
  obtain ⟨r₁, hsettle, h⟩ := exists_of_bind_eq_ok h
  cases h
  have hr₁ := sound_settle hr hsettle
  exact hr₁

theorem sound_takeLong {text : Bytes} (hr : r.line.Sound) (h : r.takeLong text = .ok r') :
    r'.line.Sound := by
  simp only [takeLong] at h
  split at h
  · cases h
  · cases h
  · exact sound_takeSwitch hr h
  · exact sound_takeOption hr h
  · exact sound_awaitValue hr h

theorem sound_takeLetters {text : Bytes} (hr : r.line.Sound) (h : r.takeLetters text = .ok r') :
    r'.line.Sound := by
  induction text generalizing r with
  | nil =>
    cases h
    exact hr
  | cons letter rest ih =>
    rw [takeLetters] at h
    split at h
    · cases h
    · obtain ⟨r₁, hswitch, h⟩ := exists_of_bind_eq_ok h
      exact ih (sound_takeSwitch hr hswitch) h
    · split at h
      · exact sound_awaitValue hr h
      · exact sound_takeOption hr h
      · exact sound_takeOption hr h

theorem sound_takeFolder {value : Bytes} (hr : r.line.Sound) (h : r.takeFolder value = .ok r') :
    r'.line.Sound := by
  unfold takeFolder at h
  split at h
  · cases h
  · obtain ⟨r₁, hsettle, h⟩ := exists_of_bind_eq_ok h
    cases h
    have hr₁ := sound_settle hr hsettle
    exact hr₁

theorem sound_takeWord {word : Bytes} (hr : r.line.Sound) (h : r.takeWord word = .ok r') :
    r'.line.Sound := by
  unfold takeWord at h
  split at h
  · cases h
    exact hr
  · exact sound_takeFolder hr h

/-- No argument makes the command line say what it cannot say. -/
theorem sound_take {argument : Bytes} (hr : r.line.Sound) (h : r.take argument = .ok r') :
    r'.line.Sound := by
  unfold take at h
  split at h
  · exact sound_takeFolder hr h
  · split at h
    · cases h
      exact hr
    · exact sound_takeLong hr h
    · exact sound_takeLetters hr h
    · exact sound_takeWord hr h

theorem sound_takeAll {arguments : List Bytes} (hr : r.line.Sound)
    (h : r.takeAll arguments = .ok r') : r'.line.Sound := by
  induction arguments generalizing r with
  | nil =>
    cases h
    exact hr
  | cons argument arguments ih =>
    obtain ⟨r₁, htake, h⟩ := exists_of_bind_eq_ok h
    exact ih (sound_take hr htake) h

end Reading

theorem sound_ofArguments {arguments : List Bytes} {c : CommandLine}
    (h : ofArguments arguments = .ok c) : c.Sound := by
  obtain ⟨r, htake, h⟩ := exists_of_bind_eq_ok h
  obtain ⟨r', hsettle, h⟩ := exists_of_bind_eq_ok h
  cases h
  exact Reading.sound_settle (Reading.sound_takeAll sound_empty htake) hsettle

/-! ## The command lines that are accepted -/

theorem expressible_iff (c : CommandLine) :
    c.Expressible ↔ c.Sound ∧ ¬ (c.quiet = true ∧ 0 < c.verbose) := by
  constructor
  · intro h
    refine ⟨⟨fun s => ?_, fun slot value hvalue => ?_⟩, h.notBoth⟩
    · cases s with
      | verbose => exact h.verbose_le
      | help => exact Nat.le_refl 0
      | version => exact Nat.le_refl 0
      | _ => exact Bool.toNat_le _
    · cases slot with
      | config => exact h.config_ne_nil value hvalue
      | wanted => exact h.wanted_valid value hvalue
      | folder => exact h.folder_ne_nil value hvalue
      | output =>
        obtain ⟨format, _, hname⟩ := Option.map_eq_some_iff.mp hvalue
        exact ⟨format, (ReportFormat.ofName?_eq_some_iff value format).mpr hname⟩
  · rintro ⟨hc, hnot⟩
    exact
      { notBoth := hnot
        verbose_le := hc.switches .verbose
        wanted_valid := hc.values .wanted
        config_ne_nil := hc.values .config
        folder_ne_nil := hc.values .folder }

/-- The command lines that are accepted are those that can be asked for. Each of them is read from
its wishes in any order with the folder behind them, and whatever is accepted can be asked for; so
none is both quiet and verbose. -/
theorem expresses_exactly :
    (∀ c : CommandLine, c.Expressible → ∀ arguments : List Bytes, arguments.Perm c.wishes →
      parse (arguments ++ c.folderArguments) none = .ok c) ∧
    ∀ (arguments : List Bytes) (c : CommandLine), parse arguments none = .ok c →
      c.Expressible := by
  constructor
  · intro c hc arguments hperm
    obtain ⟨hsound, hnot⟩ := (expressible_iff c).mp hc
    exact (parse_none_eq_ok_iff _ c).mpr ⟨ofArguments_wishes hsound hperm, hnot⟩
  · intro arguments c h
    obtain ⟨harguments, hnot⟩ := (parse_none_eq_ok_iff arguments c).mp h
    exact (expressible_iff c).mpr ⟨sound_ofArguments harguments, hnot⟩

/-- Values that look like options and words that end them, in an order of no meaning. -/
theorem expresses_awkward :
    let c : CommandLine := { empty with
      verbose := 2, config := some (utf8 "--help"), folder := some (utf8 "--")
      wanted := some (utf8 "-x=y z"), output := some .csv, sort := true }
    let arguments := [utf8 "--sort", utf8 "-v", utf8 "--output=csv", utf8 "--prefix=-x=y z",
      utf8 "-v", utf8 "--config=--help"]
    arguments.Perm c.wishes ∧
      parse (arguments ++ [utf8 "--", utf8 "--"]) none = .ok c ∧ c.Expressible := by
  intro c arguments
  have hperm : arguments.Perm c.wishes := by decide +kernel
  have hc : c.Expressible :=
    { notBoth := by decide +kernel
      verbose_le := by decide
      wanted_valid := by decide +kernel
      config_ne_nil := by decide +kernel
      folder_ne_nil := by decide +kernel }
  have hparse := expresses_exactly.1 c hc arguments hperm
  exact ⟨hperm, hparse, expresses_exactly.2 _ c hparse⟩

end TwinFiles.CommandLine
