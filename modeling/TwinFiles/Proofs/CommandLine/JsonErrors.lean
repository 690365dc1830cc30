import TwinFiles.Proofs.CommandLine.Expression

/-!
# The switch for JSON errors

A command line with the switch is accepted just if it is accepted without it, and is the same but
for the switch (`parse_insert_jsonErrors_iff`), wherever the switch stands: it may not come where a
value is waited for, nor behind a double dash. For no step of a reading looks at the switch but the
one that turns it on (`KeepsMark`), and what is settled before the switch would be settled after it
anyway (`takeAll_settled`).
-/

namespace TwinFiles.CommandLine

/-- The same command line, with errors to be told as JSON. -/
@[reducible]
def withJsonErrors (c : CommandLine) : CommandLine :=
  { c with jsonErrors := true }

/-- The argument for the switch. -/
def jsonErrorsArgument : Bytes :=
  utf8 "--json-errors"

/-! ## Steps that are blind to the switch -/

/-- A step that neither looks at the switch nor touches it. -/
structure Blind (step : CommandLine → Except UsageError CommandLine) : Prop where
  map : ∀ c, step c.withJsonErrors = (step c).map withJsonErrors
  keeps : ∀ c c', step c = .ok c' → c'.jsonErrors = c.jsonErrors

theorem Blind.bind {first later : CommandLine → Except UsageError CommandLine}
    (hfirst : Blind first) (hlater : Blind later) : Blind fun c => (first c).bind later where
  map c := by
    rw [hfirst.map]
    cases first c with
    | error e => rfl
    | ok c₁ => exact hlater.map c₁
  keeps c c' h := by
    obtain ⟨c₁, h₁, h⟩ := exists_of_bind_eq_ok h
    exact (hlater.keeps c₁ c' h).trans (hfirst.keeps c c₁ h₁)

theorem blind_turnOn {s : Switch} (hother : s ≠ .jsonErrors) : Blind fun c => c.turnOn s where
  map c := by
    cases s with
    | verbose => rfl
    | help => rfl
    | version => rfl
    | jsonErrors => exact absurd rfl hother
    | _ =>
      simp only [turnOn]
      split_ifs <;> rfl
  keeps c c' h := by
    cases s with
    | verbose =>
      cases h
      rfl
    | help => cases h
    | version => cases h
    | jsonErrors => exact absurd rfl hother
    | _ =>
      simp only [turnOn] at h
      split at h
      · cases h
      · cases h
        rfl

theorem blind_assign (value : Bytes) (slot : Slot) : Blind fun c => c.assign value slot where
  map c := by
    cases slot with
    | output =>
      simp only [assign]
      cases ReportFormat.ofName? value <;> split_ifs <;> rfl
    | _ =>
      simp only [assign]
      split_ifs <;> rfl
  keeps c c' h := by
    -- whatever the slot, what was there and the value are looked at, in this order
    cases slot
    all_goals
      simp only [assign] at h
      split at h
      · cases h
      · split at h <;> cases h
        rfl

theorem blind_withEnvironment (wish : Option Bytes) : Blind fun c => c.withEnvironment wish where
  map c := by
    cases wish with
    | none => rfl
    | some wish =>
      simp only [withEnvironment, withJsonErrors]
      split_ifs <;> rfl
  keeps c c' h := by
    cases wish with
    | none =>
      cases h
      rfl
    | some wish =>
      rw [withEnvironment_some] at h
      split at h <;> cases h
      rfl

theorem blind_checkConflicts : Blind checkConflicts where
  map c := by
    simp only [checkConflicts, withJsonErrors]
    split_ifs <;> rfl
  keeps c c' h := by
    rw [((checkConflicts_eq_ok_iff c c').mp h).1]

namespace Reading

variable {r r₁ : Reading}

/-! ## Steps with the switch on -/

/-- The same reading with the switch on. -/
def marked (r : Reading) : Reading :=
  { r with line := r.line.withJsonErrors }

/-- What a step leads to with the switch off, and with the switch on: the same but for the switch,
as long as the step does not turn it on. No step turns it off. -/
structure Alike (before : CommandLine) (plain marked : Except UsageError Reading) : Prop where
  off : ∀ r, plain = .ok r → r.line.jsonErrors = false → before.jsonErrors = false
  ok_iff : before.jsonErrors = false → ∀ q, marked = .ok q ↔
    ∃ r, plain = .ok r ∧ r.line.jsonErrors = false ∧ r.marked = q

/-- A step that does not look at the switch, unless to turn it on. -/
def KeepsMark (step : Reading → Except UsageError Reading) : Prop :=
  ∀ r, Alike r.line (step r) (step r.marked)

theorem alike_error (before : CommandLine) (e : UsageError) :
    Alike before (.error e) (.error e) where
  off _ h := by cases h
  ok_iff _ q := by
    constructor
    · intro h
      cases h
    · rintro ⟨_, h, _⟩
      cases h

theorem alike_ok (r : Reading) : Alike r.line (.ok r) (.ok r.marked) where
  off r' h hoff := by
    cases h
    exact hoff
  ok_iff hoff q := by
    constructor
    · intro h
      cases h
      exact ⟨r, rfl, hoff, rfl⟩
    · rintro ⟨_, h, _, rfl⟩
      cases h
      rfl

theorem KeepsMark.bind {first later : Reading → Except UsageError Reading}
    (hfirst : KeepsMark first) (hlater : KeepsMark later) :
    KeepsMark fun r => first r >>= later := by
  intro r
  constructor
  · intro r' h hoff
    obtain ⟨r₁, h₁, h⟩ := exists_of_bind_eq_ok h
    exact (hfirst r).off r₁ h₁ ((hlater r₁).off r' h hoff)
  · intro hoff q
    constructor
    · intro h
      obtain ⟨q₁, h₁, h⟩ := exists_of_bind_eq_ok h
      obtain ⟨r₁, hr₁, hoff₁, rfl⟩ := ((hfirst r).ok_iff hoff q₁).mp h₁
      obtain ⟨r', hr', hoff', rfl⟩ := ((hlater r₁).ok_iff hoff₁ q).mp h
      refine ⟨r', ?_, hoff', rfl⟩
      show (first r >>= later) = _
      rw [hr₁]
      exact hr'
    · rintro ⟨r', h, hoff', rfl⟩
      obtain ⟨r₁, hr₁, h⟩ := exists_of_bind_eq_ok h
      have hoff₁ := (hlater r₁).off r' h hoff'
      have hq₁ := ((hfirst r).ok_iff hoff _).mpr ⟨r₁, hr₁, hoff₁, rfl⟩
      show (first r.marked >>= later) = _
      rw [hq₁]
      exact ((hlater r₁).ok_iff hoff₁ _).mpr ⟨r', h, hoff', rfl⟩

/-- A step of the command line that is blind to the switch. -/
theorem alike_line {step : CommandLine → Except UsageError CommandLine} (hstep : Blind step)
    (r : Reading) :
    Alike r.line
      (do
        let line ← step r.line
        return { r with line := line })
      (do
        let line ← step r.marked.line
        return { r with line := line }) := by
  rw [show step r.marked.line = _ from hstep.map r.line]
  cases h : step r.line with
  | error e => exact alike_error _ e
  | ok line =>
    have halike := alike_ok { r with line := line }
    exact ⟨fun r' h' hoff => (hstep.keeps _ _ h).symm.trans (halike.off r' h' hoff),
      fun hoff => halike.ok_iff ((hstep.keeps _ _ h).trans hoff)⟩

theorem keepsMark_turnOn (s : Switch) :
    KeepsMark fun r => do
      let line ← r.line.turnOn s
      return { r with line := line } := by
  intro r
  by_cases hswitch : s = .jsonErrors
  · subst hswitch
    constructor
    · intro r' h hoff
      obtain ⟨line, hline, h⟩ := exists_of_bind_eq_ok h
      cases h
      simp only [turnOn] at hline
      split at hline <;> cases hline
      cases hoff
    · intro hoff q
      constructor
      · intro h
        cases h
      · rintro ⟨r', h, hoff', rfl⟩
        obtain ⟨line, hline, h⟩ := exists_of_bind_eq_ok h
        cases h
        simp only [turnOn] at hline
        split at hline <;> cases hline
        cases hoff'
  · exact alike_line (blind_turnOn hswitch) r

theorem keepsMark_assign (slot : Slot) (value : Bytes) :
    KeepsMark fun r => do
      let line ← r.line.assign value slot
      return { r with line := line } :=
  alike_line (blind_assign value slot)

theorem keepsMark_settle : KeepsMark settle := by
  intro r
  unfold settle
  rw [show r.marked.pending = r.pending from rfl]
  cases r.pending with
  | none => exact alike_ok r
  | some p =>
    obtain ⟨slot, value⟩ := p
    cases value with
    | none => exact alike_error _ _
    | some value => exact alike_line (blind_assign value slot) { r with pending := none }

theorem keepsMark_takeSwitch (s : Switch) : KeepsMark fun r => r.takeSwitch s :=
  keepsMark_settle.bind (keepsMark_turnOn s)

theorem keepsMark_takeOption (slot : Slot) (value : Bytes) :
    KeepsMark fun r => r.takeOption slot value :=
  keepsMark_settle.bind (keepsMark_assign slot value)

theorem keepsMark_awaitValue (slot : Slot) : KeepsMark fun r => r.awaitValue slot :=
  keepsMark_settle.bind fun r => alike_ok { r with pending := some ⟨slot, none⟩ }

theorem keepsMark_takeLong (text : Bytes) : KeepsMark fun r => r.takeLong text := by
  intro r
  simp only [takeLong]
  split
  · exact alike_error _ _
  · exact alike_error _ _
  · exact keepsMark_takeSwitch _ r
  · exact keepsMark_takeOption _ _ r
  · exact keepsMark_awaitValue _ r

theorem keepsMark_takeLetters (text : Bytes) : KeepsMark fun r => r.takeLetters text := by
  induction text with
  | nil => exact alike_ok
  | cons letter rest ih =>
    intro r
    simp only [takeLetters]
    split
    · exact alike_error _ _
    · exact (keepsMark_takeSwitch _).bind ih r
    · split
      · exact keepsMark_awaitValue _ r
      · exact keepsMark_takeOption _ _ r
      · exact keepsMark_takeOption _ _ r

theorem keepsMark_takeFolder (value : Bytes) : KeepsMark fun r => r.takeFolder value := by
  intro r
  simp only [takeFolder]
  rw [show r.marked.hasFolder = r.hasFolder from rfl]
  split_ifs
  · exact alike_error _ _
  · exact keepsMark_settle.bind
      (fun r => alike_ok { r with pending := some ⟨.folder, some value⟩, hasFolder := true }) r

theorem keepsMark_takeWord (word : Bytes) : KeepsMark fun r => r.takeWord word := by
  intro r
  simp only [takeWord]
  rw [show r.marked.pending = r.pending from rfl]
  split
  · next slot _ => exact alike_ok { r with pending := some ⟨slot, some word⟩ }
  · exact keepsMark_takeFolder word r

theorem keepsMark_take (argument : Bytes) : KeepsMark fun r => r.take argument := by
  intro r
  simp only [take]
  rw [show r.marked.trailing = r.trailing from rfl]
  split_ifs
  · exact keepsMark_takeFolder argument r
  · split
    · exact alike_ok { r with trailing := true }
    · exact keepsMark_takeLong _ r
    · exact keepsMark_takeLetters _ r
    · exact keepsMark_takeWord _ r

theorem keepsMark_takeAll (arguments : List Bytes) : KeepsMark fun r => r.takeAll arguments := by
  induction arguments with
  | nil => exact alike_ok
  | cons argument arguments ih => exact (keepsMark_take argument).bind ih

/-! ## Settling early -/

/-- Nothing waits in a reading that has been settled. -/
theorem pending_of_settle (h : r.settle = .ok r₁) : r₁.pending = none := by
  unfold settle at h
  split at h
  · next hnone =>
    cases h
    exact hnone
  · cases h
  · obtain ⟨line, _, h⟩ := exists_of_bind_eq_ok h
    cases h
    rfl

theorem settle_settled (h : r.settle = .ok r₁) : r₁.settle = .ok r₁ := by
  rw [settle, pending_of_settle h]

/-- Settling leaves alone whether the folder or a double dash has come. -/
theorem flags_of_settle (h : r.settle = .ok r₁) :
    r₁.hasFolder = r.hasFolder ∧ r₁.trailing = r.trailing := by
  unfold settle at h
  split at h
  · cases h
    exact ⟨rfl, rfl⟩
  · cases h
  · obtain ⟨line, _, h⟩ := exists_of_bind_eq_ok h
    cases h
    exact ⟨rfl, rfl⟩

/-- What comes behind settling is the same if that has been done already. -/
theorem bind_settled (h : r.settle = .ok r₁) (later : Reading → Except UsageError Reading) :
    r₁.settle >>= later = r.settle >>= later := by
  rw [settle_settled h, h]

theorem takeFolder_settled (h : r.settle = .ok r₁) (value : Bytes) :
    r₁.takeFolder value = r.takeFolder value := by
  rw [takeFolder, takeFolder, (flags_of_settle h).1]
  split
  · rfl
  · exact bind_settled h _

theorem takeLong_settled (h : r.settle = .ok r₁) (text : Bytes) :
    r₁.takeLong text = r.takeLong text := by
  simp only [takeLong]
  split
  · rfl
  · rfl
  · exact bind_settled h _
  · exact bind_settled h _
  · exact bind_settled h _

theorem takeLetters_settled (h : r.settle = .ok r₁) (letter : UInt8) (rest : Bytes) :
    r₁.takeLetters (letter :: rest) = r.takeLetters (letter :: rest) := by
  have hswitch (s : Switch) : r₁.takeSwitch s = r.takeSwitch s := bind_settled h _
  simp only [takeLetters]
  split
  · rfl
  · rw [hswitch]
  · split
    · exact bind_settled h _
    · exact bind_settled h _
    · exact bind_settled h _

theorem takeWord_settled (h : r.settle = .ok r₁) (word : Bytes) :
    r₁.takeWord word = r.takeWord word := by
  have hfolder (q : Reading) (hq : ∀ slot, q.pending ≠ some ⟨slot, none⟩) :
      q.takeWord word = q.takeFolder word := by
    rw [takeWord]
    split
    · next slot hwaits => exact absurd hwaits (hq slot)
    · rfl
  have hwaits : ∀ slot, r.pending ≠ some ⟨slot, none⟩ := by
    intro slot hpending
    rw [settle, hpending] at h
    cases h
  have hnone : ∀ slot, r₁.pending ≠ some ⟨slot, none⟩ := by
    intro slot hpending
    rw [pending_of_settle h] at hpending
    cases hpending
  rw [hfolder r₁ hnone, hfolder r hwaits, takeFolder_settled h]

/-- A double dash changes nothing about what waits. -/
theorem settle_trailing (h : r.settle = .ok r₁) :
    ({ r with trailing := true } : Reading).settle = .ok { r₁ with trailing := true } := by
  unfold settle at h
  split at h
  · next hnone =>
    cases h
    rw [settle, hnone]
  · cases h
  · next slot value hsome =>
    obtain ⟨line, hline, h⟩ := exists_of_bind_eq_ok h
    cases h
    rw [settle, hsome]
    show (r.line.assign value slot >>= _) = _
    rw [hline]
    rfl

/-- The next argument is taken alike, settled or not, but that a double dash settles nothing. -/
theorem take_settled (h : r.settle = .ok r₁) (argument : Bytes) :
    r₁.take argument = r.take argument ∨
      ∃ r' r₁', r.take argument = .ok r' ∧ r₁.take argument = .ok r₁' ∧ r'.settle = .ok r₁' := by
  simp only [take, (flags_of_settle h).2]
  split_ifs
  · exact .inl (takeFolder_settled h argument)
  · split
    · exact .inr ⟨_, _, rfl, rfl, settle_trailing h⟩
    · exact .inl (takeLong_settled h _)
    · exact .inl (takeLetters_settled h _ _)
    · exact .inl (takeWord_settled h _)

/-- Arguments are taken to the same end if what waits in front of them is settled early. -/
theorem takeAll_settled (h : r.settle = .ok r₁) (arguments : List Bytes) :
    r₁.takeAll arguments >>= settle = r.takeAll arguments >>= settle := by
  induction arguments generalizing r r₁ with
  | nil =>
    show r₁.settle = r.settle
    rw [settle_settled h, h]
  | cons argument arguments ih =>
    rw [takeAll, takeAll, bind_assoc, bind_assoc]
    rcases take_settled h argument with hsame | ⟨r', r₁', htake, htake₁, hsettle⟩
    · rw [hsame]
    · rw [htake, htake₁]
      exact ih hsettle

/-- Arguments are taken one part after the other. -/
theorem ofArguments_append {front back : List Bytes} (h : start.takeAll front = .ok r) :
    ofArguments (front ++ back) = (r.takeAll back >>= settle).map line := by
  rw [ofArguments, takeAll_append, h]
  show r.takeAll back >>= _ = _
  cases r.takeAll back with
  | error e => rfl
  | ok r' =>
    show r'.settle >>= _ = r'.settle.map line
    cases r'.settle <;> rfl

/-- The switch settles what waits in front of it, and may come once. -/
theorem take_jsonErrors (h : r.settle = .ok r₁) (htrailing : r.trailing = false) :
    r.take jsonErrorsArgument =
      if r₁.line.jsonErrors then .error .argumentConflict else .ok r₁.marked := by
  show (if r.trailing = true then _ else r.takeSwitch .jsonErrors) = _
  rw [htrailing, takeSwitch, h]
  show (r₁.line.turnOn .jsonErrors >>= _) = _
  rw [turnOn]
  split <;> rfl

end Reading

/-! ## The switch on a command line -/

/-- Behind these arguments a switch can stand: none of them waits for a value, and none is a double
dash. -/
def Complete (front : List Bytes) : Prop :=
  ∃ r r₁, Reading.start.takeAll front = .ok r ∧ r.settle = .ok r₁ ∧ r.trailing = false

theorem complete_nil : Complete [] :=
  ⟨.start, .start, rfl, rfl, rfl⟩

variable {front back : List Bytes} {d : CommandLine}

theorem ofArguments_insert_jsonErrors_iff (hfront : Complete front) :
    ofArguments (front ++ jsonErrorsArgument :: back) = .ok d ↔
      ∃ c, ofArguments (front ++ back) = .ok c ∧ c.jsonErrors = false ∧ c.withJsonErrors = d := by
  obtain ⟨r, r₁, htake, hsettle, htrailing⟩ := hfront
  have hplain : ofArguments (front ++ back) =
      (r₁.takeAll back >>= Reading.settle).map Reading.line := by
    rw [Reading.takeAll_settled hsettle, Reading.ofArguments_append htake]
  have hmarked : ofArguments (front ++ jsonErrorsArgument :: back) =
      (if r₁.line.jsonErrors then .error .argumentConflict
        else r₁.marked.takeAll back >>= Reading.settle).map Reading.line := by
    rw [Reading.ofArguments_append htake, Reading.takeAll,
      Reading.take_jsonErrors hsettle htrailing]
    split <;> rfl
  have halike : Reading.Alike r₁.line (r₁.takeAll back >>= Reading.settle)
      (r₁.marked.takeAll back >>= Reading.settle) :=
    ((Reading.keepsMark_takeAll back).bind Reading.keepsMark_settle) r₁
  rw [hplain, hmarked, map_eq_ok_iff]
  simp only [map_eq_ok_iff]
  constructor
  · rintro ⟨q, h, rfl⟩
    split at h
    · cases h
    · next hoff =>
      obtain ⟨r', hr', hoff', rfl⟩ := (halike.ok_iff (Bool.not_eq_true _ ▸ hoff) q).mp h
      exact ⟨r'.line, ⟨r', hr', rfl⟩, hoff', rfl⟩
  · rintro ⟨_, ⟨r', hr', rfl⟩, hoff', rfl⟩
    -- the switch has not come before: it would not have gone off again
    have hoff := halike.off r' hr' hoff'
    refine ⟨r'.marked, ?_, rfl⟩
    rw [hoff, if_neg (by decide)]
    exact (halike.ok_iff hoff _).mpr ⟨r', hr', hoff', rfl⟩

/-- A command line with the switch is accepted just if it is accepted without it, and then the
switch turns JSON errors on and does nothing else. -/
theorem parse_insert_jsonErrors_iff (hfront : Complete front) {wish : Option Bytes} :
    parse (front ++ jsonErrorsArgument :: back) wish = .ok d ↔
      ∃ c, parse (front ++ back) wish = .ok c ∧ c.jsonErrors = false ∧ c.withJsonErrors = d := by
  have hblind := (blind_withEnvironment wish).bind blind_checkConflicts
  rw [parse_eq, parse_eq]
  constructor
  · intro h
    obtain ⟨d₁, hd₁, h⟩ := exists_of_bind_eq_ok h
    obtain ⟨c₁, hc₁, hoff, rfl⟩ := (ofArguments_insert_jsonErrors_iff hfront).mp hd₁
    obtain ⟨c, hc, rfl⟩ := map_eq_ok_iff.mp ((hblind.map c₁).symm.trans h)
    refine ⟨c, ?_, (hblind.keeps c₁ c hc).trans hoff, rfl⟩
    rw [hc₁]
    exact hc
  · rintro ⟨c, h, hoff, rfl⟩
    obtain ⟨c₁, hc₁, h⟩ := exists_of_bind_eq_ok h
    have hoff₁ := (hblind.keeps c₁ c h).symm.trans hoff
    rw [(ofArguments_insert_jsonErrors_iff hfront).mpr ⟨c₁, hc₁, hoff₁, rfl⟩]
    exact (hblind.map c₁).trans (map_eq_ok_iff.mpr ⟨c, h, rfl⟩)

end TwinFiles.CommandLine
