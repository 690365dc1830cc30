import TwinFiles.CommandLine.Basic

/-!
# Wishes on a command line

All switches behave alike, and so do all options. A switch is turned on up to a limit (`times`,
`Switch.limit`), an option has a value or none (`value?`, `Slot.Takes`), and a command line is what
its switches and options say (`ext_of_says`). Granting a wish changes what the command line says
about it and nothing else (`turnOn_says`, `assign_says`), and it is granted as long as there is room
for it (`exists_turnOn`, `exists_assign`).
-/

namespace TwinFiles

theorem ReportFormat.ofName?_eq_some_iff (s : Bytes) (f : ReportFormat) :
    ofName? s = some f ↔ f.name = s := by
  constructor
  · intro h
    have hname := List.find?_some h
    exact beq_iff_eq.mp hname
  · rintro rfl
    cases f <;> decide +kernel

theorem ReportFormat.name_injective {f g : ReportFormat} (h : f.name = g.name) : f = g := by
  have hf := (ofName?_eq_some_iff g.name f).mpr h
  have hg := (ofName?_eq_some_iff g.name g).mpr rfl
  rw [hg] at hf
  exact (Option.some.inj hf).symm

namespace CommandLine

/-- How often a switch is on. -/
def times (c : CommandLine) : Switch → Nat
  | .verbose => c.verbose
  | .quiet => c.quiet.toNat
  | .noColor => c.noColor.toNat
  | .jsonErrors => c.jsonErrors.toNat
  | .sort => c.sort.toNat
  | .noFollowSymlinks => c.noFollowSymlinks.toNat
  | .help => 0
  | .version => 0

/-- How often a switch can be on. -/
def Switch.limit : Switch → Nat
  | .verbose => 255
  | .help => 0
  | .version => 0
  | _ => 1

/-- The value of an option, as it is spelled. -/
def value? (c : CommandLine) : Slot → Option Bytes
  | .config => c.config
  | .wanted => c.wanted
  | .output => c.output.map ReportFormat.name
  | .folder => c.folder

/-- The values that an option can have. -/
def Slot.Takes : Slot → Bytes → Prop
  | .config, value => value ≠ []
  | .wanted, value => Utf8.valid value = true
  | .output, value => ∃ format, ReportFormat.ofName? value = some format
  | .folder, value => value ≠ []

variable {c c' : CommandLine}

/-- Command lines that say the same are the same. -/
theorem ext_of_says (hswitches : ∀ s, c.times s = c'.times s)
    (hvalues : ∀ slot, c.value? slot = c'.value? slot) : c = c' := by
  have hbool : ∀ {a b : Bool}, a.toNat = b.toNat → a = b := by decide
  have houtput : c.output = c'.output :=
    Option.map_injective (fun _ _ => ReportFormat.name_injective) (hvalues .output)
  cases c
  cases c'
  simp only [mk.injEq]
  exact ⟨hswitches .verbose, hbool (hswitches .quiet), hbool (hswitches .noColor),
    hbool (hswitches .jsonErrors), hvalues .config, hvalues .folder, hvalues .wanted, houtput,
    hbool (hswitches .sort), hbool (hswitches .noFollowSymlinks)⟩

/-! ## What can be said -/

/-- Switches are on as often as they can be, and options have values that they can have. -/
structure Sound (c : CommandLine) : Prop where
  switches : ∀ s, c.times s ≤ s.limit
  values : ∀ slot, ∀ value ∈ c.value? slot, slot.Takes value

theorem sound_empty : empty.Sound := by
  constructor
  · intro s
    cases s <;> simp [times, empty]
  · intro slot value hvalue
    cases slot <;> simp [value?, empty] at hvalue

/-! ## Switches -/

/-- Turning a switch on counts it once more, up to its limit, and changes nothing else. -/
theorem turnOn_says {s : Switch} (h : c.turnOn s = .ok c') :
    (∀ s', c'.times s' = if s' = s then min (c.times s + 1) s.limit else c.times s') ∧
      ∀ slot, c'.value? slot = c.value? slot := by
  cases s with
  | verbose =>
    cases h
    exact ⟨fun s' => by cases s' <;> simp [times, Switch.limit], fun slot => rfl⟩
  | help => cases h
  | version => cases h
  | _ =>
    -- the other switches can be turned on if they are off
    simp only [turnOn] at h
    split at h
    · cases h
    · next hoff =>
      cases h
      refine ⟨fun s' => ?_, fun slot => by cases slot <;> rfl⟩
      cases s' <;> simp_all [times, Switch.limit]

/-- A switch can be turned on below its limit. -/
theorem exists_turnOn {s : Switch} (h : c.times s < s.limit) : ∃ c', c.turnOn s = .ok c' := by
  cases s with
  | verbose => exact ⟨_, rfl⟩
  | help => simp [Switch.limit] at h
  | version => simp [Switch.limit] at h
  | _ =>
    refine ⟨_, if_neg ?_⟩
    intro hon
    simp [times, Switch.limit, hon] at h

theorem Sound.turnOn {s : Switch} (hc : c.Sound) (h : c.turnOn s = .ok c') : c'.Sound := by
  obtain ⟨htimes, hvalues⟩ := turnOn_says h
  constructor
  · intro s'
    rw [htimes]
    split
    · next hs =>
      rw [hs]
      exact Nat.min_le_right _ _
    · exact hc.switches s'
  · intro slot value hvalue
    rw [hvalues] at hvalue
    exact hc.values slot value hvalue

/-! ## Options -/

/-- An option that is given a value has this value, and nothing else changes. -/
theorem assign_says {slot : Slot} {value : Bytes} (h : c.assign value slot = .ok c') :
    slot.Takes value ∧
      (∀ slot', c'.value? slot' = if slot' = slot then some value else c.value? slot') ∧
      ∀ s, c'.times s = c.times s := by
  cases slot with
  | output =>
    simp only [assign] at h
    split at h
    · cases h
    · split at h
      · next format hformat =>
        cases h
        have hname := (ReportFormat.ofName?_eq_some_iff value format).mp hformat
        refine ⟨⟨format, hformat⟩, fun slot' => ?_, fun s => by cases s <;> rfl⟩
        cases slot' <;> simp [value?, hname]
      · cases h
  | wanted =>
    simp only [assign] at h
    split at h
    · cases h
    · split at h
      · next hvalid =>
        cases h
        exact ⟨hvalid, fun slot' => by cases slot' <;> simp [value?],
          fun s => by cases s <;> rfl⟩
      · cases h
  | _ =>
    simp only [assign] at h
    split at h
    · cases h
    · split at h
      · cases h
      · next hempty =>
        cases h
        refine ⟨?_, fun slot' => by cases slot' <;> simp [value?],
          fun s => by cases s <;> rfl⟩
        rintro rfl
        exact hempty rfl

/-- An option without a value takes each value that it can have. -/
theorem exists_assign {slot : Slot} {value : Bytes} (hfree : c.value? slot = none)
    (htakes : slot.Takes value) : ∃ c', c.assign value slot = .ok c' := by
  cases slot with
  | output =>
    obtain ⟨format, hformat⟩ := htakes
    have hnone : c.output = none := Option.map_eq_none_iff.mp hfree
    simp [assign, hnone, hformat]
  | wanted =>
    have hnone : c.wanted = none := hfree
    have hvalid : Utf8.valid value = true := htakes
    simp [assign, hnone, hvalid]
  | config =>
    have hnone : c.config = none := hfree
    have hne : value ≠ [] := htakes
    simp [assign, hnone, hne]
  | folder =>
    have hnone : c.folder = none := hfree
    have hne : value ≠ [] := htakes
    simp [assign, hnone, hne]

theorem Sound.assign {slot : Slot} {value : Bytes} (hc : c.Sound)
    (h : c.assign value slot = .ok c') : c'.Sound := by
  obtain ⟨htakes, hvalues, htimes⟩ := assign_says h
  constructor
  · intro s
    rw [htimes]
    exact hc.switches s
  · intro slot' value' hvalue
    rw [hvalues] at hvalue
    split at hvalue
    · next hslot =>
      cases hvalue
      rw [hslot]
      exact htakes
    · exact hc.values slot' value' hvalue

end CommandLine

end TwinFiles
