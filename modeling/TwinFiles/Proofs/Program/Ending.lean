import TwinFiles.Program
import TwinFiles.Proofs.Run.Truncation
import TwinFiles.Proofs.Settings.Precedence
import TwinFiles.Proofs.Settings.ValueSpelling

/-!
# How the program ends

With an output that takes everything there are the ways to end that are meant (`EndsWell`): the
command line is refused or answered at once, the settings cannot be loaded, or the whole report is
written. In which words help, a refusal and a faulty configuration file are told is left open. What
lies in the folder decides nothing about how the program ends (`execute_of_ok`). One thing makes the
program end otherwise: a variable whose reading breaks off (`BreaksOff`).
-/

namespace TwinFiles

/-- Reading breaks off just if it does so in one of the variables for settings. -/
theorem Environment.isTorn_iff (env : Environment) :
    env.isTorn = true ↔
      ∃ entry ∈ env, (keyOf? entry.1).isSome ∧
        EnvironmentValue.Breaks .value (Utf8.chars entry.2) := by
  rw [isTorn, List.any_eq_true]
  simp only [Bool.and_eq_true, EnvironmentValue.isTorn_iff]

/-- Loading breaks off in the variables, once the file that was asked for is there. -/
theorem Settings.load_eq_torn_iff (v : View) (env : Environment) (asked : Option Path) :
    load v env asked = .error .torn ↔
      (∀ path ∈ asked, v.isFile path = true) ∧ env.isTorn = true := by
  by_cases hfile : ∀ path ∈ asked, v.isFile path = true
  · rw [load_eq hfile, and_iff_right hfile]
    cases env.isTorn with
    | true => simp
    | false =>
      cases fileLayer? v env asked with
      | none => simp
      | some layer => simp [mapError_eq_error_iff]
  · refine iff_of_false (fun h => ?_) fun h => hfile h.1
    cases asked with
    | none => exact hfile fun path hpath => nomatch hpath
    | some path =>
      have hmissing : v.isFile path = false := by
        rw [← Bool.not_eq_true]
        exact fun h => hfile fun _ hpath => Option.some.inj hpath ▸ h
      rw [load_missing hmissing] at h
      cases h

namespace Program

variable (w : Wording) (v : View) (env : Environment) (arguments : List Bytes) (terminal : Bool)
  (duration : Duration) (time : Instant)

/-- The ways to end that are meant, in the words of a wording. A command line that is not taken is
answered without a look at any file; settings that cannot be loaded leave the output empty; a scan
leaves all of its output. -/
inductive EndsWell : Outcome → Prop where
  | help : CommandLine.parse arguments (env.get? (utf8 "NO_COLOR")) = .error .displayHelp →
      EndsWell ⟨0, w.help, []⟩
  | version : CommandLine.parse arguments (env.get? (utf8 "NO_COLOR")) = .error .displayVersion →
      EndsWell ⟨0, CommandLine.versionText, []⟩
  | refused {e : UsageError} :
      CommandLine.parse arguments (env.get? (utf8 "NO_COLOR")) = .error e →
      e ≠ .displayHelp → e ≠ .displayVersion → EndsWell ⟨2, [], w.refusal e⟩
  | failed {c : CommandLine} {e : LoadError} {notes : Bytes} :
      CommandLine.parse arguments (env.get? (utf8 "NO_COLOR")) = .ok c →
      Settings.load v env c.config = .error e →
      EndsWell ⟨1, [], notes ++ errorText c ⟨.generalError, e.texts w.reading⟩⟩
  | reported {c : CommandLine} {s : Settings} {notes : Bytes} :
      CommandLine.parse arguments (env.get? (utf8 "NO_COLOR")) = .ok c →
      Settings.load v env c.config = .ok s →
      EndsWell ⟨0, Run.output v (effective s c terminal) duration time, notes⟩

/-- The command line is taken, and the file that it asks for is there, but a variable for a setting
cannot be read to its end. -/
def BreaksOff : Prop :=
  ∃ c, CommandLine.parse arguments (env.get? (utf8 "NO_COLOR")) = .ok c ∧
    (∀ path ∈ c.config, v.isFile path = true) ∧
    ∃ entry ∈ env, (Environment.keyOf? entry.1).isSome ∧
      EnvironmentValue.Breaks .value (Utf8.chars entry.2)

variable {w v env arguments terminal duration time}

theorem EndsWell.exit_le {o : Outcome} (h : EndsWell w v env arguments terminal duration time o) :
    o.exit ≤ 2 := by
  cases h <;> simp

theorem breaksOff_iff {c : CommandLine}
    (hparse : CommandLine.parse arguments (env.get? (utf8 "NO_COLOR")) = .ok c) :
    BreaksOff v env arguments ↔ Settings.load v env c.config = .error .torn := by
  rw [Settings.load_eq_torn_iff, Environment.isTorn_iff, BreaksOff, hparse]
  simp

theorem run_of_ok {c : CommandLine}
    (hparse : CommandLine.parse arguments (env.get? (utf8 "NO_COLOR")) = .ok c) :
    run w v env arguments terminal duration time .unlimited =
      execute w v env c terminal duration time .unlimited := by
  rw [run, hparse]

theorem endsWell_of_refused {e : UsageError}
    (hparse : CommandLine.parse arguments (env.get? (utf8 "NO_COLOR")) = .error e) :
    EndsWell w v env arguments terminal duration time
      (run w v env arguments terminal duration time .unlimited) := by
  rw [run, hparse]
  cases e with
  | displayHelp => exact .help hparse
  | displayVersion => exact .version hparse
  | _ => exact .refused hparse (fun h => nomatch h) fun h => nomatch h

/-! ## Command lines that are taken -/

section
variable {c : CommandLine} (terminal duration time)

theorem execute_of_torn (h : Settings.load v env c.config = .error .torn) :
    (execute w v env c terminal duration time .unlimited).exit = brokenOff ∧
      (execute w v env c terminal duration time .unlimited).output = [] := by
  rw [execute, h]
  exact ⟨rfl, rfl⟩

theorem execute_of_error {e : LoadError} (h : Settings.load v env c.config = .error e)
    (hwhole : e ≠ .torn) :
    ∃ notes, execute w v env c terminal duration time .unlimited =
      ⟨1, [], notes ++ errorText c ⟨.generalError, e.texts w.reading⟩⟩ := by
  rw [execute, h]
  cases e with
  | torn => exact absurd rfl hwhole
  | _ => exact ⟨_, rfl⟩

/-- Whatever the folder holds, all output of the scan arrives, and the program ends well. -/
theorem execute_of_ok {s : Settings} (h : Settings.load v env c.config = .ok s) :
    ∃ notes, execute w v env c terminal duration time .unlimited =
      ⟨0, Run.output v (effective s c terminal) duration time, notes⟩ := by
  have hresult : (Run.perform v (effective s c terminal) duration time .unlimited).result =
      .ok .success :=
    (Run.perform_succeeds_iff v _ duration time .unlimited).mpr (Room.fits_unlimited _)
  have hreceived :
      (Run.perform v (effective s c terminal) duration time .unlimited).sink.received =
        Run.output v (effective s c terminal) duration time :=
    Run.received_perform v _ duration time .unlimited
  simp only [execute, h, hresult, hreceived]
  exact ⟨_, rfl⟩

/-- The exit code tells how loading the settings ended, and nothing else. -/
theorem exit_execute :
    (execute w v env c terminal duration time .unlimited).exit =
      match Settings.load v env c.config with
      | .error .torn => brokenOff
      | .error _ => 1
      | .ok _ => 0 := by
  cases hload : Settings.load v env c.config with
  | ok s =>
    obtain ⟨notes, hend⟩ := execute_of_ok terminal duration time hload
    rw [hend]
  | error e =>
    by_cases hwhole : e = .torn
    · subst hwhole
      exact (execute_of_torn terminal duration time hload).1
    · obtain ⟨notes, hend⟩ := execute_of_error terminal duration time hload hwhole
      rw [hend]
      cases e with
      | torn => exact absurd rfl hwhole
      | _ => rfl

end

/-- The program ends in one of the ways that are meant unless a variable makes it break off; then its
output is empty and its exit code another one. How it ends depends on the files only as far as
loading the settings does: nothing about the folder can make it fail. -/
theorem ends_well_iff (w : Wording) (v : View) (env : Environment) (arguments : List Bytes)
    (terminal : Bool) (duration : Duration) (time : Instant) :
    let o := run w v env arguments terminal duration time .unlimited
    (EndsWell w v env arguments terminal duration time o ↔ ¬ BreaksOff v env arguments) ∧
      (BreaksOff v env arguments → o.exit = brokenOff ∧ o.output = []) ∧
      ∀ (w' : Wording) (v' : View),
        (∀ c, CommandLine.parse arguments (env.get? (utf8 "NO_COLOR")) = .ok c →
          Settings.load v' env c.config = Settings.load v env c.config) →
        (run w' v' env arguments terminal duration time .unlimited).exit = o.exit := by
  intro o
  have hbroken : BreaksOff v env arguments → o.exit = brokenOff ∧ o.output = [] := by
    intro h
    have ⟨c, hparse, _⟩ := h
    rw [show o = _ from run_of_ok hparse]
    exact execute_of_torn terminal duration time ((breaksOff_iff hparse).mp h)
  refine ⟨⟨?_, ?_⟩, hbroken, ?_⟩
  · -- a program that breaks off has an exit code of its own
    intro hwell hbreaks
    have hexit := hwell.exit_le
    rw [(hbroken hbreaks).1] at hexit
    exact absurd hexit (by decide)
  · intro hwhole
    cases hparse : CommandLine.parse arguments (env.get? (utf8 "NO_COLOR")) with
    | error e => exact endsWell_of_refused hparse
    | ok c =>
      rw [show o = _ from run_of_ok hparse]
      rw [breaksOff_iff hparse] at hwhole
      cases hload : Settings.load v env c.config with
      | error e =>
        rw [hload] at hwhole
        obtain ⟨notes, hend⟩ := execute_of_error terminal duration time hload
          fun h => hwhole (h ▸ rfl)
        rw [hend]
        exact .failed hparse hload
      | ok s =>
        obtain ⟨notes, hend⟩ := execute_of_ok terminal duration time hload
        rw [hend]
        exact .reported hparse hload
  · -- a command line that is refused looks at no file, another one only at those for the settings
    intro w' v' hsame
    cases hparse : CommandLine.parse arguments (env.get? (utf8 "NO_COLOR")) with
    | error e =>
      simp only [o, run, hparse]
      cases e <;> rfl
    | ok c =>
      rw [show o = _ from run_of_ok hparse, run_of_ok hparse, exit_execute, exit_execute,
        hsame c hparse]

/-- A folder with two files of one content. -/
def twinFolder : View where
  tree :=
    { items := [
        ([utf8 "output1"], .file .newFile (utf8 "same")),
        ([utf8 "output2"], .file .newFile (utf8 "same"))]
      nodup := by decide +kernel }
  home := []
  privileged := false
  account := none

/-- A prefix in quotes, with an escape behind a letter of two bytes. -/
def accented : Environment :=
  [(utf8 "PREFIXDUPE_PREFIX", utf8 "\"\u00e9\\n\"")]

/-- A folder that is scanned, with and without a variable that breaks the program off. -/
theorem ends_well_in_twinFolder :
    let time : Instant := ⟨0, 0⟩
    let duration : Duration := ⟨0, 0⟩
    EndsWell .brief twinFolder [] [] false duration time
        (run .brief twinFolder [] [] false duration time .unlimited) ∧
      (run .brief ⟨.empty, [], false, none⟩ [] [] false duration time .unlimited).exit =
        (run .brief twinFolder [] [] false duration time .unlimited).exit ∧
      BreaksOff twinFolder accented [] ∧
      (run .brief twinFolder accented [] false duration time .unlimited).exit = brokenOff := by
  intro time duration
  have hwhole : ¬ BreaksOff twinFolder [] [] := by
    rintro ⟨_, _, _, _, hentry, _⟩
    exact absurd hentry List.not_mem_nil
  have hsame : ∀ c, CommandLine.parse [] none = .ok c →
      Settings.load ⟨.empty, [], false, none⟩ [] c.config =
        Settings.load twinFolder [] c.config := by
    intro c hparse
    cases hparse
    rfl
  have hbreaks : BreaksOff twinFolder accented [] :=
    (breaksOff_iff (c := .empty) rfl).mpr (by rfl)
  have hends := ends_well_iff .brief twinFolder [] [] false duration time
  have hends' := ends_well_iff .brief twinFolder accented [] false duration time
  exact ⟨hends.1.mpr hwhole, hends.2.2 .brief _ hsame, hbreaks, (hends'.2.1 hbreaks).1⟩

/-- A start that breaks off ends in none of the ways that are meant, whatever the words. -/
theorem accented_prefix_breaks_off :
    ∃ (v : View) (env : Environment) (arguments : List Bytes) (terminal : Bool)
      (duration : Duration) (time : Instant), ∀ w : Wording,
      ¬ EndsWell w v env arguments terminal duration time
        (run w v env arguments terminal duration time .unlimited) := by
  refine ⟨twinFolder, accented, [], false, ⟨0, 0⟩, ⟨0, 0⟩, fun w hwell => ?_⟩
  have hexit : (run w twinFolder accented [] false ⟨0, 0⟩ ⟨0, 0⟩ .unlimited).exit = 101 := by rfl
  have hle := hwell.exit_le
  rw [hexit] at hle
  exact absurd hle (by decide)

end Program

end TwinFiles
