import TwinFiles.CommandLine.Parser

/-!
# The wish for plain text from the environment

The environment comes in once the arguments have been read (`parse_eq`), and all that it can change
about a command line is the color. But it can refuse the command line, too: the wish has to be
spelled `true` or `false` unless the arguments express it (`starts_iff_wish_known`), so that of the
values that mean "no color" elsewhere most keep the program from starting (`wish_one_refused`).
-/

namespace TwinFiles.CommandLine

/-- What the arguments ask for, whatever the environment holds. -/
def ofArguments (arguments : List Bytes) : Except UsageError CommandLine := do
  let r ← Reading.start.takeAll arguments
  let r ← r.settle
  return r.line

/-- The environment and the conflicts come behind the arguments. -/
theorem parse_eq (arguments : List Bytes) (wish : Option Bytes) :
    parse arguments wish =
      (ofArguments arguments).bind fun c => (c.withEnvironment wish).bind checkConflicts := by
  unfold parse ofArguments
  cases Reading.start.takeAll arguments with
  | error e => rfl
  | ok r =>
    show (r.settle >>= _) = _
    cases hsettle : r.settle with
    | error e => simp [bind, Except.bind, hsettle]
    | ok r => simp [bind, Except.bind, hsettle, pure, Except.pure]

theorem checkConflicts_eq_ok_iff (c c' : CommandLine) :
    c.checkConflicts = .ok c' ↔ c = c' ∧ ¬ (c.quiet = true ∧ 0 < c.verbose) := by
  rw [checkConflicts]
  split
  · next hboth => exact iff_of_false (fun h => nomatch h) fun h => h.2 hboth
  · next hnot => simp [hnot]

/-- Without a wish in the environment the arguments say it all. -/
theorem parse_none_eq_ok_iff (arguments : List Bytes) (c : CommandLine) :
    parse arguments none = .ok c ↔
      ofArguments arguments = .ok c ∧ ¬ (c.quiet = true ∧ 0 < c.verbose) := by
  rw [parse_eq]
  cases ofArguments arguments with
  | error e => exact iff_of_false (fun h => nomatch h) fun h => nomatch h.1
  | ok c₀ =>
    show c₀.checkConflicts = .ok c ↔ _
    rw [checkConflicts_eq_ok_iff, Except.ok.injEq]
    constructor
    · rintro ⟨rfl, hnot⟩
      exact ⟨rfl, hnot⟩
    · rintro ⟨rfl, hnot⟩
      exact ⟨rfl, hnot⟩

/-- A wish that is known: the arguments express it already, or it is spelled in one of two ways. -/
def WishKnown (c : CommandLine) (wish : Bytes) : Prop :=
  c.noColor = true ∨ wish = utf8 "true" ∨ wish = utf8 "false"

instance (c : CommandLine) (wish : Bytes) : Decidable (c.WishKnown wish) :=
  inferInstanceAs (Decidable (_ ∨ _ ∨ _))

/-- A command line with a wish from the environment: color may be switched off, never on. -/
def wishing (c : CommandLine) (wish : Bytes) : CommandLine :=
  { c with noColor := c.noColor || wish == utf8 "true" }

/-- The environment's wish is taken if it is known. -/
theorem withEnvironment_some (c : CommandLine) (wish : Bytes) :
    c.withEnvironment (some wish) =
      if c.WishKnown wish then .ok (c.wishing wish) else .error .invalidValue := by
  have hne : utf8 "false" ≠ utf8 "true" := by decide +kernel
  unfold withEnvironment WishKnown wishing
  cases c with
  | mk verbose quiet noColor =>
    cases noColor with
    | true => simp
    | false =>
      by_cases htrue : wish = utf8 "true"
      · simp [htrue]
      · by_cases hfalse : wish = utf8 "false"
        · simp [hfalse, hne]
        · simp [htrue, hfalse]

/-- With a wish in the environment, the arguments are followed by the wish. -/
theorem parse_some (arguments : List Bytes) (wish : Bytes) :
    parse arguments (some wish) = (ofArguments arguments).bind fun c =>
      if c.WishKnown wish then (c.wishing wish).checkConflicts else .error .invalidValue := by
  rw [parse_eq]
  congr 1
  funext c
  rw [withEnvironment_some]
  split <;> rfl

theorem parse_some_of_known {arguments : List Bytes} {wish : Bytes} {c : CommandLine}
    (h : parse arguments none = .ok c) (hknown : c.WishKnown wish) :
    parse arguments (some wish) = .ok (c.wishing wish) := by
  obtain ⟨harguments, hnot⟩ := (parse_none_eq_ok_iff arguments c).mp h
  rw [parse_some, harguments]
  show (if c.WishKnown wish then (c.wishing wish).checkConflicts else _) = _
  rw [if_pos hknown, checkConflicts_eq_ok_iff]
  exact ⟨rfl, hnot⟩

theorem parse_some_of_not_known {arguments : List Bytes} {wish : Bytes} {c : CommandLine}
    (h : parse arguments none = .ok c) (hunknown : ¬ c.WishKnown wish) :
    parse arguments (some wish) = .error .invalidValue := by
  obtain ⟨harguments, _⟩ := (parse_none_eq_ok_iff arguments c).mp h
  rw [parse_some, harguments]
  exact if_neg hunknown

/-- The environment does not save a command line that would be refused without it. -/
theorem parse_none_of_parse_some {arguments : List Bytes} {wish : Bytes} {c' : CommandLine}
    (h : parse arguments (some wish) = .ok c') : ∃ c, parse arguments none = .ok c := by
  rw [parse_some] at h
  cases harguments : ofArguments arguments with
  | error e =>
    rw [harguments] at h
    cases h
  | ok c =>
    rw [harguments] at h
    change (if c.WishKnown wish then (c.wishing wish).checkConflicts else _) = _ at h
    split at h
    · obtain ⟨_, hnot⟩ := (checkConflicts_eq_ok_iff _ c').mp h
      exact ⟨c, (parse_none_eq_ok_iff arguments c).mpr ⟨harguments, hnot⟩⟩
    · cases h

/-- Which command lines the environment lets through: those that are accepted without it, if the
wish it expresses is known, and then the same but for the color. Any other wish is refused, and with
it a command line that would be accepted. So `NO_COLOR` is more than a switch. -/
theorem starts_iff_wish_known (arguments : List Bytes) (wish : Bytes) :
    (∀ c', parse arguments (some wish) = .ok c' ↔
      ∃ c, parse arguments none = .ok c ∧ c.WishKnown wish ∧ c' = c.wishing wish) ∧
    ∀ c, parse arguments none = .ok c → ¬ c.WishKnown wish →
      parse arguments (some wish) = .error .invalidValue := by
  refine ⟨fun c' => ⟨?_, ?_⟩, fun c => parse_some_of_not_known⟩
  · intro h
    obtain ⟨c, hc⟩ := parse_none_of_parse_some h
    by_cases hknown : c.WishKnown wish
    · rw [parse_some_of_known hc hknown] at h
      exact ⟨c, hc, hknown, (Except.ok.inj h).symm⟩
    · rw [parse_some_of_not_known hc hknown] at h
      cases h
  · rintro ⟨c, hc, hknown, rfl⟩
    exact parse_some_of_known hc hknown

/-- A command line with the wish for no color in one of its two spellings. -/
theorem starts_with_wish_true :
    parse [utf8 "--sort", utf8 "d"] none = .ok { empty with sort := true, folder := utf8 "d" } ∧
      parse [utf8 "--sort", utf8 "d"] (some (utf8 "true")) =
        .ok { empty with sort := true, folder := utf8 "d", noColor := true } := by
  have h : parse [utf8 "--sort", utf8 "d"] none =
      .ok { empty with sort := true, folder := utf8 "d" } := by rfl
  refine ⟨h, ((starts_iff_wish_known _ _).1 _).mpr ⟨_, h, ?_, ?_⟩⟩
  · exact .inr (.inl rfl)
  · rfl

/-- In the spelling that is most common elsewhere, the wish keeps the program from starting. -/
theorem wish_one_refused :
    ∃ arguments c, parse arguments none = .ok c ∧
      ∀ c', parse arguments (some (utf8 "1")) ≠ .ok c' := by
  refine ⟨[], .empty, by rfl, ?_⟩
  have hrefused : parse [] (some (utf8 "1")) = .error .invalidValue := by rfl
  intro c' h
  rw [hrefused] at h
  cases h

end TwinFiles.CommandLine
