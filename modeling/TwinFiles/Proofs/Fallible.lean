import Mathlib.Logic.Basic

/-!
# Steps that may fail

What follows from the success of steps that are put together.
-/

namespace TwinFiles

/-- What comes behind a step succeeds only if the step does. -/
theorem exists_of_bind_eq_ok {ε α β : Type} {x : Except ε α} {f : α → Except ε β} {b : β}
    (h : x >>= f = .ok b) : ∃ a, x = .ok a ∧ f a = .ok b := by
  cases x with
  | error e => cases h
  | ok a => exact ⟨a, rfl, h⟩

/-- Steps that are put together fail with the first failure. -/
theorem error_of_bind_eq_error {ε α β : Type} {x : Except ε α} {f : α → Except ε β} {e : ε}
    (h : x >>= f = .error e) : x = .error e ∨ ∃ a, x = .ok a ∧ f a = .error e := by
  cases x with
  | error e' =>
    cases h
    exact .inl rfl
  | ok a => exact .inr ⟨a, rfl, h⟩

/-- A failure by another name is a failure. -/
theorem mapError_eq_ok_iff {ε ε' α : Type} {x : Except ε α} {name : ε → ε'} {a : α} :
    x.mapError name = .ok a ↔ x = .ok a := by
  cases x with
  | error e => exact iff_of_false (fun he => by cases he) (fun he => by cases he)
  | ok b =>
    constructor <;>
      · intro h
        cases h
        rfl

theorem mapError_eq_error_iff {ε ε' α : Type} {x : Except ε α} {name : ε → ε'} {e' : ε'} :
    x.mapError name = .error e' ↔ ∃ e, x = .error e ∧ name e = e' := by
  cases x with
  | error e =>
    constructor
    · intro h
      cases h
      exact ⟨e, rfl, rfl⟩
    · rintro ⟨_, he, rfl⟩
      cases he
      rfl
  | ok a =>
    refine iff_of_false (fun h => by cases h) ?_
    rintro ⟨e, h, _⟩
    cases h

/-- What is made of a success is a success. -/
theorem map_eq_ok_iff {ε α β : Type} {x : Except ε α} {f : α → β} {b : β} :
    x.map f = .ok b ↔ ∃ a, x = .ok a ∧ f a = b := by
  cases x with
  | error e =>
    refine iff_of_false (fun h => by cases h) ?_
    rintro ⟨a, ha, _⟩
    cases ha
  | ok a => simp [Except.map]

/-- What is made of a failure is the same failure. -/
theorem map_eq_error_iff {ε α β : Type} {x : Except ε α} {f : α → β} {e : ε} :
    x.map f = .error e ↔ x = .error e := by
  cases x with
  | error e' => simp [Except.map]
  | ok a => exact iff_of_false (fun h => by cases h) (fun h => by cases h)

/-- What every step keeps is kept by all steps in a row. -/
theorem foldlM_keeps {α β : Type} {Keeps : β → Prop} {step : β → α → Option β} {l : List α}
    (hstep : ∀ b, Keeps b → ∀ a ∈ l, ∀ b', step b a = some b' → Keeps b') {b b' : β}
    (hb : Keeps b) (h : l.foldlM step b = some b') : Keeps b' := by
  induction l generalizing b with
  | nil =>
    cases h
    exact hb
  | cons a l ih =>
    rw [List.foldlM_cons] at h
    obtain ⟨next, hnext, h⟩ := Option.bind_eq_some_iff.mp h
    exact ih (fun b hb a ha => hstep b hb a (List.mem_cons_of_mem _ ha))
      (hstep b hb a List.mem_cons_self next hnext) h

end TwinFiles
