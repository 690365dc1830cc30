import TwinFiles.Proofs.Tree.Steps

/-!
# Links in circles

A journey goes on in one way (`Step.unique`) and has one end (`end_unique`). If it comes back to
where it was, with the same way to go, nothing but the number of links that it may follow keeps it
from going on for ever: it gets stuck with too many links (`found_of_loop`).
-/

namespace TwinFiles

namespace View

variable {v : View} {j j' : Journey}

/-- There is one way to go on. -/
theorem Step.unique {a b : Journey} (ha : v.Step j a) (hb : v.Step j b) : a = b := by
  cases ha with
  | slash hfolder =>
    cases hb with
    | slash _ => rfl
    | entry hlooks _ _ => exact absurd rfl hlooks.name.ne_nil
    | link hlooks _ _ => exact absurd rfl hlooks.name.ne_nil
  | dot hsearch =>
    cases hb with
    | dot _ => rfl
    | entry hlooks _ _ => exact absurd rfl hlooks.name.ne_dot
    | link hlooks _ _ => exact absurd rfl hlooks.name.ne_dot
  | dots hsearch =>
    cases hb with
    | dots _ => rfl
    | entry hlooks _ _ => exact absurd rfl hlooks.name.ne_dots
    | link hlooks _ _ => exact absurd rfl hlooks.name.ne_dots
  | entry hlooks hitem hkind =>
    cases hb with
    | slash _ => exact absurd rfl hlooks.name.ne_nil
    | dot _ => exact absurd rfl hlooks.name.ne_dot
    | dots _ => exact absurd rfl hlooks.name.ne_dots
    | entry _ _ _ => rfl
    | link _ hlink _ =>
      rw [hitem] at hlink
      cases hlink
      exact absurd rfl hkind
  | link hlooks hlink hleft =>
    cases hb with
    | slash _ => exact absurd rfl hlooks.name.ne_nil
    | dot _ => exact absurd rfl hlooks.name.ne_dot
    | dots _ => exact absurd rfl hlooks.name.ne_dots
    | entry _ hitem hkind =>
      rw [hlink] at hitem
      cases hitem
      exact absurd rfl hkind
    | link _ hlink' _ =>
      rw [hlink] at hlink'
      cases hlink'
      rfl

end View

/-- The journey with more links behind it. -/
def Journey.after (k : Nat) (j : Journey) : Journey :=
  { j with links := j.links + k }

namespace View

variable {v : View} {j j' : Journey} {k : Nat}

/-- What goes on after some links goes on without them. -/
theorem Step.of_after (h : v.Step (j.after k) j') :
    ∃ next, j' = next.after k ∧ v.Step j next := by
  obtain ⟨n, loc, ps⟩ := j
  cases h with
  | slash hfolder => exact ⟨⟨n, loc, _⟩, rfl, .slash hfolder⟩
  | dot hsearch => exact ⟨⟨n, loc, _⟩, rfl, .dot hsearch⟩
  | dots hsearch => exact ⟨⟨n, loc.dropLast, _⟩, rfl, .dots hsearch⟩
  | entry hlooks hitem hkind => exact ⟨⟨n, loc ++ [_], _⟩, rfl, .entry hlooks hitem hkind⟩
  | link hlooks hlink hleft =>
    have hless : n < maxLinks := Nat.lt_of_le_of_lt (Nat.le_add_right n k) hleft
    refine ⟨⟨n + 1, _, _⟩, ?_, .link hlooks hlink hless⟩
    rw [Journey.after, Nat.add_right_comm]

theorem steps_of_after (h : v.Steps (j.after k) j') :
    ∃ last, j' = last.after k ∧ v.Steps j last := by
  induction h with
  | refl => exact ⟨j, rfl, .refl⟩
  | tail _ hstep ih =>
    obtain ⟨mid, rfl, hsteps⟩ := ih
    obtain ⟨last, rfl, hlast⟩ := hstep.of_after
    exact ⟨last, rfl, hsteps.tail hlast⟩

/-- A journey goes on in a folder only. -/
theorem Step.folder (h : v.Step j j') :
    ∃ access, v.tree.get? j.place = some (.folder access) := by
  cases h with
  | slash hfolder => exact ⟨_, hfolder⟩
  | dot hsearch => exact hsearch.imp fun _ => And.left
  | dots hsearch => exact hsearch.imp fun _ => And.left
  | entry hlooks _ _ => exact hlooks.folder.imp fun _ => And.left
  | link hlooks _ _ => exact hlooks.folder.imp fun _ => And.left

/-- It goes on at an empty part, or in a folder that may be searched. -/
theorem Step.searchable {n : Nat} {loc : Location} {part : Bytes} {ps : List Bytes}
    (h : v.Step ⟨n, loc, part :: ps⟩ j') (hpart : part ≠ []) : v.Searchable loc := by
  cases h with
  | slash _ => exact absurd rfl hpart
  | dot hsearch => exact hsearch
  | dots hsearch => exact hsearch
  | entry hlooks _ _ => exact hlooks.folder
  | link hlooks _ _ => exact hlooks.folder

/-- At a name it goes on to an item, and behind a link only if there are links to spare. -/
theorem Step.item {n : Nat} {loc : Location} {part : Bytes} {ps : List Bytes}
    (h : v.Step ⟨n, loc, part :: ps⟩ j') (hname : NamesEntry part) :
    part.length ≤ maxName ∧ ∃ item, v.tree.get? (loc ++ [part]) = some item ∧
      (item.kind = .link → n < maxLinks) := by
  cases h with
  | slash _ => exact absurd rfl hname.ne_nil
  | dot _ => exact absurd rfl hname.ne_dot
  | dots _ => exact absurd rfl hname.ne_dots
  | entry hlooks hitem hkind =>
    exact ⟨hlooks.length_le, _, hitem, fun hlink => absurd hlink hkind⟩
  | link hlooks hlink hleft => exact ⟨hlooks.length_le, _, hlink, fun _ => hleft⟩

/-- A journey that has arrived does not go on. -/
theorem Arrived.not_step {item : Item} (h : v.Arrived j item) : ¬ v.Step j j' := by
  intro hstep
  have hwalked := h.walked
  cases hstep <;> cases hwalked

/-- Neither does one that is stuck. -/
theorem Stuck.not_step {cause : Cause} (h : v.Stuck j cause) : ¬ v.Step j j' := by
  intro hstep
  obtain ⟨access, hfolder⟩ := hstep.folder
  cases h with
  | nothing hnone =>
    rw [hnone] at hfolder
    cases hfolder
  | notFolder hitem hkind =>
    rw [hitem] at hfolder
    cases hfolder
    exact hkind rfl
  | accessDenied hfolder' hsearch hpart =>
    obtain ⟨access', hsearchable, hmay⟩ := hstep.searchable hpart
    rw [hfolder'] at hsearchable
    cases hsearchable
    rw [hsearch] at hmay
    cases hmay
  | nameTooLong hsearch hname hlong =>
    exact absurd (hstep.item hname).1 (Nat.not_le.mpr hlong)
  | noEntry hlooks hnone =>
    obtain ⟨_, item, hitem, _⟩ := hstep.item hlooks.name
    rw [hnone] at hitem
    cases hitem
  | tooManyLinks hlooks hlink hlinks =>
    obtain ⟨_, item, hitem, hless⟩ := hstep.item hlooks.name
    rw [hlink] at hitem
    cases hitem
    exact absurd (hless rfl) (Nat.not_lt.mpr hlinks)

/-- A journey has one end. -/
theorem end_unique {a b : Journey} (ha : v.Steps j a) (hb : v.Steps j b)
    (hend : ∀ next, ¬ v.Step a next) (hend' : ∀ next, ¬ v.Step b next) : a = b := by
  have heq : ∀ {a b : Journey}, (∀ next, ¬ v.Step a next) → v.Steps a b → a = b := by
    intro a b hend hsteps
    rcases hsteps.cases_head with heq | ⟨next, hstep, _⟩
    · exact heq
    · exact absurd hstep (hend next)
  have hunique : Relator.RightUnique v.Step := fun _ _ _ => Step.unique
  rcases Relation.ReflTransGen.total_of_right_unique hunique ha hb with h | h
  · exact heq hend h
  · exact (heq hend' h).symm

/-- What keeps a journey from going on keeps it without some of its links, unless these are too
many. -/
theorem Stuck.of_after {cause : Cause} (h : v.Stuck (j.after k) cause)
    (hcause : cause ≠ .tooManyLinks) : v.Stuck j cause := by
  obtain ⟨n, loc, ps⟩ := j
  cases h with
  | nothing hnone => exact .nothing hnone
  | notFolder hitem hkind => exact .notFolder hitem hkind
  | accessDenied hfolder hsearch hpart => exact .accessDenied hfolder hsearch hpart
  | nameTooLong hsearch hname hlong => exact .nameTooLong hsearch hname hlong
  | noEntry hlooks hnone => exact .noEntry hlooks hnone
  | tooManyLinks _ _ _ => exact absurd rfl hcause

/-- A journey that comes back to where it was, with the same way to go, would go on for ever: it
gets stuck with too many links. -/
theorem found_of_loop (hloop : v.Steps j (j.after k)) (hk : 0 < k) :
    v.found j = .error .tooManyLinks := by
  obtain ⟨last, hsteps, hlast⟩ := v.ends (j.after k)
  obtain ⟨early, rfl, hearly⟩ := steps_of_after hsteps
  -- an end of the way on is an end of the way before the loop, which has followed fewer links
  have hnot : ¬ ∀ next, ¬ v.Step early next := by
    intro hend
    have hends : ∀ next, ¬ v.Step (early.after k) next := by
      rcases hlast with ⟨item, harrived⟩ | ⟨cause, hstuck⟩
      · exact fun _ => harrived.not_step
      · exact fun _ => hstuck.not_step
    have hsame := congrArg Journey.links (end_unique hearly (hloop.trans hsteps) hend hends)
    have hlinks : early.links = early.links + k := hsame
    omega
  rcases hlast with ⟨item, harrived⟩ | ⟨cause, hstuck⟩
  · have hearlier : v.Arrived early item := ⟨harrived.walked, harrived.item⟩
    exact absurd (fun _ => hearlier.not_step) hnot
  · by_cases hcause : cause = .tooManyLinks
    · rw [found_of_steps (hloop.trans hsteps), found_of_stuck hstuck, hcause]
    · exact absurd (fun _ => (hstuck.of_after hcause).not_step) hnot

/-- So a path with a loop leads nowhere. -/
theorem item_of_loop {p : Path} (hwalkable : p.Walkable) (hsteps : v.Steps (v.start p) j)
    (hloop : v.Steps j (j.after k)) (hk : 0 < k) : v.item true p = .error .tooManyLinks := by
  rw [item_of_walkable hwalkable, found_of_steps hsteps]
  exact found_of_loop hloop hk

end View

end TwinFiles
