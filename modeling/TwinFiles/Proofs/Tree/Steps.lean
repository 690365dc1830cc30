import Mathlib.Logic.Relation
import TwinFiles.Proofs.Tree.Entry

/-!
# Step by step along a path

What it means that a path leads to an item, or fails for a cause, told without a recursion: as a
journey that goes on by single steps (`Step`) until all parts of the path are walked, or until it is
stuck (`Stuck`). Looking up a path finds just that (`item_eq_ok_iff`, `item_eq_error_iff`).
-/

namespace TwinFiles

/-- A path on the way: the links that have been followed, where it has led so far, and the parts
that are left. -/
structure Journey where
  links : Nat
  place : Location
  left : List Bytes

/-- A part of a path that is a name, and no other way to say a folder. -/
structure NamesEntry (part : Bytes) : Prop where
  ne_nil : part ≠ []
  ne_dot : part ≠ [Ascii.dot]
  ne_dots : part ≠ [Ascii.dot, Ascii.dot]

/-- A path that the system looks at. -/
structure Path.Walkable (p : Path) : Prop where
  noNul : Ascii.nul ∉ p
  ne_nil : p ≠ []
  length_le : p.length ≤ View.maxPath

namespace View

/-! ## Steps -/

/-- A folder that may be searched for entries. -/
def Searchable (v : View) (loc : Location) : Prop :=
  ∃ access, v.tree.get? loc = some (.folder access) ∧ v.maySearch access = true

/-- An entry can be looked for. -/
structure LooksFor (v : View) (loc : Location) (part : Bytes) : Prop where
  folder : v.Searchable loc
  name : NamesEntry part
  length_le : part.length ≤ maxName

/-- One step of a journey. -/
inductive Step (v : View) : Journey → Journey → Prop
  /-- An empty part asks for a folder. -/
  | slash {n : Nat} {loc : Location} {ps : List Bytes} {access : Access}
      (hfolder : v.tree.get? loc = some (.folder access)) :
      Step v ⟨n, loc, [] :: ps⟩ ⟨n, loc, ps⟩
  | dot {n : Nat} {loc : Location} {ps : List Bytes} (hsearch : v.Searchable loc) :
      Step v ⟨n, loc, [Ascii.dot] :: ps⟩ ⟨n, loc, ps⟩
  | dots {n : Nat} {loc : Location} {ps : List Bytes} (hsearch : v.Searchable loc) :
      Step v ⟨n, loc, [Ascii.dot, Ascii.dot] :: ps⟩ ⟨n, loc.dropLast, ps⟩
  | entry {n : Nat} {loc : Location} {part : Bytes} {ps : List Bytes} {item : Item}
      (hlooks : v.LooksFor loc part) (hitem : v.tree.get? (loc ++ [part]) = some item)
      (hkind : item.kind ≠ .link) :
      Step v ⟨n, loc, part :: ps⟩ ⟨n, loc ++ [part], ps⟩
  /-- The target of a link is walked in its place, from its folder or from the root. -/
  | link {n : Nat} {loc : Location} {part : Bytes} {ps : List Bytes} {target : Path}
      (hlooks : v.LooksFor loc part) (hlink : v.tree.get? (loc ++ [part]) = some (.link target))
      (hleft : n < maxLinks) :
      Step v ⟨n, loc, part :: ps⟩ ⟨n + 1, origin loc target, parts target ++ ps⟩

/-- A journey that cannot go on, and why. -/
inductive Stuck (v : View) : Journey → Cause → Prop
  | nothing {n : Nat} {loc : Location} {ps : List Bytes} (hnone : v.tree.get? loc = none) :
      Stuck v ⟨n, loc, ps⟩ .noEntry
  | notFolder {n : Nat} {loc : Location} {part : Bytes} {ps : List Bytes} {item : Item}
      (hitem : v.tree.get? loc = some item) (hkind : item.kind ≠ .folder) :
      Stuck v ⟨n, loc, part :: ps⟩ .notFolder
  | accessDenied {n : Nat} {loc : Location} {part : Bytes} {ps : List Bytes} {access : Access}
      (hfolder : v.tree.get? loc = some (.folder access)) (hsearch : v.maySearch access = false)
      (hpart : part ≠ []) : Stuck v ⟨n, loc, part :: ps⟩ .accessDenied
  | nameTooLong {n : Nat} {loc : Location} {part : Bytes} {ps : List Bytes}
      (hsearch : v.Searchable loc) (hname : NamesEntry part) (hlong : maxName < part.length) :
      Stuck v ⟨n, loc, part :: ps⟩ .nameTooLong
  | noEntry {n : Nat} {loc : Location} {part : Bytes} {ps : List Bytes}
      (hlooks : v.LooksFor loc part) (hnone : v.tree.get? (loc ++ [part]) = none) :
      Stuck v ⟨n, loc, part :: ps⟩ .noEntry
  | tooManyLinks {n : Nat} {loc : Location} {part : Bytes} {ps : List Bytes} {target : Path}
      (hlooks : v.LooksFor loc part) (hlink : v.tree.get? (loc ++ [part]) = some (.link target))
      (hlinks : maxLinks ≤ n) : Stuck v ⟨n, loc, part :: ps⟩ .tooManyLinks

/-- A journey that has come to its end, and what stands there. -/
structure Arrived (v : View) (j : Journey) (item : Item) : Prop where
  walked : j.left = []
  item : v.tree.get? j.place = some item

/-- Any number of steps. -/
abbrev Steps (v : View) : Journey → Journey → Prop :=
  Relation.ReflTransGen v.Step

/-- The journey that a path starts. -/
def start (v : View) (p : Path) : Journey :=
  ⟨0, origin v.home p, parts p⟩

/-- A path leads to an item. -/
structure LeadsTo (v : View) (p : Path) (item : Item) : Prop where
  walkable : p.Walkable
  arrives : ∃ j, v.Steps (v.start p) j ∧ v.Arrived j item

/-- A path leads nowhere, for a cause. -/
inductive FailsFor (v : View) (p : Path) : Cause → Prop
  | nul (hnul : Ascii.nul ∈ p) : FailsFor v p .nulInName
  | empty (hempty : p = []) : FailsFor v p .noEntry
  | tooLong (hnul : Ascii.nul ∉ p) (hlong : maxPath < p.length) : FailsFor v p .nameTooLong
  | stuck {cause : Cause} {j : Journey} (hwalkable : p.Walkable) (hsteps : v.Steps (v.start p) j)
      (hstuck : v.Stuck j cause) : FailsFor v p cause

/-! ## What a journey finds -/

/-- The item at a spot. -/
def itemAt (v : View) : Except Cause Spot → Except Cause Item
  | .ok (.present loc) =>
    match v.tree.get? loc with
    | some item => .ok item
    | none => .error .noEntry
  | .ok (.vacant _) => .error .noEntry
  | .error cause => .error cause

/-- What a journey finds in the end. -/
def found (v : View) (j : Journey) : Except Cause Item :=
  v.itemAt (v.walk true (maxLinks - j.links) j.place j.left)

variable {v : View} {j j' : Journey}

theorem item_eq_itemAt (follow : Bool) (p : Path) :
    v.item follow p = v.itemAt (v.locate follow p) := by
  unfold item resolve
  cases v.locate follow p with
  | error cause => rfl
  | ok spot => cases spot <;> rfl

theorem item_of_walkable {p : Path} (h : p.Walkable) : v.item true p = v.found (v.start p) := by
  have hempty : ¬ p.isEmpty = true := by simp [h.ne_nil]
  rw [item_eq_itemAt, locate, if_neg h.noNul, if_neg hempty,
    if_neg (Nat.not_lt.mpr h.length_le)]
  rfl

theorem searchRefusal?_of_searchable {loc : Location} (h : v.Searchable loc) :
    v.searchRefusal? loc = none := by
  obtain ⟨access, hfolder, hsearch⟩ := h
  rw [searchRefusal?, hfolder]
  exact if_pos hsearch

/-- How a walk goes on at a name. -/
theorem advance_of_looksFor {loc : Location} {part : Bytes} (h : v.LooksFor loc part)
    (ps : List Bytes) :
    v.advance true loc (part :: ps) =
      match v.tree.get? (loc ++ [part]) with
      | none => if ps.isEmpty then .arrived (.vacant (loc ++ [part])) else .refused .noEntry
      | some (.link target) => .link loc target ps
      | some _ => v.advance true (loc ++ [part]) ps := by
  rw [advance, if_neg h.name.ne_nil, searchRefusal?_of_searchable h.folder]
  simp only [if_neg h.name.ne_dot, if_neg h.name.ne_dots, if_neg (Nat.not_lt.mpr h.length_le)]
  cases v.tree.get? (loc ++ [part]) with
  | none => rfl
  | some item =>
    cases item with
    | link target => simp
    | _ => rfl

/-- A step changes nothing about what is found. -/
theorem found_of_step (h : v.Step j j') : v.found j = v.found j' := by
  cases h with
  | slash hfolder =>
    refine congrArg v.itemAt (walk_congr ?_)
    rw [advance, if_pos rfl, hfolder]
  | dot hsearch =>
    refine congrArg v.itemAt (walk_congr ?_)
    rw [advance, if_neg (by decide), searchRefusal?_of_searchable hsearch]
    exact if_pos rfl
  | dots hsearch =>
    refine congrArg v.itemAt (walk_congr ?_)
    rw [advance, if_neg (by decide), searchRefusal?_of_searchable hsearch]
    exact (if_neg (by decide)).trans (if_pos rfl)
  | @entry n loc part ps item hlooks hitem hkind =>
    refine congrArg v.itemAt (walk_congr ?_)
    rw [advance_of_looksFor hlooks, hitem]
    cases item with
    | link target => exact absurd rfl hkind
    | _ => rfl
  | @link n loc part ps target hlooks hlink hleft =>
    have hadvance : v.advance true loc (part :: ps) = .link loc target ps := by
      rw [advance_of_looksFor hlooks, hlink]
    have hlinks : maxLinks - n = (maxLinks - (n + 1)) + 1 := by omega
    rw [found, found, hlinks, walk_succ_of_link hadvance]

theorem found_of_steps (h : v.Steps j j') : v.found j = v.found j' := by
  induction h with
  | refl => rfl
  | tail _ hstep ih => exact ih.trans (found_of_step hstep)

theorem found_of_arrived {item : Item} (h : v.Arrived j item) : v.found j = .ok item := by
  obtain ⟨n, loc, ps⟩ := j
  obtain ⟨rfl, hitem⟩ := h
  have hadvance : v.advance true loc [] = .arrived (.present loc) := rfl
  rw [found, walk_of_arrived hadvance, itemAt, hitem]

/-- A walk that is refused finds nothing. -/
theorem found_of_refused {n : Nat} {loc : Location} {ps : List Bytes} {cause : Cause}
    (h : v.advance true loc ps = .refused cause) : v.found ⟨n, loc, ps⟩ = .error cause := by
  rw [found, walk_of_refused h, itemAt]

theorem found_of_stuck {cause : Cause} (h : v.Stuck j cause) : v.found j = .error cause := by
  cases h with
  | @nothing n loc ps hnone =>
    cases ps with
    | nil =>
      have hadvance : v.advance true loc [] = .arrived (.present loc) := rfl
      rw [found, walk_of_arrived hadvance, itemAt, hnone]
    | cons part ps =>
      apply found_of_refused
      rw [advance, searchRefusal?, hnone]
      exact ite_self _
  | @notFolder n loc part ps item hitem hkind =>
    apply found_of_refused
    rw [advance, searchRefusal?, hitem]
    cases item with
    | folder access => exact absurd rfl hkind
    | _ => exact ite_self _
  | accessDenied hfolder hsearch hpart =>
    apply found_of_refused
    rw [advance, if_neg hpart, searchRefusal?, hfolder]
    simp only [hsearch, Bool.false_eq_true, if_false]
  | nameTooLong hsearch hname hlong =>
    apply found_of_refused
    rw [advance, if_neg hname.ne_nil, searchRefusal?_of_searchable hsearch]
    simp only [if_neg hname.ne_dot, if_neg hname.ne_dots, if_pos hlong]
  | @noEntry n loc part ps hlooks hnone =>
    have hadvance := advance_of_looksFor hlooks ps
    rw [hnone] at hadvance
    cases ps with
    | nil => rw [found, walk_of_arrived hadvance, itemAt]
    | cons next ps => exact found_of_refused hadvance
  | @tooManyLinks n loc part ps target hlooks hlink hlinks =>
    have hadvance : v.advance true loc (part :: ps) = .link loc target ps := by
      rw [advance_of_looksFor hlooks, hlink]
    rw [found, Nat.sub_eq_zero_of_le hlinks, walk_zero_of_link hadvance, itemAt]

/-! ## Every journey ends -/

/-- What is done with a name. -/
theorem progress_name {n : Nat} {loc : Location} {part : Bytes} (hsearch : v.Searchable loc)
    (hname : NamesEntry part) (ps : List Bytes) :
    (∃ cause, v.Stuck ⟨n, loc, part :: ps⟩ cause) ∨
      ∃ j', v.Step ⟨n, loc, part :: ps⟩ j' := by
  by_cases hlong : maxName < part.length
  · exact .inl ⟨_, .nameTooLong hsearch hname hlong⟩
  · have hlooks : v.LooksFor loc part := ⟨hsearch, hname, Nat.not_lt.mp hlong⟩
    cases hitem : v.tree.get? (loc ++ [part]) with
    | none => exact .inl ⟨_, .noEntry hlooks hitem⟩
    | some item =>
      by_cases hkind : item.kind = .link
      · cases item with
        | link target =>
          rcases Nat.lt_or_ge n maxLinks with hleft | hlinks
          · exact .inr ⟨_, .link hlooks hitem hleft⟩
          · exact .inl ⟨_, .tooManyLinks hlooks hitem hlinks⟩
        | _ => cases hkind
      · exact .inr ⟨_, .entry hlooks hitem hkind⟩

/-- A journey has arrived, is stuck, or goes on. -/
theorem progress (v : View) (j : Journey) :
    (∃ item, v.Arrived j item) ∨ (∃ cause, v.Stuck j cause) ∨ ∃ j', v.Step j j' := by
  obtain ⟨n, loc, ps⟩ := j
  cases hplace : v.tree.get? loc with
  | none => exact .inr (.inl ⟨_, .nothing hplace⟩)
  | some item =>
    cases ps with
    | nil => exact .inl ⟨item, rfl, hplace⟩
    | cons part ps =>
      right
      by_cases hkind : item.kind = .folder
      · cases item with
        | folder access =>
          by_cases hpart : part = []
          · rw [hpart]
            exact .inr ⟨_, .slash hplace⟩
          · cases hsearch : v.maySearch access with
            | false => exact .inl ⟨_, .accessDenied hplace hsearch hpart⟩
            | true =>
              have hsearchable : v.Searchable loc := ⟨access, hplace, hsearch⟩
              by_cases hdot : part = [Ascii.dot]
              · rw [hdot]
                exact .inr ⟨_, .dot hsearchable⟩
              · by_cases hdots : part = [Ascii.dot, Ascii.dot]
                · rw [hdots]
                  exact .inr ⟨_, .dots hsearchable⟩
                · exact progress_name hsearchable ⟨hpart, hdot, hdots⟩ ps
        | _ => cases hkind
      · exact .inl ⟨_, .notFolder hplace hkind⟩

/-- A step follows one more link, or leaves fewer parts. -/
theorem Step.decreases (h : v.Step j j') :
    Prod.Lex (· < ·) (· < ·) (maxLinks - j'.links, j'.left.length)
      (maxLinks - j.links, j.left.length) := by
  cases h with
  | link hlooks hlink hleft => exact Prod.Lex.left _ _ (by simp only; omega)
  | _ => exact Prod.Lex.right _ (Nat.lt_succ_self _)

/-- A journey arrives or gets stuck. -/
theorem ends (v : View) (j : Journey) :
    ∃ j', v.Steps j j' ∧ ((∃ item, v.Arrived j' item) ∨ ∃ cause, v.Stuck j' cause) := by
  rcases v.progress j with harrived | hstuck | ⟨next, hstep⟩
  · exact ⟨j, .refl, .inl harrived⟩
  · exact ⟨j, .refl, .inr hstuck⟩
  · obtain ⟨j', hsteps, hends⟩ := ends v next
    exact ⟨j', hsteps.head hstep, hends⟩
termination_by (maxLinks - j.links, j.left.length)
decreasing_by exact hstep.decreases

/-- What is found is what the journey arrives at. -/
theorem found_eq_ok_iff {item : Item} :
    v.found j = .ok item ↔ ∃ j', v.Steps j j' ∧ v.Arrived j' item := by
  constructor
  · intro h
    obtain ⟨j', hsteps, ⟨item', harrived⟩ | ⟨cause, hstuck⟩⟩ := v.ends j
    · rw [found_of_steps hsteps, found_of_arrived harrived] at h
      cases h
      exact ⟨j', hsteps, harrived⟩
    · rw [found_of_steps hsteps, found_of_stuck hstuck] at h
      cases h
  · rintro ⟨j', hsteps, harrived⟩
    rw [found_of_steps hsteps, found_of_arrived harrived]

/-- Nothing is found for the cause that the journey is stuck for. -/
theorem found_eq_error_iff {cause : Cause} :
    v.found j = .error cause ↔ ∃ j', v.Steps j j' ∧ v.Stuck j' cause := by
  constructor
  · intro h
    obtain ⟨j', hsteps, ⟨item', harrived⟩ | ⟨cause, hstuck⟩⟩ := v.ends j
    · rw [found_of_steps hsteps, found_of_arrived harrived] at h
      cases h
    · rw [found_of_steps hsteps, found_of_stuck hstuck] at h
      cases h
      exact ⟨j', hsteps, hstuck⟩
  · rintro ⟨j', hsteps, hstuck⟩
    rw [found_of_steps hsteps, found_of_stuck hstuck]

/-! ## Looking up a path -/

variable {p : Path}

/-- A path is looked at, or refused as it stands. -/
theorem walkable_or_refused (v : View) (p : Path) :
    p.Walkable ∨ ∃ cause, v.item true p = .error cause ∧ v.FailsFor p cause := by
  rw [item_eq_itemAt, locate]
  by_cases hnul : Ascii.nul ∈ p
  · rw [if_pos hnul]
    exact .inr ⟨_, rfl, .nul hnul⟩
  · rw [if_neg hnul]
    by_cases hempty : p = []
    · rw [hempty]
      exact .inr ⟨_, rfl, .empty rfl⟩
    · rw [if_neg (by simpa using hempty)]
      by_cases hlong : maxPath < p.length
      · rw [if_pos hlong]
        exact .inr ⟨_, rfl, .tooLong hnul hlong⟩
      · exact .inl ⟨hnul, hempty, Nat.not_lt.mp hlong⟩

/-- A path is refused for one cause. -/
theorem item_of_failsFor {cause : Cause} (h : v.FailsFor p cause) :
    v.item true p = .error cause := by
  cases h with
  | nul hnul => rw [item_eq_itemAt, locate, if_pos hnul, itemAt]
  | empty hempty =>
    rw [hempty]
    rfl
  | tooLong hnul hlong =>
    have hempty : ¬ p.isEmpty = true := by
      intro hempty
      rw [List.isEmpty_iff.mp hempty] at hlong
      exact absurd hlong (by decide)
    rw [item_eq_itemAt, locate, if_neg hnul, if_neg hempty, if_pos hlong, itemAt]
  | stuck hwalkable hsteps hstuck =>
    rw [item_of_walkable hwalkable]
    exact found_eq_error_iff.mpr ⟨_, hsteps, hstuck⟩

/-- Looking up a path finds what it leads to. -/
theorem item_eq_ok_iff {item : Item} : v.item true p = .ok item ↔ v.LeadsTo p item := by
  constructor
  · intro h
    rcases v.walkable_or_refused p with hwalkable | ⟨cause, hrefused, _⟩
    · rw [item_of_walkable hwalkable] at h
      exact ⟨hwalkable, found_eq_ok_iff.mp h⟩
    · rw [hrefused] at h
      cases h
  · rintro ⟨hwalkable, harrives⟩
    rw [item_of_walkable hwalkable]
    exact found_eq_ok_iff.mpr harrives

/-- Looking up a path fails for the causes for which it leads nowhere. -/
theorem item_eq_error_iff {cause : Cause} :
    v.item true p = .error cause ↔ v.FailsFor p cause := by
  refine ⟨fun h => ?_, item_of_failsFor⟩
  rcases v.walkable_or_refused p with hwalkable | ⟨cause', hrefused, hfails⟩
  · rw [item_of_walkable hwalkable] at h
    obtain ⟨j, hsteps, hstuck⟩ := found_eq_error_iff.mp h
    exact .stuck hwalkable hsteps hstuck
  · rw [hrefused] at h
    cases h
    exact hfails

/-- The causes for which a path leads nowhere. -/
def lookupCauses : List Cause :=
  [.noEntry, .accessDenied, .notFolder, .nameTooLong, .tooManyLinks, .nulInName]

theorem FailsFor.mem_lookupCauses {cause : Cause} (h : v.FailsFor p cause) :
    cause ∈ lookupCauses := by
  cases h with
  | stuck hwalkable hsteps hstuck => cases hstuck <;> decide
  | _ => decide

end View

end TwinFiles
