import TwinFiles.Proofs.Text.Lines
import TwinFiles.Tree.View

/-!
# The path of an entry

A path and a name behind it lead where the path leads, and from there to the entry with that name
(`locate_join_walk`, `locate_join`): a walk goes on where it has arrived (`advance_append`,
`walk_append`), also when the path ends with a slash, which asks for a folder and goes nowhere.
-/

namespace TwinFiles

/-! ## Parts of a path -/

/-- What the name of an entry can be: anything that is one part of a path and no other way to say
a folder. -/
structure IsName (name : Bytes) : Prop where
  ne_nil : name ≠ []
  noSlash : Ascii.slash ∉ name
  ne_dot : name ≠ [Ascii.dot]
  ne_dots : name ≠ [Ascii.dot, Ascii.dot]

instance (name : Bytes) : Decidable (IsName name) :=
  decidable_of_iff
    (name ≠ [] ∧ Ascii.slash ∉ name ∧ name ≠ [Ascii.dot] ∧ name ≠ [Ascii.dot, Ascii.dot])
    ⟨fun ⟨hnil, hslash, hdot, hdots⟩ => ⟨hnil, hslash, hdot, hdots⟩,
      fun ⟨hnil, hslash, hdot, hdots⟩ => ⟨hnil, hslash, hdot, hdots⟩⟩

namespace Bytes

theorem splitOn_append (sep : UInt8) (s t : Bytes) :
    splitOn sep (s ++ sep :: t) = splitOn sep s ++ splitOn sep t := by
  induction s with
  | nil =>
    have hempty : splitOn sep [] = [[]] := rfl
    rw [List.nil_append, hempty, List.singleton_append]
    exact if_pos rfl
  | cons b s ih =>
    obtain ⟨part, parts, hparts⟩ := List.exists_cons_of_ne_nil (splitOn_ne_nil sep s)
    rw [List.cons_append, splitOn, splitOn, ih, hparts]
    split <;> rfl

theorem splitOn_of_notMem {sep : UInt8} {s : Bytes} (h : sep ∉ s) : splitOn sep s = [s] := by
  induction s with
  | nil => rfl
  | cons b s ih =>
    rw [List.mem_cons, not_or] at h
    rw [splitOn, if_neg (Ne.symm h.1), ih h.2]

end Bytes

namespace View

variable {v : View} {loc : Location}

/-- A name behind a path is one more part, in the place of the empty part behind a slash at the
end. -/
theorem parts_join {p : Path} (hp : p ≠ []) {name : Bytes} (hname : IsName name) :
    ∃ ps, ps ≠ [] ∧ (parts p = ps ∨ parts p = ps ++ [[]]) ∧ parts (p.join name) = ps ++ [name] := by
  have hsplit : Bytes.splitOn Ascii.slash name = [name] := Bytes.splitOn_of_notMem hname.noSlash
  rcases List.eq_nil_or_concat p with rfl | ⟨front, last, rfl⟩
  · exact absurd rfl hp
  · rw [List.concat_eq_append] at hp ⊢
    by_cases hslash : last = Ascii.slash
    · refine ⟨parts front, Bytes.splitOn_ne_nil _ _, .inr ?_, ?_⟩
      · rw [hslash, parts, Bytes.splitOn_append]
        rfl
      · have hopen : Path.isOpen (front ++ [last]) = true := by simp [Path.isOpen, hslash]
        rw [Path.join, if_pos hopen, hslash, List.append_assoc, List.singleton_append, parts,
          Bytes.splitOn_append, hsplit]
        rfl
    · refine ⟨parts (front ++ [last]), Bytes.splitOn_ne_nil _ _, .inl rfl, ?_⟩
      have hopen : ¬ Path.isOpen (front ++ [last]) = true := by simp [Path.isOpen, hslash]
      rw [Path.join, if_neg hopen, parts, Bytes.splitOn_append, hsplit]
      rfl

theorem origin_join {p : Path} (hp : p ≠ []) (home : Location) (name : Bytes) :
    origin home (p.join name) = origin home p := by
  obtain ⟨b, rest, rfl⟩ := List.exists_cons_of_ne_nil hp
  rw [Path.join]
  split <;> rfl

/-! ## Walks that go on -/

/-- More parts are walked from where the parts before them lead. -/
theorem advance_append (follow : Bool) (loc : Location) (ps : List Bytes) {qs : List Bytes}
    (hqs : qs ≠ []) :
    v.advance follow loc (ps ++ qs) =
      match v.advance true loc ps with
      | .arrived (.present l) => v.advance follow l qs
      | .arrived (.vacant _) => .refused .noEntry
      | .refused cause => .refused cause
      | .link folder target left => .link folder target (left ++ qs) := by
  induction ps generalizing loc with
  | nil => rfl
  | cons part parts ih =>
    have hmore : (parts ++ qs).isEmpty = false := by simp [hqs]
    rw [List.cons_append, advance, advance]
    by_cases hpart : part = []
    · rw [if_pos hpart, if_pos hpart]
      cases v.tree.get? loc with
      | none => rfl
      | some item =>
        cases item with
        | folder access => exact ih loc
        | _ => rfl
    · rw [if_neg hpart, if_neg hpart]
      cases v.searchRefusal? loc with
      | some cause => rfl
      | none =>
        simp only
        split
        · exact ih loc
        · split
          · exact ih loc.dropLast
          · split
            · rfl
            · cases v.tree.get? (loc ++ [part]) with
              | none => cases parts <;> simp [hqs]
              | some item =>
                cases item with
                | link target => simp [hqs]
                | _ => exact ih _

section Walk

variable {follow : Bool} {links : Nat} {ps : List Bytes}

theorem walk_of_arrived {spot : Spot} (h : v.advance follow loc ps = .arrived spot) :
    v.walk follow links loc ps = .ok spot := by
  unfold walk
  rw [h]

theorem walk_of_refused {cause : Cause} (h : v.advance follow loc ps = .refused cause) :
    v.walk follow links loc ps = .error cause := by
  unfold walk
  rw [h]

theorem walk_zero_of_link {folder : Location} {target : Path} {left : List Bytes}
    (h : v.advance follow loc ps = .link folder target left) :
    v.walk follow 0 loc ps = .error .tooManyLinks := by
  unfold walk
  rw [h]

theorem walk_succ_of_link {folder : Location} {target : Path} {left : List Bytes}
    (h : v.advance follow loc ps = .link folder target left) (n : Nat) :
    v.walk follow (n + 1) loc ps =
      v.walk follow n (origin folder target) (parts target ++ left) := by
  conv =>
    lhs
    unfold walk
  rw [h]

/-- How far a walk gets without links decides how it goes on. -/
theorem walk_congr {loc' : Location} {ps' : List Bytes}
    (h : v.advance follow loc ps = v.advance follow loc' ps') :
    v.walk follow links loc ps = v.walk follow links loc' ps' := by
  unfold walk
  rw [h]

end Walk

/-- Where a walk arrives, one with more parts goes on with the links that are left; where it does
not, none does. -/
theorem walk_append (links : Nat) (loc : Location) (ps : List Bytes) :
    (∃ l left, v.walk true links loc ps = .ok (.present l) ∧
      ∀ follow qs, qs ≠ [] → v.walk follow links loc (ps ++ qs) = v.walk follow left l qs) ∨
    ((∀ l, v.walk true links loc ps ≠ .ok (.present l)) ∧
      ∀ follow qs, qs ≠ [] → ∃ cause, v.walk follow links loc (ps ++ qs) = .error cause) := by
  induction links using Nat.strongRecOn generalizing loc ps with
  | ind links ih =>
    have hmore (follow : Bool) (qs : List Bytes) (hqs : qs ≠ []) :=
      v.advance_append follow loc ps hqs
    cases hadvance : v.advance true loc ps with
    | arrived spot =>
      simp only [hadvance] at hmore
      cases spot with
      | present l =>
        exact .inl ⟨l, links, walk_of_arrived hadvance,
          fun follow qs hqs => walk_congr (hmore follow qs hqs)⟩
      | vacant l =>
        refine .inr ⟨?_, fun follow qs hqs => ⟨_, walk_of_refused (hmore follow qs hqs)⟩⟩
        intro l' h
        rw [walk_of_arrived hadvance] at h
        cases h
    | refused cause =>
      simp only [hadvance] at hmore
      refine .inr ⟨?_, fun follow qs hqs => ⟨_, walk_of_refused (hmore follow qs hqs)⟩⟩
      intro l h
      rw [walk_of_refused hadvance] at h
      cases h
    | link folder target left =>
      simp only [hadvance] at hmore
      cases links with
      | zero =>
        refine .inr ⟨?_, fun follow qs hqs => ⟨_, walk_zero_of_link (hmore follow qs hqs)⟩⟩
        intro l h
        rw [walk_zero_of_link hadvance] at h
        cases h
      | succ n =>
        -- both go on behind the link, with one link less
        have hgoes (follow : Bool) (qs : List Bytes) (hqs : qs ≠ []) :
            v.walk follow (n + 1) loc (ps ++ qs) =
              v.walk follow n (origin folder target) (parts target ++ left ++ qs) := by
          rw [walk_succ_of_link (hmore follow qs hqs), List.append_assoc]
        rw [walk_succ_of_link hadvance]
        rcases ih n (Nat.lt_succ_self n) (origin folder target) (parts target ++ left) with
          ⟨l, rest, harrives, hrest⟩ | ⟨hfails, hrest⟩
        · exact .inl ⟨l, rest, harrives,
            fun follow qs hqs => (hgoes follow qs hqs).trans (hrest follow qs hqs)⟩
        · refine .inr ⟨hfails, fun follow qs hqs => ?_⟩
          rw [hgoes follow qs hqs]
          exact hrest follow qs hqs

/-! ## Entries -/

/-- Where a name leads from a folder, without following a link in its place. -/
def spotOf (v : View) (loc : Location) (name : Bytes) : Except Cause Spot :=
  match v.searchRefusal? loc with
  | some cause => .error cause
  | none =>
    if maxName < name.length then .error .nameTooLong
    else
      match v.tree.get? (loc ++ [name]) with
      | some _ => .ok (.present (loc ++ [name]))
      | none => .ok (.vacant (loc ++ [name]))

/-- One name is walked to its spot, unless there is a link to be followed. -/
theorem walk_name {name : Bytes} (hname : IsName name) {follow : Bool} (links : Nat)
    (loc : Location)
    (hlink : follow = true → ∀ target, v.tree.get? (loc ++ [name]) ≠ some (.link target)) :
    v.walk follow links loc [name] = v.spotOf loc name := by
  have hadvance : v.advance follow loc [name] =
      match v.spotOf loc name with
      | .ok spot => .arrived spot
      | .error cause => .refused cause := by
    rw [advance, if_neg hname.ne_nil, spotOf]
    cases v.searchRefusal? loc with
    | some cause => rfl
    | none =>
      simp only [if_neg hname.ne_dot, if_neg hname.ne_dots]
      split
      · rfl
      · cases hitem : v.tree.get? (loc ++ [name]) with
        | none => rfl
        | some item =>
          cases item with
          | link target =>
            cases follow with
            | true => exact absurd hitem (hlink rfl target)
            | false => rfl
          | _ => rfl
  cases hspot : v.spotOf loc name with
  | ok spot =>
    rw [hspot] at hadvance
    exact walk_of_arrived hadvance
  | error cause =>
    rw [hspot] at hadvance
    exact walk_of_refused hadvance

/-- What keeps the system from looking at a path at all. -/
def pathRefusal? (p : Path) : Option Cause :=
  if Ascii.nul ∈ p then some .nulInName
  else if maxPath < p.length then some .nameTooLong
  else none

/-- An empty part at the end asks for a folder, and goes nowhere. -/
theorem walk_empty_part {links : Nat} {l : Location} {spot : Spot}
    (h : v.walk true links l [[]] = .ok spot) : spot = .present l := by
  have hadvance : v.advance true l [[]] = .arrived (.present l) ∨
      ∃ cause, v.advance true l [[]] = .refused cause := by
    rw [advance, if_pos rfl]
    cases v.tree.get? l with
    | none => exact .inr ⟨_, rfl⟩
    | some item =>
      cases item with
      | folder access => exact .inl rfl
      | _ => exact .inr ⟨_, rfl⟩
  rcases hadvance with harrived | ⟨cause, hrefused⟩
  · rw [walk_of_arrived harrived] at h
    cases h
    rfl
  · rw [walk_of_refused hrefused] at h
    cases h

/-- A path that leads to an item can be looked at, and a walk along its parts arrives there. -/
theorem walk_of_resolve {follow : Bool} {p : Path} (h : v.resolve follow p = .ok loc) :
    Ascii.nul ∉ p ∧ p ≠ [] ∧ p.length ≤ maxPath ∧
      v.walk follow maxLinks (origin v.home p) (parts p) = .ok (.present loc) := by
  have hlocate : v.locate follow p = .ok (.present loc) := by
    unfold resolve at h
    split at h
    · next hlocate =>
      cases h
      exact hlocate
    · cases h
    · cases h
  unfold locate at hlocate
  split at hlocate
  · cases hlocate
  · next hnul =>
    split at hlocate
    · cases hlocate
    · next hempty =>
      split at hlocate
      · cases hlocate
      · next hlong =>
        exact ⟨hnul, by simpa using hempty, Nat.le_of_not_lt hlong, hlocate⟩

/-- Where a path leads, the path of an entry is walked on with the links that are left. -/
theorem locate_join_walk {folder : Path} (hfolder : v.resolve true folder = .ok loc) {name : Bytes}
    (hname : IsName name) :
    ∃ left, ∀ follow, v.locate follow (folder.join name) =
      match pathRefusal? (folder.join name) with
      | some cause => .error cause
      | none => v.walk follow left loc [name] := by
  obtain ⟨_, hne, _, hwalk⟩ := walk_of_resolve hfolder
  obtain ⟨ps, hps, hfolderParts, hparts⟩ := parts_join hne hname
  have hgoal : ∃ left, ∀ follow,
      v.walk follow maxLinks (origin v.home folder) (ps ++ [name]) =
        v.walk follow left loc [name] := by
    rcases v.walk_append maxLinks (origin v.home folder) ps with
      ⟨l, left, harrives, hgoes⟩ | ⟨hfails, hgoes⟩
    · -- an empty part behind the folder, for a slash at its end, leads nowhere else
      have hloc : l = loc := by
        rcases hfolderParts with heq | heq
        · rw [heq, harrives] at hwalk
          cases hwalk
          rfl
        · rw [heq, hgoes true [[]] (by simp)] at hwalk
          cases walk_empty_part hwalk
          rfl
      exact ⟨left, fun follow => hloc ▸ hgoes follow [name] (by simp)⟩
    · rcases hfolderParts with heq | heq
      · rw [heq] at hwalk
        exact absurd hwalk (hfails loc)
      · obtain ⟨cause, herror⟩ := hgoes true [[]] (by simp)
        rw [heq, herror] at hwalk
        cases hwalk
  have hempty : ¬ (folder.join name).isEmpty = true := by
    rw [Path.join]
    split <;> simp [hne]
  obtain ⟨left, hleft⟩ := hgoal
  refine ⟨left, fun follow => ?_⟩
  rw [locate, pathRefusal?, if_neg hempty, origin_join hne, hparts, hleft]
  split
  · rfl
  · split <;> rfl

/-- The path of an entry leads to the entry. -/
theorem locate_join {folder : Path} (hfolder : v.resolve true folder = .ok loc) {name : Bytes}
    (hname : IsName name) {follow : Bool}
    (hlink : follow = true → ∀ target, v.tree.get? (loc ++ [name]) ≠ some (.link target)) :
    v.locate follow (folder.join name) =
      match pathRefusal? (folder.join name) with
      | some cause => .error cause
      | none => v.spotOf loc name := by
  obtain ⟨left, hlocate⟩ := locate_join_walk hfolder hname
  rw [hlocate, walk_name hname left loc hlink]

end View

end TwinFiles
