import Mathlib.Control.Monad.Basic
import TwinFiles.Proofs.Tree.Entry

/-!
# Spellings of a folder

A folder can be given by many paths. Behind each of them a name leads to the same
(`resolve_join_eq`), as far as the limits of the system allow: the longer spelling may be too long,
and one that goes through links leaves fewer of them to follow (`walk_of_more`).
-/

namespace TwinFiles.View

variable {v : View}

/-- Links that are left over change nothing. -/
theorem walk_of_more {follow : Bool} {links more : Nat} {loc : Location} {ps : List Bytes}
    (h : v.walk follow links loc ps ≠ .error .tooManyLinks) (hmore : links ≤ more) :
    v.walk follow more loc ps = v.walk follow links loc ps := by
  induction links generalizing more loc ps with
  | zero =>
    cases hadvance : v.advance follow loc ps with
    | arrived spot => rw [walk_of_arrived hadvance, walk_of_arrived hadvance]
    | refused cause => rw [walk_of_refused hadvance, walk_of_refused hadvance]
    | link folder target left => exact absurd (walk_zero_of_link hadvance) h
  | succ links ih =>
    obtain ⟨more, rfl⟩ := Nat.exists_eq_add_of_lt (Nat.lt_of_lt_of_le links.lt_succ_self hmore)
    cases hadvance : v.advance follow loc ps with
    | arrived spot => rw [walk_of_arrived hadvance, walk_of_arrived hadvance]
    | refused cause => rw [walk_of_refused hadvance, walk_of_refused hadvance]
    | link folder target left =>
      rw [walk_succ_of_link hadvance] at h
      rw [walk_succ_of_link hadvance, walk_succ_of_link hadvance]
      exact ih h (Nat.le_add_right links more)

/-- A name behind either of two paths meets the limits of the system alike. That is so if both paths
are short enough and no walk follows too many links. -/
structure LimitsAlike (v : View) (p q : Path) (name : Bytes) : Prop where
  length : maxPath < (p.join name).length ↔ maxPath < (q.join name).length
  links : v.resolve true (p.join name) = .error .tooManyLinks ↔
    v.resolve true (q.join name) = .error .tooManyLinks

instance (v : View) (p q : Path) (name : Bytes) : Decidable (v.LimitsAlike p q name) :=
  decidable_of_iff
    ((maxPath < (p.join name).length ↔ maxPath < (q.join name).length) ∧
      (v.resolve true (p.join name) = .error .tooManyLinks ↔
        v.resolve true (q.join name) = .error .tooManyLinks))
    ⟨fun ⟨hlength, hlinks⟩ => ⟨hlength, hlinks⟩, fun ⟨hlength, hlinks⟩ => ⟨hlength, hlinks⟩⟩

/-- The only byte that comes between a path and a name is a slash. -/
theorem nul_mem_join {p : Path} (hp : Ascii.nul ∉ p) (name : Bytes) :
    Ascii.nul ∈ p.join name ↔ Ascii.nul ∈ name := by
  have hslash : Ascii.nul ≠ Ascii.slash := by decide
  rw [Path.join]
  split
  · simp [hp]
  · simp [hp, hslash]

theorem pathRefusal?_join_eq {p q : Path} (hp : Ascii.nul ∉ p) (hq : Ascii.nul ∉ q) {name : Bytes}
    (hlength : maxPath < (p.join name).length ↔ maxPath < (q.join name).length) :
    pathRefusal? (p.join name) = pathRefusal? (q.join name) := by
  simp only [pathRefusal?, nul_mem_join hp, nul_mem_join hq, hlength]

theorem resolve_of_locate_error {follow : Bool} {p : Path} {cause : Cause}
    (h : v.locate follow p = .error cause) : v.resolve follow p = .error cause := by
  rw [resolve, h]

section Folder

variable {p q : Path} {loc : Location} {name : Bytes} (hp : v.resolve true p = .ok loc)
  (hq : v.resolve true q = .ok loc) (hname : IsName name) (h : v.LimitsAlike p q name)
include hp hq hname h

/-- Behind all spellings of a folder a name leads to the same. -/
theorem resolve_join_eq : v.resolve true (p.join name) = v.resolve true (q.join name) := by
  by_cases hmany : v.resolve true (p.join name) = .error .tooManyLinks
  · rw [hmany, h.links.mp hmany]
  · have hmany' : v.resolve true (q.join name) ≠ .error .tooManyLinks := mt h.links.mpr hmany
    obtain ⟨left, hlocate⟩ := locate_join_walk hp hname
    obtain ⟨left', hlocate'⟩ := locate_join_walk hq hname
    have hrefusal := pathRefusal?_join_eq (walk_of_resolve hp).1 (walk_of_resolve hq).1 h.length
    have hsame : v.locate true (p.join name) = v.locate true (q.join name) := by
      specialize hlocate true
      specialize hlocate' true
      rw [hrefusal] at hlocate
      cases hnone : pathRefusal? (q.join name) with
      | some cause =>
        rw [hnone] at hlocate hlocate'
        exact hlocate.trans hlocate'.symm
      | none =>
        rw [hnone] at hlocate hlocate'
        simp only at hlocate hlocate'
        -- neither walk runs out of links, so the one with more of them arrives where the other does
        have henough : v.walk true left loc [name] ≠ .error .tooManyLinks := fun herror =>
          hmany (resolve_of_locate_error (hlocate.trans herror))
        have henough' : v.walk true left' loc [name] ≠ .error .tooManyLinks := fun herror =>
          hmany' (resolve_of_locate_error (hlocate'.trans herror))
        rw [hlocate, hlocate']
        rcases Nat.le_total left left' with hle | hle
        · exact (walk_of_more henough hle).symm
        · exact walk_of_more henough' hle
    rw [resolve, resolve, hsame]

theorem item_join_eq : v.item true (p.join name) = v.item true (q.join name) := by
  rw [item, item, resolve_join_eq hp hq hname h]

end Folder

end TwinFiles.View
