import Mathlib.Data.List.Perm.Basic
import TwinFiles.Proofs.Tree.WellFormed
import TwinFiles.Tree.View

/-!
# Views that agree

Where a path leads depends on what stands at each location, on the working folder and on the rights
of the process, and on nothing else of a view: views that agree on these read every path alike
(`Agrees.read`). In which order items were put into a tree shows only in the order of a listing
(`Reordered.list`).
-/

namespace TwinFiles.View

/-! ## Rights -/

section Rights

variable {v v' : View} (hprivileged : v'.privileged = v.privileged)
include hprivileged

theorem mayRead_congr (access : Access) : v'.mayRead access = v.mayRead access := by
  rw [mayRead, mayRead, hprivileged]

theorem searchRefusal?_congr {loc : Location} (hget : v'.tree.get? loc = v.tree.get? loc) :
    v'.searchRefusal? loc = v.searchRefusal? loc := by
  have hsearch (access : Access) : v'.maySearch access = v.maySearch access := by
    rw [maySearch, maySearch, hprivileged]
  simp only [searchRefusal?, hget, hsearch]

end Rights

/-! ## Looking up paths -/

/-- Two views agree on what stands where, and see it from one folder with the same rights. -/
structure Agrees (v v' : View) : Prop where
  get? : ∀ loc, v'.tree.get? loc = v.tree.get? loc
  home : v'.home = v.home
  privileged : v'.privileged = v.privileged

namespace Agrees

variable {v v' : View} (h : v.Agrees v')
include h

theorem advance (follow : Bool) (loc : Location) (ps : List Bytes) :
    v'.advance follow loc ps = v.advance follow loc ps := by
  induction ps generalizing loc with
  | nil => rfl
  | cons part parts ih =>
    simp only [View.advance, h.get?, searchRefusal?_congr h.privileged (h.get? loc), ih]

theorem walk (follow : Bool) (links : Nat) (loc : Location) (ps : List Bytes) :
    v'.walk follow links loc ps = v.walk follow links loc ps := by
  induction links generalizing loc ps with
  | zero =>
    unfold View.walk
    rw [h.advance]
    cases v.advance follow loc ps <;> rfl
  | succ links ih =>
    unfold View.walk
    rw [h.advance]
    cases v.advance follow loc ps with
    | link folder target left => exact ih _ _
    | _ => rfl

theorem resolve (follow : Bool) (p : Path) : v'.resolve follow p = v.resolve follow p := by
  simp only [View.resolve, locate, h.home, h.walk]

theorem item (follow : Bool) (p : Path) : v'.item follow p = v.item follow p := by
  simp only [View.item, h.resolve, h.get?]

theorem isFile (p : Path) : v'.isFile p = v.isFile p := by
  simp only [View.isFile, h.item]

/-- A path reads alike. -/
theorem read (p : Path) : v'.read p = v.read p := by
  simp only [View.read, h.item, mayRead_congr h.privileged]

end Agrees

/-! ## Trees with their items in another order -/

/-- Two views of one file system that lists its folders in different orders. -/
structure Reordered (v v' : View) : Prop where
  items : v.tree.items.Perm v'.tree.items
  home : v'.home = v.home
  privileged : v'.privileged = v.privileged

namespace Reordered

variable {v v' : View} (h : v.Reordered v')
include h

theorem agrees : v.Agrees v' where
  home := h.home
  privileged := h.privileged
  get? := by
    intro loc
    by_cases hloc : loc = []
    · subst hloc
      rfl
    · apply Option.ext
      intro item
      rw [Tree.get?_eq_some_iff hloc, Tree.get?_eq_some_iff hloc, h.items.mem_iff]

theorem entries (loc : Location) : (v.tree.entries loc).Perm (v'.tree.entries loc) :=
  h.items.filterMap _

/-- A path is listed in both, in some order each. -/
theorem list {p : Path} {listing : List (Bytes × Kind)} (hlisting : v.list p = .ok listing) :
    ∃ listing', v'.list p = .ok listing' ∧ listing.Perm listing' := by
  unfold View.list at hlisting ⊢
  rw [h.agrees.resolve]
  split at hlisting
  · cases hlisting
  · next loc hresolve =>
    rw [h.agrees.get?]
    split at hlisting
    · next access hfolder =>
      split at hlisting
      · next hread =>
        cases hlisting
        simp only [mayRead_congr h.privileged, hread, if_true]
        exact ⟨_, rfl, (h.entries loc).map _⟩
      · cases hlisting
    · cases hlisting
    · cases hlisting

end Reordered

end TwinFiles.View
