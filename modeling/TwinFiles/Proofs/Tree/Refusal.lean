import TwinFiles.Proofs.Text.Utf8
import TwinFiles.Proofs.Tree.Steps

/-!
# Why a path cannot be read

Looking up a path and reading what it leads to fail for seven reasons only (`mem_readCauses`): one
part of a path is refused for one of them, or goes on, or ends the walk (`advance_cons_cases`). Their
texts are UTF-8 and hold no newline.
-/

namespace TwinFiles

namespace View

/-- The causes that looking up a path and reading can fail with. -/
def readCauses : List Cause :=
  [.noEntry, .accessDenied, .notFolder, .isFolder, .nameTooLong, .tooManyLinks, .nulInName]

theorem valid_text_of_mem_readCauses {cause : Cause} (h : cause ∈ readCauses) :
    Utf8.Valid cause.text := by
  revert cause
  decide +kernel

theorem newline_notMem_of_mem_readCauses {cause : Cause} (h : cause ∈ readCauses) :
    Ascii.newline ∉ cause.text := by
  revert cause
  decide +kernel

variable {v : View}

theorem searchRefusal_mem {loc : Location} {cause : Cause}
    (h : v.searchRefusal? loc = some cause) : cause ∈ readCauses := by
  unfold searchRefusal? at h
  split at h
  · split at h
    · cases h
    · cases h
      decide
  · cases h
    decide
  · cases h
    decide

/-- A folder that may be searched is one. -/
theorem isFolder_of_searchRefusal? {loc : Location} (h : v.searchRefusal? loc = none) :
    ∃ access, v.tree.get? loc = some (.folder access) := by
  unfold searchRefusal? at h
  split at h
  · next access hget => exact ⟨access, hget⟩
  · cases h
  · cases h

/-- What one part does to a walk: it is walked, or the walk ends with an error, at a free name or at
a link. -/
theorem advance_cons_cases (follow : Bool) (loc : Location) (part : Bytes) (parts : List Bytes) :
    (∃ l, v.advance follow loc (part :: parts) = v.advance follow l parts) ∨
      (∃ cause ∈ readCauses, v.advance follow loc (part :: parts) = .refused cause) ∨
      (v.advance follow loc (part :: parts) = .arrived (.vacant (loc ++ [part])) ∧
        v.tree.get? (loc ++ [part]) = none ∧
        (∃ access, v.tree.get? loc = some (.folder access)) ∧
        part ≠ [] ∧ part ≠ [Ascii.dot] ∧ part ≠ [Ascii.dot, Ascii.dot]) ∨
      v.advance follow loc (part :: parts) = .arrived (.present (loc ++ [part])) ∨
      ∃ target, v.advance follow loc (part :: parts) = .link loc target parts := by
  rw [advance]
  by_cases hpart : part = []
  · rw [if_pos hpart]
    cases v.tree.get? loc with
    | none => exact .inr (.inl ⟨_, by decide, rfl⟩)
    | some item =>
      cases item with
      | folder access => exact .inl ⟨loc, rfl⟩
      | _ => exact .inr (.inl ⟨_, by decide, rfl⟩)
  · rw [if_neg hpart]
    cases hsearch : v.searchRefusal? loc with
    | some cause => exact .inr (.inl ⟨_, searchRefusal_mem hsearch, rfl⟩)
    | none =>
      simp only
      by_cases hdot : part = [Ascii.dot]
      · rw [if_pos hdot]
        exact .inl ⟨loc, rfl⟩
      · rw [if_neg hdot]
        by_cases hdots : part = [Ascii.dot, Ascii.dot]
        · rw [if_pos hdots]
          exact .inl ⟨loc.dropLast, rfl⟩
        · rw [if_neg hdots]
          split
          · exact .inr (.inl ⟨_, by decide, rfl⟩)
          · split
            · next hnone =>
              split
              · exact .inr (.inr (.inl ⟨rfl, hnone, isFolder_of_searchRefusal? hsearch, hpart, hdot,
                  hdots⟩))
              · exact .inr (.inl ⟨_, by decide, rfl⟩)
            · split
              · exact .inr (.inr (.inr (.inl rfl)))
              · exact .inr (.inr (.inr (.inr ⟨_, rfl⟩)))
            · exact .inl ⟨_, rfl⟩

/-- Reading fails with one of these causes. -/
theorem mem_readCauses {p : Path} {cause : Cause} (h : v.read p = .error cause) :
    cause ∈ readCauses := by
  unfold read at h
  split at h
  · next hcause =>
    cases h
    have hlookup : ∀ cause ∈ lookupCauses, cause ∈ readCauses := by decide
    exact hlookup _ (item_eq_error_iff.mp hcause).mem_lookupCauses
  · split at h
    · split at h
      · cases h
      · cases h
      · cases h
        decide
      · cases h
    · cases h
      decide

end View

end TwinFiles
