import TwinFiles.Tree.View

/-!
# Following the last link of a path

A lookup that follows the last link of a path and one that does not go the same way until that link:
where the first finds an item, the second finds the same item or a link (`item_follow_or_link`). The
names in a folder are different (`Tree.nodup_names`), and a name put behind a path can be read off
the result (`Path.join_injective`), so the paths of a folder's entries are different, too.
-/

namespace TwinFiles

/-! ## Names in a folder -/

namespace Tree

/-- An item is an entry of a folder when its location is that of the folder and a name. -/
theorem entry_iff (folder loc : Location) (item : Item) (entry : Bytes × Item) :
    (match loc.getLast? with
      | some name => if loc.dropLast = folder then some (name, item) else none
      | none => none) = some entry ↔ loc = folder ++ [entry.1] ∧ item = entry.2 := by
  obtain ⟨name, found⟩ := entry
  rcases List.eq_nil_or_concat loc with rfl | ⟨above, last, rfl⟩
  · simp
  · rw [List.concat_eq_append, List.getLast?_concat, List.dropLast_concat]
    simp only [Option.ite_none_right_eq_some, Option.some.injEq, Prod.mk.injEq,
      List.append_singleton_inj, and_assoc]

/-- The entries of a folder are the items one name below it. -/
theorem mem_entries (t : Tree) (folder : Location) (name : Bytes) (item : Item) :
    (name, item) ∈ t.entries folder ↔ (folder ++ [name], item) ∈ t.items := by
  rw [entries, List.mem_filterMap]
  constructor
  · rintro ⟨⟨loc, found⟩, hmem, h⟩
    obtain ⟨rfl, rfl⟩ := (entry_iff folder loc found _).mp h
    exact hmem
  · intro hmem
    exact ⟨_, hmem, (entry_iff folder _ item _).mpr ⟨rfl, rfl⟩⟩

/-- No folder holds two entries with one name. -/
theorem nodup_names (t : Tree) (folder : Location) :
    ((t.entries folder).map Prod.fst).Nodup := by
  have hlocations : t.items.Pairwise fun a b => a.1 ≠ b.1 := List.pairwise_map.mp t.nodup
  rw [entries, List.nodup_iff_pairwise_ne, List.pairwise_map, List.pairwise_filterMap]
  refine hlocations.imp ?_
  rintro ⟨loc, item⟩ ⟨loc', item'⟩ hne entry hentry entry' hentry' hname
  obtain ⟨rfl, rfl⟩ := (entry_iff folder loc item entry).mp hentry
  obtain ⟨rfl, rfl⟩ := (entry_iff folder loc' item' entry').mp hentry'
  exact hne (by rw [hname])

end Tree

/-- Different names lead to different paths. -/
theorem Path.join_injective (p : Path) {a b : Bytes} (h : p.join a = p.join b) : a = b := by
  unfold join at h
  split at h
  · exact List.append_cancel_left h
  · have htail := List.append_cancel_left h
    injection htail

namespace View

variable {v : View}

/-- An item that a path leads to stands at a location. -/
theorem resolve_of_item {follow : Bool} {p : Path} {found : Item}
    (h : v.item follow p = .ok found) :
    ∃ loc, v.resolve follow p = .ok loc ∧ v.tree.get? loc = some found := by
  unfold item at h
  split at h
  · next loc hresolve =>
    split at h
    · next found hfound =>
      cases h
      exact ⟨loc, hresolve, hfound⟩
    · cases h
  · cases h

/-! ## Links at the end of a path -/

/-- Up to the last part both ways of walking are the same. They part at a link in its place: it is
where the one arrives, and what the other goes on from. -/
theorem advance_follow_or_link (loc : Location) (ps : List Bytes) :
    v.advance false loc ps = v.advance true loc ps ∨
      ∃ l target, v.advance false loc ps = .arrived (.present l) ∧
        v.tree.get? l = some (.link target) := by
  induction ps generalizing loc with
  | nil => exact .inl rfl
  | cons part parts ih =>
    rw [advance, advance]
    by_cases hpart : part = []
    · rw [if_pos hpart, if_pos hpart]
      cases v.tree.get? loc with
      | none => exact .inl rfl
      | some item =>
        cases item with
        | folder access => exact ih loc
        | _ => exact .inl rfl
    · rw [if_neg hpart, if_neg hpart]
      cases v.searchRefusal? loc with
      | some cause => exact .inl rfl
      | none =>
        simp only
        split
        · exact ih loc
        · split
          · exact ih loc.dropLast
          · split
            · exact .inl rfl
            · cases hitem : v.tree.get? (loc ++ [part]) with
              | none => exact .inl rfl
              | some item =>
                cases item with
                | link target =>
                  by_cases hlast : parts.isEmpty
                  · exact .inr ⟨_, target, by simp [hlast], hitem⟩
                  · exact .inl (by simp [hlast])
                | _ => exact ih _

/-- Where a walk arrives, a walk that does not follow the last link arrives or stands at it. -/
theorem walk_follow_or_link {links : Nat} {loc : Location} {ps : List Bytes} {spot : Spot}
    (h : v.walk true links loc ps = .ok spot) :
    v.walk false links loc ps = .ok spot ∨
      ∃ l target, v.walk false links loc ps = .ok (.present l) ∧
        v.tree.get? l = some (.link target) := by
  induction links generalizing loc ps with
  | zero =>
    unfold walk at h ⊢
    rcases v.advance_follow_or_link loc ps with hsame | ⟨l, target, harrived, hlink⟩
    · rw [hsame]
      cases hadvance : v.advance true loc ps <;> rw [hadvance] at h
      case arrived spot' => exact .inl h
      case refused cause => cases h
      case link folder target left => cases h
    · rw [harrived]
      exact .inr ⟨l, target, rfl, hlink⟩
  | succ links ih =>
    unfold walk at h ⊢
    rcases v.advance_follow_or_link loc ps with hsame | ⟨l, target, harrived, hlink⟩
    · rw [hsame]
      cases hadvance : v.advance true loc ps <;> rw [hadvance] at h
      case arrived spot' => exact .inl h
      case refused cause => cases h
      case link folder target left => exact ih h
    · rw [harrived]
      exact .inr ⟨l, target, rfl, hlink⟩

/-- Where a lookup finds an item, one that does not follow the last link finds it or a link. -/
theorem item_follow_or_link {p : Path} {found : Item} (h : v.item true p = .ok found) :
    v.item false p = .ok found ∨ ∃ target, v.item false p = .ok (.link target) := by
  unfold item resolve locate at h ⊢
  by_cases hnul : Ascii.nul ∈ p
  · rw [if_pos hnul] at h
    cases h
  rw [if_neg hnul] at h ⊢
  by_cases hempty : p.isEmpty
  · rw [if_pos hempty] at h
    cases h
  rw [if_neg hempty] at h ⊢
  by_cases hlong : maxPath < p.length
  · rw [if_pos hlong] at h
    cases h
  rw [if_neg hlong] at h ⊢
  cases hwalk : v.walk true maxLinks (origin v.home p) (parts p) with
  | error cause =>
    rw [hwalk] at h
    cases h
  | ok spot =>
    rw [hwalk] at h
    rcases walk_follow_or_link hwalk with hsame | ⟨l, target, harrived, hlink⟩
    · rw [hsame]
      exact .inl h
    · rw [harrived]
      simp only [hlink]
      exact .inr ⟨target, rfl⟩

end View

end TwinFiles
