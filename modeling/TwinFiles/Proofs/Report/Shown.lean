import TwinFiles.Group.Basic
import TwinFiles.Proofs.Text.Hex

/-!
# What a report shows of groups

Reports name paths by their text, so what can be read off a report is a `ShownGroup`: the group with
its paths as text. Where all paths are UTF-8 that is the group itself (`Group.eq_of_shown_eq`).
-/

namespace TwinFiles

/-- A group as a report shows it. -/
structure ShownGroup where
  digest : Digest
  size : Nat
  files : List Bytes
  deriving DecidableEq

/-- What a report shows of a group. -/
def Group.shown (g : Group) : ShownGroup :=
  ⟨g.digest, g.size, g.paths.map Path.display⟩

/-- The group that has the shown files as its paths. -/
def ShownGroup.group (s : ShownGroup) : Group :=
  ⟨s.digest, s.size, s.files⟩

/-- A report shows groups as they are if their paths are UTF-8. -/
theorem Group.group_shown {g : Group} (h : ∀ p ∈ g.paths, Utf8.Valid p) : g.shown.group = g := by
  have hdisplay : ∀ p ∈ g.paths, Path.display p = p := fun p hp => Utf8.lossy_of_valid (h p hp)
  rw [shown, ShownGroup.group, List.map_congr_left hdisplay, List.map_id']

theorem Group.map_group_shown {groups : List Group}
    (h : ∀ g ∈ groups, ∀ p ∈ g.paths, Utf8.Valid p) :
    (groups.map Group.shown).map ShownGroup.group = groups := by
  have hgroup : ∀ g ∈ groups, (ShownGroup.group ∘ Group.shown) g = g :=
    fun g hg => Group.group_shown (h g hg)
  rw [List.map_map, List.map_congr_left hgroup, List.map_id']

/-- A list is read item by item if each of its items can be read. -/
theorem mapM_map_some {α β γ : Type} {write : α → β} {read : β → Option γ} {shown : α → γ}
    (h : ∀ a, read (write a) = some (shown a)) (l : List α) :
    (l.map write).mapM read = some (l.map shown) := by
  induction l with
  | nil => rfl
  | cons a l ih =>
    rw [List.map_cons, List.mapM_cons, h, ih]
    rfl

/-- Reading a list depends on how its items are read alone. -/
theorem mapM_congr {α β : Type} {read read' : α → Option β} {l : List α}
    (h : ∀ a ∈ l, read a = read' a) : l.mapM read = l.mapM read' := by
  induction l with
  | nil => rfl
  | cons a l ih =>
    rw [List.mapM_cons, List.mapM_cons, h a List.mem_cons_self,
      ih fun b hb => h b (List.mem_cons_of_mem _ hb)]

end TwinFiles
