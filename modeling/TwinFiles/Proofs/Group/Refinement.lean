import TwinFiles.Proofs.Group.Totals

/-!
# Buckets and their index

What a run of insertions leaves behind, in terms of the files that were inserted and of nothing else
(`refines_grouping`). The index and the slots never get out of step, so a lookup always leads to a
slot that is there; no slot is without a path; and the slots share out the paths of all files.
-/

namespace TwinFiles

namespace Buckets

open Grouping

variable {b : Buckets} {files : List HashedFile}

/-- The index leads to a slot exactly if that slot is there and has the digest. -/
theorem Holds.lookup_iff (h : b.Holds files) (d : Digest) (slot : Nat) :
    b.index.lookup d = some slot ↔ ∃ g, b.slots[slot]? = some g ∧ g.digest = d := by
  rw [h.index, h.slots, List.getElem?_map]
  constructor
  · intro hd
    exact ⟨group files d, by rw [hd]; rfl, rfl⟩
  · rintro ⟨g, hg, rfl⟩
    obtain ⟨d, hd, rfl⟩ := Option.map_eq_some_iff.mp hg
    exact hd

/-- The index knows the digests of the files. -/
theorem Holds.isSome_lookup_iff (h : b.Holds files) (d : Digest) :
    (b.index.lookup d).isSome = true ↔ ∃ f ∈ files, f.digest = d := by
  rw [← mem_digests, Option.isSome_iff_ne_none, ne_eq, h.lookup_eq_none_iff, not_not]

/-- A slot holds the paths of the files with its digest, and of no others. -/
theorem Holds.paths_of_mem (h : b.Holds files) {g : Group} (hg : g ∈ b.slots) :
    g.paths = (files.filter fun f => f.digest = g.digest).map HashedFile.path ∧ g.paths ≠ [] := by
  rw [h.slots] at hg
  obtain ⟨d, hd, rfl⟩ := List.mem_map.mp hg
  refine ⟨rfl, ?_⟩
  intro hnil
  exact members_ne_nil hd (List.map_eq_nil_iff.mp hnil)

theorem Holds.size_eq (h : b.Holds files) : b.size = (keys files).card := by
  rw [size, h.length_slots, ← toFinset_digests, List.toFinset_card_of_nodup (nodup_digests files)]

theorem Holds.isEmpty_iff (h : b.Holds files) : b.isEmpty = true ↔ files = [] := by
  rw [isEmpty, h.slots, List.isEmpty_iff, List.map_eq_nil_iff]
  constructor
  · intro hnone
    rw [List.eq_nil_iff_forall_not_mem]
    intro f hf
    have hd : f.digest ∈ digests files := mem_digests.mpr ⟨f, hf, rfl⟩
    simp [hnone] at hd
  · rintro rfl
    rfl

/-- The slots share out the paths of the files. -/
theorem Holds.flatMap_paths_perm (h : b.Holds files) :
    (b.slots.flatMap Group.paths).Perm (files.map HashedFile.path) := by
  have hshared := Appearance.flatMap_fibres_perm HashedFile.digest (nodup_digests files)
    fun f hf => mem_digests.mpr ⟨f, hf, rfl⟩
  rw [h.slots, List.flatMap_map]
  have hpaths := hshared.map HashedFile.path
  rwa [List.map_flatMap] at hpaths

/-- The groups are those of the digests that were inserted twice at least. -/
theorem groups_eq_of_count (files : List HashedFile) :
    (ofFiles files).groups =
      ((digests files).filter fun d => 2 ≤ (files.map HashedFile.digest).count d).map
        (group files) := by
  rw [groups_ofFiles, Grouping.groups, List.filter_map]
  congr 1
  apply List.filter_congr
  intro d _
  rw [Function.comp_apply, length_paths_group, length_members]
  rfl

/-- Buckets are plain grouping. After any insertions the index leads from each digest that was
inserted to the one slot that has it, and from no other digest anywhere; every slot holds the paths
that were inserted with its digest, in that order, and at least one; there are as many slots as
digests, and none if nothing was inserted; and the groups are those of the digests that were
inserted twice at least, in the order in which they came up, each with the size of its first
file. -/
theorem refines_grouping (files : List HashedFile) :
    (∀ d slot, (ofFiles files).index.lookup d = some slot ↔
      ∃ g, (ofFiles files).slots[slot]? = some g ∧ g.digest = d) ∧
    (∀ d, ((ofFiles files).index.lookup d).isSome = true ↔ ∃ f ∈ files, f.digest = d) ∧
    (∀ g ∈ (ofFiles files).slots,
      g.paths = (files.filter fun f => f.digest = g.digest).map HashedFile.path ∧ g.paths ≠ []) ∧
    (ofFiles files).size = (files.map HashedFile.digest).toFinset.card ∧
    ((ofFiles files).isEmpty = true ↔ files = []) ∧
    (ofFiles files).groups =
      ((files.map HashedFile.digest).eraseDups.filter fun d =>
        2 ≤ (files.map HashedFile.digest).count d).map (group files) ∧
    ((ofFiles files).slots.flatMap Group.paths).Perm (files.map HashedFile.path) := by
  have h := ofFiles_holds files
  exact ⟨h.lookup_iff, h.isSome_lookup_iff, fun g hg => h.paths_of_mem hg, h.size_eq,
    h.isEmpty_iff, groups_eq_of_count files, h.flatMap_paths_perm⟩

end Buckets

end TwinFiles
