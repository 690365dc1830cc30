import Mathlib.Data.Multiset.Basic
import TwinFiles.Proofs.Group.Totals

/-!
# Grouping and the order of files

In another order files make up the same groups but for the order of groups and paths
(`groups_perm`), and the numbers about them stay (`sum_duplicateCount_perm`,
`sum_wastedSpace_perm`). Files in some order make up groups in that order: the paths of a group
(`paths_sublist`) and the first paths of the groups (`exists_firsts`) come as the files do.
-/

namespace TwinFiles

/-- The digest of a group and its paths, in no order. -/
def Group.unordered (g : Group) : Digest × Multiset Path :=
  (g.digest, (g.paths : Multiset Path))

namespace Grouping

variable {files files' : List HashedFile}

/-! ## Files in another order -/

theorem members_perm (h : files.Perm files') (d : Digest) :
    (members files d).Perm (members files' d) :=
  h.filter _

theorem keys_perm (h : files.Perm files') : keys files = keys files' :=
  List.toFinset_eq_of_perm _ _ (h.map _)

theorem digests_perm (h : files.Perm files') : (digests files).Perm (digests files') := by
  refine (List.perm_ext_iff_of_nodup (nodup_digests files) (nodup_digests files')).mpr fun d => ?_
  rw [← mem_keys, ← mem_keys, keys_perm h]

/-- The groups are those of the digests with two files at least. -/
theorem groups_eq_map (files : List HashedFile) :
    groups files =
      ((digests files).filter fun d => 1 < (members files d).length).map (group files) := by
  rw [groups, List.filter_map]
  congr 1
  apply List.filter_congr
  intro d _
  rw [Function.comp_apply, length_paths_group]

theorem unordered_group_perm (h : files.Perm files') (d : Digest) :
    (group files d).unordered = (group files' d).unordered :=
  Prod.ext rfl (Multiset.coe_eq_coe.mpr ((members_perm h d).map HashedFile.path))

/-- The groups are the same but for the order of groups and paths. -/
theorem groups_perm (h : files.Perm files') :
    ((groups files).map Group.unordered).Perm ((groups files').map Group.unordered) := by
  have hkept : (fun d => decide (1 < (members files d).length)) =
      fun d => decide (1 < (members files' d).length) := by
    funext d
    rw [(members_perm h d).length_eq]
  have hgroups : Group.unordered ∘ group files = Group.unordered ∘ group files' :=
    funext (unordered_group_perm h)
  rw [groups_eq_map, groups_eq_map, List.map_map, List.map_map, hkept, hgroups]
  exact ((digests_perm h).filter _).map _

theorem length_groups_perm (h : files.Perm files') :
    (groups files).length = (groups files').length := by
  simpa using (groups_perm h).length_eq

/-- There are as many copies. -/
theorem sum_duplicateCount_perm (h : files.Perm files') :
    ((groups files).map Group.duplicateCount).sum =
      ((groups files').map Group.duplicateCount).sum := by
  have hfiles := sum_duplicateCount files
  have hfiles' := sum_duplicateCount files'
  rw [keys_perm h, h.length_eq] at hfiles
  omega

/-- The copies take up as much, unless files with one digest differ in size. -/
theorem sum_wastedSpace_perm (h : files.Perm files') (hagree : SizesAgree files) :
    ((groups files).map Group.wastedSpace).sum = ((groups files').map Group.wastedSpace).sum := by
  have hagree' : SizesAgree files' := fun f hf g hg =>
    hagree f (h.mem_iff.mpr hf) g (h.mem_iff.mpr hg)
  -- whichever file comes first, it has the size of all
  have hsizes : ∑ d ∈ keys files, (group files d).size =
      ∑ d ∈ keys files', (group files' d).size := by
    rw [keys_perm h]
    apply Finset.sum_congr rfl
    intro d hd
    obtain ⟨f, hf, rfl⟩ := mem_digests.mp (mem_keys.mp hd)
    rw [size_group hagree (h.mem_iff.mpr hf), size_group hagree' hf]
  have hfiles := sum_wastedSpace hagree
  have hfiles' := sum_wastedSpace hagree'
  have htotal : (files.map HashedFile.size).sum = (files'.map HashedFile.size).sum :=
    (h.map HashedFile.size).sum_eq
  omega

/-! ## Groups in the order of the files -/

/-- The paths of a group come in the order of the files. -/
theorem paths_sublist {g : Group} (hg : g ∈ groups files) :
    g.paths.Sublist (files.map HashedFile.path) := by
  rw [groups_eq_map] at hg
  obtain ⟨d, _, rfl⟩ := List.mem_map.mp hg
  exact List.filter_sublist.map HashedFile.path

/-- The groups come in the order of their first files. -/
theorem exists_firsts (files : List HashedFile) :
    ∃ firsts : List HashedFile, firsts.Sublist files ∧
      (groups files).map (fun g => g.paths.head?) = firsts.map fun f => some f.path := by
  obtain ⟨firsts, hsublist, hdigests, hfirst⟩ := Appearance.exists_firsts HashedFile.digest files
  refine ⟨firsts.filter fun f => 1 < (members files f.digest).length,
    List.filter_sublist.trans hsublist, ?_⟩
  rw [groups_eq_map, digests, hdigests, List.filter_map, List.map_map, List.map_map]
  apply List.map_congr_left
  intro f hf
  show ((members files f.digest).map HashedFile.path).head? = some f.path
  rw [List.head?_map, members, hfirst f (List.mem_of_mem_filter hf)]
  rfl

end Grouping

end TwinFiles
