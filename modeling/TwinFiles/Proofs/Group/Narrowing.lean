import Mathlib.Data.List.Nodup
import TwinFiles.Proofs.Group.Order

/-!
# Leaving out files

What becomes of the groups when files are left out: a group loses the paths of these files, it is no
group any more if fewer than two are left, and as another path may come first then, the groups may
come in another order. `groups_passing` says that this is all: the groups of the files that are left
are those of all files, thinned (`thinned`) and put in the order of their first paths (`byFirst`).
-/

namespace TwinFiles

/-- The digest and the paths of a group, without its size. -/
def Group.unsized (g : Group) : Digest × List Path :=
  (g.digest, g.paths)

/-- A group without the paths that fail a test. -/
def Group.thin (keep : Path → Bool) (g : Group) : Group :=
  { g with paths := g.paths.filter keep }

namespace Grouping

/-- Groups without the paths that fail a test, as far as two paths are left. -/
def thinned (keep : Path → Bool) (groups : List Group) : List Group :=
  (groups.map (Group.thin keep)).filter fun g => 1 < g.paths.length

/-- Where the first path of a group stands among given paths. -/
def rank (order : List Path) (g : Group) : Nat :=
  (order.map some).idxOf g.paths.head?

/-- Groups in the order of their first paths. -/
def byFirst (order : List Path) (groups : List Group) : List Group :=
  groups.mergeSort fun a b => rank order a ≤ rank order b

variable {order : List Path} {groups groups' : List Group}

/-! ## Order -/

theorem byFirst_perm (order : List Path) (groups : List Group) :
    (byFirst order groups).Perm groups :=
  List.mergeSort_perm groups _

theorem pairwise_byFirst (order : List Path) (groups : List Group) :
    (byFirst order groups).Pairwise fun a b => rank order a ≤ rank order b := by
  have h : (byFirst order groups).Pairwise fun a b =>
      decide (rank order a ≤ rank order b) = true := by
    apply List.pairwise_mergeSort
    · exact fun a b c hab hbc =>
        decide_eq_true (Nat.le_trans (of_decide_eq_true hab) (of_decide_eq_true hbc))
    · intro a b
      simp [Nat.le_total]
  exact h.imp of_decide_eq_true

/-- There is one order in which first paths come as given. -/
theorem eq_byFirst (hperm : groups.Perm groups')
    (hranks : groups.Pairwise fun a b => rank order a < rank order b) :
    groups = byFirst order groups' := by
  have hnodup : (groups.map (rank order)).Nodup :=
    List.pairwise_map.mpr (hranks.imp Nat.ne_of_lt)
  refine (hperm.trans (byFirst_perm order groups').symm).eq_of_pairwise ?_
    (hranks.imp Nat.le_of_lt) (pairwise_byFirst order groups')
  intro a b ha hb hab hba
  have hb' : b ∈ groups := hperm.mem_iff.mpr ((byFirst_perm order groups').mem_iff.mp hb)
  exact List.inj_on_of_nodup_map hnodup ha hb' (Nat.le_antisymm hab hba)

/-- Whatever leaves the paths as they are leaves the order as it is. -/
theorem byFirst_map {f : Group → Group} (hf : ∀ g ∈ groups, (f g).paths = g.paths) :
    byFirst order (groups.map f) = (byFirst order groups).map f := by
  rw [byFirst, byFirst, List.map_mergeSort]
  intro a ha b hb
  rw [rank, rank, rank, rank, hf a ha, hf b hb]

/-- Paths that come in the order of others have increasing places among them. -/
theorem pairwise_idxOf_of_sublist {α : Type} [BEq α] [LawfulBEq α] {some order : List α}
    (horder : order.Nodup) (h : some.Sublist order) :
    some.Pairwise fun a b => order.idxOf a < order.idxOf b := by
  have hself : order.Pairwise fun a b => order.idxOf a < order.idxOf b := by
    rw [List.pairwise_iff_getElem]
    intro i j hi hj hij
    rw [horder.idxOf_getElem i hi, horder.idxOf_getElem j hj]
    exact hij
  exact hself.sublist h

variable {files : List HashedFile}

/-- Groups of files have their first paths in the order of the files. -/
theorem pairwise_rank_groups (horder : order.Nodup)
    (hfiles : (files.map HashedFile.path).Sublist order) :
    (Grouping.groups files).Pairwise fun a b => rank order a < rank order b := by
  obtain ⟨firsts, hsublist, hfirsts⟩ := exists_firsts files
  have hheads : ((Grouping.groups files).map fun g => g.paths.head?).Sublist (order.map some) := by
    rw [hfirsts, show (fun f : HashedFile => some f.path) = some ∘ HashedFile.path from rfl,
      ← List.map_map]
    exact ((hsublist.map HashedFile.path).trans hfiles).map some
  have hnodup : (order.map some).Nodup := horder.map (Option.some_injective Path)
  have hplaces := pairwise_idxOf_of_sublist hnodup hheads
  rw [List.pairwise_map] at hplaces
  exact hplaces

/-! ## Files that are left -/

/-- The files whose paths pass a test. -/
def passing (keep : Path → Bool) (files : List HashedFile) : List HashedFile :=
  files.filter fun f => keep f.path

variable {keep : Path → Bool}

theorem members_passing (d : Digest) :
    members (passing keep files) d = (members files d).filter fun f => keep f.path := by
  rw [members, passing, List.filter_comm]
  rfl

/-- The paths that are left in a group are those of the files that are left. -/
theorem paths_group_passing (d : Digest) :
    (group (passing keep files) d).paths = (group files d).paths.filter keep := by
  show (members (passing keep files) d).map HashedFile.path =
    ((members files d).map HashedFile.path).filter keep
  rw [members_passing, List.filter_map]
  rfl

/-- The digests that two of the files share that are left, in either order of appearance. -/
theorem digests_passing_perm :
    ((digests (passing keep files)).filter fun d =>
        1 < (members (passing keep files) d).length).Perm
      ((digests files).filter fun d => 1 < (members (passing keep files) d).length) := by
  refine (List.perm_ext_iff_of_nodup ((nodup_digests _).filter _) ((nodup_digests _).filter _)).mpr
    fun d => ?_
  rw [List.mem_filter, List.mem_filter, decide_eq_true_iff]
  refine and_congr_left fun hlength => ?_
  -- a digest that is shared has a file that is left
  obtain ⟨f, hf⟩ := List.exists_mem_of_length_pos (Nat.lt_trans Nat.zero_lt_one hlength)
  obtain ⟨hpassing, hdigest⟩ := List.mem_filter.mp hf
  have hfile : f ∈ files := List.mem_of_mem_filter hpassing
  exact iff_of_true (mem_digests.mpr ⟨f, hpassing, of_decide_eq_true hdigest⟩)
    (mem_digests.mpr ⟨f, hfile, of_decide_eq_true hdigest⟩)

/-- Thinned groups are made of the digests that two of the files share that are left. -/
theorem thinned_groups :
    thinned keep (Grouping.groups files) =
      ((digests files).filter fun d => 1 < (members (passing keep files) d).length).map fun d =>
        (group files d).thin keep := by
  rw [thinned, groups_eq_map, List.map_map, List.filter_map, List.filter_filter]
  congr 1
  apply List.filter_congr
  intro d _
  have hlength : ((group files d).thin keep).paths.length =
      (members (passing keep files) d).length := by
    rw [Group.thin, ← paths_group_passing, length_paths_group]
  have hle : (members (passing keep files) d).length ≤ (members files d).length := by
    rw [members_passing]
    exact List.length_filter_le _ _
  simp only [Function.comp_apply, hlength]
  by_cases hshared : 1 < (members (passing keep files) d).length
  · simp [hshared, Nat.lt_of_lt_of_le hshared hle]
  · simp [hshared]

/-- The groups of the files that are left are those of all files, thinned, in the order of their
first paths, and each with the size of its first file. -/
theorem groups_passing (horder : order.Nodup)
    (hfiles : (files.map HashedFile.path).Sublist order) :
    Grouping.groups (passing keep files) =
      (byFirst order (thinned keep (Grouping.groups files))).map fun g =>
        group (passing keep files) g.digest := by
  have hpaths : ∀ g ∈ thinned keep (Grouping.groups files),
      (group (passing keep files) g.digest).paths = g.paths := by
    intro g hg
    rw [thinned_groups] at hg
    obtain ⟨d, _, rfl⟩ := List.mem_map.mp hg
    exact paths_group_passing d
  rw [← byFirst_map hpaths]
  apply eq_byFirst
  · rw [thinned_groups, List.map_map, groups_eq_map]
    exact digests_passing_perm.map _
  · exact pairwise_rank_groups horder ((List.filter_sublist.map _).trans hfiles)

/-- Groups are what is left of others without the paths that fail a test, in the order of their
first paths. -/
structure LeftOf (hashed : List HashedFile) (order : List Path) (keep : Path → Bool)
    (wide narrow : List Group) : Prop where
  shared : narrow.map Group.unsized = (byFirst order (thinned keep wide)).map Group.unsized
  /-- A group has the size of its first file. -/
  sized : SizesAgree hashed → narrow = byFirst order (thinned keep wide)

/-- So leaving out files leaves out their paths. -/
theorem leftOf_groups (horder : order.Nodup)
    (hfiles : (files.map HashedFile.path).Sublist order) :
    LeftOf files order keep (Grouping.groups files) (Grouping.groups (passing keep files)) := by
  have hmem : ∀ g ∈ byFirst order (thinned keep (Grouping.groups files)),
      ∃ d ∈ digests files, 1 < (members (passing keep files) d).length ∧
        g = (group files d).thin keep := by
    intro g hg
    rw [(byFirst_perm order _).mem_iff, thinned_groups] at hg
    obtain ⟨d, hd, rfl⟩ := List.mem_map.mp hg
    obtain ⟨hdigest, hshared⟩ := List.mem_filter.mp hd
    exact ⟨d, hdigest, of_decide_eq_true hshared, rfl⟩
  constructor
  · rw [groups_passing horder hfiles, List.map_map]
    apply List.map_congr_left
    intro g hg
    obtain ⟨d, _, _, rfl⟩ := hmem g hg
    exact Prod.ext rfl (paths_group_passing d)
  · intro hagree
    rw [groups_passing horder hfiles]
    refine (List.map_congr_left fun g hg => ?_).trans (List.map_id _)
    obtain ⟨d, _, hshared, rfl⟩ := hmem g hg
    -- any file that is left tells the size of its digest, with the others and without them
    obtain ⟨f, hf⟩ := List.exists_mem_of_length_pos (Nat.lt_trans Nat.zero_lt_one hshared)
    obtain ⟨hpassing, hdigest⟩ := List.mem_filter.mp hf
    have hfile : f ∈ files := List.mem_of_mem_filter hpassing
    have hagree' : SizesAgree (passing keep files) := fun a ha b hb =>
      hagree a (List.mem_of_mem_filter ha) b (List.mem_of_mem_filter hb)
    have hsize : (group (passing keep files) d).size = (group files d).size := by
      rw [← of_decide_eq_true hdigest, size_group hagree' hpassing, size_group hagree hfile]
    show group (passing keep files) d = (group files d).thin keep
    rw [Group.thin, ← paths_group_passing, ← hsize]
    rfl

end Grouping

end TwinFiles
