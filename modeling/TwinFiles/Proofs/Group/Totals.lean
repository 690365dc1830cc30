import TwinFiles.Proofs.Group.Buckets

/-!
# Totals over groups

Numbers about groups are sums over the groups that were kept. A digest of a single file adds nothing
to a count of copies, so these sums run over all digests, and with one copy of each digest they come
to the files that were grouped (`sum_duplicateCount`, `sum_wastedSpace`).
-/

namespace TwinFiles.Grouping

/-- The digests of files. -/
def keys (files : List HashedFile) : Finset Digest :=
  (files.map HashedFile.digest).toFinset

/-- Files with one digest have one size. -/
def SizesAgree (files : List HashedFile) : Prop :=
  ∀ f ∈ files, ∀ g ∈ files, f.digest = g.digest → f.size = g.size

variable {files : List HashedFile} {d : Digest}

theorem toFinset_digests (files : List HashedFile) : (digests files).toFinset = keys files :=
  Appearance.toFinset_eraseDups _

theorem mem_keys : d ∈ keys files ↔ d ∈ digests files := by
  rw [← toFinset_digests, List.mem_toFinset]

theorem length_paths_group (files : List HashedFile) (d : Digest) :
    (group files d).paths.length = (members files d).length := by
  simp [group]

theorem length_members (files : List HashedFile) (d : Digest) :
    (members files d).length = (files.map HashedFile.digest).count d := by
  rw [members, List.count_eq_countP, List.countP_map, ← List.countP_eq_length_filter]
  apply List.countP_congr
  intro f _
  simp

theorem length_paths_pos (hd : d ∈ keys files) : 0 < (group files d).paths.length := by
  rw [length_paths_group]
  exact List.length_pos_of_ne_nil (members_ne_nil (mem_keys.mp hd))

/-- A sum over groups, of something that a single path does not have. -/
theorem sum_groups (weight : Group → Nat) (files : List HashedFile)
    (hsingle : ∀ g : Group, g.paths.length ≤ 1 → weight g = 0) :
    ((groups files).map weight).sum = ∑ d ∈ keys files, weight (group files d) := by
  have hkept : ∀ l : List Group,
      ((l.filter fun g => 1 < g.paths.length).map weight).sum = (l.map weight).sum := by
    intro l
    induction l with
    | nil => rfl
    | cons g l ih =>
      by_cases hg : 1 < g.paths.length
      · simpa [hg] using ih
      · simpa [hg, hsingle g (by omega)] using ih
  rw [groups, hkept, List.map_map, ← toFinset_digests, List.sum_toFinset _ (nodup_digests files)]
  rfl

/-- Every group has paths for the files with its digest. -/
theorem sum_length_paths (files : List HashedFile) :
    ∑ d ∈ keys files, (group files d).paths.length = files.length := by
  have hall := Appearance.sum_fibres HashedFile.digest (fun _ => 1) (keys files) files
    fun f hf => List.mem_toFinset.mpr (List.mem_map_of_mem hf)
  simpa [length_paths_group, members] using hall

/-- The copies beyond the first of each digest, and one file for each digest, are all files. -/
theorem sum_duplicateCount (files : List HashedFile) :
    ((groups files).map Group.duplicateCount).sum + (keys files).card = files.length := by
  have hsingle : ∀ g : Group, g.paths.length ≤ 1 → g.duplicateCount = 0 := by
    intro g hg
    rw [Group.duplicateCount]
    omega
  rw [sum_groups _ files hsingle, Finset.card_eq_sum_ones, ← Finset.sum_add_distrib,
    ← sum_length_paths files]
  apply Finset.sum_congr rfl
  intro d hd
  have hpos := length_paths_pos hd
  rw [Group.duplicateCount]
  omega

/-- The size of a group is that of each of its files. -/
theorem size_group (hagree : SizesAgree files) {f : HashedFile} (hf : f ∈ files) :
    (group files f.digest).size = f.size := by
  have hne : members files f.digest ≠ [] :=
    members_ne_nil (mem_digests.mpr ⟨f, hf, rfl⟩)
  obtain ⟨g, gs, hms⟩ := List.exists_cons_of_ne_nil hne
  have hg : g ∈ members files f.digest := by
    rw [hms]
    exact List.mem_cons_self
  obtain ⟨hgf, hgd⟩ := List.mem_filter.mp hg
  have hsize : g.size = f.size := hagree g hgf f hf (of_decide_eq_true hgd)
  simp [group, hms, hsize]

/-- What the copies beyond the first of each digest take up, and one copy of each digest, is what
all files take up. -/
theorem sum_wastedSpace (hagree : SizesAgree files) :
    ((groups files).map Group.wastedSpace).sum + ∑ d ∈ keys files, (group files d).size =
      (files.map HashedFile.size).sum := by
  have hsingle : ∀ g : Group, g.paths.length ≤ 1 → g.wastedSpace = 0 := by
    intro g hg
    have hzero : g.paths.length - 1 = 0 := by omega
    rw [Group.wastedSpace, Group.duplicateCount, hzero, Nat.mul_zero]
  have hall := Appearance.sum_fibres HashedFile.digest HashedFile.size (keys files) files
    fun f hf => List.mem_toFinset.mpr (List.mem_map_of_mem hf)
  rw [sum_groups _ files hsingle, ← Finset.sum_add_distrib, ← hall]
  apply Finset.sum_congr rfl
  intro d hd
  have hpos := length_paths_pos hd
  have hsizes : (members files d).map HashedFile.size
      = (members files d).map fun _ => (group files d).size := by
    apply List.map_congr_left
    intro f hf
    obtain ⟨hff, hfd⟩ := List.mem_filter.mp hf
    rw [← of_decide_eq_true hfd, size_group hagree hff]
  show _ = ((members files d).map HashedFile.size).sum
  rw [hsizes, List.map_const', List.sum_replicate_nat, ← length_paths_group,
    Group.wastedSpace, Group.duplicateCount, Nat.mul_comm (group files d).paths.length,
    ← Nat.mul_succ, Nat.succ_eq_add_one, Nat.sub_add_cancel hpos]

/-- There is one group for each digest that two or more files have. -/
theorem length_groups (files : List HashedFile) :
    (groups files).length =
      ((keys files).filter fun d => 2 ≤ (files.map HashedFile.digest).count d).card := by
  have hlist : (groups files).length
      = ((digests files).filter fun d => 2 ≤ (files.map HashedFile.digest).count d).length := by
    rw [groups, List.filter_map, List.length_map]
    congr 1
    apply List.filter_congr
    intro d _
    simp only [Function.comp_apply, length_paths_group, length_members]
    rfl
  rw [hlist, ← List.toFinset_card_of_nodup ((nodup_digests files).filter _),
    List.toFinset_filter, toFinset_digests]
  simp only [decide_eq_true_eq]

end TwinFiles.Grouping
