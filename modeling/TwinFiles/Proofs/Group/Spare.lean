import TwinFiles.Proofs.Group.Content

/-!
# Keeping one file of each group

The spare paths of groups are all but the first of each. Files without those of the spare paths have
the same digests as before, each once (`members_kept`), so there is nothing left to group
(`groups_kept`), and the file that stands for a digest is the one that did so before
(`size_group_kept`).
-/

namespace TwinFiles.Grouping

/-- The paths of groups that are not the first of theirs. -/
def spare (groups : List Group) : List Path :=
  groups.flatMap fun g => g.paths.tail

/-- The files whose paths are not spare. -/
def kept (files : List HashedFile) : List HashedFile :=
  files.filter fun f => !(spare (groups files)).contains f.path

variable {files : List HashedFile}

/-- A path is spare if its file comes behind another one with its digest. -/
theorem mem_spare (hpaths : (files.map HashedFile.path).Nodup) {f : HashedFile} (hf : f ∈ files) :
    f.path ∈ spare (groups files) ↔ f ∈ (members files f.digest).tail := by
  rw [spare, List.mem_flatMap]
  constructor
  · rintro ⟨g, hg, hp⟩
    obtain ⟨_, d, _, rfl⟩ := mem_groups.mp hg
    have htail : (group files d).paths.tail = (members files d).tail.map HashedFile.path :=
      List.map_tail.symm
    rw [htail] at hp
    obtain ⟨f', hf', hpath⟩ := List.mem_map.mp hp
    obtain ⟨hfile, hdigest⟩ := List.mem_filter.mp (List.mem_of_mem_tail hf')
    have hsame : f' = f := List.inj_on_of_nodup_map hpaths hfile hf hpath
    rw [← hsame, of_decide_eq_true hdigest]
    exact hf'
  · intro htail
    have hlength : 2 ≤ (members files f.digest).length := by
      have hpos := List.length_pos_of_mem htail
      rw [List.length_tail] at hpos
      omega
    refine ⟨group files f.digest, mem_groups.mpr ⟨?_, f.digest, ?_, rfl⟩, ?_⟩
    · rw [length_paths_group]
      exact hlength
    · exact mem_digests.mpr ⟨f, hf, rfl⟩
    · show f.path ∈ ((members files f.digest).map HashedFile.path).tail
      rw [← List.map_tail]
      exact List.mem_map_of_mem htail

/-- Of the files with a digest the first is kept. -/
theorem members_kept (hpaths : (files.map HashedFile.path).Nodup) (d : Digest) :
    members (kept files) d = (members files d).take 1 := by
  have hfilter : members (kept files) d =
      (members files d).filter fun f => f ∉ (members files d).tail := by
    rw [members, kept, List.filter_comm]
    apply List.filter_congr
    intro f hf
    obtain ⟨hfile, hdigest⟩ := List.mem_filter.mp hf
    have hspare := mem_spare hpaths hfile
    rw [of_decide_eq_true hdigest] at hspare
    rw [List.contains_eq_mem, ← decide_not]
    exact decide_eq_decide.mpr (not_congr hspare)
  have hnodup : (members files d).Nodup := (List.Nodup.of_map _ hpaths).filter _
  rw [hfilter]
  cases hmembers : members files d with
  | nil => rfl
  | cons f fs =>
    rw [hmembers, List.nodup_cons] at hnodup
    have hnone : (fs.filter fun f => f ∉ fs) = [] :=
      List.filter_eq_nil_iff.mpr fun f hf => by simp [hf]
    rw [List.tail_cons, List.filter_cons_of_pos (by simpa using hnodup.1), hnone]
    rfl

/-- No two kept files have one digest. -/
theorem groups_kept (hpaths : (files.map HashedFile.path).Nodup) : groups (kept files) = [] := by
  refine List.eq_nil_iff_forall_not_mem.mpr fun g hg => ?_
  obtain ⟨hlength, d, _, rfl⟩ := mem_groups.mp hg
  rw [length_paths_group, members_kept hpaths, List.length_take] at hlength
  omega

/-- Every digest is kept. -/
theorem keys_kept (hpaths : (files.map HashedFile.path).Nodup) :
    keys (kept files) = keys files := by
  ext d
  have hmem (files : List HashedFile) : d ∈ keys files ↔ members files d ≠ [] := by
    rw [mem_keys]
    constructor
    · exact members_ne_nil
    · intro hne
      exact Decidable.byContradiction fun hd => hne (members_eq_nil hd)
  rw [hmem, hmem, members_kept hpaths]
  cases members files d <;> simp

/-- The file that stands for a digest is kept. -/
theorem size_group_kept (hpaths : (files.map HashedFile.path).Nodup) (d : Digest) :
    (group (kept files) d).size = (group files d).size := by
  show ((members (kept files) d).head?.map HashedFile.size).getD 0 = _
  rw [members_kept hpaths]
  show _ = ((members files d).head?.map HashedFile.size).getD 0
  cases members files d <;> rfl

end TwinFiles.Grouping
