import TwinFiles.Proofs.Group.Totals
import TwinFiles.Scan.Visit

/-!
# Groups of equal contents

Files are grouped by their digests. Where no two of their contents share a digest, that is grouping
by content (`groups_hashAll`): one group for each content that two or more files have, in the order
in which the contents first appear. What does not need the digests to keep contents apart is shown
without it: no path comes twice (`nodup_paths_groups`), and equal digests are in one group
(`share_iff_digest_eq`).
-/

namespace TwinFiles

/-- A file with its content. -/
abbrev FileContent := Path × Bytes

/-- No two different contents of a list have the same digest. -/
def Digest.KeepsApart (contents : List Bytes) : Prop :=
  ∀ a ∈ contents, ∀ b ∈ contents, Digest.of a = Digest.of b → a = b

instance (contents : List Bytes) : Decidable (Digest.KeepsApart contents) :=
  inferInstanceAs (Decidable (∀ a ∈ contents, ∀ b ∈ contents, Digest.of a = Digest.of b → a = b))

namespace Grouping

/-- Files, hashed. -/
def hashAll (files : List FileContent) : List HashedFile :=
  files.map fun f => .of f.1 f.2

/-- The paths of the files with a content. -/
def pathsWith (files : List FileContent) (content : Bytes) : List Path :=
  (files.filter fun f => f.2 = content).map Prod.fst

/-- The group of the files with a content. -/
def contentGroup (files : List FileContent) (content : Bytes) : Group :=
  ⟨.of content, content.length, pathsWith files content⟩

/-- One group for each content that two files have at least, by first appearance. -/
def contentGroups (files : List FileContent) : List Group :=
  ((files.map Prod.snd).eraseDups.filter fun c => 2 ≤ (pathsWith files c).length).map
    (contentGroup files)

/-- Two paths are in one group. -/
def Share (groups : List Group) (p q : Path) : Prop :=
  ∃ g ∈ groups, p ∈ g.paths ∧ q ∈ g.paths

variable {files : List FileContent}

/-! ## Members of a digest -/

theorem members_hashAll (files : List FileContent) (d : Digest) :
    members (hashAll files) d = hashAll (files.filter fun f => Digest.of f.2 = d) := by
  rw [members, hashAll, List.filter_map]
  rfl

theorem paths_group_hashAll (files : List FileContent) (d : Digest) :
    (group (hashAll files) d).paths = (files.filter fun f => Digest.of f.2 = d).map Prod.fst := by
  show (members (hashAll files) d).map HashedFile.path = _
  rw [members_hashAll, hashAll, List.map_map]
  rfl

theorem mem_groups {hashed : List HashedFile} {g : Group} :
    g ∈ groups hashed ↔ 2 ≤ g.paths.length ∧ ∃ d ∈ digests hashed, group hashed d = g := by
  rw [groups, List.mem_filter, List.mem_map, decide_eq_true_iff]
  exact and_comm

/-- A path in a group is that of a file with the digest of the group. -/
theorem mem_paths_groups {g : Group} (hg : g ∈ groups (hashAll files)) {p : Path}
    (hp : p ∈ g.paths) : ∃ content, (p, content) ∈ files ∧ g.digest = .of content := by
  obtain ⟨_, d, _, rfl⟩ := mem_groups.mp hg
  rw [paths_group_hashAll, List.mem_map] at hp
  obtain ⟨⟨path, content⟩, hmem, rfl⟩ := hp
  obtain ⟨hfile, hdigest⟩ := List.mem_filter.mp hmem
  exact ⟨content, hfile, (of_decide_eq_true hdigest).symm⟩

/-! ## Paths come once -/

/-- A path has one content. -/
theorem content_eq (hpaths : (files.map Prod.fst).Nodup) {p : Path} {a b : Bytes}
    (ha : (p, a) ∈ files) (hb : (p, b) ∈ files) : a = b := by
  have h := List.inj_on_of_nodup_map hpaths ha hb rfl
  exact congrArg Prod.snd h

/-- No path comes twice, neither in a group nor in two. -/
theorem nodup_paths_groups (hpaths : (files.map Prod.fst).Nodup) :
    ((groups (hashAll files)).flatMap Group.paths).Nodup := by
  rw [List.nodup_flatMap]
  constructor
  · intro g hg
    obtain ⟨_, d, _, rfl⟩ := mem_groups.mp hg
    rw [paths_group_hashAll]
    exact hpaths.sublist (List.filter_sublist.map Prod.fst)
  · have hgroups : ((digests (hashAll files)).map (group (hashAll files))).Pairwise
        fun g g' => g.digest ≠ g'.digest := by
      rw [List.pairwise_map]
      exact (nodup_digests _).imp id
    -- a path in two groups would be that of a file with two digests
    refine (hgroups.sublist List.filter_sublist).imp_of_mem ?_
    intro g g' hg hg' hne p hp hp'
    obtain ⟨a, ha, hda⟩ := mem_paths_groups hg hp
    obtain ⟨b, hb, hdb⟩ := mem_paths_groups hg' hp'
    rw [content_eq hpaths ha hb] at hda
    exact hne (hda.trans hdb.symm)

/-! ## Equal contents -/

/-- Two different elements that pass a test are two elements of what passes it. -/
theorem two_le_length_filter {α : Type} [DecidableEq α] {l : List α} {test : α → Bool} {a b : α}
    (ha : a ∈ l) (hb : b ∈ l) (hne : a ≠ b) (hta : test a) (htb : test b) :
    2 ≤ (l.filter test).length := by
  have hsub : [a, b] ⊆ l.filter test := by
    intro x hx
    rcases List.mem_pair.mp hx with rfl | rfl
    · exact List.mem_filter.mpr ⟨ha, hta⟩
    · exact List.mem_filter.mpr ⟨hb, htb⟩
  exact (List.subperm_of_subset (by simp [hne]) hsub).length_le

/-- Files with equal digests are in one group. -/
theorem share_of_digest_eq {a b : FileContent} (ha : a ∈ files) (hb : b ∈ files) (hne : a ≠ b)
    (heq : Digest.of a.2 = Digest.of b.2) : Share (groups (hashAll files)) a.1 b.1 := by
  have hta : decide (Digest.of a.2 = Digest.of a.2) = true := decide_eq_true rfl
  have htb : decide (Digest.of b.2 = Digest.of a.2) = true := decide_eq_true heq.symm
  refine ⟨group (hashAll files) (.of a.2), mem_groups.mpr ⟨?_, .of a.2, ?_, rfl⟩, ?_, ?_⟩
  · rw [paths_group_hashAll, List.length_map]
    exact two_le_length_filter ha hb hne hta htb
  · exact mem_digests.mpr ⟨.of a.1 a.2, List.mem_map_of_mem ha, rfl⟩
  · rw [paths_group_hashAll]
    exact List.mem_map_of_mem (List.mem_filter.mpr ⟨ha, hta⟩)
  · rw [paths_group_hashAll]
    exact List.mem_map_of_mem (List.mem_filter.mpr ⟨hb, htb⟩)

/-- Two files are in one group when their contents have the same digest. -/
theorem share_iff_digest_eq (hpaths : (files.map Prod.fst).Nodup) {a b : FileContent}
    (ha : a ∈ files) (hb : b ∈ files) (hne : a ≠ b) :
    Share (groups (hashAll files)) a.1 b.1 ↔ Digest.of a.2 = Digest.of b.2 := by
  constructor
  · rintro ⟨g, hg, hga, hgb⟩
    obtain ⟨ca, hca, hda⟩ := mem_paths_groups hg hga
    obtain ⟨cb, hcb, hdb⟩ := mem_paths_groups hg hgb
    rw [content_eq hpaths hca ha] at hda
    rw [content_eq hpaths hcb hb] at hdb
    exact hda.symm.trans hdb
  · exact share_of_digest_eq ha hb hne

/-! ## Digests that keep contents apart -/

theorem digests_hashAll (hapart : Digest.KeepsApart (files.map Prod.snd)) :
    digests (hashAll files) = (files.map Prod.snd).eraseDups.map Digest.of := by
  rw [← Appearance.map_of_injOn Digest.of _ hapart, digests, hashAll, List.map_map, List.map_map]
  rfl

/-- Equal digests mean equal contents, and those have one size. -/
theorem sizesAgree_hashAll (hapart : Digest.KeepsApart (files.map Prod.snd)) :
    SizesAgree (hashAll files) := by
  intro f hf g hg hdigest
  obtain ⟨a, ha, rfl⟩ := List.mem_map.mp hf
  obtain ⟨b, hb, rfl⟩ := List.mem_map.mp hg
  have hcontent : a.2 = b.2 :=
    hapart a.2 (List.mem_map_of_mem ha) b.2 (List.mem_map_of_mem hb) hdigest
  exact congrArg List.length hcontent

/-- The group of a digest is that of the content. -/
theorem group_hashAll (hapart : Digest.KeepsApart (files.map Prod.snd)) {f : FileContent}
    (hf : f ∈ files) : group (hashAll files) (.of f.2) = contentGroup files f.2 := by
  have hhashed : HashedFile.of f.1 f.2 ∈ hashAll files := List.mem_map.mpr ⟨f, hf, rfl⟩
  have hsize : (group (hashAll files) (.of f.2)).size = f.2.length :=
    size_group (sizesAgree_hashAll hapart) hhashed
  have hpaths : (group (hashAll files) (.of f.2)).paths = pathsWith files f.2 := by
    rw [paths_group_hashAll, pathsWith]
    congr 1
    apply List.filter_congr
    intro g hg
    have hiff : Digest.of g.2 = Digest.of f.2 ↔ g.2 = f.2 :=
      ⟨hapart g.2 (List.mem_map_of_mem hg) f.2 (List.mem_map_of_mem hf), congrArg Digest.of⟩
    exact decide_eq_decide.mpr hiff
  rw [contentGroup, ← hsize, ← hpaths]
  rfl

/-- The size of a group is that of each of its files. -/
theorem size_of_mem_contentGroups (hpaths : (files.map Prod.fst).Nodup) {g : Group}
    (hg : g ∈ contentGroups files) {f : FileContent} (hf : f ∈ files) (hp : f.1 ∈ g.paths) :
    g.size = f.2.length := by
  obtain ⟨content, _, rfl⟩ := List.mem_map.mp hg
  obtain ⟨f', hf', hpath⟩ := List.mem_map.mp hp
  obtain ⟨hfile, hcontent⟩ := List.mem_filter.mp hf'
  have hsame : f' = f := List.inj_on_of_nodup_map hpaths hfile hf hpath
  rw [← hsame, of_decide_eq_true hcontent]
  rfl

/-- Grouping by digests that keep contents apart is grouping by content. -/
theorem groups_hashAll (hapart : Digest.KeepsApart (files.map Prod.snd)) :
    groups (hashAll files) = contentGroups files := by
  have hgroup : ∀ content ∈ (files.map Prod.snd).eraseDups,
      group (hashAll files) (.of content) = contentGroup files content := by
    intro content hcontent
    obtain ⟨f, hf, rfl⟩ := List.mem_map.mp (List.mem_eraseDups.mp hcontent)
    exact group_hashAll hapart hf
  have hmap : ((files.map Prod.snd).eraseDups.map Digest.of).map (group (hashAll files)) =
      (files.map Prod.snd).eraseDups.map (contentGroup files) := by
    rw [List.map_map]
    exact List.map_congr_left hgroup
  rw [groups, digests_hashAll hapart, hmap, List.filter_map, contentGroups]
  rfl

/-- Digests that keep contents apart put two files into one group only for equal contents. -/
theorem share_iff_content_eq (hpaths : (files.map Prod.fst).Nodup)
    (hapart : Digest.KeepsApart (files.map Prod.snd)) {a b : FileContent} (ha : a ∈ files)
    (hb : b ∈ files) (hne : a ≠ b) :
    Share (groups (hashAll files)) a.1 b.1 ↔ a.2 = b.2 := by
  rw [share_iff_digest_eq hpaths ha hb hne]
  constructor
  · exact hapart a.2 (List.mem_map_of_mem ha) b.2 (List.mem_map_of_mem hb)
  · exact congrArg Digest.of

end Grouping

end TwinFiles
