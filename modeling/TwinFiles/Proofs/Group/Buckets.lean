import TwinFiles.Group.Buckets
import TwinFiles.Proofs.Group.Appearance

/-!
# Buckets are plain grouping

`Buckets.Holds b files` says that the buckets hold exactly these files: the slots are the groups of
the digests in order of first appearance, and the index leads from each digest to the slot of its
group. Inserting a file keeps that (`Holds.insert`), so the groups of the buckets are those of
plain grouping (`groups_ofFiles`).
-/

namespace TwinFiles

namespace Grouping

variable {files : List HashedFile} {f : HashedFile} {d : Digest}

theorem mem_digests : d ∈ digests files ↔ ∃ f ∈ files, f.digest = d := by
  simp [digests]

theorem nodup_digests (files : List HashedFile) : (digests files).Nodup :=
  Appearance.nodup _

theorem members_ne_nil (hd : d ∈ digests files) : members files d ≠ [] := by
  obtain ⟨f, hf, hfd⟩ := mem_digests.mp hd
  exact List.ne_nil_of_mem (List.mem_filter.mpr ⟨hf, decide_eq_true hfd⟩)

theorem members_eq_nil (hd : d ∉ digests files) : members files d = [] := by
  rw [members, List.filter_eq_nil_iff]
  intro f hf hfd
  exact hd (mem_digests.mpr ⟨f, hf, of_decide_eq_true hfd⟩)

/-! ## One more file -/

theorem digests_append_of_mem (h : f.digest ∈ digests files) :
    digests (files ++ [f]) = digests files := by
  have hmem : f.digest ∈ files.map HashedFile.digest := by simpa [digests] using h
  rw [digests, List.map_append, List.map_singleton, Appearance.append_singleton, if_pos hmem]
  rfl

theorem digests_append_of_notMem (h : f.digest ∉ digests files) :
    digests (files ++ [f]) = digests files ++ [f.digest] := by
  have hmem : f.digest ∉ files.map HashedFile.digest := by simpa [digests] using h
  rw [digests, List.map_append, List.map_singleton, Appearance.append_singleton, if_neg hmem]
  rfl

/-- A file changes nothing about the groups of other digests. -/
theorem group_append_of_ne (h : f.digest ≠ d) : group (files ++ [f]) d = group files d := by
  simp [group, members, h]

/-- A file comes last in the group of its digest. -/
theorem group_append_self (h : f.digest ∈ digests files) :
    group (files ++ [f]) f.digest =
      { group files f.digest with paths := (group files f.digest).paths ++ [f.path] } := by
  obtain ⟨g, gs, hg⟩ := List.exists_cons_of_ne_nil (members_ne_nil h)
  have hms : members (files ++ [f]) f.digest = g :: gs ++ [f] := by
    rw [← hg]
    simp [members]
  simp [group, hms, hg]

/-- The first file with a digest starts its group. -/
theorem group_append_first (h : f.digest ∉ digests files) :
    group (files ++ [f]) f.digest = ⟨f.digest, f.size, [f.path]⟩ := by
  have hms : members (files ++ [f]) f.digest = [f] := by
    have hnil := members_eq_nil h
    simp only [members] at hnil ⊢
    simp [hnil]
  simp [group, hms]

end Grouping

namespace Buckets

open Grouping

variable {b : Buckets} {files : List HashedFile}

/-- The buckets hold these files, in this order. -/
structure Holds (b : Buckets) (files : List HashedFile) : Prop where
  slots : b.slots = (digests files).map (group files)
  index : ∀ d slot, b.index.lookup d = some slot ↔ (digests files)[slot]? = some d

theorem Holds.empty : Holds empty [] :=
  ⟨rfl, fun d slot => by simp [Buckets.empty, digests]⟩

theorem Holds.length_slots (h : b.Holds files) : b.slots.length = (digests files).length := by
  rw [h.slots, List.length_map]

theorem Holds.lookup_eq_none_iff (h : b.Holds files) (d : Digest) :
    b.index.lookup d = none ↔ d ∉ digests files := by
  constructor
  · intro hnone hd
    obtain ⟨slot, hslot⟩ := List.mem_iff_getElem?.mp hd
    rw [(h.index d slot).mpr hslot] at hnone
    cases hnone
  · intro hd
    cases hl : b.index.lookup d with
    | none => rfl
    | some slot => exact absurd (List.mem_of_getElem? ((h.index d slot).mp hl)) hd

/-- A file whose digest has a slot goes to the end of that slot. -/
theorem Holds.insert_known (h : b.Holds files) {f : HashedFile} {slot : Nat}
    (hl : b.index.lookup f.digest = some slot) : (b.insert f).Holds (files ++ [f]) := by
  have hslot := (h.index f.digest slot).mp hl
  have hmem : f.digest ∈ digests files := List.mem_of_getElem? hslot
  have hdigests := digests_append_of_mem hmem
  rw [Buckets.insert, hl]
  refine ⟨?_, by rw [hdigests]; exact h.index⟩
  show b.slots.modify slot _ = _
  rw [hdigests, h.slots]
  apply List.ext_getElem?
  intro i
  rw [List.getElem?_modify, List.getElem?_map, List.getElem?_map]
  by_cases hi : slot = i
  · subst hi
    simp [hslot, group_append_self hmem]
  · -- every digest has one slot, so another slot holds another digest
    cases hd : (digests files)[i]? with
    | none => simp [hi]
    | some d =>
      have hne : f.digest ≠ d := by
        intro he
        have hlt : slot < (digests files).length := (List.getElem?_eq_some_iff.mp hslot).1
        exact hi ((List.getElem?_inj hlt (nodup_digests files)).mp (by rw [hslot, hd, he]))
      simp [hi, group_append_of_ne hne]

/-- A file with a new digest opens a slot behind the others. -/
theorem Holds.insert_new (h : b.Holds files) {f : HashedFile}
    (hl : b.index.lookup f.digest = none) : (b.insert f).Holds (files ++ [f]) := by
  have hmem : f.digest ∉ digests files := (h.lookup_eq_none_iff f.digest).mp hl
  have hdigests := digests_append_of_notMem hmem
  rw [Buckets.insert, hl]
  constructor
  · show b.slots ++ [_] = _
    have hothers : (digests files).map (group (files ++ [f])) = b.slots := by
      rw [h.slots]
      apply List.map_congr_left
      intro d hd
      exact group_append_of_ne fun he => hmem (he ▸ hd)
    rw [hdigests, List.map_append, hothers, List.map_singleton, group_append_first hmem]
  · intro d slot
    show ((f.digest, b.slots.length) :: b.index).lookup d = some slot ↔ _
    rw [hdigests, List.lookup_cons, h.length_slots]
    by_cases hd : d = f.digest
    · subst hd
      simp only [beq_self_eq_true, Option.some.injEq]
      constructor
      · intro he
        subst he
        simp
      · intro hs
        rcases Nat.lt_trichotomy slot (digests files).length with hlt | heq | hgt
        · rw [List.getElem?_append_left hlt] at hs
          exact absurd (List.mem_of_getElem? hs) hmem
        · exact heq.symm
        · rw [List.getElem?_eq_none (by simp; omega)] at hs
          cases hs
    · have hbeq : (d == f.digest) = false := beq_eq_false_iff_ne.mpr hd
      simp only [hbeq]
      rw [h.index d slot]
      rcases Nat.lt_or_ge slot (digests files).length with hlt | hge
      · rw [List.getElem?_append_left hlt]
      · rw [List.getElem?_eq_none hge, List.getElem?_append_right hge]
        constructor
        · intro hs
          cases hs
        · intro hs
          exact absurd (List.mem_singleton.mp (List.mem_of_getElem? hs)) hd

theorem Holds.insert (h : b.Holds files) (f : HashedFile) : (b.insert f).Holds (files ++ [f]) := by
  cases hl : b.index.lookup f.digest with
  | none => exact h.insert_new hl
  | some slot => exact h.insert_known hl

theorem Holds.foldl_insert (h : b.Holds files) (more : List HashedFile) :
    (more.foldl Buckets.insert b).Holds (files ++ more) := by
  induction more generalizing b files with
  | nil => simpa using h
  | cons f more ih => simpa using ih (h.insert f)

theorem ofFiles_holds (files : List HashedFile) : (ofFiles files).Holds files := by
  simpa only [ofFiles, List.nil_append] using Holds.empty.foldl_insert files

/-- The groups of the buckets are those of plain grouping. -/
theorem groups_ofFiles (files : List HashedFile) :
    (ofFiles files).groups = Grouping.groups files := by
  rw [Buckets.groups, (ofFiles_holds files).slots]
  rfl

end Buckets

end TwinFiles
