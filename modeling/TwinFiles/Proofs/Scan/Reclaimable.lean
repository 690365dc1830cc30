import Mathlib.Algebra.Order.BigOperators.Group.Finset
import TwinFiles.Proofs.Group.Order
import TwinFiles.Proofs.Scan.Answer
import TwinFiles.Proofs.Scan.Cleanup
import TwinFiles.Proofs.Scan.Opening
import TwinFiles.Proofs.Scan.Trace
import TwinFiles.Proofs.Tree.Change

/-!
# What removing copies can free

The paths of a group lead to files of one size (`Group.Stored`), but not always to different files:
a link counts as a file of its own, and the file that it leads to may be in the group, too. So does
each name of a file that has several; which names those are, a tree does not tell, so it is a
parameter (`Tree.Naming`). So the reclaimable space can exceed what the files of the groups take up
beyond one of each. It does not exactly when no two paths of a group lead to one file, unless that
is empty (`reclaimable_iff_no_shared_file`).
-/

namespace TwinFiles

/-- Which locations in a tree are names of one file: from each of them `first` leads to the first
one, and they all show the same. -/
structure Tree.Naming (t : Tree) where
  first : Location → Location
  get?_first : ∀ loc, t.get? (first loc) = t.get? loc

/-- Every file has one name. -/
def Tree.Naming.separate (t : Tree) : t.Naming :=
  ⟨id, fun _ => rfl⟩

/-- The file that a path leads to, by the first of its names. -/
def View.target? (v : View) (names : v.tree.Naming) (p : Path) : Option Location :=
  (v.resolve true p).toOption.map names.first

/-- The files that paths lead to, each of them once. -/
def View.targets (v : View) (names : v.tree.Naming) (paths : List Path) : Finset Location :=
  (paths.filterMap (v.target? names)).toFinset

/-- The size of the file at a location. Nothing else counts. -/
def Tree.sizeAt (t : Tree) (loc : Location) : Nat :=
  match t.get? loc with
  | some (.file _ content) => content.length
  | _ => 0

/-- The reclaimable space is there to be freed: it is what the different files take up that the
paths of the groups lead to, less one copy of each group, or it is less. -/
def Findings.Reclaimable (v : View) (names : v.tree.Naming) (f : Findings) : Prop :=
  f.2.reclaimableSpace + (f.1.map Group.size).sum ≤
    ∑ loc ∈ v.targets names (f.1.flatMap Group.paths), v.tree.sizeAt loc

instance (v : View) (names : v.tree.Naming) (f : Findings) : Decidable (f.Reclaimable v names) :=
  inferInstanceAs (Decidable (_ ≤ _))

/-- The paths of a group lead to files with the digest and the size of the group. -/
def Group.Stored (v : View) (names : v.tree.Naming) (g : Group) : Prop :=
  ∀ p ∈ g.paths, ∃ loc access content, v.target? names p = some loc ∧
    v.tree.get? loc = some (.file access content) ∧ g.size = content.length ∧
    g.digest = .of content

variable {v : View} {names : v.tree.Naming}

/-! ## The files of a group -/

namespace View

theorem target?_of_resolve {p : Path} {loc : Location} (h : v.resolve true p = .ok loc) :
    v.target? names p = some (names.first loc) := by
  rw [target?, h]
  rfl

theorem mem_targets {paths : List Path} {loc : Location} :
    loc ∈ v.targets names paths ↔ ∃ p ∈ paths, v.target? names p = some loc := by
  rw [targets, List.mem_toFinset, List.mem_filterMap]

theorem targets_append (paths more : List Path) :
    v.targets names (paths ++ more) = v.targets names paths ∪ v.targets names more := by
  rw [targets, List.filterMap_append, List.toFinset_append]
  rfl

theorem card_targets_le (paths : List Path) : (v.targets names paths).card ≤ paths.length :=
  (List.toFinset_card_le _).trans (List.length_filterMap_le _ _)

/-- There are as many files as paths if no two paths lead to one file. -/
theorem card_targets_eq_iff {paths : List Path}
    (h : ∀ p ∈ paths, ∃ loc, v.target? names p = some loc) :
    (v.targets names paths).card = paths.length ↔ (paths.map (v.target? names)).Nodup := by
  have hsome : paths.map (v.target? names) = (paths.filterMap (v.target? names)).map some := by
    rw [List.map_filterMap, ← List.filterMap_eq_map]
    apply List.filterMap_congr
    intro p hp
    obtain ⟨loc, hloc⟩ := h p hp
    simp [hloc]
  have hlength : (paths.filterMap (v.target? names)).length = paths.length := by
    simpa using (congrArg List.length hsome).symm
  rw [hsome, List.nodup_map_iff (Option.some_injective _), ← hlength]
  exact Multiset.toFinset_card_eq_card_iff_nodup
    (m := ((paths.filterMap (v.target? names) : List Location) : Multiset Location))

end View

namespace Group

variable {g : Group}

theorem Stored.mem_targets (h : g.Stored v names) {loc : Location}
    (hloc : loc ∈ v.targets names g.paths) :
    ∃ access content, v.tree.get? loc = some (.file access content) ∧ g.size = content.length ∧
      g.digest = .of content := by
  obtain ⟨p, hp, htarget⟩ := View.mem_targets.mp hloc
  obtain ⟨loc', access, content, htarget', hfile⟩ := h p hp
  rw [htarget] at htarget'
  cases htarget'
  exact ⟨access, content, hfile⟩

/-- The files of a group have its size. -/
theorem Stored.sum_targets (h : g.Stored v names) :
    ∑ loc ∈ v.targets names g.paths, v.tree.sizeAt loc =
      g.size * (v.targets names g.paths).card := by
  rw [Nat.mul_comm]
  apply Finset.sum_const_nat
  intro loc hloc
  obtain ⟨access, content, hfile, hsize, _⟩ := h.mem_targets hloc
  rw [Tree.sizeAt, hfile, hsize]

/-- No file is in two groups: its content has one digest. -/
theorem Stored.disjoint_targets {g' : Group} (h : g.Stored v names) (h' : g'.Stored v names)
    (hdigest : g.digest ≠ g'.digest) :
    Disjoint (v.targets names g.paths) (v.targets names g'.paths) := by
  rw [Finset.disjoint_left]
  intro loc hloc hloc'
  obtain ⟨access, content, hfile, _, hg⟩ := h.mem_targets hloc
  obtain ⟨access', content', hfile', _, hg'⟩ := h'.mem_targets hloc'
  rw [hfile] at hfile'
  cases hfile'
  exact hdigest (hg.trans hg'.symm)

end Group

/-! ## The files of all groups -/

namespace Grouping

variable {gs : List Group}

/-- The files of groups with different digests are counted group by group. -/
theorem sum_targets (hstored : ∀ g ∈ gs, g.Stored v names)
    (hdigests : (gs.map Group.digest).Nodup) :
    ∑ loc ∈ v.targets names (gs.flatMap Group.paths), v.tree.sizeAt loc =
      (gs.map fun g => g.size * (v.targets names g.paths).card).sum := by
  induction gs with
  | nil => rfl
  | cons g gs ih =>
    obtain ⟨hg, hgs⟩ := List.forall_mem_cons.mp hstored
    rw [List.map_cons, List.nodup_cons] at hdigests
    have hdisjoint :
        Disjoint (v.targets names g.paths) (v.targets names (gs.flatMap Group.paths)) := by
      rw [Finset.disjoint_right]
      intro loc hloc
      obtain ⟨p, hp, htarget⟩ := View.mem_targets.mp hloc
      obtain ⟨g', hg', hpaths⟩ := List.mem_flatMap.mp hp
      have hne : g.digest ≠ g'.digest := fun heq =>
        hdigests.1 (heq ▸ List.mem_map_of_mem hg')
      exact Finset.disjoint_right.mp (hg.disjoint_targets (hgs g' hg') hne)
        (View.mem_targets.mpr ⟨p, hpaths, htarget⟩)
    rw [List.flatMap_cons, View.targets_append, Finset.sum_union hdisjoint, hg.sum_targets,
      ih hgs hdigests.2, List.map_cons, List.sum_cons]

/-- What copies take up, and one copy of each group, is what all paths would take up. -/
theorem sum_wastedSpace_add_sizes (hpaths : ∀ g ∈ gs, 0 < g.paths.length) :
    (gs.map Group.wastedSpace).sum + (gs.map Group.size).sum =
      (gs.map fun g => g.size * g.paths.length).sum := by
  rw [← List.sum_map_add]
  congr 1
  apply List.map_congr_left
  intro g hg
  have hcount : g.duplicateCount + 1 = g.paths.length :=
    Nat.sub_add_cancel (hpaths g hg)
  rw [Group.wastedSpace, ← hcount, Nat.mul_succ]

/-- Where no term of a sum exceeds another's, the sums are equal when all terms are. -/
theorem sum_le_iff {number bound : Group → Nat} (h : ∀ g ∈ gs, number g ≤ bound g) :
    (gs.map number).sum ≤ (gs.map bound).sum ∧
      ((gs.map bound).sum ≤ (gs.map number).sum ↔ ∀ g ∈ gs, number g = bound g) := by
  induction gs with
  | nil => simp
  | cons g gs ih =>
    obtain ⟨hg, hgs⟩ := List.forall_mem_cons.mp h
    obtain ⟨hle, hiff⟩ := ih hgs
    rw [List.map_cons, List.map_cons, List.sum_cons, List.sum_cons, List.forall_mem_cons, ← hiff]
    omega

theorem nodup_digests_groups (files : List HashedFile) :
    ((groups files).map Group.digest).Nodup := by
  rw [groups_eq_map, List.map_map]
  have hdigest : Group.digest ∘ group files = id := rfl
  rw [hdigest, List.map_id]
  exact (nodup_digests files).filter _

end Grouping

/-- Where the files of all groups are stored, what is reclaimable of them is as much as is there to
be freed, or more if paths of one group share a file. -/
theorem Findings.reclaimable_over (folder : Path) (wanted : Bytes) {visits : List Visit}
    (hstored : ∀ g ∈ Grouping.groups (visits.filterMap Visit.hashed?), g.Stored v names) :
    let f := Findings.over folder wanted visits
    ∑ loc ∈ v.targets names (f.1.flatMap Group.paths), v.tree.sizeAt loc ≤
        f.2.reclaimableSpace + (f.1.map Group.size).sum ∧
      (f.Reclaimable v names ↔ ∀ g ∈ f.1, g.size = 0 ∨ (g.paths.map (v.target? names)).Nodup) := by
  intro f
  have htargets := Grouping.sum_targets hstored (Grouping.nodup_digests_groups _)
  have hpaths : ∀ g ∈ f.1, 0 < g.paths.length := fun g hg =>
    Nat.lt_of_lt_of_le Nat.two_pos (Grouping.mem_groups.mp hg).1
  have hspace : f.2.reclaimableSpace + (f.1.map Group.size).sum =
      (f.1.map fun g => g.size * g.paths.length).sum :=
    Grouping.sum_wastedSpace_add_sizes hpaths
  -- group by group there are as many files as paths at most
  have hcounts : ∀ g ∈ f.1, g.size * (v.targets names g.paths).card ≤ g.size * g.paths.length :=
    fun g _ => Nat.mul_le_mul_left g.size (View.card_targets_le g.paths)
  obtain ⟨hle, hiff⟩ := Grouping.sum_le_iff hcounts
  rw [Findings.Reclaimable, hspace,
    show ∑ loc ∈ v.targets names (f.1.flatMap Group.paths), v.tree.sizeAt loc = _ from htargets]
  refine ⟨hle, hiff.trans (forall₂_congr fun g hg => ?_)⟩
  have hleads : ∀ p ∈ g.paths, ∃ loc, v.target? names p = some loc := by
    intro p hp
    obtain ⟨loc, _, _, hloc, _⟩ := hstored g hg p hp
    exact ⟨loc, hloc⟩
  rw [mul_eq_mul_left_iff, or_comm, View.card_targets_eq_iff hleads]

/-! ## Hashed files -/

namespace Scan

variable {s : Selection} {folder : Path} {loc : Location} {es : List Entry}

/-- A hashed file is the one that its path leads to. -/
theorem stored_of_hashed (hwf : v.tree.WellFormed) (hopens : v.Opens folder loc)
    (horder : Listing.InOrder v s folder es) {f : HashedFile} (hf : f ∈ hashedOf v s folder es) :
    ∃ loc access content, v.resolve true f.path = .ok loc ∧
      v.tree.get? loc = some (.file access content) ∧ f = .of f.path content := by
  obtain ⟨e, he, hashed⟩ := mem_hashedOf.mp hf
  obtain ⟨_, given, hread, rfl⟩ := hashed_visitOf hashed
  rcases (takes_of_hashed hashed).2 with hkind | ⟨_, _, hleads⟩
  · obtain ⟨access, content, hget⟩ := horder.file_of_mem hopens he hkind
    have hname := horder.isName_of_mem hopens hwf he
    obtain ⟨hrefusal, rfl⟩ := hopens.of_read_join hname hget hread
    have hresolve := hopens.resolve_join hname hget
    rw [hrefusal] at hresolve
    exact ⟨loc ++ [e.1], access, given, hresolve, hget, rfl⟩
  · obtain ⟨access, content, hitem⟩ := hleads
    obtain ⟨place, hresolve, hget⟩ := View.resolve_of_item hitem
    have hgiven : given = content := by
      simp only [View.read, hitem] at hread
      split at hread
      · cases hread
        rfl
      · cases hread
    exact ⟨place, access, content, hresolve, hget, hgiven ▸ rfl⟩

/-- So are the files of the groups, if files with one digest have one size. -/
theorem stored_of_mem_groups (hwf : v.tree.WellFormed) (hopens : v.Opens folder loc)
    (horder : Listing.InOrder v s folder es)
    (hagree : Grouping.SizesAgree (hashedOf v s folder es)) {g : Group}
    (hg : g ∈ Grouping.groups (hashedOf v s folder es)) : g.Stored v names := by
  obtain ⟨_, d, _, rfl⟩ := Grouping.mem_groups.mp hg
  intro p hp
  obtain ⟨f, hf, rfl⟩ := List.mem_map.mp hp
  obtain ⟨hmem, hdigest⟩ := List.mem_filter.mp hf
  have hd : f.digest = d := of_decide_eq_true hdigest
  subst hd
  obtain ⟨place, access, content, hresolve, hget, hcontent⟩ :=
    stored_of_hashed hwf hopens horder hmem
  refine ⟨names.first place, access, content, View.target?_of_resolve hresolve,
    (names.get?_first place).trans hget, ?_, ?_⟩
  · rw [Grouping.size_group hagree hmem, hcontent]
    rfl
  · show f.digest = _
    rw [hcontent]
    rfl

/-- Where links are not followed, and no file has several names, different paths lead to different
files. -/
theorem nodup_targets_of_mem_groups (hwf : v.tree.WellFormed) (hlinks : s.followLinks = false)
    (hnames : names.first.Injective) (hopens : v.Opens folder loc)
    (horder : Listing.InOrder v s folder es) {g : Group}
    (hg : g ∈ Grouping.groups (hashedOf v s folder es)) :
    (g.paths.map (v.target? names)).Nodup := by
  have hsublist := Grouping.paths_sublist hg
  have hplaces : ∀ p ∈ g.paths, ∃ name, p = folder.join name ∧
      v.target? names p = some (names.first (loc ++ [name])) := by
    intro p hp
    obtain ⟨f, hf, rfl⟩ := List.mem_map.mp (hsublist.subset hp)
    obtain ⟨e, he, hashed⟩ := mem_hashedOf.mp hf
    obtain ⟨hremovable, content, _, rfl⟩ := removable_of_hashed hwf hlinks hopens horder he hashed
    obtain ⟨access, stored, hget⟩ := hremovable.isFile
    have hresolve := hopens.resolve_join hremovable.isName hget
    rw [hremovable.reached] at hresolve
    exact ⟨e.1, rfl, View.target?_of_resolve hresolve⟩
  refine List.Nodup.map_on ?_ ((nodup_paths_hashedOf horder).sublist hsublist)
  intro p hp q hq heq
  obtain ⟨name, rfl, htarget⟩ := hplaces p hp
  obtain ⟨name', rfl, htarget'⟩ := hplaces q hq
  rw [htarget, htarget', Option.some.injEq, hnames.eq_iff, List.append_cancel_left_eq,
    List.cons.injEq] at heq
  rw [heq.1]

/-- When the reclaimable space of a scan is there to be freed, whichever locations are names of one
file. It never is less than what is there; it is no more exactly when no two paths of a group lead to
one file, unless that is empty, and so always when links are not followed and no file has several
names. Files with one digest are taken to have one size. -/
theorem reclaimable_iff_no_shared_file (v : View) (s : Selection) (folder : Path)
    (hwf : v.tree.WellFormed) (valid : Listing.validate v folder = .ok ())
    (hagree : Grouping.SizesAgree ((strict v s [] folder).calls.filterMap Call.hashed?)) :
    ∃ found, (strict v s [] folder).result = .ok found ∧ ∀ names : v.tree.Naming,
      ∑ loc ∈ v.targets names (found.1.flatMap Group.paths), v.tree.sizeAt loc ≤
        found.2.reclaimableSpace + (found.1.map Group.size).sum ∧
      (found.Reclaimable v names ↔
        ∀ g ∈ found.1, g.size = 0 ∨ (g.paths.map (v.target? names)).Nodup) ∧
      (s.followLinks = false → names.first.Injective → found.Reclaimable v names) := by
  obtain ⟨loc, hopens⟩ := Listing.opens_of_valid valid
  obtain ⟨es, horder, hvisits⟩ := visits_of_valid valid s
  have htells := strict_tellsOf valid s
  rw [hvisits] at htells
  rw [htells.hashed] at hagree
  refine ⟨_, htells.result, fun names => ?_⟩
  have hstored : ∀ g ∈ Grouping.groups (hashedOf v s folder es), g.Stored v names := fun g hg =>
    stored_of_mem_groups hwf hopens horder hagree hg
  obtain ⟨hle, hiff⟩ := Findings.reclaimable_over folder s.wanted hstored
  refine ⟨hle, hiff, fun hlinks hnames => hiff.mpr fun g hg => .inr ?_⟩
  exact nodup_targets_of_mem_groups hwf hlinks hnames hopens horder hg

/-- Three files with one content, one of which is linked to from where the others are, and an empty
file with a link to it. -/
def storedTwice : View :=
  .built (utf8 "/d") false [
    .file (utf8 "o1") (utf8 "xy"), .file (utf8 "o2") (utf8 "xy"),
    .file (utf8 "../data") (utf8 "xy"), .link (utf8 "o3") (utf8 "../data"),
    .file (utf8 "o4") [], .link (utf8 "o5") (utf8 "o4")]

/-- The same, if two of the three files are one with two names. -/
def storedTwice.twoNames : storedTwice.tree.Naming where
  first loc := if loc = [utf8 "d", utf8 "o2"] then [utf8 "d", utf8 "o1"] else loc
  get?_first := by
    intro loc
    split
    · next heq =>
      subst heq
      rfl
    · rfl

/-- There two of the three files can be removed, and no bytes are lost with the empty one. If two of
them are one file with two names, the space for that is not there. -/
theorem reclaimable_of_storedTwice :
    storedTwice.tree.WellFormed ∧ Listing.validate storedTwice (utf8 ".") = .ok () ∧
      Grouping.SizesAgree
        ((strict storedTwice (.ofPrefix (utf8 "o")) [] (utf8 ".")).calls.filterMap Call.hashed?) ∧
      ∃ found, (strict storedTwice (.ofPrefix (utf8 "o")) [] (utf8 ".")).result = .ok found ∧
        found.2.reclaimableSpace = 4 ∧ found.Reclaimable storedTwice (.separate _) ∧
        ¬ found.Reclaimable storedTwice storedTwice.twoNames := by
  have hwf : storedTwice.tree.WellFormed := View.wellFormed_edits _ _ _
  have valid : Listing.validate storedTwice (utf8 ".") = .ok () := by rfl
  have hagree : Grouping.SizesAgree
      ((strict storedTwice (.ofPrefix (utf8 "o")) [] (utf8 ".")).calls.filterMap Call.hashed?) := by
    unfold Grouping.SizesAgree
    decide +kernel
  obtain ⟨found, hfound, hnames⟩ :=
    reclaimable_iff_no_shared_file storedTwice (.ofPrefix (utf8 "o")) (utf8 ".") hwf valid hagree
  have hspace : found.2.reclaimableSpace = 4 :=
    shown_of_result (fun f => f.2.reclaimableSpace) hfound (by decide +kernel)
  let twins : Group := ⟨.of (utf8 "xy"), 2, [utf8 "./o1", utf8 "./o2", utf8 "./o3"]⟩
  let empties : Group := ⟨.of [], 0, [utf8 "./o4", utf8 "./o5"]⟩
  have hgroups : found.1 = [twins, empties] := shown_of_result Prod.fst hfound (by decide +kernel)
  refine ⟨hwf, valid, hagree, found, hfound, hspace, (hnames _).2.1.mpr ?_,
    fun hreclaimable => ?_⟩
  · rw [hgroups]
    decide +kernel
  · have hshared := (hnames _).2.1.mp hreclaimable twins (hgroups ▸ List.mem_cons_self)
    exact absurd hshared (by decide +kernel)

/-- A file and a link to it. -/
def linkedPair : View where
  tree :=
    { items := [
        ([utf8 "output_a"], .file .newFile (utf8 "x")),
        ([utf8 "output_b"], .link (utf8 "output_a"))]
      nodup := by decide +kernel }
  home := []
  privileged := false
  account := none

/-- There the size of the only file is called reclaimable. -/
theorem linkedPair_not_reclaimable :
    ∃ found, (strict linkedPair (.ofPrefix (utf8 "output")) [] (utf8 ".")).result = .ok found ∧
      found.2.reclaimableSpace = 1 ∧
      ∀ names : linkedPair.tree.Naming, ¬ found.Reclaimable linkedPair names := by
  have valid : Listing.validate linkedPair (utf8 ".") = .ok () := by rfl
  obtain ⟨found, hfound⟩ : ∃ found,
      (strict linkedPair (.ofPrefix (utf8 "output")) [] (utf8 ".")).result = .ok found :=
    ⟨_, (strict_tellsOf valid _).result⟩
  have hspace : found.2.reclaimableSpace = 1 :=
    shown_of_result (fun f => f.2.reclaimableSpace) hfound (by decide +kernel)
  have hgroups : found.1 = [⟨.of (utf8 "x"), 1, [utf8 "./output_a", utf8 "./output_b"]⟩] :=
    shown_of_result Prod.fst hfound (by decide +kernel)
  refine ⟨found, hfound, hspace, fun names hreclaimable => ?_⟩
  -- both paths lead to the one file, whatever its first name is
  have htargets : linkedPair.targets names [utf8 "./output_a", utf8 "./output_b"] =
      {names.first [utf8 "output_a"]} := by
    have hfile : linkedPair.target? names (utf8 "./output_a") =
        some (names.first [utf8 "output_a"]) := View.target?_of_resolve (by rfl)
    have hlink : linkedPair.target? names (utf8 "./output_b") =
        some (names.first [utf8 "output_a"]) := View.target?_of_resolve (by rfl)
    simp [View.targets, hfile, hlink]
  have hsize : linkedPair.tree.sizeAt (names.first [utf8 "output_a"]) = 1 := by
    rw [Tree.sizeAt, names.get?_first]
    rfl
  rw [Findings.Reclaimable, hspace, hgroups, List.flatMap_singleton, htargets,
    Finset.sum_singleton, hsize] at hreclaimable
  exact absurd hreclaimable (by decide)

end Scan

end TwinFiles
