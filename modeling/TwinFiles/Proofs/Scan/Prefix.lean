import TwinFiles.Proofs.Scan.Walk

/-!
# Longer prefixes

A longer prefix wants fewer names. The walk of a folder shows the entries that are still wanted, as
it did before, and the groups lose the other paths (`longer_prefix_narrows`). As every prefix is
longer than none, any scan is found in the scan that wants all names.
-/

namespace TwinFiles

namespace Path

/-- The name that a path adds to that of a folder. -/
def nameIn (p folder : Path) : Bytes :=
  p.drop (folder.join []).length

theorem join_eq_append (folder : Path) (name : Bytes) :
    folder.join name = folder.join [] ++ name := by
  rw [join, join]
  split
  · rw [List.append_nil]
  · rw [List.append_assoc, List.singleton_append]

theorem nameIn_join (folder : Path) (name : Bytes) : (folder.join name).nameIn folder = name := by
  rw [nameIn, join_eq_append folder name, List.drop_left]

end Path

/-- A selection that wants names with a longer prefix. -/
def Selection.longer (s : Selection) (more : Bytes) : Selection :=
  { s with wanted := s.wanted ++ more }

/-- A path of a folder has a wanted name. -/
def Selection.admitsPath (s : Selection) (folder p : Path) : Bool :=
  s.admits (p.nameIn folder)

/-- One selection shows and finds in a folder what another one does, paths without wanted names left
out. -/
structure Scan.Narrows (v : View) (wide narrow : Selection) (folder : Path) : Prop where
  /-- Wanted entries are shown as before, in the same order. -/
  walk : Listing.walk v narrow folder =
    (Listing.walk v wide folder).filter fun sighting => narrow.admitsPath folder sighting.path
  /-- Both scans succeed, and the groups of the one are those of the other without the paths that
  are not wanted any more: as far as two paths are left, and in the order in which their first paths
  are shown. -/
  groups : ∃ found found', (strict v wide [] folder).result = .ok found ∧
    (strict v narrow [] folder).result = .ok found' ∧
    Grouping.LeftOf ((strict v wide [] folder).calls.filterMap Call.hashed?)
      ((Listing.walk v wide folder).map Sighting.path) (narrow.admitsPath folder) found.1 found'.1

namespace Scan

variable {v : View} {s : Selection} {folder : Path} {more : Bytes}

theorem admitsPath_join (s : Selection) (folder : Path) (name : Bytes) :
    s.admitsPath folder (folder.join name) = s.admits name := by
  rw [Selection.admitsPath, Path.nameIn_join]

theorem admitsPath_join_iff {name : Bytes} :
    s.admitsPath folder (folder.join name) = true ↔ s.wanted <+: name := by
  rw [admitsPath_join, Selection.admits_iff]

/-- A name with the longer prefix has the shorter one. -/
theorem wanted_of_longer {name : Bytes} (h : (s.longer more).wanted <+: name) :
    s.wanted <+: name :=
  (List.prefix_append s.wanted more).trans h

/-- What an entry is taken for does not depend on the prefix, as long as it is wanted. -/
theorem sight_longer {e : Entry} (h : (s.longer more).wanted <+: e.1) :
    Listing.sight v (s.longer more) folder e = Listing.sight v s folder e := by
  have htakes : (s.longer more).Takes v folder e ↔ s.Takes v folder e :=
    and_congr_left' (iff_of_true h (wanted_of_longer h))
  rw [Listing.sight_of_wanted h, Listing.sight_of_wanted (wanted_of_longer h)]
  exact if_congr htakes rfl rfl

theorem wantedOf_longer (s : Selection) (more : Bytes) (es : List Entry) :
    (s.longer more).wantedOf es = (s.wantedOf es).filter fun e => (s.longer more).admits e.1 := by
  rw [Selection.wantedOf, Selection.wantedOf, List.filter_filter]
  apply List.filter_congr
  intro e _
  cases hadmits : (s.longer more).admits e.1 with
  | false => rfl
  | true =>
    rw [Bool.true_and, eq_comm]
    rw [Selection.admits_iff] at hadmits ⊢
    exact wanted_of_longer hadmits

/-- The walk loses the entries that are not wanted any more. -/
theorem walk_longer (valid : Listing.validate v folder = .ok ()) :
    Listing.walk v (s.longer more) folder =
      (Listing.walk v s folder).filter fun x => (s.longer more).admitsPath folder x.path := by
  obtain ⟨es, hentries, _⟩ := Listing.entries_of_valid valid s
  have hentries' : Listing.entries v (s.longer more) folder = .ok es :=
    (Listing.entries_congr rfl).trans hentries
  rw [Listing.walk_of_entries hentries, Listing.walk_of_entries hentries', wantedOf_longer,
    List.filter_map]
  simp only [Function.comp_def, Listing.path_sight, admitsPath_join]
  apply List.map_congr_left
  intro e he
  exact sight_longer (Selection.admits_iff.mp (List.mem_filter.mp he).2)

theorem narrows_longer (valid : Listing.validate v folder = .ok ()) (s : Selection)
    (more : Bytes) : Narrows v s (s.longer more) folder where
  walk := walk_longer valid
  groups := by
    apply leftOf_of_passing s (s.longer more) valid rfl ((s.longer more).admitsPath folder)
    · intro _ _ e _ hadmits
      rw [visitOf, visitOf, sight_longer (admitsPath_join_iff.mp hadmits)]
    · intro _ _ e _ htakes
      exact admitsPath_join_iff.mpr htakes.1

/-- A longer prefix leaves entries and paths out and does nothing else, whatever the prefix was
before. So what is found with any prefix is found in the scan that wants all names. -/
theorem longer_prefix_narrows (v : View) (s : Selection) (folder : Path)
    (valid : Listing.validate v folder = .ok ()) :
    (∀ more, Narrows v s (s.longer more) folder) ∧
      Narrows v { s with wanted := [] } s folder :=
  ⟨narrows_longer valid s, narrows_longer valid { s with wanted := [] } s.wanted⟩

/-- A folder whose groups are entangled: `x` comes first, unless names have to start with `ob`. -/
def crossedFolder : View where
  tree :=
    { items := [
        ([utf8 "oa"], .file .newFile (utf8 "x")), ([utf8 "ob1"], .file .newFile (utf8 "y")),
        ([utf8 "ob2"], .file .newFile (utf8 "x")), ([utf8 "ob3"], .file .newFile (utf8 "x")),
        ([utf8 "ob4"], .file .newFile (utf8 "y")), ([utf8 "oc"], .file .newFile (utf8 "z")),
        ([utf8 "ob5"], .file .newFile (utf8 "z"))]
      nodup := by decide +kernel }
  home := []
  privileged := false
  account := none

/-- With the longer prefix one group is left that now comes first, one that lost a path, and none of
the third. -/
theorem longer_prefix_narrows_crossedFolder :
    Listing.validate crossedFolder (utf8 "/") = .ok () ∧
      Narrows crossedFolder (.ofPrefix (utf8 "o")) (.ofPrefix (utf8 "ob")) (utf8 "/") ∧
      ∃ wide narrow,
        (strict crossedFolder (.ofPrefix (utf8 "o")) [] (utf8 "/")).result = .ok wide ∧
        (strict crossedFolder (.ofPrefix (utf8 "ob")) [] (utf8 "/")).result = .ok narrow ∧
        wide.1.map Group.paths =
          [[utf8 "/oa", utf8 "/ob2", utf8 "/ob3"], [utf8 "/ob1", utf8 "/ob4"],
            [utf8 "/oc", utf8 "/ob5"]] ∧
        narrow.1.map Group.paths = [[utf8 "/ob1", utf8 "/ob4"], [utf8 "/ob2", utf8 "/ob3"]] := by
  have valid : Listing.validate crossedFolder (utf8 "/") = .ok () := by rfl
  have hnarrows : Narrows crossedFolder (.ofPrefix (utf8 "o")) (.ofPrefix (utf8 "ob")) (utf8 "/") :=
    (longer_prefix_narrows crossedFolder (.ofPrefix (utf8 "o")) (utf8 "/") valid).1 (utf8 "b")
  obtain ⟨wide, narrow, hwide, hnarrow, _⟩ := hnarrows.groups
  exact ⟨valid, hnarrows, wide, narrow, hwide, hnarrow,
    shown_of_result (fun f => f.1.map Group.paths) hwide (by decide +kernel),
    shown_of_result (fun f => f.1.map Group.paths) hnarrow (by decide +kernel)⟩

end Scan

end TwinFiles
