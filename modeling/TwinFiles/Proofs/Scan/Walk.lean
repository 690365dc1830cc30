import TwinFiles.Proofs.Group.Narrowing
import TwinFiles.Proofs.Scan.Answer

/-!
# What a listing shows

The walk of a folder is what its listing shows, names that are not wanted apart (`Listing.walk`).
While nothing changes each wanted entry is shown once and in order (`walk_of_entries`). A scan
hashes files of its walk, in that order; so a scan that hashes some of the files of another one,
told by their paths, finds what is left of the other's groups (`leftOf_of_passing`).
-/

namespace TwinFiles

namespace Sighting

/-- The path that is shown. -/
def path : Sighting → Path
  | unwanted p => p
  | nonFile p => p
  | file p => p
  | failed p _ => p

end Sighting

/-- What the listing of a folder shows of wanted entries, and its failures. -/
def Listing.walk (v : View) (s : Selection) (folder : Path) : List Sighting :=
  (sightings v s folder).filter Sighting.counts

namespace Listing

variable {v : View} {s s' : Selection} {folder : Path} {es : List Entry}

theorem path_sight (v : View) (s : Selection) (folder : Path) (e : Entry) :
    (sight v s folder e).path = folder.join e.1 := by
  rw [sight]
  split
  · split <;> rfl
  · rfl

theorem counts_sight (v : View) (s : Selection) (folder : Path) (e : Entry) :
    (sight v s folder e).counts = s.admits e.1 := by
  rw [sight]
  cases s.admits e.1 with
  | true =>
    rw [if_pos rfl]
    split <;> rfl
  | false => rfl

/-- The walk shows the wanted entries. -/
theorem walk_of_entries (h : entries v s folder = .ok es) :
    walk v s folder = (s.wantedOf es).map (sight v s folder) := by
  rw [walk, sightings, h]
  simp only [List.filter_map, Function.comp_def, counts_sight]
  rfl

theorem map_path_walk (h : entries v s folder = .ok es) :
    (walk v s folder).map Sighting.path = (s.wantedOf es).map fun e => folder.join e.1 := by
  rw [walk_of_entries h, List.map_map]
  exact List.map_congr_left fun e _ => path_sight v s folder e

/-- Entries come in an order that only the wish for sorting decides. -/
theorem entries_congr (h : s'.sorted = s.sorted) : entries v s' folder = entries v s folder := by
  rw [entries, entries, entries.ordered, entries.ordered, h]

end Listing

namespace Scan

variable {v : View} {s s' : Selection} {folder : Path} {es : List Entry}

/-- While nothing changes a scan of a folder that passes the check tells of its entries. -/
theorem strict_tellsOf_entries (valid : Listing.validate v folder = .ok ())
    (hentries : Listing.entries v s folder = .ok es) :
    TellsOf (strict v s [] folder) s folder (es.map (visitOf v s folder)) := by
  rw [← visits_of_entries hentries]
  exact strict_tellsOf valid s

theorem found_of_entries (valid : Listing.validate v folder = .ok ())
    (hentries : Listing.entries v s folder = .ok es) {found : Findings}
    (hfound : (strict v s [] folder).result = .ok found) :
    found = Findings.over folder s.wanted (es.map (visitOf v s folder)) :=
  Except.ok.inj (hfound.symm.trans (strict_tellsOf_entries valid hentries).result)

theorem hashedOf_wantedOf (v : View) (s : Selection) (folder : Path) (es : List Entry) :
    hashedOf v s folder (s.wantedOf es) = hashedOf v s folder es :=
  filterMap_wantedOf Visit.hashed? (fun _ => rfl) es

/-- If a scan takes only entries whose paths pass a test, and visits these as another scan does,
then it hashes those files of the other that pass. -/
theorem hashedOf_eq_passing {keep : Path → Bool}
    (hvisit : ∀ e ∈ es, keep (folder.join e.1) = true →
      visitOf v s' folder e = visitOf v s folder e)
    (htakes : ∀ e ∈ es, s'.Takes v folder e → keep (folder.join e.1) = true) :
    hashedOf v s' folder es = Grouping.passing keep (hashedOf v s folder es) := by
  rw [hashedOf, hashedOf, Grouping.passing, List.filterMap_map, List.filterMap_map,
    List.filter_filterMap]
  apply List.filterMap_congr
  intro e he
  simp only [Function.comp_apply]
  by_cases hkeep : keep (folder.join e.1) = true
  · rw [hvisit e he hkeep]
    cases hhashed : (visitOf v s folder e).hashed? with
    | none => rfl
    | some f =>
      obtain ⟨_, content, _, rfl⟩ := hashed_visitOf hhashed
      rw [Option.filter_some_pos]
      exact hkeep
  · have hnone : (visitOf v s' folder e).hashed? = none := by
      refine Option.eq_none_iff_forall_ne_some.mpr fun f hhashed => ?_
      exact hkeep (htakes e he (takes_of_hashed hhashed))
    rw [hnone]
    refine Eq.symm (Option.filter_eq_none_iff.mpr fun f hhashed hpath => hkeep ?_)
    obtain ⟨_, content, _, rfl⟩ := hashed_visitOf hhashed
    exact hpath

/-- So it finds what is left of the groups of the other. -/
theorem leftOf_of_passing (s s' : Selection) (valid : Listing.validate v folder = .ok ())
    (hsorted : s'.sorted = s.sorted) (keep : Path → Bool)
    (hvisit : ∀ es, Listing.InOrder v s folder es → ∀ e ∈ es,
      keep (folder.join e.1) = true → visitOf v s' folder e = visitOf v s folder e)
    (htakes : ∀ es, Listing.InOrder v s folder es → ∀ e ∈ es, s'.Takes v folder e →
      keep (folder.join e.1) = true) :
    ∃ wide narrow, (strict v s [] folder).result = .ok wide ∧
      (strict v s' [] folder).result = .ok narrow ∧
      Grouping.LeftOf ((strict v s [] folder).calls.filterMap Call.hashed?)
        ((Listing.walk v s folder).map Sighting.path) keep wide.1 narrow.1 := by
  obtain ⟨es, hentries, horder⟩ := Listing.entries_of_valid valid s
  have htells := strict_tellsOf_entries valid hentries
  have htells' := strict_tellsOf_entries valid ((Listing.entries_congr hsorted).trans hentries)
  refine ⟨_, _, htells.result, htells'.result, ?_⟩
  rw [htells.hashed, Listing.map_path_walk hentries]
  show Grouping.LeftOf (hashedOf v s folder es) _ keep (Grouping.groups (hashedOf v s folder es))
    (Grouping.groups (hashedOf v s' folder es))
  rw [hashedOf_eq_passing (hvisit es horder) (htakes es horder)]
  apply Grouping.leftOf_groups
  · exact horder.nodup_paths.sublist (List.filter_sublist.map _)
  · rw [← hashedOf_wantedOf]
    exact paths_hashedOf_sublist v s folder (s.wantedOf es)

end Scan

end TwinFiles
