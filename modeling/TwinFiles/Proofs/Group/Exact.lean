import TwinFiles.Proofs.Report.Json

/-!
# JSON forms that keep paths exactly

The JSON form of a group or of a hashed file holds its paths byte for byte, so there is one only if
all of them are UTF-8, and the record can be read back from its text (`Exact`). Reports show the
text of paths instead: a report has an entry for every group, and that entry is as exact as the form
of the group where there is one (`JsonReport.carries_form_iff`).
-/

namespace TwinFiles

/-! ## Paths -/

namespace Path

theorem json?_eq_some {p : Path} {value : Json} :
    p.json? = some value ↔ Utf8.Valid p ∧ value = .string p := by
  rw [json?]
  split
  · rename_i hvalid
    rw [Option.some.injEq]
    exact ⟨fun h => ⟨hvalid, h.symm⟩, fun h => h.2.symm⟩
  · rename_i hvalid
    exact ⟨nofun, fun h => absurd h.1 hvalid⟩

/-- Paths have forms if they all are UTF-8: the paths as strings. -/
theorem mapM_json?_eq_some {paths : List Path} {values : List Json} :
    paths.mapM json? = some values ↔
      (∀ p ∈ paths, Utf8.Valid p) ∧ values = paths.map Json.string := by
  induction paths generalizing values with
  | nil =>
    rw [List.mapM_nil, List.map_nil]
    exact ⟨fun h => ⟨List.forall_mem_nil _, (Option.some.inj h).symm⟩, fun h => h.2 ▸ rfl⟩
  | cons p paths ih =>
    simp only [List.mapM_cons, Option.bind_eq_bind, Option.bind_eq_some_iff, json?_eq_some, ih,
      Option.pure_def, Option.some.injEq, List.forall_mem_cons, List.map_cons]
    constructor
    · rintro ⟨_, ⟨hp, rfl⟩, _, ⟨hpaths, rfl⟩, rfl⟩
      exact ⟨⟨hp, hpaths⟩, rfl⟩
    · rintro ⟨⟨hp, hpaths⟩, rfl⟩
      exact ⟨_, ⟨hp, rfl⟩, _, ⟨hpaths, rfl⟩, rfl⟩

/-- A path is shown as it is if and only if it is UTF-8. -/
theorem display_eq_self_iff (p : Path) : p.display = p ↔ Utf8.Valid p := by
  refine ⟨fun h => ?_, Utf8.lossy_of_valid⟩
  rw [← h]
  exact Utf8.valid_lossy p

theorem map_display_eq_self_iff (paths : List Path) :
    paths.map display = paths ↔ ∀ p ∈ paths, Utf8.Valid p := by
  have hself := List.map_inj_left (l := paths) (f := display) (g := id)
  rw [List.map_id] at hself
  exact hself.trans (forall₂_congr fun p _ => display_eq_self_iff p)

end Path

/-! ## Records -/

/-- The digest that stands in a value as text. -/
def Digest.ofJson? (value : Json) : Option Digest := do
  Digest.ofHex? (← value.text?)

/-- The group that a value is the form of. -/
def Group.ofJson? (value : Json) : Option Group := do
  let digest ← Digest.ofJson? (← value.field? (utf8 "hash"))
  let size ← (← value.field? (utf8 "size")).nat?
  let paths ← (← (← value.field? (utf8 "paths")).items?).mapM Json.text?
  return ⟨digest, size, paths⟩

/-- The hashed file that a value is the form of. -/
def HashedFile.ofJson? (value : Json) : Option HashedFile := do
  let path ← (← value.field? (utf8 "path")).text?
  let size ← (← value.field? (utf8 "size")).nat?
  let digest ← Digest.ofJson? (← value.field? (utf8 "hash"))
  return ⟨path, size, digest⟩

/-- A kind of record whose JSON form keeps everything: there is a form if and only if all paths of
the record are UTF-8, and its text holds the digest as sixty-four small digits and is read back as
the record. -/
structure Exact {α : Type} (json? : α → Option Json) (ofJson? : Json → Option α)
    (digest : α → Digest) (paths : α → List Path) : Prop where
  isSome_iff : ∀ a, (json? a).isSome ↔ ∀ p ∈ paths a, Utf8.Valid p
  parses : ∀ a value, json? a = some value → Json.parse? value.compact = some value
  reads_back : ∀ a value, json? a = some value → ofJson? value = some a
  digits : ∀ a value, json? a = some value → ∃ text,
    value.field? (utf8 "hash") = some (.string text) ∧ text.length = 64 ∧
      (∀ b ∈ text, Hex.IsSmallDigit b) ∧ Digest.ofHex? text = some (digest a)

namespace Exact

variable {α : Type} {json? : α → Option Json} {ofJson? : Json → Option α} {digest : α → Digest}
  {paths : α → List Path}

/-- A form is exact if it shows the digest as text and can be read, and its names are ASCII. -/
theorem of_form {form : α → Json}
    (hform : ∀ a value, json? a = some value ↔
      (∀ p ∈ paths a, Utf8.Valid p) ∧ value = form a)
    (htext : ∀ a, (∀ p ∈ paths a, Utf8.Valid p) → (form a).IsText)
    (hread : ∀ a, ofJson? (form a) = some a)
    (hdigest : ∀ a, (form a).field? (utf8 "hash") = some (.string (digest a).hex)) :
    Exact json? ofJson? digest paths where
  isSome_iff a := by
    rw [Option.isSome_iff_exists]
    exact ⟨fun ⟨_, h⟩ => ((hform a _).mp h).1, fun h => ⟨_, (hform a _).mpr ⟨h, rfl⟩⟩⟩
  parses a value h := by
    obtain ⟨hpaths, rfl⟩ := (hform a value).mp h
    exact Json.parse?_render Json.compact_blank (htext a hpaths)
  reads_back a value h := by
    obtain ⟨_, rfl⟩ := (hform a value).mp h
    exact hread a
  digits a value h := by
    obtain ⟨_, rfl⟩ := (hform a value).mp h
    exact ⟨_, hdigest a, (digest a).length_hex, fun _ => Hex.isSmallDigit_of_mem_encode,
      (digest a).ofHex?_hex⟩

/-- Records whose forms have one text are the same. -/
theorem eq_of_compact_eq (h : Exact json? ofJson? digest paths) {a b : α} {value other : Json}
    (ha : json? a = some value) (hb : json? b = some other)
    (heq : value.compact = other.compact) : a = b := by
  have hvalue : value = other := by
    have hparse := h.parses a value ha
    rw [heq, h.parses b other hb] at hparse
    exact (Option.some.inj hparse).symm
  subst hvalue
  have hread := h.reads_back a value ha
  rw [h.reads_back b value hb] at hread
  exact (Option.some.inj hread).symm

end Exact

/-! ## Groups -/

namespace Group

/-- The form of a group whose paths are UTF-8. -/
def form (g : Group) : Json :=
  .object [
    (utf8 "hash", .string g.digest.hex),
    (utf8 "size", .nat g.size),
    (utf8 "paths", .array (g.paths.map Json.string))]

theorem json?_eq_some {g : Group} {value : Json} :
    g.json? = some value ↔ (∀ p ∈ g.paths, Utf8.Valid p) ∧ value = g.form := by
  simp only [json?, Option.bind_eq_bind, Option.bind_eq_some_iff, Path.mapM_json?_eq_some]
  constructor
  · rintro ⟨_, ⟨hpaths, rfl⟩, h⟩
    exact ⟨hpaths, (Option.some.inj h).symm⟩
  · rintro ⟨hpaths, rfl⟩
    exact ⟨_, ⟨hpaths, rfl⟩, rfl⟩

theorem isText_form {g : Group} (h : ∀ p ∈ g.paths, Utf8.Valid p) : g.form.IsText := by
  apply JsonReport.isText_object
  · show ∀ name ∈ [utf8 "hash", utf8 "size", utf8 "paths"], Utf8.IsAscii name
    decide
  · have hpaths : (Json.array (g.paths.map Json.string)).IsText :=
      .array (List.forall_mem_map.mpr fun p hp => .string (h p hp))
    simp only [List.map_cons, List.map_nil, List.forall_mem_cons]
    exact ⟨.string g.digest.valid_hex, .number _ _, hpaths, List.forall_mem_nil _⟩

theorem ofJson?_form (g : Group) : ofJson? g.form = some g := by
  have hpaths : (g.paths.map Json.string).mapM Json.text? = some (g.paths.map id) := by
    apply mapM_map_some
    intro p
    rfl
  show (do
    let digest ← Digest.ofHex? g.digest.hex
    let paths ← (g.paths.map Json.string).mapM Json.text?
    return (⟨digest, g.size, paths⟩ : Group)) = _
  rw [Digest.ofHex?_hex, hpaths, List.map_id]
  rfl

theorem exact : Exact json? ofJson? Group.digest Group.paths :=
  .of_form (fun _ _ => json?_eq_some) (fun _ => isText_form) ofJson?_form fun _ => rfl

end Group

/-! ## Hashed files -/

namespace HashedFile

/-- The form of a hashed file whose path is UTF-8. -/
def form (f : HashedFile) : Json :=
  .object
    [(utf8 "path", .string f.path), (utf8 "size", .nat f.size), (utf8 "hash", .string f.digest.hex)]

theorem json?_eq_some {f : HashedFile} {value : Json} :
    f.json? = some value ↔ (∀ p ∈ [f.path], Utf8.Valid p) ∧ value = f.form := by
  simp only [json?, Option.bind_eq_bind, Option.bind_eq_some_iff, Path.json?_eq_some,
    List.forall_mem_singleton]
  constructor
  · rintro ⟨_, ⟨hpath, rfl⟩, h⟩
    exact ⟨hpath, (Option.some.inj h).symm⟩
  · rintro ⟨hpath, rfl⟩
    exact ⟨_, ⟨hpath, rfl⟩, rfl⟩

theorem isText_form {f : HashedFile} (h : Utf8.Valid f.path) : f.form.IsText := by
  apply JsonReport.isText_object
  · show ∀ name ∈ [utf8 "path", utf8 "size", utf8 "hash"], Utf8.IsAscii name
    decide
  · simp only [List.map_cons, List.map_nil, List.forall_mem_cons]
    exact ⟨.string h, .number _ _, .string f.digest.valid_hex, List.forall_mem_nil _⟩

theorem ofJson?_form (f : HashedFile) : ofJson? f.form = some f := by
  show (do
    let digest ← Digest.ofHex? f.digest.hex
    return (⟨f.path, f.size, digest⟩ : HashedFile)) = _
  rw [Digest.ofHex?_hex]
  rfl

theorem exact : Exact json? ofJson? HashedFile.digest fun f => [f.path] :=
  .of_form (fun _ _ => json?_eq_some)
    (fun _ h => isText_form (h _ (List.mem_singleton.mpr rfl))) ofJson?_form fun _ => rfl

end HashedFile

/-! ## Forms and reports -/

namespace JsonReport

/-- An entry of a report carries what a form does, with the files in place of the paths. -/
structure Carries (entry form : Json) : Prop where
  hash : entry.field? (utf8 "hash") = form.field? (utf8 "hash")
  size : entry.field? (utf8 "size") = form.field? (utf8 "size")
  files : entry.field? (utf8 "files") = form.field? (utf8 "paths")

/-- The entry of a group carries what its form would, if and only if its paths are UTF-8. -/
theorem carries_form_iff (g : Group) :
    Carries (group g) g.form ↔ ∀ p ∈ g.paths, Utf8.Valid p := by
  have hfiles : (group g).field? (utf8 "files") = g.form.field? (utf8 "paths") ↔
      g.paths.map Path.display = g.paths := by
    show some (Json.array (g.paths.map (Json.string ∘ Path.display))) =
      some (Json.array (g.paths.map Json.string)) ↔ _
    rw [Option.some.injEq, Json.array.injEq, ← List.map_map]
    exact List.map_inj_right fun p q h => Json.string.inj h
  rw [← Path.map_display_eq_self_iff, ← hfiles]
  exact ⟨Carries.files, fun h => ⟨rfl, rfl, h⟩⟩

end JsonReport

/-- The JSON form of a group or of a hashed file keeps everything or there is none. There is one if
and only if every path is UTF-8; then its text is read back as the same record, so no two records
have one text. Where a group has a form the entry of a report carries the same, and this is just
where the shown text of every path is the path. -/
theorem json_exact_or_absent :
    Exact Group.json? Group.ofJson? Group.digest Group.paths ∧
      Exact HashedFile.json? HashedFile.ofJson? HashedFile.digest (fun f => [f.path]) ∧
      (∀ (g h : Group) value other, g.json? = some value → h.json? = some other →
        value.compact = other.compact → g = h) ∧
      (∀ (f h : HashedFile) value other, f.json? = some value → h.json? = some other →
        value.compact = other.compact → f = h) ∧
      (∀ (g : Group) value, g.json? = some value →
        JsonReport.Carries (JsonReport.group g) value) ∧
      ∀ g : Group, g.json?.isSome ↔ g.paths.map Path.display = g.paths := by
  refine ⟨Group.exact, HashedFile.exact, ?_, ?_, ?_, ?_⟩
  · intro g h value other hg hh
    exact Group.exact.eq_of_compact_eq hg hh
  · intro f h value other hf hh
    exact HashedFile.exact.eq_of_compact_eq hf hh
  · intro g value h
    obtain ⟨hpaths, rfl⟩ := Group.json?_eq_some.mp h
    exact (JsonReport.carries_form_iff g).mpr hpaths
  · intro g
    exact (Group.exact.isSome_iff g).trans (Path.map_display_eq_self_iff g.paths).symm

/-- A group with a quote, a newline and a character beyond ASCII in its paths is read back and shown
as it is. With a path that is no UTF-8 it has no form. -/
theorem json_exact_or_absent_awkward :
    (∃ value, Group.json? ⟨.ofEmpty, 3, [utf8 "a\"", utf8 "é\n"]⟩ = some value ∧
      (Json.parse? value.compact).bind Group.ofJson? =
        some ⟨.ofEmpty, 3, [utf8 "a\"", utf8 "é\n"]⟩ ∧
      JsonReport.Carries (JsonReport.group ⟨.ofEmpty, 3, [utf8 "a\"", utf8 "é\n"]⟩) value) ∧
      Group.json? ⟨.ofEmpty, 3, [utf8 "a\"", [0xFF]]⟩ = none := by
  obtain ⟨hgroup, _, _, _, hcarries, _⟩ := json_exact_or_absent
  have hform : Group.json? ⟨.ofEmpty, 3, [utf8 "a\"", utf8 "é\n"]⟩ =
      some (Group.form ⟨.ofEmpty, 3, [utf8 "a\"", utf8 "é\n"]⟩) :=
    Group.json?_eq_some.mpr ⟨by decide +kernel, rfl⟩
  refine ⟨⟨_, hform, ?_, hcarries _ _ hform⟩, ?_⟩
  · rw [hgroup.parses _ _ hform, Option.bind_some, hgroup.reads_back _ _ hform]
  · rw [← Option.not_isSome_iff_eq_none, hgroup.isSome_iff]
    decide +kernel

end TwinFiles
