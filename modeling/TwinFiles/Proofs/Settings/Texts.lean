import TwinFiles.Proofs.Settings.Precedence
import TwinFiles.Proofs.Settings.ValueSpelling
import TwinFiles.Proofs.Toml.Texts

/-!
# What layers hold is text

Every text and every key of a layer is UTF-8, whether it comes from a file or from the environment
(`ConfigFile.isText_layer?`, `Environment.isText_layer`), and merging brings in nothing else
(`Layer.IsText.merge`).
-/

namespace TwinFiles

open Utf8 (Valid)

/-- The name that an origin is shown with is UTF-8. -/
def Origin.IsText : Origin → Prop
  | file shown => Valid shown
  | environment => True

/-- The text of a scalar is UTF-8, if it is one. -/
def Scalar.IsText : Scalar → Prop
  | text s => Valid s
  | character s => Valid s
  | _ => True

/-- All texts, keys and origins in a value are UTF-8. -/
inductive LayerValue.IsText : LayerValue → Prop where
  | scalar {origin : Origin} {value : Scalar} (horigin : origin.IsText) (hvalue : value.IsText) :
      IsText (.scalar origin value)
  | list {origin : Origin} {items : List LayerValue} (horigin : origin.IsText)
      (hitems : ∀ item ∈ items, IsText item) : IsText (.list origin items)
  | table {origin : Origin} {fields : List (Bytes × LayerValue)} (horigin : origin.IsText)
      (hkeys : ∀ field ∈ fields, Valid field.1) (hvalues : ∀ field ∈ fields, IsText field.2) :
      IsText (.table origin fields)

/-- All keys and values of a layer are. -/
def Layer.IsText (layer : Layer) : Prop :=
  ∀ field ∈ layer, Valid field.1 ∧ field.2.IsText

/-! ## Merging -/

namespace LayerValue

variable {v : LayerValue}

theorem IsText.origin (h : v.IsText) : v.origin.IsText := by
  cases h <;> assumption

theorem isText_table_iff {origin : Origin} {fields : Layer} :
    (table origin fields).IsText ↔ origin.IsText ∧ fields.IsText := by
  constructor
  · rintro (_ | _ | ⟨horigin, hkeys, hvalues⟩)
    exact ⟨horigin, fun field hfield => ⟨hkeys field hfield, hvalues field hfield⟩⟩
  · rintro ⟨horigin, hfields⟩
    exact .table horigin (fun field hfield => (hfields field hfield).1)
      fun field hfield => (hfields field hfield).2

end LayerValue

namespace Layer

variable {layer old new : Layer} {key : Bytes} {value : LayerValue}

theorem IsText.get? (h : layer.IsText) (hget : layer.get? key = some value) : value.IsText := by
  obtain ⟨front, behind, heq, _⟩ := List.lookup_eq_some_iff.mp hget
  refine (h (key, value) ?_).2
  rw [heq]
  simp

theorem IsText.set (h : layer.IsText) (hkey : Valid key) (hvalue : value.IsText) :
    (layer.set key value).IsText := by
  intro field hfield
  rw [Layer.set] at hfield
  split at hfield
  · obtain ⟨field', hmem, rfl⟩ := List.mem_map.mp hfield
    split
    · exact ⟨hkey, hvalue⟩
    · exact h field' hmem
  · rcases List.mem_append.mp hfield with hmem | hmem
    · exact h field hmem
    · rw [List.mem_singleton.mp hmem]
      exact ⟨hkey, hvalue⟩

/-- Layers are merged into a layer of texts if their values are. -/
theorem IsText.merge_of (hold : old.IsText) (hnew : new.IsText)
    (hmerge : ∀ field ∈ new, ∀ before : LayerValue, before.IsText → (before.merge field.2).IsText) :
    IsText (merge old new) := by
  induction new generalizing old with
  | nil => exact hold
  | cons field new ih =>
    obtain ⟨key, value⟩ := field
    obtain ⟨⟨hkey, hvalue⟩, hnew⟩ := List.forall_mem_cons.mp hnew
    obtain ⟨hbefore, hmerge⟩ := List.forall_mem_cons.mp hmerge
    rw [merge]
    refine ih (hold.set hkey ?_) hnew hmerge
    cases hget : Layer.get? old key with
    | none => exact hvalue
    | some before => exact hbefore before (hold.get? hget)

end Layer

theorem LayerValue.IsText.merge {old new : LayerValue} (hold : old.IsText) (hnew : new.IsText) :
    (old.merge new).IsText := by
  induction hnew generalizing old with
  | scalar horigin hvalue =>
    rw [LayerValue.merge]
    · exact .scalar horigin hvalue
    · intro _ _ htable
      cases htable
  | list horigin hitems _ =>
    rw [LayerValue.merge]
    · exact .list horigin hitems
    · intro _ _ htable
      cases htable
  | table horigin hkeys hvalues ih =>
    cases old with
    | table origin fields =>
      obtain ⟨_, hbelow⟩ := isText_table_iff.mp hold
      have hfields := (isText_table_iff.mp (.table horigin hkeys hvalues)).2
      rw [LayerValue.merge]
      exact isText_table_iff.mpr
        ⟨horigin, hbelow.merge_of hfields fun field hfield _ h => ih field hfield h⟩
    | _ =>
      rw [LayerValue.merge]
      · exact .table horigin hkeys hvalues
      · intro _ _ htable
        cases htable

theorem Layer.IsText.merge {old new : Layer} (hold : old.IsText) (hnew : new.IsText) :
    Layer.IsText (Layer.merge old new) :=
  hold.merge_of hnew fun field hfield _ h => h.merge (hnew field hfield).2

/-! ## Files -/

namespace LayerValue

theorem isText_momentFields {origin : Origin} (h : origin.IsText) :
    Layer.IsText (momentFields origin) := by
  have hname : Valid (utf8 "$__toml_private_datetime") := by decide
  exact List.forall_mem_singleton.mpr ⟨hname, .scalar h rfl⟩

theorem isText_ofFields? {origin : Origin} {fields : Layer} {v : LayerValue}
    (horigin : origin.IsText) (hfields : fields.IsText) (h : ofFields? origin fields = some v) :
    v.IsText := by
  unfold ofFields? at h
  split at h
  · cases h
  · next value hvalue =>
    cases h
    exact hfields.get? hvalue
  · cases h
    exact isText_table_iff.mpr ⟨horigin, hfields⟩

variable {origin : Origin}

/-- Fields are text if they are made of values that are. -/
theorem isText_ofTomlFields?_of {fields : List (Bytes × Toml.Value)} {layer : Layer}
    (hkeys : ∀ field ∈ fields, Valid field.1)
    (hvalues : ∀ field ∈ fields, ∀ v, ofToml? origin field.2 = some v → v.IsText)
    (h : ofTomlFields? origin fields = some layer) : layer.IsText := by
  induction fields generalizing layer with
  | nil =>
    rw [ofTomlFields?] at h
    cases h
    exact List.forall_mem_nil _
  | cons field fields ih =>
    obtain ⟨key, value⟩ := field
    obtain ⟨hkey, hkeys⟩ := List.forall_mem_cons.mp hkeys
    obtain ⟨hvalue, hvalues⟩ := List.forall_mem_cons.mp hvalues
    rw [ofTomlFields?] at h
    split at h
    · next hfirst hrest =>
      cases h
      exact List.forall_mem_cons.mpr ⟨⟨hkey, hvalue _ hfirst⟩, ih hkeys hvalues hrest⟩
    · cases h

theorem isText_ofTomlItems?_of {items : List Toml.Value} {vs : List LayerValue}
    (hitems : ∀ item ∈ items, ∀ v, ofToml? origin item = some v → v.IsText)
    (h : ofTomlItems? origin items = some vs) : ∀ v ∈ vs, v.IsText := by
  induction items generalizing vs with
  | nil =>
    rw [ofTomlItems?] at h
    cases h
    exact List.forall_mem_nil _
  | cons item items ih =>
    obtain ⟨hitem, hitems⟩ := List.forall_mem_cons.mp hitems
    rw [ofTomlItems?] at h
    split at h
    · next hfirst hrest =>
      cases h
      exact List.forall_mem_cons.mpr ⟨hitem _ hfirst, ih hitems hrest⟩
    · cases h

theorem isText_ofToml? (horigin : origin.IsText) {value : Toml.Value} (hvalue : value.IsText)
    {v : LayerValue} (h : ofToml? origin value = some v) : v.IsText := by
  induction hvalue generalizing v with
  | string htext =>
    rw [ofToml?] at h
    cases h
    exact .scalar horigin htext
  | integer n =>
    rw [ofToml?] at h
    cases h
    exact .scalar horigin trivial
  | float x =>
    rw [ofToml?] at h
    cases h
    exact .scalar horigin trivial
  | bool b =>
    rw [ofToml?] at h
    cases h
    exact .scalar horigin trivial
  | moment =>
    rw [ofToml?] at h
    cases h
    exact isText_table_iff.mpr ⟨horigin, isText_momentFields horigin⟩
  | array _ ih =>
    rw [ofToml?] at h
    obtain ⟨vs, hvs, rfl⟩ := Option.map_eq_some_iff.mp h
    exact .list horigin (isText_ofTomlItems?_of (fun item hitem _ => ih item hitem) hvs)
  | table hkeys _ ih =>
    rw [ofToml?] at h
    split at h
    · next hfields =>
      exact isText_ofFields? horigin
        (isText_ofTomlFields?_of hkeys (fun field hfield _ => ih field hfield) hfields) h
    · cases h

end LayerValue

/-- The layer of a configuration file holds texts. -/
theorem ConfigFile.isText_layer? {v : View} {path : Path} {layer : Layer}
    (h : layer? v path = some layer) : layer.IsText := by
  have horigin : (Origin.file (shownPath v.homePath path)).IsText := by
    show Valid (shownPath _ _)
    simp only [shownPath]
    repeat' split
    all_goals exact Utf8.valid_lossy _
  unfold layer? at h
  split at h
  · cases h
  · split at h
    · next fields hfields =>
      have hfields := Toml.isText_of_parse? hfields
      exact LayerValue.isText_ofTomlFields?_of (fun field hfield => (hfields field hfield).1)
        (fun field hfield _ => LayerValue.isText_ofToml? horigin (hfields field hfield).2) h
    · cases h

/-! ## Variables -/

namespace EnvironmentValue

/-- What is spelled is text: values, items or fields. -/
def Part.IsText : Part → Prop
  | value v => v.IsText
  | items vs => ∀ v ∈ vs, v.IsText
  | fields layer => layer.IsText

theorem isText_scalar {value : Scalar} (h : value.IsText) : (scalar value).IsText :=
  .scalar trivial h

/-- A bare word is text as it stands, or holds none. -/
theorem isText_bare (s : List Char) : (bare s).IsText := by
  unfold bare
  repeat' split
  case h_2 => exact Utf8.valid_ofChars s
  all_goals trivial

/-- Values are spelled in characters, so their texts and keys are UTF-8. -/
theorem Spells.isText {cs : List Char} {part : Part} (h : Spells cs part) : part.IsText := by
  induction h with
  | bool b _ _ => exact isText_scalar trivial
  | character c _ _ =>
    refine isText_scalar ?_
    show Valid (Utf8.encode c)
    rw [← Utf8.ofChars_singleton]
    exact Utf8.valid_ofChars [c]
  | text _ _ _ => exact isText_scalar (Utf8.valid_ofChars _)
  | list _ _ _ ih => exact .list trivial ih
  | table _ _ _ ih => exact LayerValue.isText_table_iff.mpr ⟨trivial, ih⟩
  | number _ _ _ => exact isText_scalar (isText_bare _)
  | word _ _ _ => exact isText_scalar (Utf8.valid_ofChars _)
  | noItems => exact List.forall_mem_nil _
  | lastItem _ _ ih => exact List.forall_mem_singleton.mpr ih
  | moreItems _ _ ih ihrest => exact List.forall_mem_cons.mpr ⟨ih, ihrest⟩
  | noFields => exact List.forall_mem_nil _
  | lastField _ _ ih => exact List.forall_mem_singleton.mpr ⟨Utf8.valid_ofChars _, ih⟩
  | moreFields _ _ _ ih ihrest =>
    show Layer.IsText (addField _ _ _)
    rw [addField]
    split
    · exact ihrest
    · exact List.forall_mem_cons.mpr ⟨⟨Utf8.valid_ofChars _, ih⟩, ihrest⟩

/-- Whatever a variable holds, it is read as text. -/
theorem isText_read (s : Bytes) : (read s).IsText := by
  by_cases h : ∃ value, Spells (Utf8.chars s) (.value value)
  · obtain ⟨value, hspells⟩ := h
    rw [read_eq_of_spells hspells]
    exact hspells.isText
  · rw [read_eq_of_not_spells (not_exists.mp h)]
    exact isText_scalar (Utf8.valid_ofChars _)

end EnvironmentValue

namespace Environment

/-- The keys that a name leads through are UTF-8, though names may be any bytes. -/
theorem valid_of_keyOf? {name : Bytes} {keys : List Bytes} (h : keyOf? name = some keys) :
    ∀ key ∈ keys, Valid key := by
  simp only [keyOf?] at h
  split at h
  · split at h
    · cases h
    · rw [← Option.some.inj h]
      refine Utf8.valid_of_mem_splitOn (by decide) ?_
      exact Utf8.valid_map (fun b => (Ascii.toLower_ascii b).1) (fun b => (Ascii.toLower_ascii b).2)
        (Utf8.valid_ofChars _)
  · cases h

theorem isText_nested {keys : List Bytes} (hkeys : ∀ key ∈ keys, Valid key) {value : LayerValue}
    (hvalue : value.IsText) : (nested keys value).IsText := by
  induction keys with
  | nil => exact List.forall_mem_nil _
  | cons key keys ih =>
    obtain ⟨hkey, hkeys⟩ := List.forall_mem_cons.mp hkeys
    cases keys with
    | nil => exact List.forall_mem_singleton.mpr ⟨hkey, hvalue⟩
    | cons next keys =>
      exact List.forall_mem_singleton.mpr
        ⟨hkey, LayerValue.isText_table_iff.mpr ⟨trivial, ih hkeys⟩⟩

/-- The layer of the environment holds texts, though its variables may hold any bytes. -/
theorem isText_layer (env : Environment) : env.layer.IsText := by
  rw [layer]
  refine List.foldlRecOn (motive := Layer.IsText) env _ (List.forall_mem_nil _)
    fun below hbelow entry _ => ?_
  split
  · next keys hkeys =>
    exact hbelow.merge (isText_nested (valid_of_keyOf? hkeys) (EnvironmentValue.isText_read _))
  · exact hbelow

end Environment

end TwinFiles
