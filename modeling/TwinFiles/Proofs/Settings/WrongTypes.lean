import TwinFiles.Proofs.Settings.Precedence

/-!
# Values of the wrong type

The types of values are checked once, on the merged layers. So a load succeeds if the values of the
environment are of their types, and those of the file that the environment leaves visible
(`load_ok_iff`): a wrong value of the file that the environment hides is passed over.
-/

namespace TwinFiles

/-- A value is of the type of a setting. -/
def SettingKey.Accepts (key : SettingKey) (value : LayerValue) : Prop :=
  ∃ x, key.read value = .ok x

namespace Layer

/-- The values of settings are of their types. -/
def Typed (layer : Layer) : Prop :=
  ∀ key : SettingKey, ∀ value ∈ layer.get? key.name, key.Accepts value

/-- Those are that another layer over this one leaves visible. -/
def TypedUnder (upper layer : Layer) : Prop :=
  ∀ key : SettingKey, upper.get? key.name = none →
    ∀ value ∈ layer.get? key.name, key.Accepts value

/-- Those are that another layer over this one hides. -/
def TypedBehind (upper layer : Layer) : Prop :=
  ∀ key : SettingKey, upper.get? key.name ≠ none →
    ∀ value ∈ layer.get? key.name, key.Accepts value

/-- A value is visible or hidden. -/
theorem typed_iff (upper layer : Layer) :
    layer.Typed ↔ TypedUnder upper layer ∧ TypedBehind upper layer := by
  constructor
  · exact fun h => ⟨fun key _ => h key, fun key _ => h key⟩
  · rintro ⟨hunder, hbehind⟩ key
    by_cases hnone : upper.get? key.name = none
    · exact hunder key hnone
    · exact hbehind key hnone

end Layer

namespace Settings

/-! ## Merged layers -/

/-- A layer on its own gives a setting if its value is of the type, or if it gives none. -/
theorem alone_ok_iff (layer : Layer) (key : SettingKey) :
    (∃ x, alone layer key = .ok x) ↔ ∀ value ∈ layer.get? key.name, key.Accepts value := by
  rw [alone]
  cases layer.get? key.name with
  | none => exact iff_of_true ⟨_, rfl⟩ fun value h => by cases h
  | some value =>
    constructor
    · rintro ⟨x, hx⟩ _ ⟨⟩
      exact ⟨x, hx⟩
    · exact fun h => h value rfl

/-- Settings are read from a layer whose values are of their types. -/
theorem ofLayer_ok_iff (layer : Layer) : (∃ s, ofLayer layer = .ok s) ↔ layer.Typed := by
  constructor
  · rintro ⟨s, hs⟩ key
    exact (alone_ok_iff layer key).mp ⟨_, get_ofLayer hs key⟩
  · intro htyped
    cases hs : ofLayer layer with
    | ok s => exact ⟨s, rfl⟩
    | error e =>
      obtain ⟨key, hkey⟩ := alone_of_ofLayer_eq_error hs
      obtain ⟨x, hx⟩ := (alone_ok_iff layer key).mpr (htyped key)
      rw [hkey] at hx
      cases hx

/-- No table is of the type of a setting. -/
theorem not_accepts_table (key : SettingKey) (origin : Origin)
    (fields : List (Bytes × LayerValue)) : ¬ key.Accepts (.table origin fields) :=
  fun ⟨x, hx⟩ => read_table key origin fields x hx

/-- A value over another is of the type of a setting if it is so alone. -/
theorem accepts_onTop_iff {key : SettingKey} (new : LayerValue) (old : Option LayerValue) :
    (∀ value ∈ LayerValue.onTop (some new) old, key.Accepts value) ↔ key.Accepts new := by
  rcases LayerValue.onTop_cases new old with hsame | ⟨origin, merged, htable⟩
  · rw [hsame]
    exact ⟨fun h => h new rfl, fun h value hvalue => Option.some.inj hvalue ▸ h⟩
  · rw [htable]
    refine iff_of_false (fun h => not_accepts_table key origin merged (h _ rfl)) ?_
    -- only a table leaves one
    cases new with
    | table origin' fields => exact not_accepts_table key origin' fields
    | _ => cases old <;> simp [LayerValue.onTop, LayerValue.merge] at htable

/-- Merged layers have the values of the one, and those of the other that are visible. -/
theorem typed_merge_iff (file : Layer) {upper : Layer} (hupper : (upper.map Prod.fst).Nodup) :
    Layer.Typed (Layer.merge file upper) ↔ upper.Typed ∧ Layer.TypedUnder upper file := by
  rw [Layer.Typed, Layer.Typed, Layer.TypedUnder, ← forall_and]
  refine forall_congr' fun key => ?_
  rw [Layer.get?_merge file hupper]
  cases upper.get? key.name with
  | none => simp [LayerValue.onTop]
  | some new =>
    rw [accepts_onTop_iff]
    simp

/-! ## Loading -/

variable {v : View} {env : Environment} {path : Path}

/-- A file that was asked for and can be read counts, with the environment over it. -/
theorem load_of_file (hisFile : v.isFile path = true) (hwhole : env.isTorn = false) {file : Layer}
    (hfile : ConfigFile.layer? v path = some file) :
    load v env (some path) = (ofLayers file env).mapError (.wrongValue (some path)) := by
  have hlayer : fileLayer? v env (some path) = some file := hfile
  rw [load_eq fun _ h => Option.some.inj h ▸ hisFile, hwhole, hlayer]
  rfl

/-- A load with a file that was asked for ends before any value is looked at, or reads the file. -/
theorem load_cases (v : View) (env : Environment) (path : Path) :
    (∃ e, load v env (some path) = .error e ∧ ∀ problem, e ≠ .wrongValue (some path) problem) ∨
      v.isFile path = true ∧ env.isTorn = false ∧ ∃ file, ConfigFile.layer? v path = some file ∧
        load v env (some path) = (ofLayers file env).mapError (.wrongValue (some path)) := by
  cases hisFile : v.isFile path with
  | false => exact .inl ⟨_, load_missing hisFile env, fun _ => LoadError.noConfusion⟩
  | true =>
    have hasked : ∀ asked ∈ some path, v.isFile asked = true :=
      fun _ h => Option.some.inj h ▸ hisFile
    have hload := load_eq hasked env
    cases htorn : env.isTorn with
    | true =>
      rw [htorn] at hload
      exact .inl ⟨_, hload, fun _ => LoadError.noConfusion⟩
    | false =>
      cases hfile : ConfigFile.layer? v path with
      | none =>
        have hlayer : fileLayer? v env (some path) = none := hfile
        rw [htorn, hlayer] at hload
        exact .inl ⟨_, hload, fun _ => LoadError.noConfusion⟩
      | some file =>
        exact .inr ⟨rfl, rfl, file, rfl, load_of_file hisFile htorn hfile⟩

/-- A load with a file that was asked for succeeds if the file is there and can be read, and all
values that are visible are of their types. -/
theorem load_ok_iff (v : View) (env : Environment) (path : Path) :
    (∃ s, load v env (some path) = .ok s) ↔
      v.isFile path = true ∧ env.isTorn = false ∧ ∃ file, ConfigFile.layer? v path = some file ∧
        env.layer.Typed ∧ Layer.TypedUnder env.layer file := by
  constructor
  · rintro ⟨s, h⟩
    rcases load_cases v env path with ⟨e, herror, _⟩ | ⟨hisFile, hwhole, file, hfile, hload⟩
    · rw [herror] at h
      cases h
    · rw [hload, mapError_eq_ok_iff] at h
      have htyped := (ofLayer_ok_iff _).mp ⟨s, h⟩
      exact ⟨hisFile, hwhole, file, hfile, (typed_merge_iff file env.nodup_keys).mp htyped⟩
  · rintro ⟨hisFile, hwhole, file, hfile, htyped⟩
    obtain ⟨s, hs⟩ := (ofLayer_ok_iff _).mpr ((typed_merge_iff file env.nodup_keys).mpr htyped)
    refine ⟨s, ?_⟩
    rw [load_of_file hisFile hwhole hfile, mapError_eq_ok_iff]
    exact hs

/-- What is told is what is wrong with a visible value. -/
theorem visible_of_load_error {file : Layer} (hfile : ConfigFile.layer? v path = some file)
    {problem : SettingError}
    (h : load v env (some path) = .error (.wrongValue (some path) problem)) :
    ∃ key : SettingKey, ∃ value ∈ LayerValue.onTop (env.layer.get? key.name) (file.get? key.name),
      key.read value = .error problem := by
  rcases load_cases v env path with ⟨e, herror, hother⟩ | ⟨_, _, file', hfile', hload⟩
  · rw [herror] at h
    exact absurd (Except.error.inj h) (hother problem)
  · rw [hfile] at hfile'
    cases hfile'
    rw [hload] at h
    obtain ⟨_, herror, hsame⟩ := mapError_eq_error_iff.mp h
    cases hsame
    obtain ⟨key, hkey⟩ := alone_of_ofLayer_eq_error herror
    rw [alone, Layer.get?_merge file env.nodup_keys] at hkey
    refine ⟨key, ?_⟩
    cases hvalue : LayerValue.onTop (env.layer.get? key.name) (file.get? key.name) with
    | none =>
      rw [hvalue] at hkey
      cases hkey
    | some value =>
      rw [hvalue] at hkey
      exact ⟨value, rfl, hkey⟩

/-- Wrong types are caught in every layer unless the environment hides them: a load with a file that
was asked for succeeds if all visible values are of their types, and then all values are if those
are that the environment hides. Whatever is told is wrong with a visible value. -/
theorem loads_iff_visible_typed (v : View) (env : Environment) (path : Path) :
    ((∃ s, load v env (some path) = .ok s) ↔
      v.isFile path = true ∧ env.isTorn = false ∧ ∃ file, ConfigFile.layer? v path = some file ∧
        env.layer.Typed ∧ Layer.TypedUnder env.layer file) ∧
    ∀ file, ConfigFile.layer? v path = some file →
      (∀ s, load v env (some path) = .ok s →
        (env.layer.Typed ∧ file.Typed ↔ Layer.TypedBehind env.layer file)) ∧
      ∀ problem, load v env (some path) = .error (.wrongValue (some path) problem) →
        ∃ key : SettingKey,
          ∃ value ∈ LayerValue.onTop (env.layer.get? key.name) (file.get? key.name),
            key.read value = .error problem := by
  refine ⟨load_ok_iff v env path, fun file hfile => ⟨fun s hs => ?_, ?_⟩⟩
  · obtain ⟨_, _, file', hfile', henv, hvisible⟩ := (load_ok_iff v env path).mp ⟨s, hs⟩
    rw [hfile] at hfile'
    cases hfile'
    rw [Layer.typed_iff env.layer file, and_iff_right henv, and_iff_right hvisible]
  · exact fun _ => visible_of_load_error hfile

/-- A working folder with a configuration file that gives a number for the prefix. -/
def misnumbered : View where
  tree :=
    { items := [([utf8 "c"], .file .newFile (utf8 "prefix = 5
"))]
      nodup := by decide +kernel }
  home := []
  privileged := false
  account := none

/-- An environment that asks for another prefix. -/
def overriding : Environment :=
  [(utf8 "PREFIXDUPE_PREFIX", utf8 "run_")]

/-- What the file gives there. -/
def misnumberedLayer : Layer :=
  [(utf8 "prefix", .scalar (.file (utf8 "c")) (.signed 5))]

/-- A number is no prefix. -/
theorem not_accepts_number (origin : Origin) (n : Int) :
    ¬ SettingKey.wanted.Accepts (.scalar origin (.signed n)) := by
  rintro ⟨x, hx⟩
  cases hx

/-- The number is told unless the environment hides it. -/
theorem loads_iff_visible_typed_misnumbered :
    (¬ ∃ s, load misnumbered [] (some (utf8 "c")) = .ok s) ∧
      ∃ s, load misnumbered overriding (some (utf8 "c")) = .ok s := by
  have hfile : ConfigFile.layer? misnumbered (utf8 "c") = some misnumberedLayer := by rfl
  constructor
  · rw [(loads_iff_visible_typed misnumbered [] (utf8 "c")).1]
    rintro ⟨_, _, file, hfile', _, hvisible⟩
    rw [hfile] at hfile'
    cases hfile'
    exact not_accepts_number _ _ (hvisible .wanted rfl _ rfl)
  · exact ⟨⟨utf8 ".", utf8 "run_", .text, false, true, true⟩, by rfl⟩

/-- So a load may pass over a value of the wrong type. -/
theorem hidden_number_loads :
    overriding.Plain ∧ ∃ file s, ConfigFile.layer? misnumbered (utf8 "c") = some file ∧
      load misnumbered overriding (some (utf8 "c")) = .ok s ∧ ¬ file.Typed :=
  ⟨⟨by decide +kernel, by decide +kernel⟩, misnumberedLayer,
    ⟨utf8 ".", utf8 "run_", .text, false, true, true⟩, by rfl, by rfl,
    fun htyped => not_accepts_number _ _ (htyped .wanted _ rfl)⟩

end Settings

end TwinFiles
