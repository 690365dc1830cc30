import TwinFiles.Proofs.Fallible
import TwinFiles.Proofs.Settings.Layer
import TwinFiles.Settings.Load

/-!
# Which layer decides

Each setting comes from the highest layer that says something about it: the command line, the
environment, the file, or else the default. `Sources` is what the layers say about one setting and
`Sources.highest` decides by it alone; `highest_layer_wins` shows that loading, and then the command
line, leads to just that for each of the six.
-/

namespace TwinFiles

/-! ## The six settings -/

/-- The settings, by name. -/
inductive SettingKey where
  | folder
  | wanted
  | output
  | sortEntries
  | followSymlinks
  | color
  deriving DecidableEq, Repr

namespace SettingKey

/-- What a layer calls a setting. -/
def name : SettingKey → Bytes
  | folder => utf8 "folder"
  | wanted => utf8 "prefix"
  | output => utf8 "output"
  | sortEntries => utf8 "sort_entries"
  | followSymlinks => utf8 "follow_symlinks"
  | color => utf8 "color"

/-- What a setting can be. -/
@[reducible] def Value : SettingKey → Type
  | folder => Path
  | wanted => Bytes
  | output => ReportFormat
  | sortEntries => Bool
  | followSymlinks => Bool
  | color => Bool

/-- Reads a setting from the value that a layer gives to it. -/
def read : (key : SettingKey) → LayerValue → Except SettingError key.Value
  | folder => LayerValue.text? folder.name (utf8 "path string")
  | wanted => LayerValue.text? wanted.name (utf8 "a string")
  | output => LayerValue.format? output.name
  | sortEntries => LayerValue.bool? sortEntries.name
  | followSymlinks => LayerValue.bool? followSymlinks.name
  | color => LayerValue.bool? color.name

end SettingKey

/-- A setting. -/
def Settings.get (s : Settings) : (key : SettingKey) → key.Value
  | .folder => s.folder
  | .wanted => s.wanted
  | .output => s.output
  | .sortEntries => s.sortEntries
  | .followSymlinks => s.followSymlinks
  | .color => s.color

/-- What a command line says about a setting. Its switches can turn sorting on, and links and color
off. -/
def CommandLine.get? (c : CommandLine) : (key : SettingKey) → Option key.Value
  | .folder => c.folder
  | .wanted => c.wanted
  | .output => c.output
  | .sortEntries => if c.sort then some true else none
  | .followSymlinks => if c.noFollowSymlinks then some false else none
  | .color => if c.noColor then some false else none

/-- What the layers say about a setting. -/
structure Sources (key : SettingKey) where
  line : Option key.Value
  environment : Option LayerValue
  file : Option LayerValue

/-- What the highest layer says that says something, or else the default. -/
def Sources.highest {key : SettingKey} : Sources key → Except SettingError key.Value
  | ⟨some value, _, _⟩ => .ok value
  | ⟨none, some value, _⟩ => key.read value
  | ⟨none, none, some value⟩ => key.read value
  | ⟨none, none, none⟩ => .ok (Settings.initial.get key)

namespace Environment

/-- No two variables are for one key, and no name leads into a table. -/
structure Plain (env : Environment) : Prop where
  once : (env.filterMap fun entry => keyOf? entry.1).Nodup
  flat : ∀ keys ∈ env.filterMap (fun entry => keyOf? entry.1), keys.length = 1

/-- The value that a variable gives to a key. -/
def valueFor? (env : Environment) (key : Bytes) : Option LayerValue :=
  (env.find? fun entry => keyOf? entry.1 = some [key]).map fun entry =>
    EnvironmentValue.read entry.2

end Environment

namespace Settings

/-- The path of the configuration file: the one that was asked for, or else that of the default file
if there is one. -/
def pathInUse (v : View) (env : Environment) : Option Path → Option Path
  | some path => some path
  | none => defaultFile? v env

/-- The layer of the configuration file, which is empty without a file. -/
def fileLayer? (v : View) (env : Environment) (asked : Option Path) : Option Layer :=
  match pathInUse v env asked with
  | some path => ConfigFile.layer? v path
  | none => some []

/-- What the layers of a load and the command line say about a setting. -/
def sources (v : View) (env : Environment) (c : CommandLine) (key : SettingKey) : Sources key where
  line := c.get? key
  environment := env.valueFor? key.name
  file := (fileLayer? v env c.config).bind fun file => file.get? key.name

/-! ## Reading the merged layer -/

/-- No setting is read from a table. -/
theorem read_table (key : SettingKey) (origin : Origin) (fields : List (Bytes × LayerValue)) :
    ∀ value, key.read (.table origin fields) ≠ .ok value := by
  intro value h
  cases key with
  | output =>
    simp only [SettingKey.read, LayerValue.format?] at h
    split at h
    · cases h
    · split at h <;> cases h
  | _ => cases h

/-- What can be read of a value over another can be read of it alone. -/
theorem read_of_onTop {key : SettingKey} {new : LayerValue} {old : Option LayerValue}
    {value : key.Value}
    (h : (⟨none, none, LayerValue.onTop (some new) old⟩ : Sources key).highest = .ok value) :
    key.read new = .ok value := by
  rcases LayerValue.onTop_cases new old with hsame | ⟨origin, merged, htable⟩
  · rw [hsame] at h
    exact h
  · rw [htable] at h
    exact absurd h (read_table key origin merged value)

/-- What a layer on its own makes of a setting. -/
def alone (layer : Layer) (key : SettingKey) : Except SettingError key.Value :=
  (⟨none, none, layer.get? key.name⟩ : Sources key).highest

/-- One setting after another is read, and the first that cannot be read ends it. -/
theorem ofLayer_eq (layer : Layer) :
    ofLayer layer = (do
      let color ← alone layer .color
      let folder ← alone layer .folder
      let followSymlinks ← alone layer .followSymlinks
      let output ← alone layer .output
      let wanted ← alone layer .wanted
      let sortEntries ← alone layer .sortEntries
      return ⟨folder, wanted, output, sortEntries, followSymlinks, color⟩) := by
  have hfield : ∀ key : SettingKey,
      field layer key.name (initial.get key) (fun _ => key.read) = alone layer key := by
    intro key
    rw [field, alone]
    cases layer.get? key.name <;> rfl
  simp only [← hfield]
  rfl

/-- Settings that could be read from a layer were read key by key. -/
theorem get_ofLayer {layer : Layer} {s : Settings} (h : ofLayer layer = .ok s) (key : SettingKey) :
    alone layer key = .ok (s.get key) := by
  rw [ofLayer_eq] at h
  obtain ⟨color, hcolor, h⟩ := exists_of_bind_eq_ok h
  obtain ⟨folder, hfolder, h⟩ := exists_of_bind_eq_ok h
  obtain ⟨followSymlinks, hfollow, h⟩ := exists_of_bind_eq_ok h
  obtain ⟨output, houtput, h⟩ := exists_of_bind_eq_ok h
  obtain ⟨wanted, hwanted, h⟩ := exists_of_bind_eq_ok h
  obtain ⟨sortEntries, hsort, h⟩ := exists_of_bind_eq_ok h
  cases h
  cases key <;> assumption

/-- What keeps settings from being read from a layer keeps one of them from being read. -/
theorem alone_of_ofLayer_eq_error {layer : Layer} {e : SettingError}
    (h : ofLayer layer = .error e) : ∃ key, alone layer key = .error e := by
  rw [ofLayer_eq] at h
  rcases error_of_bind_eq_error h with hkey | ⟨_, _, h⟩
  · exact ⟨.color, hkey⟩
  rcases error_of_bind_eq_error h with hkey | ⟨_, _, h⟩
  · exact ⟨.folder, hkey⟩
  rcases error_of_bind_eq_error h with hkey | ⟨_, _, h⟩
  · exact ⟨.followSymlinks, hkey⟩
  rcases error_of_bind_eq_error h with hkey | ⟨_, _, h⟩
  · exact ⟨.output, hkey⟩
  rcases error_of_bind_eq_error h with hkey | ⟨_, _, h⟩
  · exact ⟨.wanted, hkey⟩
  rcases error_of_bind_eq_error h with hkey | ⟨_, _, h⟩
  · exact ⟨.sortEntries, hkey⟩
  cases h

end Settings

/-! ## The layer of the environment -/

namespace Environment

/-- What a variable adds to the layer, if its name leads into no table. -/
def field? (entry : Bytes × Bytes) : Option (Bytes × LayerValue) :=
  match keyOf? entry.1 with
  | some [key] => some (key, EnvironmentValue.read entry.2)
  | _ => none

/-- The layer gives one value to each of its keys. -/
theorem nodup_keys (env : Environment) : (env.layer.map Prod.fst).Nodup := by
  rw [layer]
  refine List.foldlRecOn (motive := fun layer : Layer => (layer.map Prod.fst).Nodup) env _
    List.nodup_nil fun below hbelow entry _ => ?_
  split
  · exact Layer.nodup_keys_merge hbelow _
  · exact hbelow

variable {env : Environment}

theorem keyOf?_of_field? {entry : Bytes × Bytes} {field : Bytes × LayerValue}
    (h : field? entry = some field) : keyOf? entry.1 = some [field.1] := by
  unfold field? at h
  split at h
  · next hkey =>
    cases h
    exact hkey
  · cases h

theorem Plain.tail {entry : Bytes × Bytes} (h : Plain (entry :: env)) : Plain env := by
  have hsublist : (env.filterMap fun entry => keyOf? entry.1).Sublist
      ((entry :: env).filterMap fun entry => keyOf? entry.1) :=
    (List.sublist_cons_self entry env).filterMap _
  exact ⟨h.once.sublist hsublist, fun keys hkeys => h.flat keys (hsublist.subset hkeys)⟩

/-- Behind a variable no other one is for its key. -/
theorem Plain.ne_of_mem_field? {entry : Bytes × Bytes} (h : Plain (entry :: env)) {key : Bytes}
    (hkey : keyOf? entry.1 = some [key]) {field : Bytes × LayerValue}
    (hfield : field ∈ env.filterMap field?) : field.1 ≠ key := by
  rintro rfl
  obtain ⟨other, hother, hfield⟩ := List.mem_filterMap.mp hfield
  have honce := h.once
  rw [List.filterMap_cons, hkey, List.nodup_cons] at honce
  exact honce.1 (List.mem_filterMap.mpr ⟨other, hother, keyOf?_of_field? hfield⟩)

/-- Where each key is set once and at the top, variables add up: each adds a field at the end. -/
theorem Plain.foldl_merge (h : env.Plain) (below : Layer)
    (hbelow : ∀ field ∈ env.filterMap field?, below.get? field.1 = none) :
    env.foldl
      (fun layer entry =>
        match keyOf? entry.1 with
        | some keys => Layer.merge layer (nested keys (EnvironmentValue.read entry.2))
        | none => layer)
      below = below ++ env.filterMap field? := by
  induction env generalizing below with
  | nil => exact (List.append_nil below).symm
  | cons entry env ih =>
    rw [List.foldl_cons]
    cases hkey : keyOf? entry.1 with
    | none =>
      have hnone : field? entry = none := by
        rw [field?, hkey]
      rw [List.filterMap_cons_none hnone] at hbelow ⊢
      exact ih h.tail below hbelow
    | some keys =>
      obtain ⟨key, rfl⟩ := List.length_eq_one_iff.mp
        (h.flat keys (List.mem_filterMap.mpr ⟨entry, List.mem_cons_self, hkey⟩))
      have hfield : field? entry = some (key, EnvironmentValue.read entry.2) := by
        rw [field?, hkey]
      rw [List.filterMap_cons_some hfield] at hbelow ⊢
      obtain ⟨habsent, hrest⟩ := List.forall_mem_cons.mp hbelow
      -- no variable before this one was for its key, so its field goes to the end
      have hstep : Layer.merge below (nested [key] (EnvironmentValue.read entry.2)) =
          below ++ [(key, EnvironmentValue.read entry.2)] := by
        rw [nested, Layer.merge, Layer.merge, habsent]
        exact Layer.set_of_get?_eq_none habsent _
      show List.foldl _ (Layer.merge below (nested [key] (EnvironmentValue.read entry.2))) env = _
      rw [hstep, ih h.tail, List.append_assoc]
      · rfl
      · intro field hmem
        rw [Layer.get?, List.lookup_append]
        show (below.get? field.1).or (Layer.get? [(key, _)] field.1) = none
        rw [hrest field hmem, Layer.get?_cons, if_neg (h.ne_of_mem_field? hkey hmem)]
        rfl

theorem Plain.layer_eq (h : env.Plain) : env.layer = env.filterMap field? :=
  h.foldl_merge [] fun _ _ => rfl

/-- The layer gives to a key what the variable for it holds. -/
theorem Plain.get?_layer (h : env.Plain) (key : Bytes) :
    env.layer.get? key = env.valueFor? key := by
  rw [h.layer_eq, valueFor?]
  clear h
  induction env with
  | nil => rfl
  | cons entry env ih =>
    by_cases hkey : keyOf? entry.1 = some [key]
    · have hfield : field? entry = some (key, EnvironmentValue.read entry.2) := by
        rw [field?, hkey]
      rw [List.filterMap_cons_some hfield, Layer.get?_cons, if_pos rfl, List.find?_cons,
        decide_eq_true hkey]
      rfl
    · rw [List.find?_cons, decide_eq_false hkey, ← ih, List.filterMap_cons]
      cases hfield : field? entry with
      | none => rfl
      | some field =>
        have hne : key ≠ field.1 := fun he => hkey (he ▸ keyOf?_of_field? hfield)
        exact (Layer.get?_cons field.1 field.2 _ key).trans (if_neg hne)

end Environment

/-! ## All layers -/

namespace Settings

/-- What is read from merged layers is read from the higher one that says something. -/
theorem highest_of_merge {file : Layer} {env : Environment} (henv : env.Plain) {key : SettingKey}
    {value : key.Value} (h : alone (Layer.merge file env.layer) key = .ok value) :
    (⟨none, env.valueFor? key.name, file.get? key.name⟩ : Sources key).highest = .ok value := by
  rw [alone, Layer.get?_merge file env.nodup_keys, henv.get?_layer] at h
  cases hvariable : env.valueFor? key.name with
  | none =>
    rw [hvariable] at h
    exact h
  | some new =>
    -- a variable may give a table, which is merged with what the file gives, but is never read
    rw [hvariable] at h
    exact read_of_onTop h

theorem load_missing {v : View} {path : Path} (h : v.isFile path = false) (env : Environment) :
    load v env (some path) = .error (.missing path) :=
  if_neg (ne_true_of_eq_false h)

/-- A file that was asked for is there if it is not missed. -/
theorem isFile_of_load {v : View} {env : Environment} {asked : Option Path}
    (h : ∀ path, load v env asked ≠ .error (.missing path)) :
    ∀ path ∈ asked, v.isFile path = true := by
  intro path hpath
  cases hpath
  cases hisFile : v.isFile path with
  | true => rfl
  | false => exact absurd (load_missing hisFile env) (h path)

/-- Once the file that was asked for is there, its layer and the environment are all that counts. -/
theorem load_eq {v : View} {asked : Option Path} (hfile : ∀ path ∈ asked, v.isFile path = true)
    (env : Environment) :
    load v env asked =
      if env.isTorn then .error .torn
      else
        match fileLayer? v env asked with
        | none => .error (.unreadable asked)
        | some layer => (ofLayers layer env).mapError (.wrongValue asked) := by
  cases asked with
  | none => rfl
  | some path =>
    rw [load, if_pos (hfile path rfl)]
    rfl

/-- A load that succeeds has read the file, and its layer with the environment over it. -/
theorem exists_file_of_load {v : View} {env : Environment} {asked : Option Path} {s : Settings}
    (h : load v env asked = .ok s) :
    ∃ file, fileLayer? v env asked = some file ∧ ofLayers file env = .ok s := by
  have hfile := isFile_of_load fun path hmissing => by
    rw [h] at hmissing
    cases hmissing
  rw [load_eq hfile] at h
  split at h
  · cases h
  · cases hlayer : fileLayer? v env asked with
    | none =>
      rw [hlayer] at h
      cases h
    | some file =>
      rw [hlayer] at h
      exact ⟨file, rfl, mapError_eq_ok_iff.mp h⟩

/-- The command line has the last word. -/
theorem highest_withCommandLine {s : Settings} {key : SettingKey}
    {environment file : Option LayerValue}
    (h : (⟨none, environment, file⟩ : Sources key).highest = .ok (s.get key)) (c : CommandLine) :
    (⟨c.get? key, environment, file⟩ : Sources key).highest =
      .ok ((s.withCommandLine c).get key) := by
  have hsame : c.get? key = none → (s.withCommandLine c).get key = s.get key := by
    intro hnone
    cases key <;> simp_all [CommandLine.get?, Settings.get, withCommandLine]
  cases hline : c.get? key with
  | none => rw [hsame hline, h]
  | some value =>
    show Except.ok value = _
    congr 1
    cases key <;> simp_all [CommandLine.get?, Settings.get, withCommandLine]

/-- A load and a command line lead, for each setting, to what its highest layer says. -/
theorem highest_sources {v : View} {env : Environment} (henv : env.Plain) {c : CommandLine}
    {s : Settings} (h : load v env c.config = .ok s) (key : SettingKey) :
    (sources v env c key).highest = .ok ((s.withCommandLine c).get key) := by
  obtain ⟨file, hfile, hlayers⟩ := exists_file_of_load h
  have hsources : sources v env c key =
      ⟨c.get? key, env.valueFor? key.name, file.get? key.name⟩ := by
    rw [sources, hfile]
    rfl
  rw [hsources]
  exact highest_withCommandLine (highest_of_merge henv (get_ofLayer hlayers key)) c

/-- A default file that says nothing is as good as none. -/
theorem load_default_empty {v v' : View} {env : Environment} {path : Path}
    (hnone : defaultFile? v env = none) (hfile : defaultFile? v' env = some path)
    (hempty : v'.read path = .ok []) : load v env none = load v' env none := by
  have hnoFile : ∀ path ∈ (none : Option Path), False := fun _ h => by cases h
  have habsent : fileLayer? v env none = some [] := by
    rw [fileLayer?, pathInUse, hnone]
  have hread : fileLayer? v' env none = some [] := by
    rw [fileLayer?, pathInUse, hfile]
    show ConfigFile.layer? v' path = _
    rw [ConfigFile.layer?, hempty]
    rfl
  rw [load_eq (fun path h => (hnoFile path h).elim), load_eq (fun path h => (hnoFile path h).elim),
    habsent, hread]

/-- Where the variables are plain, loading, and then the command line, gives to each setting what
the highest layer says that says something, and what the layers say about other keys does not count.
A switch turns sorting only on, and links and color only off. A default file that is missing is an
empty one, while a file that was asked for has to be there. -/
theorem highest_layer_wins (v : View) (env : Environment) (c : CommandLine) :
    (env.Plain → ∀ s, load v env c.config = .ok s → ∀ key,
      (sources v env c key).highest = .ok ((s.withCommandLine c).get key) ∧
      ∀ (v' : View) (env' : Environment) (c' : CommandLine) (s' : Settings),
        env'.Plain → load v' env' c'.config = .ok s' →
        sources v' env' c' key = sources v env c key →
        (s'.withCommandLine c').get key = (s.withCommandLine c).get key) ∧
    (∀ s : Settings,
      (s.sortEntries → (s.withCommandLine c).sortEntries) ∧
      ((s.withCommandLine c).followSymlinks → s.followSymlinks) ∧
      ((s.withCommandLine c).color → s.color)) ∧
    (∀ (v' : View) (path : Path), defaultFile? v env = none → defaultFile? v' env = some path →
      v'.read path = .ok [] → load v env none = load v' env none) ∧
    ∀ path, v.isFile path = false → load v env (some path) = .error (.missing path) := by
  refine ⟨?highest, ?switches, ?default, ?missing⟩
  case highest =>
    intro henv s hload key
    have hkey := highest_sources henv hload key
    refine ⟨hkey, ?_⟩
    intro v' env' c' s' henv' hload' hsame
    have hkey' := highest_sources henv' hload' key
    rw [hsame, hkey] at hkey'
    exact (Except.ok.inj hkey').symm
  case switches =>
    intro s
    simp only [withCommandLine, Bool.or_eq_true, Bool.and_eq_true]
    exact ⟨.inl, And.left, And.left⟩
  case default =>
    exact fun v' path => load_default_empty
  case missing =>
    exact fun path hmissing => load_missing hmissing env

/-- A working folder with a configuration file that sets a key nobody knows. -/
def configured : View where
  tree :=
    { items := [
        ([utf8 "c"], .file .newFile (utf8
          "prefix = 'run_'\noutput = 'csv'\nsort_entries = true\nunknown = 1\n"))]
      nodup := by decide +kernel }
  home := []
  privileged := false
  account := none

/-- An environment with two of the settings. -/
def configuring : Environment := [
  (utf8 "HOME", utf8 "/"), (utf8 "PREFIXDUPE_PREFIX", utf8 "log_"),
  (utf8 "prefixdupe_color", utf8 "false")]

/-- There every layer decides a setting. -/
theorem highest_layer_wins_configured :
    let c := { CommandLine.empty with config := some (utf8 "c"), output := some .json }
    let s : Settings := ⟨utf8 ".", utf8 "log_", .csv, true, true, false⟩
    configuring.Plain ∧ load configured configuring c.config = .ok s ∧
      (sources configured configuring c .output).highest = .ok .json ∧
      (sources configured configuring c .wanted).highest = .ok (utf8 "log_") ∧
      (sources configured configuring c .sortEntries).highest = .ok true ∧
      (sources configured configuring c .folder).highest = .ok (utf8 ".") := by
  intro c s
  have henv : configuring.Plain := ⟨by decide +kernel, by decide +kernel⟩
  have hload : load configured configuring c.config = .ok s := by rfl
  have hkey := fun key => ((highest_layer_wins configured configuring c).1 henv s hload key).1
  exact ⟨henv, hload, hkey .output, hkey .wanted, hkey .sortEntries, hkey .folder⟩

end Settings

end TwinFiles
