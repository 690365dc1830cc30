import TwinFiles.Proofs.Settings.Texts
import TwinFiles.Proofs.Text.Decimal
import TwinFiles.Proofs.Text.Literal

/-!
# Errors about settings are told in UTF-8

An error about a setting describes a value, quotes a key and names an origin, and a layer may take
these from any bytes. What it tells is UTF-8 all the same (`SettingError.IsText.valid_message`), and
so is everything that keeps the settings from being loaded (`Settings.valid_texts_of_load`).
-/

namespace TwinFiles

open Utf8 (Valid)

/-! ## Values -/

theorem Binary64.isAscii_positional (digits : Nat) (scale : Int) :
    Utf8.IsAscii (positional digits scale) := by
  have hdigits := Decimal.isAscii_text digits
  have hzeros (n : Nat) : Utf8.IsAscii (List.replicate n 0x30) := by
    intro b hb
    rw [List.eq_of_mem_replicate hb]
    decide
  simp only [positional]
  split
  · exact Utf8.isAscii_append hdigits (hzeros _)
  · split
    · refine Utf8.isAscii_append (fun b hb => hdigits b (List.mem_of_mem_take hb)) ?_
      exact List.forall_mem_cons.mpr ⟨by decide, fun b hb => hdigits b (List.mem_of_mem_drop hb)⟩
    · exact Utf8.isAscii_append (Utf8.isAscii_append (by decide) (hzeros _)) hdigits

theorem Binary64.isAscii_text (x : Binary64) : Utf8.IsAscii x.text := by
  have hsign (negative : Bool) : Utf8.IsAscii (sign negative) := by
    cases negative <;> decide
  unfold text
  split
  · exact Utf8.isAscii_append (hsign _) (by decide)
  · exact Utf8.isAscii_append (hsign _) (isAscii_positional _ _)
  · exact Utf8.isAscii_append (hsign _) (by decide)
  · decide

/-- A value is described in UTF-8, whatever it holds: its texts are quoted. -/
theorem LayerValue.valid_description (v : LayerValue) : Valid v.description := by
  have hbetween {front text back : Bytes} (hfront : Utf8.IsAscii front)
      (hback : Utf8.IsAscii back) (htext : Utf8.IsAscii text) : Valid (front ++ text ++ back) :=
    Utf8.valid_of_isAscii (Utf8.isAscii_append (Utf8.isAscii_append hfront htext) hback)
  cases v with
  | scalar origin value =>
    cases value with
    | bool b => cases b <;> rfl
    | signed n => exact hbetween (by decide) (by decide) (Decimal.isAscii_signed n)
    | unsigned n => exact hbetween (by decide) (by decide) (Decimal.isAscii_text n)
    | float x => exact hbetween (by decide) (by decide) x.isAscii_text
    | text s => exact Utf8.valid_append (by decide) (Literal.valid_ofText s)
    | character s => exact Utf8.valid_append (by decide) (Literal.valid_ofText s)
  | list origin items => rfl
  | table origin fields => rfl

namespace SettingError

/-- The texts that an error quotes as they are: the problem, which may name a format that is none,
and the name of the origin. -/
structure IsText (e : SettingError) : Prop where
  problem : Valid (problemText e.problem)
  origin : e.origin.IsText

theorem isText_wrongType {v : LayerValue} (hv : v.IsText) (key : List Bytes) {expected : Bytes}
    (hexpected : Valid expected) : (wrongType v key expected).IsText where
  problem := Utf8.valid_append
    (Utf8.valid_append (Utf8.valid_append (by decide) v.valid_description) (by decide)) hexpected
  origin := hv.origin

theorem isText_unknownFormat {name : Bytes} (hname : Valid name) (key : List Bytes)
    {origin : Origin} (horigin : origin.IsText) :
    (⟨.unknownFormat name, key, origin⟩ : SettingError).IsText where
  problem := Utf8.valid_append (Utf8.valid_append (Utf8.valid_append
    (Utf8.valid_append (by decide) hname) (by decide)) (by decide)) (by decide)
  origin := horigin

/-- The message of an error is UTF-8; the keys are quoted in it. -/
theorem IsText.valid_message {e : SettingError} (he : e.IsText) : Valid e.message := by
  have horigin : Valid (originText e.origin) := by
    have h := he.origin
    cases horigin : e.origin with
    | file shown =>
      rw [horigin] at h
      exact Utf8.valid_append h (by decide)
    | environment => decide
  exact Utf8.valid_append (Utf8.valid_append (Utf8.valid_append
    (Utf8.valid_append he.problem (by decide)) (Literal.valid_ofText _)) (by decide)) horigin

end SettingError

namespace LayerValue

variable {v : LayerValue} {e : SettingError}

/-- The first key of a table is one of its keys: a step of the search keeps the field that it has
found, or takes the next one. -/
theorem mem_of_firstField? {fields : Layer} {field : Bytes × LayerValue}
    (h : firstField? fields = some field) : field ∈ fields := by
  have hfound : ∀ found ∈ firstField? fields, found ∈ fields := by
    rw [firstField?]
    refine List.foldlRecOn
      (motive := fun best : Option (Bytes × LayerValue) => ∀ found ∈ best, found ∈ fields)
      fields _ (by simp) fun best hbest next hnext => ?_
    have htaken : ∀ found ∈ some next, found ∈ fields := by
      intro found htaken
      rwa [← Option.some.inj htaken]
    split
    · split
      · exact hbest
      · exact htaken
    · exact htaken
  exact hfound field h

theorem isText_of_format? (hv : v.IsText) {key : Bytes} (h : format? key v = .error e) :
    e.IsText := by
  unfold format? at h
  split at h
  · split at h
    · cases h
    · cases h
      cases hv with
      | scalar horigin hvalue => exact SettingError.isText_unknownFormat hvalue _ horigin
  · split at h
    · cases h
      exact SettingError.isText_wrongType hv _ (by decide)
    · next hfirst =>
      have hfield := (isText_table_iff.mp hv).2 _ (mem_of_firstField? hfirst)
      split at h
      · cases h
        exact SettingError.isText_wrongType hfield.2 _ (by decide)
      · cases h
        exact SettingError.isText_unknownFormat hfield.1 _ hfield.2.origin
  · cases h
    exact SettingError.isText_wrongType hv _ (by decide)

theorem isText_of_text? (hv : v.IsText) {key expected : Bytes} (hexpected : Valid expected)
    (h : text? key expected v = .error e) : e.IsText := by
  unfold text? at h
  split at h
  · cases h
  · cases h
  · cases h
    exact SettingError.isText_wrongType hv _ hexpected

theorem isText_of_bool? (hv : v.IsText) {key : Bytes} (h : bool? key v = .error e) :
    e.IsText := by
  unfold bool? at h
  split at h
  · cases h
  · cases h
    exact SettingError.isText_wrongType hv _ (by decide)

/-- What cannot be read as a setting leads to an error of texts. -/
theorem isText_of_read (hv : v.IsText) {key : SettingKey} (h : key.read v = .error e) :
    e.IsText := by
  cases key with
  | folder => exact isText_of_text? hv (by decide) h
  | wanted => exact isText_of_text? hv (by decide) h
  | output => exact isText_of_format? hv h
  | sortEntries => exact isText_of_bool? hv h
  | followSymlinks => exact isText_of_bool? hv h
  | color => exact isText_of_bool? hv h

end LayerValue

namespace Settings

theorem isText_of_ofLayer {layer : Layer} (hlayer : layer.IsText) {e : SettingError}
    (h : ofLayer layer = .error e) : e.IsText := by
  obtain ⟨key, hkey⟩ := alone_of_ofLayer_eq_error h
  rw [alone] at hkey
  cases hget : layer.get? key.name with
  | none =>
    rw [hget] at hkey
    cases hkey
  | some value =>
    rw [hget] at hkey
    exact LayerValue.isText_of_read (hlayer.get? hget) hkey

theorem isText_fileLayer? {v : View} {env : Environment} {asked : Option Path} {layer : Layer}
    (h : fileLayer? v env asked = some layer) : layer.IsText := by
  unfold fileLayer? at h
  split at h
  · exact ConfigFile.isText_layer? h
  · cases h
    exact List.forall_mem_nil _

theorem valid_fileContext (asked : Option Path) :
    ∀ text ∈ LoadError.fileContext asked, Valid text := by
  cases asked with
  | none => exact List.forall_mem_nil _
  | some path =>
    exact List.forall_mem_singleton.mpr (Utf8.valid_append (by decide) (Utf8.valid_lossy path))

/-- Whatever keeps settings from being loaded is told in texts that are UTF-8, if the reader of
configuration files words its part so. -/
theorem valid_texts_of_load {reading : Bytes} (hreading : Valid reading) {v : View}
    {env : Environment} {asked : Option Path} {e : LoadError}
    (h : load v env asked = .error e) : ∀ text ∈ e.texts reading, Valid text := by
  cases e with
  | missing path =>
    exact List.forall_mem_singleton.mpr (Utf8.valid_append (by decide) (Utf8.valid_lossy path))
  | torn => exact List.forall_mem_singleton.mpr (by decide)
  | unreadable asked =>
    exact List.forall_mem_append.mpr ⟨valid_fileContext asked,
      List.forall_mem_cons.mpr ⟨by decide, List.forall_mem_singleton.mpr hreading⟩⟩
  | wrongValue asked' problem =>
    have hfile := isFile_of_load fun path hmissing => by
      rw [h] at hmissing
      cases hmissing
    rw [load_eq hfile] at h
    split at h
    · cases h
    · split at h
      · cases h
      · next layer hlayer =>
        obtain ⟨problem', hproblem, heq⟩ := mapError_eq_error_iff.mp h
        cases heq
        have htext := isText_of_ofLayer
          ((isText_fileLayer? hlayer).merge env.isText_layer) hproblem
        exact List.forall_mem_append.mpr ⟨valid_fileContext asked,
          List.forall_mem_cons.mpr
            ⟨by decide, List.forall_mem_singleton.mpr htext.valid_message⟩⟩

end Settings

end TwinFiles
