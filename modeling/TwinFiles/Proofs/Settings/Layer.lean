import TwinFiles.Settings.Layer

/-!
# What layers give to a key

Layers are merged key by key: what a merged layer gives to a key is what the later layer gives to it
on top of what the earlier one gives (`Layer.get?_merge`). A table is the only value that does not
hide all of an earlier one (`LayerValue.onTop_cases`).
-/

namespace TwinFiles

namespace LayerValue

/-- A later value of a key on top of an earlier one. -/
def onTop : Option LayerValue → Option LayerValue → Option LayerValue
  | none, old => old
  | some new, none => some new
  | some new, some old => some (old.merge new)

/-- Whatever lies below, the later value is what is left, unless it is a table: then a table is. -/
theorem onTop_cases (new : LayerValue) (old : Option LayerValue) :
    onTop (some new) old = some new ∨
      ∃ origin merged, onTop (some new) old = some (.table origin merged) := by
  cases old with
  | none => exact .inl rfl
  | some old =>
    cases new with
    | scalar origin value => exact .inl (by simp [onTop, merge])
    | list origin items => exact .inl (by simp [onTop, merge])
    | table origin fields =>
      cases old <;> exact .inr ⟨origin, _, by simp [onTop, merge]; rfl⟩

end LayerValue

namespace Layer

theorem get?_cons (key : Bytes) (value : LayerValue) (layer : Layer) (key' : Bytes) :
    get? ((key, value) :: layer) key' = if key' = key then some value else get? layer key' := by
  rw [get?, List.lookup_cons]
  by_cases h : key' = key
  · rw [if_pos h, beq_iff_eq.mpr h]
  · rw [if_neg h, beq_eq_false_iff_ne.mpr h]
    rfl

theorem get?_eq_none_iff (layer : Layer) (key : Bytes) :
    get? layer key = none ↔ ∀ field ∈ layer, field.1 ≠ key := by
  rw [get?, List.lookup_eq_none_iff]
  exact forall₂_congr fun field _ => by rw [bne_iff_ne, ne_comm]

/-! ## Setting a key -/

/-- A key that has no value yet gets one behind the others. -/
theorem set_of_get?_eq_none {layer : Layer} {key : Bytes} (h : get? layer key = none)
    (value : LayerValue) : set layer key value = layer ++ [(key, value)] := by
  rw [get?_eq_none_iff] at h
  rw [set, if_neg]
  rw [List.any_eq_true]
  rintro ⟨field, hfield, hkey⟩
  exact h field hfield (of_decide_eq_true hkey)

/-- A key that has a value gets the new one in its place. -/
theorem set_of_get?_eq_some {layer : Layer} {key : Bytes} {before : LayerValue}
    (h : get? layer key = some before) (value : LayerValue) :
    set layer key value =
      layer.map fun field => if field.1 = key then (key, value) else field := by
  have hany : (layer.any fun field => field.1 = key) = true := by
    refine Decidable.byContradiction fun hnot => ?_
    have hnone : get? layer key = none := by
      rw [get?_eq_none_iff]
      intro field hfield hkey
      exact hnot (List.any_eq_true.mpr ⟨field, hfield, decide_eq_true hkey⟩)
    rw [h] at hnone
    cases hnone
  rw [set, if_pos hany]

theorem get?_replace (layer : Layer) (key : Bytes) (value : LayerValue) (key' : Bytes) :
    get? (layer.map fun field => if field.1 = key then (key, value) else field) key' =
      if key' = key then (get? layer key).map fun _ => value else get? layer key' := by
  induction layer with
  | nil => split <;> rfl
  | cons field layer ih =>
    obtain ⟨k, old⟩ := field
    rw [List.map_cons, get?_cons k old layer key, get?_cons k old layer key']
    by_cases hk : k = key
    · rw [if_pos hk, if_pos hk.symm, hk, get?_cons, ih]
      by_cases h : key' = key
      · rw [if_pos h, if_pos h]
        rfl
      · rw [if_neg h, if_neg h, if_neg h, if_neg h]
    · rw [if_neg hk, if_neg (Ne.symm hk), get?_cons, ih]
      by_cases h : key' = key
      · rw [h, if_neg (Ne.symm hk), if_pos rfl, if_pos rfl]
      · rw [if_neg h, if_neg h]

/-- Setting a key changes what is given to this key, and to no other. -/
theorem get?_set (layer : Layer) (key : Bytes) (value : LayerValue) (key' : Bytes) :
    get? (set layer key value) key' = if key' = key then some value else get? layer key' := by
  cases hget : get? layer key with
  | none =>
    rw [set_of_get?_eq_none hget, get?, List.lookup_append]
    show (get? layer key').or (get? [(key, value)] key') = _
    rw [get?_cons]
    by_cases h : key' = key
    · rw [if_pos h, if_pos h, h, hget]
      rfl
    · rw [if_neg h, if_neg h]
      exact Option.or_none
  | some before =>
    rw [set_of_get?_eq_some hget, get?_replace, hget]
    rfl

/-- Setting a key gives no key a second value. -/
theorem nodup_keys_set {layer : Layer} (h : (layer.map Prod.fst).Nodup) (key : Bytes)
    (value : LayerValue) : ((set layer key value).map Prod.fst).Nodup := by
  cases hget : get? layer key with
  | none =>
    rw [set_of_get?_eq_none hget, List.map_append, List.nodup_append]
    refine ⟨h, by simp, ?_⟩
    intro k hk k' hk' hsame
    rw [hsame, List.mem_singleton.mp hk'] at hk
    obtain ⟨field, hfield, hkey⟩ := List.mem_map.mp hk
    exact (get?_eq_none_iff layer key).mp hget field hfield hkey
  | some before =>
    have hkeys : (layer.map fun field => if field.1 = key then (key, value) else field).map
        Prod.fst = layer.map Prod.fst := by
      rw [List.map_map]
      apply List.map_congr_left
      intro field _
      rw [Function.comp_apply]
      split
      · next hsame => exact hsame.symm
      · rfl
    rw [set_of_get?_eq_some hget, hkeys]
    exact h

/-! ## Merging -/

theorem nodup_keys_merge {old : Layer} (h : (old.map Prod.fst).Nodup) (new : Layer) :
    ((merge old new).map Prod.fst).Nodup := by
  induction new generalizing old with
  | nil => exact h
  | cons field new ih =>
    rw [merge]
    exact ih (nodup_keys_set h _ _)

/-- Layers are merged key by key, if the later one gives one value to each of its keys. -/
theorem get?_merge (old : Layer) {new : Layer} (hnew : (new.map Prod.fst).Nodup) (key : Bytes) :
    get? (merge old new) key = LayerValue.onTop (get? new key) (get? old key) := by
  induction new generalizing old with
  | nil => rfl
  | cons field new ih =>
    obtain ⟨k, value⟩ := field
    rw [List.map_cons, List.nodup_cons] at hnew
    obtain ⟨hk, hrest⟩ := hnew
    rw [merge, ih _ hrest, get?_set, get?_cons]
    by_cases h : key = k
    · have hnone : get? new k = none := by
        rw [get?_eq_none_iff]
        intro field hfield hkey
        exact hk (List.mem_map.mpr ⟨field, hfield, hkey⟩)
      rw [if_pos h, if_pos h, h, hnone]
      cases get? old k <;> rfl
    · rw [if_neg h, if_neg h]

end Layer

end TwinFiles
