import TwinFiles.Proofs.Fallible
import TwinFiles.Proofs.Text.Utf8
import TwinFiles.Toml.Document

/-!
# Tables of texts

Tables are put together from keys and values. If all of these are UTF-8, nothing that is done to a
table brings in anything else: not a change at the end of a path (`Section.IsText.update`), nor the
value that a finished table becomes (`Node.IsText.toValue`).
-/

namespace TwinFiles.Toml

open Utf8 (Valid)

/-- All strings and keys in a value are UTF-8. -/
inductive Value.IsText : Value → Prop where
  | string {text : Bytes} (htext : Valid text) : IsText (.string text)
  | integer (n : Int) : IsText (.integer n)
  | float (x : Binary64) : IsText (.float x)
  | bool (b : Bool) : IsText (.bool b)
  | moment : IsText .moment
  | array {items : List Value} (hitems : ∀ item ∈ items, IsText item) : IsText (.array items)
  | table {fields : List (Bytes × Value)} (hkeys : ∀ field ∈ fields, Valid field.1)
      (hvalues : ∀ field ∈ fields, IsText field.2) : IsText (.table fields)

/-- All strings and keys below a node are UTF-8. -/
inductive Node.IsText : Node → Prop where
  | value {v : Value} (hvalue : v.IsText) : IsText (.value v)
  | section (implicit dotted : Bool) {entries : List (Bytes × Node)}
      (hkeys : ∀ entry ∈ entries, Valid entry.1) (hnodes : ∀ entry ∈ entries, IsText entry.2) :
      IsText (.section implicit dotted entries)
  | sections {items : List (List (Bytes × Node))}
      (hkeys : ∀ entries ∈ items, ∀ entry ∈ entries, Valid entry.1)
      (hnodes : ∀ entries ∈ items, ∀ entry ∈ entries, IsText entry.2) : IsText (.sections items)

/-- All strings and keys in a table under construction are UTF-8. -/
def Section.IsText (s : Section) : Prop :=
  ∀ entry ∈ s.entries, Valid entry.1 ∧ entry.2.IsText

/-- A key with its value, of which all is UTF-8. -/
def IsTextPair (pair : List Bytes × Value) : Prop :=
  (∀ part ∈ pair.1, Valid part) ∧ pair.2.IsText

theorem valid_dropLast {path : List Bytes} (h : ∀ part ∈ path, Valid part) :
    ∀ part ∈ path.dropLast, Valid part :=
  fun part hpart => h part (List.dropLast_subset _ hpart)

/-! ## Tables under construction -/

namespace Section

variable {s s' : Section} {key : Bytes} {node : Node}

theorem isText_fresh : fresh.IsText :=
  List.forall_mem_nil _

theorem isText_section_iff {implicit dotted : Bool} {entries : List (Bytes × Node)} :
    (Node.section implicit dotted entries).IsText ↔
      (⟨implicit, dotted, entries⟩ : Section).IsText := by
  constructor
  · rintro (_ | ⟨_, _, hkeys, hnodes⟩)
    exact fun entry hentry => ⟨hkeys entry hentry, hnodes entry hentry⟩
  · exact fun h => .section _ _ (fun entry he => (h entry he).1) fun entry he => (h entry he).2

theorem isText_sections_iff {items : List (List (Bytes × Node))} :
    (Node.sections items).IsText ↔
      ∀ entries ∈ items, (⟨false, false, entries⟩ : Section).IsText := by
  constructor
  · rintro (_ | _ | ⟨hkeys, hnodes⟩)
    exact fun entries hmem entry hentry =>
      ⟨hkeys entries hmem entry hentry, hnodes entries hmem entry hentry⟩
  · exact fun h => .sections (fun entries hmem entry he => (h entries hmem entry he).1)
      fun entries hmem entry he => (h entries hmem entry he).2

theorem IsText.get? (hs : s.IsText) (h : s.get? key = some node) : node.IsText := by
  obtain ⟨front, behind, heq, _⟩ := List.lookup_eq_some_iff.mp h
  refine (hs (key, node) ?_).2
  rw [heq]
  simp

theorem IsText.erase (hs : s.IsText) (key : Bytes) : (s.erase key).IsText :=
  fun entry hentry => hs entry (List.mem_filter.mp hentry).1

theorem IsText.put (hs : s.IsText) (hkey : Valid key) (hnode : node.IsText) :
    (s.put key node).IsText := by
  intro entry hentry
  rcases List.mem_append.mp hentry with hentry | hentry
  · exact hs entry (List.mem_filter.mp hentry).1
  · rw [List.mem_singleton.mp hentry]
    exact ⟨hkey, hnode⟩

/-- A change at the end of a path keeps to texts if it does so there. -/
theorem IsText.update {dotted : Bool} {change : Section → Option Section}
    (hchange : ∀ {t t' : Section}, t.IsText → change t = some t' → t'.IsText) {path : List Bytes}
    (hpath : ∀ part ∈ path, Valid part) (hs : s.IsText)
    (h : update dotted change path s = some s') : s'.IsText := by
  induction path generalizing s s' with
  | nil => exact hchange hs h
  | cons key path ih =>
    obtain ⟨hkey, hpath⟩ := List.forall_mem_cons.mp hpath
    have ih {t t' : Section} : t.IsText → Section.update dotted change path t = some t' →
        t'.IsText := fun ht => ih hpath ht
    rw [Section.update] at h
    split at h
    · obtain ⟨child, hchild, h⟩ := Option.bind_eq_some_iff.mp h
      cases h
      have hempty : (⟨true, dotted, []⟩ : Section).IsText := List.forall_mem_nil _
      exact hs.put hkey (isText_section_iff.mpr (ih hempty hchild))
    · cases h
    · next hget =>
      split at h
      · cases h
      · obtain ⟨child, hchild, h⟩ := Option.bind_eq_some_iff.mp h
        cases h
        have hbelow := isText_section_iff.mp (hs.get? hget)
        exact hs.put hkey (isText_section_iff.mpr (ih hbelow hchild))
    · next items hget =>
      split at h
      · cases h
      · next last hlast =>
        obtain ⟨child, hchild, h⟩ := Option.bind_eq_some_iff.mp h
        cases h
        have hitems := isText_sections_iff.mp (hs.get? hget)
        have hchild := ih (hitems last (List.mem_of_getLast? hlast)) hchild
        refine hs.put hkey (isText_sections_iff.mpr ?_)
        intro entries hmem
        rcases List.mem_append.mp hmem with hmem | hmem
        · exact hitems entries (List.dropLast_subset _ hmem)
        · rw [List.mem_singleton.mp hmem]
          exact hchild

theorem IsText.insert {path : List Bytes} {v : Value} (hs : s.IsText)
    (hpair : IsTextPair (path, v)) (h : insert path v s = some s') : s'.IsText := by
  unfold Section.insert at h
  split at h
  · cases h
  · next key hkey =>
    refine IsText.update ?_ (valid_dropLast hpair.1) hs h
    intro t t' ht ht'
    split at ht'
    · cases ht'
    · split at ht'
      · cases ht'
      · cases ht'
        exact ht.put (hpair.1 key (List.mem_of_getLast? hkey)) (.value hpair.2)

end Section

/-! ## Finished values -/

theorem isText_entryValues {entries : List (Bytes × Node)}
    (hkeys : ∀ entry ∈ entries, Valid entry.1)
    (hnodes : ∀ entry ∈ entries, entry.2.toValue.IsText) :
    ∀ field ∈ entryValues entries, Valid field.1 ∧ field.2.IsText := by
  induction entries with
  | nil => exact List.forall_mem_nil _
  | cons entry entries ih =>
    obtain ⟨hkey, hkeys⟩ := List.forall_mem_cons.mp hkeys
    obtain ⟨hnode, hnodes⟩ := List.forall_mem_cons.mp hnodes
    rw [entryValues]
    exact List.forall_mem_cons.mpr ⟨⟨hkey, hnode⟩, ih hkeys hnodes⟩

theorem isText_table_entryValues {entries : List (Bytes × Node)}
    (hkeys : ∀ entry ∈ entries, Valid entry.1)
    (hnodes : ∀ entry ∈ entries, entry.2.toValue.IsText) :
    (Value.table (entryValues entries)).IsText :=
  .table (fun field hfield => (isText_entryValues hkeys hnodes field hfield).1)
    fun field hfield => (isText_entryValues hkeys hnodes field hfield).2

theorem isText_itemValues {items : List (List (Bytes × Node))}
    (hkeys : ∀ entries ∈ items, ∀ entry ∈ entries, Valid entry.1)
    (hnodes : ∀ entries ∈ items, ∀ entry ∈ entries, entry.2.toValue.IsText) :
    ∀ item ∈ itemValues items, item.IsText := by
  induction items with
  | nil => exact List.forall_mem_nil _
  | cons entries items ih =>
    obtain ⟨hfirst, hkeys⟩ := List.forall_mem_cons.mp hkeys
    obtain ⟨hfirst', hnodes⟩ := List.forall_mem_cons.mp hnodes
    rw [itemValues]
    exact List.forall_mem_cons.mpr ⟨isText_table_entryValues hfirst hfirst', ih hkeys hnodes⟩

theorem Node.IsText.toValue {node : Node} (h : node.IsText) : node.toValue.IsText := by
  induction h with
  | value hvalue => exact hvalue
  | «section» _ _ hkeys _ ih => exact isText_table_entryValues hkeys ih
  | sections hkeys _ ih => exact .array (isText_itemValues hkeys ih)

/-- The value of an inline table is made of its pairs. -/
theorem isText_inlineTable? {pairs : List (List Bytes × Value)}
    (hpairs : ∀ pair ∈ pairs, IsTextPair pair) {v : Value} (h : inlineTable? pairs = some v) :
    v.IsText := by
  obtain ⟨s, hs, rfl⟩ := Option.map_eq_some_iff.mp h
  have hs : s.IsText := by
    refine foldlM_keeps ?_ Section.isText_fresh hs
    intro t ht pair hpair t' hinsert
    exact ht.insert (hpairs pair hpair) hinsert
  exact (Section.isText_section_iff.mpr hs).toValue

end TwinFiles.Toml
