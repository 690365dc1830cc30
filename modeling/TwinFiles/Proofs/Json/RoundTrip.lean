import TwinFiles.Proofs.Json.Token
import TwinFiles.Proofs.Text.Utf8

/-!
# JSON text and back

A value whose texts are UTF-8 is read back from its text, whatever blanks the layout puts between
its tokens (`parse?_render`). `Reads layout v` says so of a value in front of more text; it is shown
for each kind of value from its parts, and for all values by induction on `IsText`.
-/

namespace TwinFiles.Json

/-- All texts and names in a value are UTF-8. -/
inductive IsText : Json → Prop where
  | null : IsText .null
  | bool (value : Bool) : IsText (.bool value)
  | number (digits exponent : Int) : IsText (.number digits exponent)
  | string {text : Bytes} (htext : Utf8.Valid text) : IsText (.string text)
  | array {items : List Json} (hitems : ∀ item ∈ items, IsText item) : IsText (.array items)
  | object {fields : List (Bytes × Json)} (hnames : ∀ field ∈ fields, Utf8.Valid field.1)
      (hvalues : ∀ field ∈ fields, IsText field.2) : IsText (.object fields)

/-! ## Values -/

/-- A value is read back from its text in front of what may follow it. Two steps for each byte are
fuel enough. -/
def Reads (layout : Layout) (v : Json) : Prop :=
  ∀ level fuel rest, Ends rest → 2 * (render layout level v).length ≤ fuel →
    readValue fuel (render layout level v ++ rest) = some (v, rest)

/-- A numeral starts with a digit or a minus sign. -/
theorem numeral_eq_cons (digits exponent : Int) :
    ∃ b tail, numeral digits exponent = b :: tail ∧ (Ascii.isDigit b = true ∨ b = 0x2D) := by
  have hsigned : ∃ b tail, Decimal.signed digits = b :: tail ∧
      (Ascii.isDigit b = true ∨ b = 0x2D) := by
    cases digits with
    | negSucc n => exact ⟨_, _, rfl, .inr rfl⟩
    | ofNat n =>
      obtain ⟨first, others, htext, hdigits, _⟩ := Decimal.text_eq n
      exact ⟨first, others, htext, .inl (hdigits first List.mem_cons_self)⟩
  obtain ⟨b, tail, heq, hb⟩ := hsigned
  by_cases hzero : exponent = 0
  · exact ⟨b, tail, by rw [numeral, if_pos hzero, heq], hb⟩
  · refine ⟨b, tail ++ (utf8 "e" ++ Decimal.signed exponent), ?_, hb⟩
    rw [numeral, if_neg hzero, heq, List.append_assoc, List.cons_append]

theorem isBlank_of_numeral (b : UInt8) (h : Ascii.isDigit b = true ∨ b = 0x2D) :
    isBlank b = false ∧ b ≠ 0x5D := by
  have hne (c : UInt8) (hdigit : Ascii.isDigit c = false) (hdash : c ≠ 0x2D) : b ≠ c := by
    rintro rfl
    rcases h with h | h
    · rw [hdigit] at h
      cases h
    · exact hdash h
  refine ⟨?_, hne _ rfl (by decide)⟩
  simp [isBlank, hne 0x20 rfl (by decide), hne 0x09 rfl (by decide), hne 0x0A rfl (by decide),
    hne 0x0D rfl (by decide)]

/-- The text of a value starts with a byte that is no blank and does not close an array. -/
theorem render_eq_cons (layout : Layout) (level : Nat) (v : Json) :
    ∃ b tail, render layout level v = b :: tail ∧ isBlank b = false ∧ b ≠ 0x5D := by
  cases v with
  | null => exact ⟨_, _, rfl, rfl, by decide⟩
  | bool value => cases value <;> exact ⟨_, _, rfl, rfl, by decide⟩
  | number digits exponent =>
    obtain ⟨b, tail, heq, hb⟩ := numeral_eq_cons digits exponent
    exact ⟨b, tail, heq, isBlank_of_numeral b hb⟩
  | string text => exact ⟨_, _, rfl, rfl, by decide⟩
  | array items => cases items <;> exact ⟨_, _, rfl, rfl, by decide⟩
  | object fields =>
    cases fields with
    | nil => exact ⟨_, _, rfl, rfl, by decide⟩
    | cons field fields => exact ⟨_, _, rfl, rfl, by decide⟩

section Steps

variable {fuel : Nat} {s rest after : Bytes} {value : Json}

theorem readValue_append {blanks : Bytes} (h : Blanks blanks) (fuel : Nat) (s : Bytes) :
    readValue fuel (blanks ++ s) = readValue fuel s := by
  cases fuel with
  | zero => rw [readValue, readValue]
  | succ fuel => rw [readValue, readValue, skipBlanks_append h]

theorem readItems_append {blanks : Bytes} (h : Blanks blanks) (fuel : Nat) (s : Bytes) :
    readItems fuel (blanks ++ s) = readItems fuel s := by
  cases fuel with
  | zero => rw [readItems, readItems]
  | succ fuel => rw [readItems, readItems, readValue_append h]

/-- The last item stands before the closing bracket. -/
theorem readItems_last (hvalue : readValue fuel s = some (value, rest))
    (hclose : skipBlanks rest = 0x5D :: after) :
    readItems (fuel + 1) s = some ([value], after) := by
  rw [readItems, hvalue]
  simp only [hclose]

/-- Any other item stands before a comma. -/
theorem readItems_more {next : Bytes} {values : List Json}
    (hvalue : readValue fuel s = some (value, rest)) (hcomma : skipBlanks rest = 0x2C :: next)
    (hmore : readItems fuel next = some (values, after)) :
    readItems (fuel + 1) s = some (value :: values, after) := by
  rw [readItems, hvalue]
  simp only [hcomma, hmore]
  rfl

theorem readValue_array {items : Bytes} {values : List Json} {b : UInt8} {tail : Bytes}
    (hitems : skipBlanks items = b :: tail) (hopen : b ≠ 0x5D)
    (hread : readItems fuel (b :: tail) = some (values, after)) :
    readValue (fuel + 1) (0x5B :: items) = some (.array values, after) := by
  rw [readValue, skipBlanks_cons rfl]
  simp only [hitems]
  split
  · next heq => exact absurd (List.cons.inj heq).1 hopen
  · rw [hread]
    rfl

/-- A field: a name, a colon and a value. The last one stands before the closing brace. -/
theorem readFields_last {name quoted colon field : Bytes} (hname : skipBlanks s = 0x22 :: quoted)
    (htext : readText quoted = some (name, colon)) (hcolon : skipBlanks colon = 0x3A :: field)
    (hvalue : readValue fuel field = some (value, rest))
    (hclose : skipBlanks rest = 0x7D :: after) :
    readFields (fuel + 1) s = some ([(name, value)], after) := by
  rw [readFields, hname]
  simp only [htext, hcolon, hvalue, hclose]

/-- Any other field stands before a comma. -/
theorem readFields_more {name quoted colon field next : Bytes} {values : List (Bytes × Json)}
    (hname : skipBlanks s = 0x22 :: quoted) (htext : readText quoted = some (name, colon))
    (hcolon : skipBlanks colon = 0x3A :: field)
    (hvalue : readValue fuel field = some (value, rest)) (hcomma : skipBlanks rest = 0x2C :: next)
    (hmore : readFields fuel next = some (values, after)) :
    readFields (fuel + 1) s = some ((name, value) :: values, after) := by
  rw [readFields, hname]
  simp only [htext, hcolon, hvalue, hcomma, hmore]
  rfl

theorem readValue_object {fields tail : Bytes} {values : List (Bytes × Json)}
    (hfields : skipBlanks fields = 0x22 :: tail)
    (hread : readFields fuel (0x22 :: tail) = some (values, after)) :
    readValue (fuel + 1) (0x7B :: fields) = some (.object values, after) := by
  rw [readValue, skipBlanks_cons rfl]
  simp only [hfields]
  split
  · next heq => exact absurd (List.cons.inj heq).1 (by decide)
  · rw [hread]
    rfl

end Steps

section Kinds

variable {layout : Layout}

/-- There is fuel for a value if there is enough for its text. -/
theorem exists_fuel {level fuel : Nat} {v : Json}
    (h : 2 * (render layout level v).length ≤ fuel) : ∃ n, fuel = n + 1 := by
  obtain ⟨b, tail, heq, _⟩ := render_eq_cons layout level v
  rw [heq, List.length_cons] at h
  exact ⟨fuel - 1, by omega⟩

theorem reads_null (layout : Layout) : Reads layout .null := by
  intro level fuel rest hrest hfuel
  obtain ⟨fuel, rfl⟩ := exists_fuel hfuel
  show readValue (fuel + 1) (0x6E :: 0x75 :: 0x6C :: 0x6C :: rest) = _
  rfl

theorem reads_bool (layout : Layout) (value : Bool) : Reads layout (.bool value) := by
  intro level fuel rest hrest hfuel
  obtain ⟨fuel, rfl⟩ := exists_fuel hfuel
  cases value with
  | true =>
    show readValue (fuel + 1) (0x74 :: 0x72 :: 0x75 :: 0x65 :: rest) = _
    rfl
  | false =>
    show readValue (fuel + 1) (0x66 :: 0x61 :: 0x6C :: 0x73 :: 0x65 :: rest) = _
    rfl

theorem reads_number (layout : Layout) (digits exponent : Int) :
    Reads layout (.number digits exponent) := by
  intro level fuel rest hrest hfuel
  obtain ⟨fuel, rfl⟩ := exists_fuel hfuel
  have hnumber := readNumber_numeral digits exponent hrest
  obtain ⟨b, tail, heq, hb⟩ := numeral_eq_cons digits exponent
  rw [heq, List.cons_append] at hnumber
  rw [render, heq, List.cons_append, readValue, skipBlanks_cons (isBlank_of_numeral b hb).1]
  -- neither a digit nor a minus sign starts a value of another kind
  split
  case h_7 => exact hnumber
  all_goals
    next h =>
      rw [(List.cons.inj h).1] at hb
      exact absurd hb (by decide)

theorem reads_string (layout : Layout) {text : Bytes} (h : Utf8.Valid text) :
    Reads layout (.string text) := by
  intro level fuel rest hrest hfuel
  obtain ⟨fuel, rfl⟩ := exists_fuel hfuel
  show readValue (fuel + 1) (0x22 :: (text.flatMap escaped ++ [Ascii.quote] ++ rest)) = _
  rw [List.append_assoc]
  show (readText (text.flatMap escaped ++ Ascii.quote :: rest)).map _ = _
  rw [readText_quoted h]
  rfl

/-- Items are read back up to the closing bracket. -/
theorem readItems_render (hl : layout.Blank) {item : Json} {items : List Json}
    (hitem : Reads layout item) (hitems : ∀ item ∈ items, Reads layout item) (level : Nat)
    {close : Bytes} (hclose : Blanks close) (after : Bytes) (fuel : Nat)
    (hfuel : 2 * ((render layout level item).length + (renderItems layout level items).length) + 1 ≤
      fuel) :
    readItems fuel (render layout level item ++
        (renderItems layout level items ++ (close ++ 0x5D :: after))) =
      some (item :: items, after) := by
  -- one step of fuel goes to the item, the rest to the items behind its comma
  induction items generalizing item fuel with
  | nil =>
    obtain ⟨fuel, rfl⟩ : ∃ n, fuel = n + 1 := ⟨fuel - 1, by omega⟩
    have hends : Ends (close ++ 0x5D :: after) := ends_append hclose (ends_cons (.inr (.inl rfl)) _)
    refine readItems_last (hitem level fuel _ hends (by omega)) ?_
    exact skipBlanks_append_cons hclose rfl after
  | cons next items ih =>
    obtain ⟨fuel, rfl⟩ : ∃ n, fuel = n + 1 := ⟨fuel - 1, by omega⟩
    have hsep : renderItems layout level (next :: items) ++ (close ++ 0x5D :: after) =
        0x2C :: (layout.gap level ++ (render layout level next ++
          (renderItems layout level items ++ (close ++ 0x5D :: after)))) := by
      rw [renderItems]
      simp only [List.append_assoc]
      rfl
    have hlength := congrArg List.length hsep
    simp only [List.length_append, List.length_cons] at hlength
    rw [hsep]
    refine readItems_more (hitem level fuel _ (ends_cons (.inl rfl) _) (by omega))
      (skipBlanks_cons rfl _) ?_
    rw [readItems_append (hl.gap level)]
    exact ih (hitems next List.mem_cons_self)
      (fun item h => hitems item (List.mem_cons_of_mem _ h)) fuel (by omega)

/-- A quoted name runs from one quote to the next. -/
theorem quoted_append (name s : Bytes) :
    quoted name ++ s = 0x22 :: (name.flatMap escaped ++ Ascii.quote :: s) := by
  rw [quoted, List.cons_append, List.cons_append, List.append_assoc]
  rfl

theorem skipBlanks_quoted {blanks : Bytes} (h : Blanks blanks) (name s : Bytes) :
    skipBlanks (blanks ++ (quoted name ++ s)) =
      0x22 :: (name.flatMap escaped ++ Ascii.quote :: s) := by
  rw [quoted_append]
  exact skipBlanks_append_cons h rfl _

/-- Fields are read back up to the closing brace. -/
theorem readFields_render (hl : layout.Blank) {name : Bytes} {value : Json}
    {fields : List (Bytes × Json)} (hname : Utf8.Valid name) (hvalue : Reads layout value)
    (hnames : ∀ field ∈ fields, Utf8.Valid field.1)
    (hvalues : ∀ field ∈ fields, Reads layout field.2) (level : Nat) {blanks close : Bytes}
    (hblanks : Blanks blanks) (hclose : Blanks close) (after : Bytes) (fuel : Nat)
    (hfuel : 2 * ((render layout level value).length + (renderFields layout level fields).length) +
      1 ≤ fuel) :
    readFields fuel (blanks ++ (quoted name ++ (layout.colon ++ (render layout level value ++
        (renderFields layout level fields ++ (close ++ 0x7D :: after)))))) =
      some ((name, value) :: fields, after) := by
  obtain ⟨space, hcolon, hspace⟩ := hl.colon
  rw [hcolon]
  induction fields generalizing name value blanks fuel with
  | nil =>
    obtain ⟨fuel, rfl⟩ : ∃ n, fuel = n + 1 := ⟨fuel - 1, by omega⟩
    have hends : Ends (close ++ 0x7D :: after) := ends_append hclose (ends_cons (.inr (.inr rfl)) _)
    refine readFields_last (skipBlanks_quoted hblanks name _) (readText_quoted hname _)
      (skipBlanks_cons rfl (space ++ _)) ?_ (skipBlanks_append_cons hclose rfl after)
    rw [readValue_append hspace]
    exact hvalue level fuel _ hends (by omega)
  | cons next fields ih =>
    obtain ⟨fuel, rfl⟩ : ∃ n, fuel = n + 1 := ⟨fuel - 1, by omega⟩
    have hsep : renderFields layout level (next :: fields) ++ (close ++ 0x7D :: after) =
        0x2C :: (layout.gap level ++ (quoted next.1 ++ (0x3A :: space ++
          (render layout level next.2 ++
            (renderFields layout level fields ++ (close ++ 0x7D :: after)))))) := by
      rw [renderFields, hcolon]
      simp only [List.append_assoc]
      rfl
    have hlength := congrArg List.length hsep
    simp only [List.length_append, List.length_cons] at hlength
    rw [hsep]
    have hmore := ih (hnames next List.mem_cons_self) (hvalues next List.mem_cons_self)
      (fun field h => hnames field (List.mem_cons_of_mem _ h))
      (fun field h => hvalues field (List.mem_cons_of_mem _ h)) (hl.gap level) fuel (by omega)
    refine readFields_more (skipBlanks_quoted hblanks name _) (readText_quoted hname _)
      (skipBlanks_cons rfl (space ++ _)) ?_ (skipBlanks_cons rfl _) hmore
    rw [readValue_append hspace]
    exact hvalue level fuel _ (ends_cons (.inl rfl) _) (by omega)

theorem reads_array (hl : layout.Blank) {items : List Json}
    (h : ∀ item ∈ items, Reads layout item) : Reads layout (.array items) := by
  intro level fuel rest hrest hfuel
  obtain ⟨fuel, rfl⟩ := exists_fuel hfuel
  cases items with
  | nil =>
    show readValue (fuel + 1) (0x5B :: 0x5D :: rest) = _
    rfl
  | cons item items =>
    have htext : render layout level (.array (item :: items)) ++ rest =
        0x5B :: (layout.gap (level + 1) ++ (render layout (level + 1) item ++
          (renderItems layout (level + 1) items ++ (layout.gap level ++ 0x5D :: rest)))) := by
      rw [render]
      simp only [List.append_assoc]
      rfl
    have hlength := congrArg List.length htext
    simp only [List.length_append, List.length_cons] at hlength
    obtain ⟨b, tail, heq, hblank, hopen⟩ := render_eq_cons layout (level + 1) item
    have hitems := readItems_render hl (h item List.mem_cons_self)
      (fun item hmem => h item (List.mem_cons_of_mem _ hmem)) (level + 1) (hl.gap level) rest fuel
      (by omega)
    rw [heq] at hitems
    rw [htext, heq]
    exact readValue_array (skipBlanks_append_cons (hl.gap _) hblank _) hopen hitems

theorem reads_object (hl : layout.Blank) {fields : List (Bytes × Json)}
    (hnames : ∀ field ∈ fields, Utf8.Valid field.1)
    (hvalues : ∀ field ∈ fields, Reads layout field.2) : Reads layout (.object fields) := by
  intro level fuel rest hrest hfuel
  obtain ⟨fuel, rfl⟩ := exists_fuel hfuel
  cases fields with
  | nil =>
    show readValue (fuel + 1) (0x7B :: 0x7D :: rest) = _
    rfl
  | cons field fields =>
    have htext : render layout level (.object (field :: fields)) ++ rest =
        0x7B :: (layout.gap (level + 1) ++ (quoted field.1 ++ (layout.colon ++
          (render layout (level + 1) field.2 ++
            (renderFields layout (level + 1) fields ++ (layout.gap level ++ 0x7D :: rest)))))) := by
      rw [render]
      simp only [List.append_assoc]
      rfl
    have hlength := congrArg List.length htext
    simp only [List.length_append, List.length_cons] at hlength
    have hfields := readFields_render hl (hnames field List.mem_cons_self)
      (hvalues field List.mem_cons_self)
      (fun field hmem => hnames field (List.mem_cons_of_mem _ hmem))
      (fun field hmem => hvalues field (List.mem_cons_of_mem _ hmem)) (level + 1) blanks_nil
      (hl.gap level) rest fuel (by omega)
    rw [htext]
    refine readValue_object (skipBlanks_quoted (hl.gap _) field.1 _) ?_
    rw [← quoted_append]
    exact hfields

end Kinds

/-- Every value is read back from its text. -/
theorem reads {layout : Layout} (hl : layout.Blank) {v : Json} (h : v.IsText) :
    Reads layout v := by
  induction h with
  | null => exact reads_null layout
  | bool value => exact reads_bool layout value
  | number digits exponent => exact reads_number layout digits exponent
  | string htext => exact reads_string layout htext
  | array _ ih => exact reads_array hl ih
  | object hnames _ ih => exact reads_object hl hnames ih

/-- The text of a value, with nothing around it, is a document that holds the value. -/
theorem parse?_render {layout : Layout} (hl : layout.Blank) {v : Json} (h : v.IsText) :
    parse? (render layout 0 v) = some v := by
  have hread := reads hl h 0 (2 * (render layout 0 v).length + 2) [] ends_nil (by omega)
  rw [List.append_nil] at hread
  rw [parse?, hread]
  rfl

end TwinFiles.Json
