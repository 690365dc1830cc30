import TwinFiles.Csv.Reader
import TwinFiles.Csv.Writer

/-!
# Comma-separated text and back

A field is read up to the comma or newline behind it, whether it is written between quotes or not
(`readFrom_field`). So a record is read up to its newline (`readFrom_record`), and records that have
a field at least are read back from their document (`parse?_document`).
-/

namespace TwinFiles.Csv

/-! ## Steps of the reader -/

section Steps

variable (fields : List Bytes) (field : Bytes) (b : UInt8) (rest : Bytes)

theorem readFrom_quoted_cons :
    readFrom .quoted fields field (b :: rest) =
      if b = Ascii.quote then readFrom .closed fields field rest
      else readFrom .quoted fields (field ++ [b]) rest :=
  rfl

theorem readFrom_plain_cons :
    readFrom .plain fields field (b :: rest) =
      if b = Ascii.quote then none
      else if b = Ascii.comma then readFrom .fieldStart (fields ++ [field]) [] rest
      else if endsRecord b then
        (readFrom .recordStart [] [] rest).map ((fields ++ [field]) :: ·)
      else readFrom .plain fields (field ++ [b]) rest :=
  rfl

theorem readFrom_fieldStart_cons :
    readFrom .fieldStart fields [] (b :: rest) =
      if b = Ascii.quote then readFrom .quoted fields [] rest
      else if b = Ascii.comma then readFrom .fieldStart (fields ++ [[]]) [] rest
      else if endsRecord b then (readFrom .recordStart [] [] rest).map ((fields ++ [[]]) :: ·)
      else readFrom .plain fields [b] rest :=
  rfl

theorem readFrom_recordStart_cons :
    readFrom .recordStart [] [] (b :: rest) =
      if b = Ascii.quote then readFrom .quoted [] [] rest
      else if b = Ascii.comma then readFrom .fieldStart [[]] [] rest
      else if endsRecord b then readFrom .recordStart [] [] rest
      else readFrom .plain [] [b] rest :=
  rfl

end Steps

/-! ## Fields -/

/-- Between quotes a field is read up to the closing quote, with its doubled quotes as one. -/
theorem readFrom_quotedUnits (fields : List Bytes) (read field rest : Bytes) :
    readFrom .quoted fields read (field.flatMap quotedUnit ++ Ascii.quote :: rest) =
      readFrom .closed fields (read ++ field) rest := by
  induction field generalizing read with
  | nil =>
    rw [List.flatMap_nil, List.nil_append, List.append_nil]
    rfl
  | cons b field ih =>
    have hnext := ih (read ++ [b])
    rw [List.append_assoc, List.singleton_append] at hnext
    rw [List.flatMap_cons, List.append_assoc, ← hnext]
    by_cases hquote : b = Ascii.quote
    · -- the first of the two quotes closes the field for a moment
      subst hquote
      rfl
    · rw [quotedUnit, if_neg hquote, List.singleton_append, readFrom_quoted_cons,
        if_neg hquote]

/-- What a plain field holds is neither a quote nor a comma nor the end of a record. -/
theorem not_special {b : UInt8} (h : isSpecial b = false) :
    b ≠ Ascii.quote ∧ b ≠ Ascii.comma ∧ endsRecord b = false := by
  simp only [isSpecial, Bool.or_eq_false_iff, beq_eq_false_iff_ne] at h
  obtain ⟨⟨⟨hcomma, hquote⟩, hreturn⟩, hnewline⟩ := h
  exact ⟨hquote, hcomma, by simp [endsRecord, hreturn, hnewline]⟩

/-- A plain field is read byte by byte. -/
theorem readFrom_plain {field : Bytes} (h : ∀ b ∈ field, isSpecial b = false)
    (fields : List Bytes) (read rest : Bytes) :
    readFrom .plain fields read (field ++ rest) = readFrom .plain fields (read ++ field) rest := by
  induction field generalizing read with
  | nil => rw [List.nil_append, List.append_nil]
  | cons b field ih =>
    obtain ⟨hquote, hcomma, hends⟩ := not_special (h b List.mem_cons_self)
    have hends' : ¬ endsRecord b = true := by simp [hends]
    have hnext := ih (fun c hc => h c (List.mem_cons_of_mem _ hc)) (read ++ [b])
    rw [List.append_assoc, List.singleton_append] at hnext
    rw [List.cons_append, ← hnext, readFrom_plain_cons, if_neg hquote, if_neg hcomma,
      if_neg hends']

/-- The text of a field: plain, or between quotes. -/
theorem flatten_fieldUnits (field : Bytes) :
    ((∀ b ∈ field, isSpecial b = false) ∧ (fieldUnits field).flatten = field) ∨
      (fieldUnits field).flatten = Ascii.quote :: (field.flatMap quotedUnit ++ [Ascii.quote]) := by
  rw [fieldUnits]
  by_cases hspecial : field.any isSpecial = true
  · rw [if_pos hspecial]
    refine .inr ?_
    rw [List.cons_append, List.flatten_cons, List.flatten_append, List.flatMap_def]
    rfl
  · rw [if_neg hspecial]
    refine .inl ⟨?_, ?_⟩
    · simpa using hspecial
    · rw [← List.flatMap_def, List.flatMap_singleton']

section Field

variable {stop : UInt8}

/-- Before a comma or a newline it makes no difference whether a field was closed. -/
theorem readFrom_closed (hstop : stop = Ascii.comma ∨ stop = Ascii.newline) (fields : List Bytes)
    (field rest : Bytes) :
    readFrom .closed fields field (stop :: rest) = readFrom .plain fields field (stop :: rest) := by
  rcases hstop with rfl | rfl <;> rfl

/-- A field is read up to the comma or newline behind it. -/
theorem readFrom_field (hstop : stop = Ascii.comma ∨ stop = Ascii.newline) (fields : List Bytes)
    (field rest : Bytes) :
    readFrom .fieldStart fields [] ((fieldUnits field).flatten ++ stop :: rest) =
      readFrom .plain fields field (stop :: rest) := by
  rcases flatten_fieldUnits field with ⟨hplain, htext⟩ | htext
  · rw [htext]
    cases field with
    | nil => rcases hstop with rfl | rfl <;> rfl
    | cons b field =>
      obtain ⟨hquote, hcomma, hends⟩ := not_special (hplain b List.mem_cons_self)
      have hends' : ¬ endsRecord b = true := by simp [hends]
      rw [List.cons_append, readFrom_fieldStart_cons, if_neg hquote, if_neg hcomma,
        if_neg hends']
      exact readFrom_plain (fun c hc => hplain c (List.mem_cons_of_mem _ hc)) fields [b] _
  · rw [htext, List.cons_append, List.append_assoc]
    show readFrom .quoted fields [] (field.flatMap quotedUnit ++ Ascii.quote :: stop :: rest) = _
    rw [readFrom_quotedUnits, readFrom_closed hstop]
    rfl

end Field

/-! ## Records -/

/-- Fields are read up to the newline behind the last one. -/
theorem readFrom_fields (field : Bytes) (fields done : List Bytes) (rest : Bytes) :
    readFrom .fieldStart done []
        ((fieldsUnits (field :: fields)).flatten ++ Ascii.newline :: rest) =
      (readFrom .recordStart [] [] rest).map ((done ++ field :: fields) :: ·) := by
  induction fields generalizing field done with
  | nil =>
    rw [fieldsUnits, readFrom_field (.inr rfl)]
    rfl
  | cons next fields ih =>
    have hnext := ih next (done ++ [field])
    rw [List.append_assoc, List.singleton_append] at hnext
    rw [fieldsUnits, List.flatten_append, List.flatten_cons, List.append_assoc, List.append_assoc,
      List.singleton_append, readFrom_field (.inl rfl), ← hnext]
    rfl

/-- Anything but the end of a record starts a record with its first field. -/
theorem readFrom_recordStart {b : UInt8} (h : endsRecord b = false) (rest : Bytes) :
    readFrom .recordStart [] [] (b :: rest) = readFrom .fieldStart [] [] (b :: rest) := by
  have h' : ¬ endsRecord b = true := by simp [h]
  rw [readFrom_recordStart_cons, readFrom_fieldStart_cons, if_neg h', if_neg h']
  rfl

/-- The text of a field does not start with the end of a record. -/
theorem head_fieldUnits (field : Bytes) :
    field = [] ∧ (fieldUnits field).flatten = [] ∨
      ∃ b tail, (fieldUnits field).flatten = b :: tail ∧ endsRecord b = false := by
  rcases flatten_fieldUnits field with ⟨hplain, htext⟩ | htext
  · cases field with
    | nil => exact .inl ⟨rfl, rfl⟩
    | cons b field => exact .inr ⟨b, field, htext, (not_special (hplain b List.mem_cons_self)).2.2⟩
  · exact .inr ⟨_, _, htext, rfl⟩

/-- Nor does the text of a record, so that it is no empty line. -/
theorem head_fieldsUnits {field : Bytes} {fields : List Bytes} (h : field :: fields ≠ [[]]) :
    ∃ b tail, (fieldsUnits (field :: fields)).flatten = b :: tail ∧ endsRecord b = false := by
  cases fields with
  | nil =>
    rcases head_fieldUnits field with ⟨rfl, _⟩ | hhead
    · exact absurd rfl h
    · exact hhead
  | cons next fields =>
    rw [fieldsUnits, List.flatten_append, List.flatten_cons]
    rcases head_fieldUnits field with ⟨_, hempty⟩ | ⟨b, tail, htext, hends⟩
    · rw [hempty]
      exact ⟨Ascii.comma, _, rfl, rfl⟩
    · rw [htext]
      exact ⟨b, _, rfl, hends⟩

/-- A record is read up to its newline. -/
theorem readFrom_record {fields : List Bytes} (h : fields ≠ []) (rest : Bytes) :
    readFrom .recordStart [] [] (record fields ++ rest) =
      (readFrom .recordStart [] [] rest).map (fields :: ·) := by
  obtain ⟨field, fields, rfl⟩ := List.exists_cons_of_ne_nil h
  rw [record, recordUnits, List.flatten_append, List.flatten_singleton, List.append_assoc,
    List.singleton_append]
  by_cases hempty : field :: fields = [[]]
  · rw [if_pos hempty, hempty]
    rfl
  · obtain ⟨b, tail, htext, hends⟩ := head_fieldsUnits hempty
    have hfields := readFrom_fields field fields [] rest
    rw [htext, List.cons_append] at hfields
    rw [if_neg hempty, htext, List.cons_append, readFrom_recordStart hends]
    exact hfields

/-- Records with one field at least are read back from their document. -/
theorem parse?_document {records : List (List Bytes)} (h : ∀ fields ∈ records, fields ≠ []) :
    parse? (document records) = some records := by
  induction records with
  | nil => rfl
  | cons fields records ih =>
    have hrest : readFrom .recordStart [] [] (document records) = some records :=
      ih fun other hmem => h other (List.mem_cons_of_mem _ hmem)
    rw [parse?, document, List.flatMap_cons, readFrom_record (h fields List.mem_cons_self)]
    show (readFrom .recordStart [] [] (document records)).map _ = _
    rw [hrest]
    rfl

end TwinFiles.Csv
