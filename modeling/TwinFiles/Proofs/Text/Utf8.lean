import TwinFiles.Text.Utf8

/-!
# What makes a text valid

A run of the cutting machine between two pieces can be read anywhere: whatever stands before it, the
bytes of a character are cut as that character (`isCharacter_of_mem_pieces`). So the pieces of
characters put together are these characters (`pieces_flatten`), valid texts can be joined
(`valid_append`), and the lossy form of any byte string is valid (`valid_lossy`).
-/

namespace TwinFiles.Utf8

/-! ## Characters -/

/-- The bytes of a character: wherever they stand, they are cut as one. -/
def IsCharacter (bs : Bytes) : Prop :=
  ∀ rest, pieces (bs ++ rest) = .character bs :: pieces rest

/-- The held bytes of a state lead to it from between pieces, with no piece on the way. -/
def State.Reached (state : State) : Prop :=
  ∀ rest, pieces (state.held ++ rest) = piecesFrom state rest

theorem State.between_reached : State.Reached .between :=
  fun _ => rfl

theorem piecesFrom_cons (state : State) (b : UInt8) (rest : Bytes) :
    piecesFrom state (b :: rest) = (step state b).1 ++ piecesFrom (step state b).2 rest := by
  cases state <;> rfl

/-- A first byte completes a piece or is held, not both. -/
theorem start_cases (b : UInt8) :
    (b < 0x80 ∧ start b = ([.character [b]], .between)) ∨
      start b = ([.broken [b]], .between) ∨
      ∃ owed low high, start b = ([], .within [b] owed low high) := by
  unfold start
  by_cases hascii : b < 0x80
  · exact .inl ⟨hascii, if_pos hascii⟩
  · rw [if_neg hascii]
    refine .inr ?_
    repeat' split
    all_goals first
      | exact .inl rfl
      | exact .inr ⟨_, _, _, rfl⟩

theorem start_reached (b : UInt8) : (start b).2.Reached := by
  rcases start_cases b with ⟨_, h⟩ | h | ⟨owed, low, high, h⟩
  · rw [h]
    exact State.between_reached
  · rw [h]
    exact State.between_reached
  · rw [h]
    intro rest
    show piecesFrom .between (b :: rest) = _
    rw [piecesFrom_cons, step, h]
    rfl

/-- What a byte leads to is reached by the bytes that are held then. -/
theorem State.Reached.step {state : State} (h : state.Reached) (b : UInt8) :
    (step state b).2.Reached := by
  cases state with
  | between => exact start_reached b
  | within held owed low high =>
    by_cases hrange : low ≤ b ∧ b ≤ high
    · cases owed with
      | zero =>
        simp only [Utf8.step, if_pos hrange]
        exact State.between_reached
      | succ n =>
        simp only [Utf8.step, if_pos hrange]
        intro rest
        have hnext := h (b :: rest)
        rw [piecesFrom_cons, Utf8.step, if_pos hrange] at hnext
        simpa [State.held] using hnext
    · -- what was held is given up, and the byte starts anew
      simp only [Utf8.step, if_neg hrange]
      exact start_reached b

/-- A byte that completes a character completes it after the bytes that are held. -/
theorem isCharacter_of_mem_step {state : State} (h : state.Reached) {b : UInt8} {bs : Bytes}
    (hmem : .character bs ∈ (step state b).1) : IsCharacter bs := by
  have hstart : ∀ {bs}, .character bs ∈ (start b).1 → IsCharacter bs := by
    intro bs hmem
    rcases start_cases b with ⟨hascii, hs⟩ | hs | ⟨owed, low, high, hs⟩
    · rw [hs] at hmem
      have hbs : bs = [b] := by simpa using hmem
      subst hbs
      intro rest
      show piecesFrom .between (b :: rest) = _
      rw [piecesFrom_cons, step, hs]
      rfl
    · rw [hs] at hmem
      simp at hmem
    · rw [hs] at hmem
      simp at hmem
  cases state with
  | between => exact hstart hmem
  | within held owed low high =>
    by_cases hrange : low ≤ b ∧ b ≤ high
    · cases owed with
      | zero =>
        simp only [step, if_pos hrange, List.mem_singleton, Piece.character.injEq] at hmem
        subst hmem
        intro rest
        have hnext := h (b :: rest)
        rw [piecesFrom_cons, step, if_pos hrange] at hnext
        rw [List.append_assoc]
        exact hnext
      | succ n => simp [step, if_pos hrange] at hmem
    · simp only [step, if_neg hrange, List.mem_cons, reduceCtorEq, false_or] at hmem
      exact hstart hmem

/-- A piece that is cut as a character is one. -/
theorem isCharacter_of_mem_piecesFrom {state : State} (h : state.Reached) {s bs : Bytes}
    (hmem : .character bs ∈ piecesFrom state s) : IsCharacter bs := by
  induction s generalizing state with
  | nil => cases state <;> simp [piecesFrom] at hmem
  | cons b rest ih =>
    rw [piecesFrom_cons, List.mem_append] at hmem
    rcases hmem with hmem | hmem
    · exact isCharacter_of_mem_step h hmem
    · exact ih (h.step b) hmem

theorem isCharacter_of_mem_pieces {s bs : Bytes} (hmem : .character bs ∈ pieces s) :
    IsCharacter bs :=
  isCharacter_of_mem_piecesFrom State.between_reached hmem

theorem isCharacter_replacement : IsCharacter replacement :=
  fun _ => rfl

theorem isCharacter_ascii {b : UInt8} (h : b < 0x80) : IsCharacter [b] := by
  intro rest
  show piecesFrom .between (b :: rest) = _
  rw [piecesFrom_cons, step, start, if_pos h]
  rfl

/-! ## Valid texts -/

/-- Characters put together are cut into these characters again. -/
theorem pieces_flatten {characters : List Bytes} (h : ∀ bs ∈ characters, IsCharacter bs)
    (rest : Bytes) :
    pieces (characters.flatten ++ rest) = characters.map .character ++ pieces rest := by
  induction characters with
  | nil => rfl
  | cons bs characters ih =>
    rw [List.flatten_cons, List.append_assoc, h bs List.mem_cons_self,
      ih fun c hc => h c (List.mem_cons_of_mem _ hc)]
    rfl

theorem valid_flatten {characters : List Bytes} (h : ∀ bs ∈ characters, IsCharacter bs) :
    Valid characters.flatten := by
  have hpieces := pieces_flatten h []
  rw [List.append_nil] at hpieces
  rw [Valid, valid, hpieces]
  simp [pieces, piecesFrom, Piece.isCharacter]

/-- The characters of a valid text. -/
theorem exists_characters {s : Bytes} (h : Valid s) :
    ∃ characters : List Bytes, (∀ bs ∈ characters, IsCharacter bs) ∧ characters.flatten = s := by
  refine ⟨(pieces s).map Piece.bytes, ?_, ?_⟩
  · intro bs hbs
    obtain ⟨piece, hmem, rfl⟩ := List.mem_map.mp hbs
    have hpiece : piece.isCharacter = true := List.all_eq_true.mp h piece hmem
    cases piece with
    | character bs => exact isCharacter_of_mem_pieces hmem
    | broken bs => cases hpiece
  · rw [← List.flatMap_def, flatMap_bytes_pieces]

theorem valid_append {s t : Bytes} (hs : Valid s) (ht : Valid t) : Valid (s ++ t) := by
  obtain ⟨cs, hcs, rfl⟩ := exists_characters hs
  obtain ⟨ct, hct, rfl⟩ := exists_characters ht
  rw [← List.flatten_append]
  apply valid_flatten
  intro bs hbs
  rcases List.mem_append.mp hbs with hbs | hbs
  · exact hcs bs hbs
  · exact hct bs hbs

/-! ## ASCII -/

/-- ASCII characters alone. -/
def IsAscii (s : Bytes) : Prop :=
  ∀ b ∈ s, b < 0x80

instance (s : Bytes) : Decidable (IsAscii s) :=
  List.decidableBAll (fun b => b < 0x80) s

theorem isAscii_append {s t : Bytes} (hs : IsAscii s) (ht : IsAscii t) : IsAscii (s ++ t) :=
  List.forall_mem_append.mpr ⟨hs, ht⟩

/-- A text of ASCII characters is valid. -/
theorem valid_of_isAscii {s : Bytes} (h : IsAscii s) : Valid s := by
  induction s with
  | nil => rfl
  | cons b rest ih =>
    have hb : IsCharacter [b] := isCharacter_ascii (h b List.mem_cons_self)
    have hrest : Valid rest := ih fun c hc => h c (List.mem_cons_of_mem _ hc)
    have hfirst : Valid [b] := by
      rw [Valid, valid, show [b] = [b] ++ [] from rfl, hb]
      rfl
    exact valid_append hfirst hrest

/-! ## The lossy form -/

/-- The lossy form of any byte string is a valid text. -/
theorem valid_lossy (s : Bytes) : Valid (lossy s) := by
  rw [lossy, List.flatMap_def]
  apply valid_flatten
  intro bs hbs
  obtain ⟨piece, hmem, rfl⟩ := List.mem_map.mp hbs
  cases piece with
  | character bs => exact isCharacter_of_mem_pieces hmem
  | broken bs => exact isCharacter_replacement

/-- The lossy form holds no bytes but those of the byte string and of the replacement. -/
theorem mem_of_mem_lossy {s : Bytes} {b : UInt8} (h : b ∈ lossy s) : b ∈ s ∨ b ∈ replacement := by
  obtain ⟨piece, hmem, hb⟩ := List.mem_flatMap.mp h
  cases piece with
  | character bs =>
    refine .inl ?_
    rw [← flatMap_bytes_pieces s]
    exact List.mem_flatMap.mpr ⟨_, hmem, hb⟩
  | broken bs => exact .inr hb

end TwinFiles.Utf8
