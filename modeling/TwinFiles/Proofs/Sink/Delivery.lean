import TwinFiles.Sink

/-!
# What arrives at a sink

There is room for a part of a text, a prefix of it. The part of two texts in a row is the part of
the first and then what is left of the room for the second (`Room.part_append`), so it does not
matter how a text is cut into writes: `Sink.Delivers s text t` says that the part of `text` that `s`
has room for has arrived at `t`, and deliveries of neighbouring texts compose (`Delivers.append`).
`Sink.Writes s text attempt` adds that the attempt succeeds when that part is all of the text.
-/

namespace TwinFiles

namespace Room

/-! ## The part of a text that there is room for -/

theorem throughLine_nil (n : Nat) : throughLine n [] = [] := by
  cases n <;> rfl

theorem throughLine_isPrefix (n : Nat) (text : Bytes) : throughLine n text <+: text := by
  induction text generalizing n with
  | nil => simp [throughLine_nil]
  | cons b rest ih =>
    cases n with
    | zero => exact List.nil_prefix
    | succ n =>
      rw [throughLine]
      split
      · exact (List.prefix_cons_inj b).mpr (ih n)
      · exact (List.prefix_cons_inj b).mpr (ih (n + 1))

/-- A bound on newlines goes on behind a text with the newlines that are left. -/
theorem throughLine_append (n : Nat) (a b : Bytes) :
    throughLine n (a ++ b) =
      throughLine n a ++ throughLine (n - (throughLine n a).count Ascii.newline) b := by
  induction a generalizing n with
  | nil => simp [throughLine_nil]
  | cons c rest ih =>
    cases n with
    | zero => simp [throughLine]
    | succ n =>
      rw [List.cons_append, throughLine, throughLine]
      by_cases hc : c = Ascii.newline
      · rw [if_pos hc, if_pos hc, ih n, hc, List.count_cons_self, Nat.add_sub_add_right]
        rfl
      · rw [if_neg hc, if_neg hc, ih (n + 1), List.count_cons_of_ne hc]
        rfl

theorem bytesPart_isPrefix (bound : Option Nat) (text : Bytes) : bytesPart bound text <+: text := by
  cases bound with
  | none => exact List.prefix_rfl
  | some n => exact List.take_prefix n text

theorem linesPart_isPrefix (bound : Option Nat) (text : Bytes) : linesPart bound text <+: text := by
  cases bound with
  | none => exact List.prefix_rfl
  | some n => exact throughLine_isPrefix n text

theorem part_isPrefix (room : Room) (text : Bytes) : room.part text <+: text :=
  (bytesPart_isPrefix room.bytes _).trans (linesPart_isPrefix room.lines text)

theorem bytesPart_append (bound : Option Nat) (a b : Bytes) :
    bytesPart bound (a ++ b) =
      bytesPart bound a ++ bytesPart (bound.map (· - (bytesPart bound a).length)) b := by
  cases bound with
  | none => rfl
  | some n =>
    show (a ++ b).take n = a.take n ++ b.take (n - (a.take n).length)
    rw [List.take_append, List.length_take]
    congr 2
    omega

theorem linesPart_append (bound : Option Nat) (a b : Bytes) :
    linesPart bound (a ++ b) = linesPart bound a ++
      linesPart (bound.map (· - (linesPart bound a).count Ascii.newline)) b := by
  cases bound with
  | none => rfl
  | some n => exact throughLine_append n a b

/-- A text that the bound on bytes cuts leaves no bytes. -/
theorem bytesPart_after_cut {bound : Option Nat} {a : Bytes} (hcut : bytesPart bound a ≠ a)
    (b : Bytes) : bytesPart (bound.map (· - (bytesPart bound a).length)) b = [] := by
  cases bound with
  | none => exact absurd rfl hcut
  | some n =>
    have hlt : n < a.length := Nat.lt_of_not_le fun hle => hcut (List.take_of_length_le hle)
    show b.take (n - (a.take n).length) = []
    rw [List.length_take, Nat.min_eq_left (Nat.le_of_lt hlt), Nat.sub_self, List.take_zero]

/-- What there is room for of two texts in a row: the part of the first, then that of the second in
the room that is left. -/
theorem part_append (room : Room) (a b : Bytes) :
    room.part (a ++ b) = room.part a ++ (room.after (room.part a)).part b := by
  show bytesPart room.bytes (linesPart room.lines (a ++ b)) = _
  rw [linesPart_append, bytesPart_append]
  by_cases hcut : bytesPart room.bytes (linesPart room.lines a) = linesPart room.lines a
  · -- the bound on bytes leaves the first part whole, so both bounds count the same text
    rw [part, after, part, hcut]
  · rw [bytesPart_after_cut hcut]
    show _ = _ ++ bytesPart (room.bytes.map (· - (bytesPart room.bytes _).length)) _
    rw [bytesPart_after_cut hcut]
    rfl

theorem after_append (room : Room) (a b : Bytes) :
    room.after (a ++ b) = (room.after a).after b := by
  cases room with
  | mk bytes lines =>
    cases bytes <;> cases lines <;> simp [after, Nat.sub_sub]

/-! ## Texts that fit -/

/-- There is room for all of a text. -/
def Fits (room : Room) (text : Bytes) : Prop :=
  room.part text = text

instance (room : Room) (text : Bytes) : Decidable (room.Fits text) :=
  inferInstanceAs (Decidable (room.part text = text))

theorem fits_iff_length (room : Room) (text : Bytes) :
    room.Fits text ↔ (room.part text).length = text.length := by
  constructor
  · intro h
    rw [h]
  · intro h
    exact (room.part_isPrefix text).eq_of_length h

theorem fits_nil (room : Room) : room.Fits [] :=
  List.prefix_nil.mp (room.part_isPrefix [])

theorem fits_unlimited (text : Bytes) : unlimited.Fits text :=
  rfl

/-- Two texts in a row fit when the first does and the second fits behind it. -/
theorem fits_append (room : Room) (a b : Bytes) :
    room.Fits (a ++ b) ↔ room.Fits a ∧ (room.after a).Fits b := by
  constructor
  · intro h
    have hparts : room.part a ++ (room.after (room.part a)).part b = a ++ b := by
      rw [← part_append]
      exact h
    have ha := (room.part_isPrefix a).length_le
    have hb := ((room.after (room.part a)).part_isPrefix b).length_le
    have hlen := congrArg List.length hparts
    rw [List.length_append, List.length_append] at hlen
    have hfits : room.Fits a := (fits_iff_length room a).mpr (by omega)
    refine ⟨hfits, ?_⟩
    have hfits' : room.part a = a := hfits
    rw [hfits'] at hlen hb
    exact (fits_iff_length _ b).mpr (by omega)
  · rintro ⟨ha, hb⟩
    have ha' : room.part a = a := ha
    have hb' : (room.after a).part b = b := hb
    show room.part (a ++ b) = a ++ b
    rw [part_append, ha', hb']

/-- A text that a bound on newlines cuts has used up the newlines. -/
theorem throughLine_after_cut {n : Nat} {a : Bytes} (hcut : throughLine n a ≠ a) :
    (throughLine n a).count Ascii.newline = n := by
  induction a generalizing n with
  | nil => exact absurd (throughLine_nil n) hcut
  | cons c rest ih =>
    cases n with
    | zero => rfl
    | succ n =>
      rw [throughLine] at hcut ⊢
      by_cases hc : c = Ascii.newline
      · rw [if_pos hc] at hcut ⊢
        rw [hc, List.count_cons_self, ih fun he => hcut (by rw [he])]
      · rw [if_neg hc] at hcut ⊢
        rw [List.count_cons_of_ne hc, ih fun he => hcut (by rw [he])]

/-- Full stays full: behind a text that did not fit there is room for nothing. -/
theorem part_after_cut {room : Room} {a : Bytes} (hcut : ¬ room.Fits a) (b : Bytes) :
    (room.after (room.part a)).part b = [] := by
  show bytesPart (room.bytes.map (· - (bytesPart room.bytes _).length)) _ = []
  by_cases hbytes : bytesPart room.bytes (linesPart room.lines a) = linesPart room.lines a
  · -- the bytes suffice, so it is the newlines that have run out
    have hlines : linesPart room.lines a ≠ a := by
      intro he
      exact hcut (hbytes.trans he)
    have hnone : linesPart (room.after (room.part a)).lines b = [] := by
      cases hl : room.lines with
      | none =>
        rw [hl] at hlines
        exact absurd rfl hlines
      | some n =>
        rw [hl] at hlines hbytes
        have hcount : (room.part a).count Ascii.newline = n := by
          rw [part, hl, hbytes]
          exact throughLine_after_cut hlines
        show linesPart (room.lines.map (· - (room.part a).count Ascii.newline)) b = []
        rw [hl, hcount]
        show throughLine (n - n) b = []
        rw [Nat.sub_self, throughLine]
    rw [hnone]
    exact List.prefix_nil.mp (bytesPart_isPrefix _ [])
  · exact bytesPart_after_cut hbytes _

end Room

namespace Sink

/-! ## Deliveries -/

/-- The part of a text that a sink has room for has arrived, and its room has been taken. -/
structure Delivers (s : Sink) (text : Bytes) (t : Sink) : Prop where
  received : t.received = s.received ++ s.room.part text
  room : t.room = s.room.after (s.room.part text)
  failsFlush : t.failsFlush = s.failsFlush

theorem Delivers.nil (s : Sink) : s.Delivers [] s := by
  have hfits : s.room.part [] = [] := s.room.fits_nil
  constructor
  · rw [hfits, List.append_nil]
  · rw [hfits]
    cases hr : s.room with
    | mk bytes lines => cases bytes <;> cases lines <;> rfl
  · rfl

theorem Delivers.append {s t u : Sink} {a b : Bytes} (h : s.Delivers a t) (h' : t.Delivers b u) :
    s.Delivers (a ++ b) u where
  received := by
    rw [h'.received, h.received, h.room, Room.part_append, List.append_assoc]
  room := by
    rw [h'.room, h.room, Room.part_append, Room.after_append]
  failsFlush := h'.failsFlush.trans h.failsFlush

/-- What comes behind a text that did not fit is not delivered. -/
theorem Delivers.append_of_cut {s t : Sink} {a : Bytes} (h : s.Delivers a t)
    (hcut : ¬ s.room.Fits a) (b : Bytes) : s.Delivers (a ++ b) t := by
  have hpart : s.room.part (a ++ b) = s.room.part a := by
    rw [Room.part_append, Room.part_after_cut hcut, List.append_nil]
  exact ⟨by rw [hpart, h.received], by rw [hpart, h.room], h.failsFlush⟩

/-- The room behind a text that fits. -/
theorem Delivers.room_of_fits {s t : Sink} {a : Bytes} (h : s.Delivers a t)
    (hfits : s.room.Fits a) : t.room = s.room.after a := by
  have hpart : s.room.part a = a := hfits
  rw [h.room, hpart]

/-- Two texts in a row fit when the first does and its sink has room for the second. -/
theorem Delivers.fits_append_iff {s t : Sink} {a : Bytes} (h : s.Delivers a t) (b : Bytes) :
    s.room.Fits (a ++ b) ↔ s.room.Fits a ∧ t.room.Fits b := by
  rw [Room.fits_append]
  constructor
  · rintro ⟨ha, hb⟩
    rw [h.room_of_fits ha]
    exact ⟨ha, hb⟩
  · rintro ⟨ha, hb⟩
    rw [h.room_of_fits ha] at hb
    exact ⟨ha, hb⟩

/-- A sink that was full before a text has no room for it, unless there is nothing to write. -/
theorem Delivers.not_fits_of_cut {s t : Sink} {a b : Bytes} (h : s.Delivers a t)
    (hcut : ¬ s.room.Fits a) (hb : b ≠ []) : ¬ t.room.Fits b := by
  intro hfits
  have hpart : t.room.part b = b := hfits
  rw [h.room, Room.part_after_cut hcut] at hpart
  exact hb hpart.symm

theorem write_delivers (s : Sink) (text : Bytes) : s.Delivers text (s.write text).1 := by
  refine ⟨?_, rfl, rfl⟩
  show (s.room.part text :: s.pieces).reverse.flatten = s.pieces.reverse.flatten ++ _
  simp

/-! ## Attempts to write -/

/-- An attempt to write a text delivers the part that fits, and succeeds if all of it does. -/
structure Writes {ε : Type} (s : Sink) (text : Bytes) (attempt : Sink × Except ε Unit) : Prop where
  delivers : s.Delivers text attempt.1
  ok_iff : attempt.2 = .ok () ↔ s.room.Fits text

section Attempts

variable {ε ε' : Type} {s t : Sink} {a b : Bytes}

theorem Writes.fits (h : s.Writes a (t, (.ok () : Except ε Unit))) : s.room.Fits a :=
  h.ok_iff.mp rfl

theorem Writes.not_fits {e : ε} (h : s.Writes a (t, .error e)) : ¬ s.room.Fits a := by
  intro hfits
  cases h.ok_iff.mpr hfits

/-- After a success the next text is written behind. -/
theorem Writes.and_then {attempt : Sink × Except ε' Unit}
    (h : s.Writes a (t, (.ok () : Except ε Unit))) (h' : t.Writes b attempt) :
    s.Writes (a ++ b) attempt := by
  refine ⟨h.delivers.append h'.delivers, ?_⟩
  rw [h'.ok_iff, h.delivers.fits_append_iff]
  exact (and_iff_right h.fits).symm

/-- After a failure nothing more is written. -/
theorem Writes.give_up {e : ε} (h : s.Writes a (t, .error e)) (e' : ε') (b : Bytes) :
    s.Writes (a ++ b) (t, .error e') := by
  refine ⟨h.delivers.append_of_cut h.not_fits b, ?_⟩
  rw [h.delivers.fits_append_iff]
  exact iff_of_false (fun he => nomatch he) fun hboth => h.not_fits hboth.1

/-- A success, and a failure by another name. -/
theorem Writes.rename {result : Except ε Unit} (h : s.Writes a (t, result)) (name : ε → ε') :
    s.Writes a (t, result.mapError name) := by
  cases result with
  | ok u => exact ⟨h.delivers, iff_of_true rfl h.fits⟩
  | error e => exact ⟨h.delivers, iff_of_false (fun he => nomatch he) h.not_fits⟩

end Attempts

theorem write_writes (s : Sink) (text : Bytes) : s.Writes text (s.write text) := by
  refine ⟨s.write_delivers text, ?_⟩
  rw [Room.fits_iff_length]
  show (if (s.room.part text).length = text.length then _ else _) = _ ↔ _
  by_cases hlength : (s.room.part text).length = text.length
  · rw [if_pos hlength]
    exact iff_of_true rfl hlength
  · rw [if_neg hlength]
    exact iff_of_false (fun he => nomatch he) hlength

/-- Texts that are written one after another arrive like one text: it does not matter how a text is
cut into writes. -/
theorem writeAll_writes (s : Sink) (texts : List Bytes) :
    s.Writes texts.flatten (s.writeAll texts) := by
  induction texts generalizing s with
  | nil => exact ⟨.nil s, iff_of_true rfl s.room.fits_nil⟩
  | cons text texts ih =>
    have hfirst := s.write_writes text
    rw [writeAll, List.flatten_cons]
    cases hw : s.write text with
    | mk t result =>
      rw [hw] at hfirst
      cases result with
      | ok _ => exact hfirst.and_then (ih t)
      | error e => exact hfirst.give_up e _

/-- A flush that succeeds changes nothing. -/
theorem Delivers.flush_ok {s t : Sink} {a : Bytes} (h : s.Delivers a t)
    (hflush : s.failsFlush = false) : t.flush = .ok () := by
  rw [flush, h.failsFlush, hflush]
  rfl

end Sink

end TwinFiles
