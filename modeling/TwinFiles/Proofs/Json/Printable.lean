import TwinFiles.Proofs.Json.Token

/-!
# Control characters in JSON text

A string writes its control characters by their units, so a value on one line holds none
(`printable_compact`).
-/

namespace TwinFiles.Json

/-- No control character stands in a text. -/
def Printable (s : Bytes) : Prop :=
  ∀ b ∈ s, 0x20 ≤ b

instance (s : Bytes) : Decidable (Printable s) :=
  List.decidableBAll (fun b => 0x20 ≤ b) s

theorem printable_append (s t : Bytes) : Printable (s ++ t) ↔ Printable s ∧ Printable t :=
  List.forall_mem_append

theorem printable_escaped (b : UInt8) : Printable (escaped b) := by
  rcases escaped_cases b with ⟨c, hletter, _, h⟩ | ⟨_, h⟩ | ⟨_, _, hplain, h⟩
  · rw [h]
    exact List.forall_mem_cons.mpr ⟨by decide, List.forall_mem_singleton.mpr hletter⟩
  · rw [h, printable_append]
    refine ⟨by decide, fun c hc => ?_⟩
    exact UInt8.le_trans (by decide) (Hex.range_of_mem_encode hc).1
  · rw [h]
    intro c hc
    rw [List.mem_singleton.mp hc]
    exact UInt8.not_lt.mp hplain

theorem printable_quoted (s : Bytes) : Printable (quoted s) := by
  have hinside : Printable (s.flatMap escaped) := by
    intro b hb
    obtain ⟨c, _, hc⟩ := List.mem_flatMap.mp hb
    exact printable_escaped c b hc
  have hquote : Printable [Ascii.quote] := by decide
  rw [quoted, ← List.singleton_append, printable_append, printable_append]
  exact ⟨⟨hquote, hinside⟩, hquote⟩

theorem printable_text (n : Nat) : Printable (Decimal.text n) := by
  intro b hb
  have hdigit := (Decimal.isDigit_iff b).mp (Decimal.isDigit_of_mem_text hb)
  rw [UInt8.le_iff_toNat_le]
  exact Nat.le_trans (by decide) hdigit.1

theorem printable_signed (n : Int) : Printable (Decimal.signed n) := by
  cases n with
  | ofNat n => exact printable_text n
  | negSucc n => exact (printable_append [Ascii.dash] _).mpr ⟨by decide, printable_text (n + 1)⟩

theorem printable_numeral (digits exponent : Int) : Printable (numeral digits exponent) := by
  rw [numeral]
  split
  · exact printable_signed digits
  · rw [printable_append, printable_append]
    exact ⟨⟨printable_signed digits, by decide⟩, printable_signed exponent⟩

theorem printable_gap (level : Nat) : Printable (Layout.compact.gap level) :=
  List.forall_mem_nil _

mutual

/-- A value on one line holds no control characters, since none of its parts does. -/
theorem printable_render (level : Nat) : ∀ v : Json, Printable (render .compact level v)
  | .null => by
    rw [render]
    decide
  | .bool true => by
    rw [render]
    decide
  | .bool false => by
    rw [render]
    decide
  | .number digits exponent => by
    rw [render]
    exact printable_numeral digits exponent
  | .string text => by
    rw [render]
    exact printable_quoted text
  | .array [] => by
    rw [render]
    decide
  | .array (item :: items) => by
    rw [render]
    simp only [printable_append]
    exact ⟨⟨⟨⟨⟨by decide, printable_gap _⟩, printable_render (level + 1) item⟩,
      printable_renderItems (level + 1) items⟩, printable_gap _⟩, by decide⟩
  | .object [] => by
    rw [render]
    decide
  | .object ((name, value) :: fields) => by
    rw [render]
    simp only [printable_append]
    exact ⟨⟨⟨⟨⟨⟨⟨by decide, printable_gap _⟩, printable_quoted name⟩, by decide⟩,
      printable_render (level + 1) value⟩, printable_renderFields (level + 1) fields⟩,
      printable_gap _⟩, by decide⟩

theorem printable_renderItems (level : Nat) :
    ∀ items : List Json, Printable (renderItems .compact level items)
  | [] => by
    rw [renderItems]
    decide
  | item :: items => by
    rw [renderItems]
    simp only [printable_append]
    exact ⟨⟨⟨by decide, printable_gap _⟩, printable_render level item⟩,
      printable_renderItems level items⟩

theorem printable_renderFields (level : Nat) :
    ∀ fields : List (Bytes × Json), Printable (renderFields .compact level fields)
  | [] => by
    rw [renderFields]
    decide
  | (name, value) :: fields => by
    rw [renderFields]
    simp only [printable_append]
    exact ⟨⟨⟨⟨⟨by decide, printable_gap _⟩, printable_quoted name⟩, by decide⟩,
      printable_render level value⟩, printable_renderFields level fields⟩

end

theorem printable_compact (v : Json) : Printable v.compact :=
  printable_render 0 v

end TwinFiles.Json
