import Mathlib.Algebra.BigOperators.Group.Finset.Piecewise
import Mathlib.Algebra.GroupWithZero.Nat
import Mathlib.Data.Finset.Dedup
import Mathlib.Data.List.Dedup

/-!
# Order of first appearance

Groups come in the order in which their keys first appear, which is the order of `List.eraseDups`.
The facts here are what grouping by a key needs: every key appears once, one more element changes
the order at its end only, keys come in the order of the first elements that have them, and a list
can be taken apart by the key (`flatMap_fibres_perm`), and so can a sum over it (`sum_fibres`).
-/

namespace TwinFiles.Appearance

variable {α β : Type}

section Order

variable [BEq α] [LawfulBEq α]

/-- Every element appears once. -/
theorem nodup (l : List α) : l.eraseDups.Nodup := by
  induction hn : l.length using Nat.strong_induction_on generalizing l with
  | _ n ih =>
    cases l with
    | nil => simp
    | cons a as =>
      have hlt : (as.filter fun b => !b == a).length < n := by
        rw [← hn, List.length_cons]
        exact Nat.lt_succ_of_le (List.length_filter_le _ _)
      rw [List.eraseDups_cons, List.nodup_cons]
      exact ⟨by simp, ih _ hlt _ rfl⟩

/-- One more element comes at the end, unless it has appeared before. -/
theorem append_singleton (l : List α) (a : α) :
    (l ++ [a]).eraseDups = if a ∈ l then l.eraseDups else l.eraseDups ++ [a] := by
  rw [List.eraseDups_append]
  split
  · next h => simp [List.removeAll, h]
  · next h => simp [List.removeAll, h, List.eraseDups_cons]

/-- A map that keeps the elements apart keeps their order of appearance. -/
theorem map_of_injOn [BEq β] [LawfulBEq β] (f : α → β) (l : List α)
    (hf : ∀ a ∈ l, ∀ b ∈ l, f a = f b → a = b) :
    (l.map f).eraseDups = l.eraseDups.map f := by
  induction l using List.reverseRecOn with
  | nil => rfl
  | append_singleton l a ih =>
    have hl := ih fun x hx y hy => hf x (List.mem_append_left _ hx) y (List.mem_append_left _ hy)
    have hmem : f a ∈ l.map f ↔ a ∈ l := by
      constructor
      · intro h
        obtain ⟨x, hx, he⟩ := List.mem_map.mp h
        have hxa := hf x (List.mem_append_left _ hx) a (by simp) he
        exact hxa ▸ hx
      · exact List.mem_map_of_mem
    rw [List.map_append, List.map_singleton, append_singleton, append_singleton, hl]
    by_cases h : a ∈ l
    · rw [if_pos (hmem.mpr h), if_pos h]
    · rw [if_neg (mt hmem.mp h), if_neg h, List.map_append, List.map_singleton]

end Order

/-! ## Counting by keys -/

variable [DecidableEq α]

/-- Keys appear in the order of the first elements that have them. -/
theorem exists_firsts (key : β → α) (l : List β) :
    ∃ firsts : List β, firsts.Sublist l ∧ (l.map key).eraseDups = firsts.map key ∧
      ∀ b ∈ firsts, (l.filter fun c => key c = key b).head? = some b := by
  induction l using List.reverseRecOn with
  | nil => exact ⟨[], .slnil, rfl, List.forall_mem_nil _⟩
  | append_singleton l a ih =>
    obtain ⟨firsts, hsublist, hkeys, hfirst⟩ := ih
    -- one more element does not come first where there is one already
    have hstays : ∀ b ∈ firsts, ((l ++ [a]).filter fun c => key c = key b).head? = some b := by
      intro b hb
      rw [List.filter_append, List.head?_append, hfirst b hb]
      rfl
    rw [List.map_append, List.map_singleton, append_singleton]
    by_cases hseen : key a ∈ l.map key
    · rw [if_pos hseen]
      exact ⟨firsts, hsublist.trans (List.sublist_append_left l [a]), hkeys, hstays⟩
    · rw [if_neg hseen, hkeys]
      refine ⟨firsts ++ [a], hsublist.append (.refl _), by simp, ?_⟩
      rw [List.forall_mem_append, List.forall_mem_singleton]
      have hnone : (l.filter fun c => key c = key a) = [] := by
        rw [List.filter_eq_nil_iff]
        intro c hc hkey
        exact hseen (List.mem_map.mpr ⟨c, hc, of_decide_eq_true hkey⟩)
      exact ⟨hstays, by simp [hnone]⟩

theorem toFinset_eraseDups (l : List α) : l.eraseDups.toFinset = l.toFinset := by
  ext a
  simp

/-- A sum over a list, taken apart by a key of its elements. -/
theorem sum_fibres (key : β → α) (weight : β → Nat) (keys : Finset α) (l : List β)
    (hl : ∀ b ∈ l, key b ∈ keys) :
    ∑ k ∈ keys, ((l.filter fun b => key b = k).map weight).sum = (l.map weight).sum := by
  induction l with
  | nil => simp
  | cons b l ih =>
    have hb : key b ∈ keys := hl b List.mem_cons_self
    have hsplit : ∀ k, (((b :: l).filter fun b => key b = k).map weight).sum
        = (if key b = k then weight b else 0)
          + ((l.filter fun b => key b = k).map weight).sum := by
      intro k
      by_cases h : key b = k <;> simp [h]
    simp only [hsplit, Finset.sum_add_distrib, List.map_cons, List.sum_cons]
    rw [ih fun c hc => hl c (List.mem_cons_of_mem _ hc), Finset.sum_ite_eq, if_pos hb]

/-- Elements sorted into their fibres are the same elements. -/
theorem flatMap_fibres_perm [DecidableEq β] (key : β → α) {keys : List α}
    (hkeys : keys.Nodup) {l : List β} (hl : ∀ b ∈ l, key b ∈ keys) :
    (keys.flatMap fun k => l.filter fun b => key b = k).Perm l := by
  rw [List.perm_iff_count]
  intro b
  rw [List.count_flatMap]
  -- an element is counted in the fibre of its own key only
  have hother : ∀ k, k ≠ key b → k ∈ keys →
      (List.count b ∘ fun k => l.filter fun c => key c = k) k = 0 := by
    intro k hk _
    rw [Function.comp_apply, List.count_eq_zero]
    intro hmem
    exact hk (of_decide_eq_true (List.mem_filter.mp hmem).2).symm
  rw [List.sum_map_eq_nsmul_single (key b) _ hother, Function.comp_apply,
    List.count_filter (by simp)]
  by_cases hb : b ∈ l
  · rw [List.count_eq_one_of_mem hkeys (hl b hb), one_nsmul]
  · rw [List.count_eq_zero.mpr hb, nsmul_zero]

end TwinFiles.Appearance
