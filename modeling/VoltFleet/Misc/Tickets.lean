import Mathlib.Data.List.Basic
import Mathlib.Algebra.Order.Ring.Int

/-!
# Numbers handed out in turn

A counter hands out each number once: after `n₀` come `n₀ + 1`, `n₀ + 2` and so on, in the
order in which they are asked for.
-/

namespace Tickets

/-- After `n₀` the numbers `l` have been handed out, the last of which is `n`. -/
structure Counted (n₀ : Int) (l : List Int) (n : Int) : Prop where
  last : n = n₀ + l.length
  nth : ∀ k (h : k < l.length), l[k] = n₀ + k + 1

variable {n₀ n x : Int} {l : List Int}

theorem Counted.snoc (h : Counted n₀ l n) : Counted n₀ (l ++ [n + 1]) (n + 1) := by
  have hlast := h.last
  constructor
  · rw [List.length_append, List.length_singleton]
    omega
  · intro k hk
    rw [List.length_append, List.length_singleton] at hk
    by_cases hlt : k < l.length
    · rw [List.getElem_append_left hlt]
      exact h.nth k hlt
    · have hk : k = l.length := by omega
      subst hk
      rw [List.getElem_concat_length rfl]
      omega

/-- No number is handed out twice. -/
theorem Counted.nodup (h : Counted n₀ l n) : l.Nodup := by
  apply List.pairwise_iff_getElem.mpr
  intro i j hi hj hij
  rw [h.nth i hi, h.nth j hj]
  omega

/-- The numbers handed out are those after `n₀` up to the last one. -/
theorem Counted.mem_iff (h : Counted n₀ l n) : x ∈ l ↔ n₀ < x ∧ x ≤ n := by
  have hlast := h.last
  rw [List.mem_iff_getElem]
  constructor
  · intro ⟨k, hk, hx⟩
    have hnth := h.nth k hk
    omega
  · intro ⟨hlow, hhigh⟩
    have hk : (x - n₀ - 1).toNat < l.length := by omega
    refine ⟨(x - n₀ - 1).toNat, hk, ?_⟩
    rw [h.nth _ hk]
    omega

end Tickets
