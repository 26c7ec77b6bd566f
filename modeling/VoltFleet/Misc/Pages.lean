import Mathlib.Data.List.Basic
import Mathlib.Data.Nat.Basic

/-!
# Pages of a list

A list is cut into pages of one size, the last of which may be shorter.  Pages are
counted from zero.
-/

namespace Pages

variable {α β : Type}

/-- Page `i` of a list, with `k` items on a page. -/
def page (k i : Nat) (l : List α) : List α := (l.drop (i * k)).take k

/-- The number of pages that `n` items fill. -/
def count (k n : Nat) : Nat := (n + k - 1) / k

section

variable {k i m n : Nat} {l : List α}

theorem length_page : (page k i l).length = min k (l.length - i * k) := by
  rw [page, List.length_take, List.length_drop]

theorem getElem?_page {j : Nat} (hj : j < k) : (page k i l)[j]? = l[i * k + j]? := by
  rw [page, List.getElem?_take_of_lt hj, List.getElem?_drop]

/-- What is on page `i` stands at an index that is `i` when divided by the size. -/
theorem mem_page {a : α} (hk : 0 < k) : a ∈ page k i l ↔ ∃ j, j / k = i ∧ l[j]? = some a := by
  constructor
  · intro ha
    obtain ⟨j, hj⟩ := List.mem_iff_getElem?.mp ha
    have hlt : j < k := by
      have hlength : j < (page k i l).length := (List.getElem?_eq_some_iff.mp hj).1
      rw [length_page] at hlength
      omega
    rw [getElem?_page hlt] at hj
    refine ⟨i * k + j, ?_, hj⟩
    rw [Nat.mul_comm, Nat.mul_add_div hk, Nat.div_eq_of_lt hlt, Nat.add_zero]
  · rintro ⟨j, rfl, hj⟩
    have hlt : j % k < k := Nat.mod_lt j hk
    refine List.mem_iff_getElem?.mpr ⟨j % k, ?_⟩
    rw [getElem?_page hlt, Nat.div_add_mod' j k]
    exact hj

/-- The first pages are the front of the list. -/
theorem flatMap_page : (List.range m).flatMap (page k · l) = l.take (m * k) := by
  induction m with
  | zero => simp
  | succ m ih =>
    calc (List.range (m + 1)).flatMap (page k · l)
        = (List.range m).flatMap (page k · l) ++ page k m l := by
          rw [List.range_succ, List.flatMap_append, List.flatMap_singleton]
      _ = l.take (m * k) ++ (l.drop (m * k)).take k := by rw [ih, page]
      _ = l.take ((m + 1) * k) := by rw [← List.take_add, Nat.succ_mul]

/-! ## The number of pages -/

theorem lt_count_iff (hk : 0 < k) : i < count k n ↔ i * k < n := by
  rw [count, Nat.lt_iff_add_one_le, Nat.le_div_iff_mul_le hk, Nat.add_mul, Nat.one_mul]
  omega

theorem count_le_iff (hk : 0 < k) : count k n ≤ i ↔ n ≤ i * k := by
  rw [← Nat.not_lt, lt_count_iff hk, Nat.not_lt]

theorem count_eq_zero (hk : 0 < k) : count k n = 0 ↔ n = 0 := by
  rw [← Nat.le_zero, count_le_iff hk, Nat.zero_mul, Nat.le_zero]

/-- All pages together are the list. -/
theorem flatMap_pages (hk : 0 < k) : (List.range (count k l.length)).flatMap (page k · l) = l := by
  rw [flatMap_page]
  exact List.take_of_length_le ((count_le_iff hk).mp le_rfl)

theorem length_page_of_lt (h : (i + 1) * k ≤ l.length) : (page k i l).length = k := by
  rw [Nat.add_mul, Nat.one_mul] at h
  rw [length_page]
  omega

/-- Every page before the last is full. -/
theorem length_page_of_lt_last (hk : 0 < k) (h : i + 1 < count k l.length) :
    (page k i l).length = k :=
  length_page_of_lt (Nat.le_of_lt ((lt_count_iff hk).mp h))

theorem length_page_pos (hk : 0 < k) : 0 < (page k i l).length ↔ i < count k l.length := by
  rw [length_page, lt_count_iff hk]
  omega

theorem page_eq_nil (hk : 0 < k) : page k i l = [] ↔ count k l.length ≤ i := by
  rw [← List.length_eq_zero_iff, ← Nat.not_lt, ← length_page_pos hk, Nat.not_lt, Nat.le_zero]

end

/-! ## A list that grows in front -/

section

variable {k : Nat} {L : Nat → List α}

/-- A list that grows between the pages keeps what it has at the back. -/
theorem suffix_of_growing (hgrows : ∀ i, L i <:+ L (i + 1)) (i : Nat) : L 0 <:+ L i := by
  induction i with
  | zero => exact List.suffix_rfl
  | succ i ih => exact ih.trans (hgrows i)

/-- An item of the first list whose place among the items in front of page `i` is below that
page's end has been on a page. -/
theorem mem_page_of_growing_aux (hk : 0 < k) (hgrows : ∀ i, L i <:+ L (i + 1)) {j : Nat} {a : α}
    (ha : (L 0)[j]? = some a) (i : Nat)
    (hj : j + ((L i).length - (L 0).length) < (i + 1) * k) : ∃ p ≤ i, a ∈ page k p (L p) := by
  have hindex : ∀ p, (L p)[j + ((L p).length - (L 0).length)]? = some a := by
    intro p
    obtain ⟨front, hfront⟩ := suffix_of_growing hgrows p
    rw [← hfront, List.length_append, Nat.add_sub_cancel,
      List.getElem?_append_right (Nat.le_add_left _ _), Nat.add_sub_cancel]
    exact ha
  induction i with
  | zero =>
    refine ⟨0, le_rfl, (mem_page hk).mpr ⟨_, ?_, hindex 0⟩⟩
    exact Nat.div_eq_of_lt (by omega)
  | succ i ih =>
    by_cases hbefore : j + ((L i).length - (L 0).length) < (i + 1) * k
    · obtain ⟨p, hp, hmem⟩ := ih hbefore
      exact ⟨p, Nat.le_succ_of_le hp, hmem⟩
    · refine ⟨i + 1, le_rfl, (mem_page hk).mpr ⟨_, ?_, hindex (i + 1)⟩⟩
      have hlength : (L i).length ≤ (L (i + 1)).length := (hgrows i).length_le
      exact Nat.div_eq_of_lt_le (by omega) hj

/-- A reader who has read pages `0` to `i`, each of the list as it was then, and stops because
the last one ended the list, has read everything the first list had. -/
theorem mem_page_of_growing (hk : 0 < k) (hgrows : ∀ i, L i <:+ L (i + 1)) {i : Nat}
    (hstop : (L i).length ≤ (i + 1) * k) {a : α} (ha : a ∈ L 0) : ∃ p ≤ i, a ∈ page k p (L p) := by
  obtain ⟨j, hj⟩ := List.mem_iff_getElem?.mp ha
  refine mem_page_of_growing_aux hk hgrows hj i ?_
  have hlt : j < (L 0).length := (List.getElem?_eq_some_iff.mp hj).1
  have hlength : (L 0).length ≤ (L i).length := (suffix_of_growing hgrows i).length_le
  omega

end

end Pages
