import VoltFleet.Misc.Pages
import Mathlib.Data.List.Nodup
import Mathlib.Data.List.Perm.Basic

/-!
# Pages of a list that is sorted with ties

Items are sorted by a key, the greatest first, and items with the same key stand
in any order, which may be another one for every page that is read.  The pages are
a partition of the items exactly if no group of equal keys lies on two pages.
-/

namespace Pages

variable {α : Type} {key : α → Nat}

/-- Greater keys come first. -/
def Descending (key : α → Nat) (l : List α) : Prop := l.Pairwise fun a b => key b ≤ key a

/-- The number of items that come before `a` in every order. -/
def ahead (key : α → Nat) (l : List α) (a : α) : Nat := l.countP fun b => key a < key b

/-- The number of items with the key of `a`. -/
def level (key : α → Nat) (l : List α) (a : α) : Nat := l.countP fun b => key b = key a

/-- The items with the key of `a` are all on one page. -/
def OnOnePage (key : α → Nat) (k : Nat) (l : List α) (a : α) : Prop :=
  ahead key l a / k = (ahead key l a + level key l a - 1) / k

instance (k : Nat) (l : List α) (a : α) : Decidable (OnOnePage key k l a) :=
  inferInstanceAs (Decidable (_ = _))

section

variable {k i : Nat} {l t : List α} {a : α}

theorem ahead_perm (h : t.Perm l) : ahead key t a = ahead key l a := h.countP_eq _

theorem level_perm (h : t.Perm l) : level key t a = level key l a := h.countP_eq _

theorem onOnePage_perm (h : t.Perm l) : OnOnePage key k t a ↔ OnOnePage key k l a := by
  rw [OnOnePage, OnOnePage, ahead_perm h, level_perm h]

theorem descending_mergeSort (key : α → Nat) (l : List α) :
    Descending key (l.mergeSort fun a b => key b ≤ key a) := by
  have htrans : ∀ a b c : α, decide (key b ≤ key a) = true → decide (key c ≤ key b) = true →
      decide (key c ≤ key a) = true := by
    intro a b c hab hbc
    exact decide_eq_true (Nat.le_trans (of_decide_eq_true hbc) (of_decide_eq_true hab))
  have htotal : ∀ a b : α, (decide (key b ≤ key a) || decide (key a ≤ key b)) = true := by
    intro a b
    simpa using Nat.le_total (key b) (key a)
  exact (List.pairwise_mergeSort htrans htotal l).imp fun h => of_decide_eq_true h

theorem key_le_of_descending (h : Descending key t) {j : Nat} {b : α} (hij : i ≤ j)
    (ha : t[i]? = some a) (hb : t[j]? = some b) : key b ≤ key a := by
  obtain ⟨hi, rfl⟩ := List.getElem?_eq_some_iff.mp ha
  obtain ⟨hj, rfl⟩ := List.getElem?_eq_some_iff.mp hb
  rcases Nat.eq_or_lt_of_le hij with rfl | hlt
  · exact le_rfl
  · exact List.pairwise_iff_getElem.mp h i j hi hj hlt

/-- Greater or equal keys are greater ones and equal ones. -/
theorem countP_key_le : l.countP (fun b => key a ≤ key b) = ahead key l a + level key l a := by
  induction l with
  | nil => rfl
  | cons b l ih =>
    unfold ahead level at ih ⊢
    simp only [List.countP_cons, ih, decide_eq_true_eq]
    rcases Nat.lt_trichotomy (key a) (key b) with h | h | h
    · rw [if_pos (by omega), if_pos h, if_neg (by omega)]
      omega
    · rw [if_pos (by omega), if_neg (by omega), if_pos h.symm]
      omega
    · rw [if_neg (by omega), if_neg (by omega), if_neg (by omega)]
      omega

/-- In a descending list an item stands behind those with greater keys. -/
theorem ahead_le (h : Descending key t) (ha : t[i]? = some a) : ahead key t a ≤ i := by
  have hback : (t.drop i).countP (fun b => key a < key b) = 0 := by
    rw [List.countP_eq_zero]
    intro b hb hlt
    obtain ⟨j, hj⟩ := List.mem_iff_getElem?.mp hb
    rw [List.getElem?_drop] at hj
    have hle : key b ≤ key a := key_le_of_descending h (Nat.le_add_right i j) ha hj
    exact absurd (of_decide_eq_true hlt) (Nat.not_lt.mpr hle)
  calc ahead key t a
      = (t.take i ++ t.drop i).countP (fun b => key a < key b) := by
        rw [List.take_append_drop, ahead]
    _ = (t.take i).countP fun b => key a < key b := by rw [List.countP_append, hback, Nat.add_zero]
    _ ≤ (t.take i).length := List.countP_le_length
    _ ≤ i := List.length_take_le i t

/-- It stands in front of those with smaller keys. -/
theorem lt_ahead_add_level (h : Descending key t) (ha : t[i]? = some a) :
    i < ahead key t a + level key t a := by
  have hlength : (t.take (i + 1)).length = i + 1 := by
    have hi : i < t.length := (List.getElem?_eq_some_iff.mp ha).1
    rw [List.length_take]
    omega
  have hfront : (t.take (i + 1)).countP (fun b => key a ≤ key b) = (t.take (i + 1)).length := by
    rw [List.countP_eq_length]
    intro b hb
    obtain ⟨j, hj⟩ := List.mem_iff_getElem?.mp hb
    have hlt : j < i + 1 := by
      have := (List.getElem?_eq_some_iff.mp hj).1
      omega
    rw [List.getElem?_take_of_lt hlt] at hj
    exact decide_eq_true (key_le_of_descending h (Nat.le_of_lt_succ hlt) hj ha)
  rw [← countP_key_le, Nat.lt_iff_add_one_le, ← hlength, ← hfront]
  exact (List.take_sublist (i + 1) t).countP_le

/-- Where the group of an item lies on one page, every order has the item on that page. -/
theorem mem_page_of_onOnePage (hk : 0 < k) (hperm : t.Perm l) (h : Descending key t)
    (hpage : OnOnePage key k l a) : a ∈ page k i t ↔ a ∈ l ∧ i = ahead key l a / k := by
  have hplace : ∀ j, t[j]? = some a → j / k = ahead key l a / k := by
    intro j hj
    have hlower := ahead_le h hj
    have hupper := lt_ahead_add_level h hj
    rw [ahead_perm hperm] at hlower hupper
    rw [level_perm hperm] at hupper
    apply Nat.le_antisymm
    · rw [hpage]
      exact Nat.div_le_div_right (by omega)
    · exact Nat.div_le_div_right hlower
  rw [mem_page hk]
  constructor
  · rintro ⟨j, rfl, hj⟩
    exact ⟨hperm.mem_iff.mp (List.mem_of_getElem? hj), hplace j hj⟩
  · rintro ⟨ha, rfl⟩
    obtain ⟨j, hj⟩ := List.mem_iff_getElem?.mp (hperm.mem_iff.mpr ha)
    exact ⟨j, hplace j hj, hj⟩

/-- The first place of a group is on one of the pages. -/
theorem ahead_lt_count (hk : 0 < k) (ha : a ∈ l) : ahead key l a / k < count k l.length := by
  have hlt : ahead key l a < l.length := by
    refine Nat.lt_of_le_of_ne List.countP_le_length fun hall => ?_
    exact absurd (of_decide_eq_true (List.countP_eq_length.mp hall a ha)) (Nat.lt_irrefl _)
  exact (lt_count_iff hk).mpr (Nat.lt_of_le_of_lt (Nat.div_mul_le_self _ k) hlt)

/-- Then the pages, each in an order of its own, are the list. -/
theorem perm_of_onOnePage (hk : 0 < k) (hnodup : l.Nodup) {order : Nat → List α}
    (horder : ∀ i, (order i).Perm l ∧ Descending key (order i))
    (hpages : ∀ a ∈ l, OnOnePage key k l a) :
    ((List.range (count k l.length)).flatMap fun i => page k i (order i)).Perm l := by
  have hmem : ∀ i a, a ∈ page k i (order i) → a ∈ l ∧ i = ahead key l a / k := by
    intro i a ha
    have hl : a ∈ l := by
      obtain ⟨j, -, hj⟩ := (mem_page hk).mp ha
      exact (horder i).1.mem_iff.mp (List.mem_of_getElem? hj)
    exact (mem_page_of_onOnePage hk (horder i).1 (horder i).2 (hpages a hl)).mp ha
  have hdistinct : ((List.range (count k l.length)).flatMap
      fun i => page k i (order i)).Nodup := by
    rw [List.nodup_flatMap]
    constructor
    · intro i _
      have hsub : (page k i (order i)).Sublist (order i) :=
        (List.take_sublist _ _).trans (List.drop_sublist _ _)
      exact ((horder i).1.nodup_iff.mpr hnodup).sublist hsub
    · refine List.nodup_range.imp ?_
      intro i j hij a hi hj
      exact hij ((hmem i a hi).2.trans (hmem j a hj).2.symm)
  refine (List.perm_ext_iff_of_nodup hdistinct hnodup).mpr fun a => ?_
  rw [List.mem_flatMap]
  constructor
  · rintro ⟨i, -, ha⟩
    exact (hmem i a ha).1
  · intro ha
    refine ⟨ahead key l a / k, List.mem_range.mpr (ahead_lt_count hk ha), ?_⟩
    exact (mem_page_of_onOnePage hk (horder _).1 (horder _).2 (hpages a ha)).mpr ⟨ha, rfl⟩

end

/-! ## A group that lies on two pages -/

/-- The group of `a`. -/
def group (key : α → Nat) (l : List α) (a : α) : List α := l.filter fun b => key b = key a

/-- The list with the group of `a` in the order `m`. -/
def arrange (key : α → Nat) (l : List α) (a : α) (m : List α) : List α :=
  l.filter (fun b => key a < key b) ++ (m ++ l.filter fun b => key b < key a)

section

variable {k : Nat} {l m : List α} {a : α}

theorem arrange_perm (hm : m.Perm (group key l a)) : (arrange key l a m).Perm l := by
  have hrest : (group key l a ++ l.filter fun b => key b < key a).Perm
      (l.filter fun b => !decide (key a < key b)) := by
    have hsplit := List.filter_append_perm (fun b => decide (key b = key a))
      (l.filter fun b => !decide (key a < key b))
    rw [List.filter_filter, List.filter_filter] at hsplit
    have hequal : (l.filter fun b => decide (key b = key a) && !decide (key a < key b)) =
        group key l a := by
      refine List.filter_congr fun b _ => ?_
      by_cases h : key b = key a <;> simp [h]
    have hless : (l.filter fun b => !decide (key b = key a) && !decide (key a < key b)) =
        l.filter fun b => key b < key a := by
      refine List.filter_congr fun b _ => ?_
      rw [Bool.eq_iff_iff]
      simp only [Bool.and_eq_true, Bool.not_eq_true', decide_eq_false_iff_not, decide_eq_true_eq]
      omega
    rwa [hequal, hless] at hsplit
  exact (((hm.append_right _).trans hrest).append_left _).trans (List.filter_append_perm _ l)

theorem arrange_descending (hl : Descending key l) (hm : m.Perm (group key l a)) :
    Descending key (arrange key l a m) := by
  have hgroup : ∀ b ∈ m, key b = key a := by
    intro b hb
    have hmem := hm.mem_iff.mp hb
    exact of_decide_eq_true (List.mem_filter.mp hmem).2
  have hfront : ∀ b ∈ l.filter (fun b => key a < key b), key a < key b :=
    fun b hb => of_decide_eq_true (List.mem_filter.mp hb).2
  have hback : ∀ b ∈ l.filter (fun b => key b < key a), key b < key a :=
    fun b hb => of_decide_eq_true (List.mem_filter.mp hb).2
  refine List.pairwise_append.mpr ⟨hl.filter _, List.pairwise_append.mpr ⟨?_, hl.filter _, ?_⟩, ?_⟩
  · refine List.pairwise_of_forall_mem_list fun b hb c hc => ?_
    rw [hgroup b hb, hgroup c hc]
  · intro b hb c hc
    rw [hgroup b hb]
    exact Nat.le_of_lt (hback c hc)
  · intro b hb c hc
    rcases List.mem_append.mp hc with hc | hc
    · rw [hgroup c hc]
      exact Nat.le_of_lt (hfront b hb)
    · exact Nat.le_of_lt (Nat.lt_trans (hback c hc) (hfront b hb))

/-- An item of the group stands where the order of the group puts it. -/
theorem getElem?_arrange {j : Nat} (hj : m[j]? = some a) :
    (arrange key l a m)[ahead key l a + j]? = some a := by
  have hlength : (l.filter fun b => key a < key b).length = ahead key l a :=
    List.countP_eq_length_filter.symm
  rw [arrange, List.getElem?_append_right (by omega), hlength, Nat.add_sub_cancel_left,
    List.getElem?_append_left (List.getElem?_eq_some_iff.mp hj).1]
  exact hj

/-- Where the group lies on two pages, there are orders for the single pages so that none of
them has the item. -/
theorem exists_missed [DecidableEq α] (hk : 0 < k) (hnodup : l.Nodup) (hl : Descending key l)
    (ha : a ∈ l) (hpages : ¬OnOnePage key k l a) :
    ∃ order : Nat → List α, (∀ i, (order i).Perm l ∧ Descending key (order i)) ∧
      ∀ i, a ∉ page k i (order i) := by
  have hgroup : a ∈ group key l a := List.mem_filter.mpr ⟨ha, decide_eq_true rfl⟩
  have hperm : (a :: (group key l a).erase a).Perm (group key l a) :=
    (List.perm_cons_erase hgroup).symm
  have hperm' : ((group key l a).erase a ++ [a]).Perm (group key l a) :=
    (List.perm_append_singleton a _).trans hperm
  have hlevel : level key l a = ((group key l a).erase a).length + 1 := by
    rw [level, List.countP_eq_length_filter]
    exact hperm.length_eq.symm
  have hunique : ∀ {t : List α} {i j : Nat}, t.Perm l → t[i]? = some a → t[j]? = some a →
      i = j := by
    intro t i j ht hi hj
    exact (List.getElem?_inj (List.getElem?_eq_some_iff.mp hi).1
      (ht.nodup_iff.mpr hnodup)).mp (hi.trans hj.symm)
  -- the item is the first of its group, but the last one when the page of the first is read
  refine ⟨fun i => if i = ahead key l a / k then arrange key l a ((group key l a).erase a ++ [a])
    else arrange key l a (a :: (group key l a).erase a), ?_, ?_⟩
  · intro i
    dsimp only
    split
    · exact ⟨arrange_perm hperm', arrange_descending hl hperm'⟩
    · exact ⟨arrange_perm hperm, arrange_descending hl hperm⟩
  · intro i hmem
    dsimp only at hmem
    obtain ⟨j, hpage, hj⟩ := (mem_page hk).mp hmem
    split at hj
    next hfirst =>
      have hlast :
          ((group key l a).erase a ++ [a])[((group key l a).erase a).length]? = some a := by
        simp
      have hj' := hunique (arrange_perm hperm') hj (getElem?_arrange hlast)
      apply hpages
      rw [OnOnePage, hlevel, ← Nat.add_assoc, Nat.add_sub_cancel, ← hj', hpage, hfirst]
    next hother =>
      have hj' := hunique (arrange_perm hperm) hj (getElem?_arrange (j := 0) rfl)
      rw [Nat.add_zero] at hj'
      exact hother (by rw [← hpage, hj'])

end

/-! ## A list in a given order -/

variable {β : Type}

/-- The list with the items at the given places in front of each other, if these are all of
its places. -/
def reorder (places : List Nat) (l : List β) : List β :=
  if places.Perm (List.range l.length) then places.filterMap (l[·]?) else l

theorem filterMap_range (l : List β) : (List.range l.length).filterMap (l[·]?) = l := by
  induction l with
  | nil => rfl
  | cons b l ih =>
    have hfirst : (b :: l)[0]? = some b := rfl
    rw [List.length_cons, List.range_succ_eq_map, List.filterMap_cons_some hfirst,
      List.filterMap_map]
    exact congrArg (b :: ·) ih

theorem reorder_perm (places : List Nat) (l : List β) : (reorder places l).Perm l := by
  unfold reorder
  split
  next h => exact (h.filterMap _).trans (.of_eq (filterMap_range l))
  next => exact List.Perm.refl l

/-- Every order of distinct items is one of those. -/
theorem exists_reorder [DecidableEq β] {l t : List β} (hnodup : l.Nodup) (ht : t.Perm l) :
    ∃ places, reorder places l = t := by
  have hindex : ∀ b ∈ t, l[l.idxOf b]? = some b :=
    fun b hb => List.getElem?_idxOf (ht.mem_iff.mp hb)
  have hall : l.map (l.idxOf ·) = List.range l.length := by
    refine List.ext_getElem (by simp) fun i hi _ => ?_
    rw [List.getElem_map, List.getElem_range]
    exact hnodup.idxOf_getElem i _
  refine ⟨t.map (l.idxOf ·), ?_⟩
  rw [reorder, if_pos (hall ▸ ht.map _), List.filterMap_map]
  calc t.filterMap ((l[·]?) ∘ (l.idxOf ·))
      = t.filterMap some := List.filterMap_congr hindex
    _ = t := List.filterMap_some

end Pages
