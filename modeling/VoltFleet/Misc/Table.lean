import Mathlib.Data.List.AList

/-!
# Tables with a primary key and one unique column

A table is a finite map from keys `K` to rows `R`, kept as Mathlib's `AList`,
in which no two rows agree on the column `u`.  The invariant is a field, so a
write either keeps it or is refused, as a database with a unique index does.
-/

namespace Keyed

/-- A table whose rows are found by key and are unique in the column `u`. -/
structure Table (K R : Type) {U : Type} [DecidableEq K] (u : R → U) where
  rows : AList fun _ : K => R
  unique : ∀ ⦃k k' : K⦄ ⦃r r' : R⦄, rows.lookup k = some r → rows.lookup k' = some r' →
    u r = u r' → k = k'

namespace Table

variable {K R U : Type} [DecidableEq K] {u : R → U}

instance : EmptyCollection (Table K R u) :=
  ⟨⟨∅, fun _ _ _ _ h => by simp at h⟩⟩

/-- The table with one row. -/
def single (k : K) (r : R) : Table K R u where
  rows := AList.singleton k r
  unique := by
    intro k₁ k₂ r₁ r₂ h₁ h₂ _
    have hkey : ∀ {k' r'}, (AList.singleton k r : AList fun _ : K => R).lookup k' = some r' →
        k' = k := by
      intro k' r' h
      have hmem : k' ∈ (AList.singleton k r : AList fun _ : K => R) := by
        rw [← AList.lookup_isSome, h]
        rfl
      simpa [AList.mem_keys] using hmem
    rw [hkey h₁, hkey h₂]

/-- The row with key `k`. -/
def find? (t : Table K R u) (k : K) : Option R := t.rows.lookup k

/-- All keys with their rows. -/
def toList (t : Table K R u) : List (K × R) := t.rows.entries.map fun e => (e.1, e.2)

@[simp] theorem toList_single (k : K) (r : R) : (single k r : Table K R u).toList = [(k, r)] := rfl

theorem mem_toList {t : Table K R u} {k : K} {r : R} :
    (k, r) ∈ t.toList ↔ t.find? k = some r := by
  rw [find?, ← Option.mem_def, AList.mem_lookup_iff, toList, List.mem_map]
  constructor
  · rintro ⟨⟨k', r'⟩, he, h⟩
    cases h
    exact he
  · intro h
    exact ⟨⟨k, r⟩, h, rfl⟩

theorem find?_inj {t : Table K R u} {k k' : K} {r r' : R} (h : t.find? k = some r)
    (h' : t.find? k' = some r') (hu : u r = u r') : k = k' :=
  t.unique h h' hu

/-- Remove the row with key `k`. -/
def erase (t : Table K R u) (k : K) : Table K R u where
  rows := t.rows.erase k
  unique := by
    intro k₁ k₂ r₁ r₂ h₁ h₂ hu
    have back : ∀ {k' r'}, (t.rows.erase k).lookup k' = some r' → t.rows.lookup k' = some r' := by
      intro k' r' h
      by_cases e : k' = k
      · subst e
        simp at h
      · rwa [AList.lookup_erase_ne e] at h
    exact t.unique (back h₁) (back h₂) hu

/-- Rewrite every row, the unique column aside. -/
def map (t : Table K R u) (f : K → R → R) (hf : ∀ k r, u (f k r) = u r) : Table K R u where
  rows := ⟨t.rows.entries.map (.map id f), t.rows.nodupKeys.map₂ f⟩
  unique := by
    intro k₁ k₂ r₁ r₂ h₁ h₂ hu
    simp only [AList.lookup, List.dlookup_map₂, Option.map_eq_some_iff] at h₁ h₂
    obtain ⟨s₁, h₁, rfl⟩ := h₁
    obtain ⟨s₂, h₂, rfl⟩ := h₂
    exact t.unique h₁ h₂ (by rwa [hf, hf] at hu)

@[simp] theorem find?_empty (k : K) : (∅ : Table K R u).find? k = none := rfl

@[simp] theorem find?_erase (t : Table K R u) (k k' : K) :
    (t.erase k).find? k' = if k' = k then none else t.find? k' := by
  by_cases e : k' = k
  · subst e
    simp [find?, erase]
  · simp [find?, erase, e]

@[simp] theorem find?_map (t : Table K R u) (f : K → R → R) (hf : ∀ k r, u (f k r) = u r)
    (k : K) : (t.map f hf).find? k = (t.find? k).map (f k) :=
  List.dlookup_map₂ k

theorem toList_nodup (t : Table K R u) : t.toList.Nodup := by
  refine List.Nodup.map ?_ (t.rows.nodupKeys.nodup)
  rintro ⟨k, r⟩ ⟨k', r'⟩ h
  cases h
  rfl

/-- A row and the other rows. -/
theorem toList_perm_erase {t : Table K R u} {k : K} {r : R} (h : t.find? k = some r) :
    t.toList.Perm ((k, r) :: (t.erase k).toList) := by
  have hfree : (k, r) ∉ (t.erase k).toList := by
    rw [mem_toList, find?_erase, if_pos rfl]
    intro hnone
    cases hnone
  refine (List.perm_ext_iff_of_nodup t.toList_nodup
    (List.nodup_cons.mpr ⟨hfree, toList_nodup _⟩)).mpr ?_
  rintro ⟨k', r'⟩
  rw [List.mem_cons, mem_toList, mem_toList, find?_erase]
  by_cases hk : k' = k
  · subst hk
    simp [h, eq_comm]
  · simp [hk]

/-- A row other than that of `k` has `x` in the unique column. -/
def Taken (t : Table K R u) (k : K) (x : U) : Prop := ∃ e ∈ t.toList, e.1 ≠ k ∧ u e.2 = x

theorem taken_iff {t : Table K R u} {k : K} {x : U} :
    t.Taken k x ↔ ∃ k' r, t.find? k' = some r ∧ k' ≠ k ∧ u r = x := by
  constructor
  · rintro ⟨⟨k', r⟩, he, hne, hx⟩
    exact ⟨k', r, mem_toList.mp he, hne, hx⟩
  · rintro ⟨k', r, he, hne, hx⟩
    exact ⟨(k', r), mem_toList.mpr he, hne, hx⟩

variable [DecidableEq U]

/-- The key and the row whose unique column is `x`. -/
def findBy? (t : Table K R u) (x : U) : Option (K × R) :=
  t.toList.find? fun e => u e.2 = x

instance (t : Table K R u) (k : K) (x : U) : Decidable (t.Taken k x) :=
  inferInstanceAs (Decidable (∃ e ∈ t.toList, e.1 ≠ k ∧ u e.2 = x))

theorem findBy?_eq_some {t : Table K R u} {x : U} {k : K} {r : R} :
    t.findBy? x = some (k, r) ↔ t.find? k = some r ∧ u r = x := by
  constructor
  · intro h
    have hx := List.find?_some h
    exact ⟨mem_toList.mp (List.mem_of_find?_eq_some h), by simpa using hx⟩
  · rintro ⟨hk, hx⟩
    cases h : t.findBy? x with
    | none =>
      have := List.find?_eq_none.mp h (k, r) (mem_toList.mpr hk)
      simp [hx] at this
    | some e =>
      obtain ⟨k', r'⟩ := e
      have hk' := mem_toList.mp (List.mem_of_find?_eq_some h)
      have hx' : u r' = x := by simpa using List.find?_some h
      obtain rfl := find?_inj hk hk' (hx.trans hx'.symm)
      rw [hk] at hk'
      rw [Option.some.inj hk']

theorem findBy?_eq_none {t : Table K R u} {x : U} :
    t.findBy? x = none ↔ ∀ k r, t.find? k = some r → u r ≠ x := by
  rw [findBy?, List.find?_eq_none]
  constructor
  · intro h k r hk
    simpa using h (k, r) (mem_toList.mpr hk)
  · rintro h ⟨k, r⟩ he
    simpa using h k r (mem_toList.mp he)

/-- Where `k` has no row, a value is taken when any row has it. -/
theorem taken_iff_of_new {t : Table K R u} {k : K} (h : t.find? k = none) {x : U} :
    t.Taken k x ↔ t.findBy? x ≠ none := by
  rw [taken_iff, ne_eq, findBy?_eq_none]
  constructor
  · rintro ⟨k', r, hr, -, hx⟩ hfree
    exact hfree k' r hr hx
  · intro hx
    push Not at hx
    obtain ⟨k', r, hr, hx⟩ := hx
    refine ⟨k', r, hr, ?_, hx⟩
    rintro rfl
    rw [h] at hr
    cases hr

/-! ## Writes -/

/-- Store `r` under `k`; refused when another row has the same unique column. -/
def put (t : Table K R u) (k : K) (r : R) : Option (Table K R u) :=
  if h : t.Taken k (u r) then none
  else some
    { rows := t.rows.insert k r
      unique := by
        have free : ∀ k' r', k' ≠ k → t.rows.lookup k' = some r' → u r' ≠ u r :=
          fun k' r' hne hr' hu => h (taken_iff.mpr ⟨k', r', hr', hne, hu⟩)
        intro k₁ k₂ r₁ r₂ h₁ h₂ hu
        by_cases e₁ : k₁ = k <;> by_cases e₂ : k₂ = k
        · rw [e₁, e₂]
        · subst e₁
          rw [AList.lookup_insert, Option.some.injEq] at h₁
          rw [AList.lookup_insert_ne e₂] at h₂
          exact absurd (by rw [h₁, hu]) (free k₂ r₂ e₂ h₂)
        · subst e₂
          rw [AList.lookup_insert, Option.some.injEq] at h₂
          rw [AList.lookup_insert_ne e₁] at h₁
          exact absurd (by rw [h₂, hu]) (free k₁ r₁ e₁ h₁)
        · rw [AList.lookup_insert_ne e₁] at h₁
          rw [AList.lookup_insert_ne e₂] at h₂
          exact t.unique h₁ h₂ hu }

theorem put_eq_none {t : Table K R u} {k : K} {r : R} : t.put k r = none ↔ t.Taken k (u r) := by
  unfold put
  split <;> simp_all

theorem find?_put {t t' : Table K R u} {k : K} {r : R} (h : t.put k r = some t') (k' : K) :
    t'.find? k' = if k' = k then some r else t.find? k' := by
  unfold put at h
  split at h
  · cases h
  · cases h
    by_cases e : k' = k
    · subst e
      simp [find?]
    · simp [find?, e]

theorem find?_put_self {t t' : Table K R u} {k : K} {r : R} (h : t.put k r = some t') :
    t'.find? k = some r := by
  rw [find?_put h, if_pos rfl]

theorem find?_put_ne {t t' : Table K R u} {k k' : K} {r : R} (h : t.put k r = some t')
    (hne : k' ≠ k) : t'.find? k' = t.find? k' := by
  rw [find?_put h, if_neg hne]

/-- Writing back a row with its unique column unchanged is never refused. -/
theorem put_isSome {t : Table K R u} {k : K} {r r' : R} (h : t.find? k = some r)
    (hu : u r' = u r) : ∃ t', t.put k r' = some t' := by
  rw [← Option.ne_none_iff_exists', ne_eq, put_eq_none, taken_iff]
  rintro ⟨k', s, hs, hne, he⟩
  exact hne (find?_inj hs h (he.trans hu))

/-- A row that has been written and the other rows. -/
theorem toList_put_perm {t t' : Table K R u} {k : K} {r : R} (h : t.put k r = some t') :
    t'.toList.Perm ((k, r) :: (t.erase k).toList) := by
  refine (toList_perm_erase (find?_put_self h)).trans (.cons _ ?_)
  refine (List.perm_ext_iff_of_nodup (toList_nodup _) (toList_nodup _)).mpr ?_
  rintro ⟨k', r'⟩
  rw [mem_toList, mem_toList, find?_erase, find?_erase]
  by_cases hk : k' = k
  · rw [if_pos hk, if_pos hk]
  · rw [if_neg hk, if_neg hk, find?_put_ne h hk]

end Table

/-! ## Rows with a key of their own -/

/-- Rows no two of which have the same key. -/
structure Records (K R : Type) (key : R → K) where
  rows : List R
  nodup : (rows.map key).Nodup

namespace Records

variable {K R : Type} {key : R → K}

instance : EmptyCollection (Records K R key) := ⟨⟨[], List.nodup_nil⟩⟩

theorem rows_nodup (t : Records K R key) : t.rows.Nodup := .of_map key t.nodup

/-- Add a row; refused when its key is taken. -/
def insert? [DecidableEq K] (t : Records K R key) (r : R) : Option (Records K R key) :=
  if h : key r ∈ t.rows.map key then none
  else some ⟨r :: t.rows, List.nodup_cons.mpr ⟨h, t.nodup⟩⟩

theorem insert?_eq_some [DecidableEq K] {t t' : Records K R key} {r : R}
    (h : t.insert? r = some t') : t'.rows = r :: t.rows := by
  unfold insert? at h
  split at h
  · cases h
  · cases h
    rfl

end Records

end Keyed
