import Mathlib.Logic.Function.Basic

/-!
# Maps whose entries expire

A key-value store in which a key may carry the time at which it disappears.
Writing a value clears that time, as the `SET` of a key-value server does;
`expire` sets it on a key that is there.  Time is a natural number and a key is
gone from its expiry time on.
-/

namespace Expiring

/-- A stored value and the time it disappears, if it has one. -/
structure Entry (V : Type) where
  value : V
  expiresAt : Option Nat

namespace Entry

variable {V : Type}

/-- The entry is still there at time `now`. -/
def live (e : Entry V) (now : Nat) : Bool :=
  match e.expiresAt with
  | none => true
  | some t => decide (now < t)

@[simp] theorem live_never (v : V) (now : Nat) : (⟨v, none⟩ : Entry V).live now = true := rfl

@[simp] theorem live_until (v : V) (t now : Nat) :
    (⟨v, some t⟩ : Entry V).live now = decide (now < t) := rfl

/-- What is there later is there now. -/
theorem live_of_live_add {e : Entry V} {now d : Nat} (h : e.live (now + d) = true) :
    e.live now = true := by
  obtain ⟨v, t⟩ := e
  cases t with
  | none => rfl
  | some t =>
    rw [live_until, decide_eq_true_eq] at h ⊢
    omega

end Entry

/-- The entries by key. -/
structure Cache (K V : Type) where
  entry : K → Option (Entry V)

namespace Cache

variable {K V : Type}

/-- The value of `k` at time `now`. -/
def get (m : Cache K V) (now : Nat) (k : K) : Option V :=
  ((m.entry k).filter (·.live now)).map Entry.value

theorem get_eq_some {m : Cache K V} {now : Nat} {k : K} {v : V} :
    m.get now k = some v ↔ ∃ e, m.entry k = some e ∧ e.live now = true ∧ e.value = v := by
  simp only [get, Option.map_eq_some_iff, Option.filter_eq_some_iff]
  constructor
  · rintro ⟨e, ⟨he, hl⟩, hv⟩
    exact ⟨e, he, hl, hv⟩
  · rintro ⟨e, he, hl, hv⟩
    exact ⟨e, ⟨he, hl⟩, hv⟩

/-- What cannot be read now cannot be read later. -/
theorem get_add_of_none {m : Cache K V} {now d : Nat} {k : K} (h : m.get now k = none) :
    m.get (now + d) k = none := by
  rw [Option.eq_none_iff_forall_ne_some] at h ⊢
  intro v hv
  obtain ⟨e, he, hlive, hval⟩ := get_eq_some.mp hv
  exact h v (get_eq_some.mpr ⟨e, he, Entry.live_of_live_add hlive, hval⟩)

/-- What is read depends on the entry of the key only. -/
theorem get_congr {m m' : Cache K V} {k : K} (h : m'.entry k = m.entry k) (now : Nat) :
    m'.get now k = m.get now k := by
  rw [get, get, h]

theorem get_of_entry_none {m : Cache K V} {k : K} (h : m.entry k = none) (now : Nat) :
    m.get now k = none := by
  rw [get, h]
  rfl

variable [DecidableEq K]

/-- Write a value that does not expire. -/
def set (m : Cache K V) (k : K) (v : V) : Cache K V :=
  ⟨Function.update m.entry k (some ⟨v, none⟩)⟩

/-- Let `k` expire `ttl` after `now`; a key that is not there stays away. -/
def expire (m : Cache K V) (now : Nat) (k : K) (ttl : Nat) : Cache K V :=
  match (m.entry k).filter (·.live now) with
  | none => m
  | some e => ⟨Function.update m.entry k (some { e with expiresAt := some (now + ttl) })⟩

/-- What `k` holds at time `now`. -/
def held (m : Cache K V) (now : Nat) (k : K) : Option (Entry V) :=
  (m.entry k).filter (·.live now)

/-- Write a value and leave the time at which `k` disappears. -/
def replace (m : Cache K V) (now : Nat) (k : K) (v : V) : Cache K V :=
  ⟨Function.update m.entry k (some ⟨v, (m.held now k).bind Entry.expiresAt⟩)⟩

/-- Remove `k`. -/
def del (m : Cache K V) (k : K) : Cache K V := ⟨Function.update m.entry k none⟩

@[simp] theorem entry_set_self (m : Cache K V) (k : K) (v : V) :
    (m.set k v).entry k = some ⟨v, none⟩ := by simp [set]

theorem entry_set_ne (m : Cache K V) {k k' : K} (h : k' ≠ k) (v : V) :
    (m.set k v).entry k' = m.entry k' := by simp [set, h]

theorem entry_expire_ne (m : Cache K V) (now : Nat) {k k' : K} (h : k' ≠ k) (ttl : Nat) :
    (m.expire now k ttl).entry k' = m.entry k' := by
  unfold expire
  split
  · rfl
  · simp [h]

/-- A key that is not there does not come about by `expire`. -/
theorem entry_expire_of_none {m : Cache K V} {k k' : K} {now ttl : Nat}
    (h : m.entry k' = none) : (m.expire now k ttl).entry k' = none := by
  by_cases hk : k' = k
  · subst hk
    simp [expire, h]
  · rw [entry_expire_ne m now hk, h]

/-- What `expire` leaves of a key depends on the entry of the key only. -/
theorem entry_expire_congr {m m' : Cache K V} {k : K} {now ttl : Nat}
    (h : m'.entry k = m.entry k) :
    (m'.expire now k ttl).entry k = (m.expire now k ttl).entry k := by
  unfold expire
  rw [h]
  split <;> simp [h]

/-- A value just written and then given a time to live. -/
@[simp] theorem entry_expire_set (m : Cache K V) (now : Nat) (k : K) (v : V) (ttl : Nat) :
    ((m.set k v).expire now k ttl).entry k = some ⟨v, some (now + ttl)⟩ := by
  simp [expire, set, Option.filter]

/-- A key that cannot be read does not come about by `expire`. -/
theorem get_expire_of_none {m : Cache K V} {k k' : K} {now ttl : Nat}
    (h : m.get now k' = none) : (m.expire now k ttl).get now k' = none := by
  by_cases hk : k' = k
  · subst hk
    rw [get, Option.map_eq_none_iff] at h
    rw [expire, h]
    exact Option.map_eq_none_iff.mpr h
  · rw [get, entry_expire_ne m now hk]
    exact h

@[simp] theorem entry_del_self (m : Cache K V) (k : K) : (m.del k).entry k = none := by
  simp [del]

theorem entry_del_ne (m : Cache K V) {k k' : K} (h : k' ≠ k) :
    (m.del k).entry k' = m.entry k' := by simp [del, h]

/-! ### What a key holds -/

section

variable {m : Cache K V} {now ttl : Nat} {k k' : K} {v : V}

omit [DecidableEq K] in
theorem get_eq_held : m.get now k = (m.held now k).map Entry.value := rfl

omit [DecidableEq K] in
theorem live_of_held {e : Entry V} (h : m.held now k = some e) : e.live now = true :=
  (Option.filter_eq_some_iff.mp h).2

@[simp] theorem held_set_self : (m.set k v).held now k = some ⟨v, none⟩ := by
  rw [held, entry_set_self]
  rfl

theorem held_set_ne (h : k' ≠ k) : (m.set k v).held now k' = m.held now k' := by
  rw [held, entry_set_ne m h, held]

/-- A key that is given no time to live is gone at once. -/
theorem held_expire_self : (m.expire now k ttl).held now k =
    (m.held now k).bind fun e => if 0 < ttl then some ⟨e.value, some (now + ttl)⟩ else none := by
  unfold expire
  cases hheld : m.held now k with
  | none =>
    rw [held] at hheld
    rw [hheld, held, hheld]
    rfl
  | some e =>
    rw [held] at hheld
    simp [hheld, held, Option.filter_some]

theorem held_expire_ne (h : k' ≠ k) : (m.expire now k ttl).held now k' = m.held now k' := by
  rw [held, entry_expire_ne m now h, held]

@[simp] theorem held_del_self : (m.del k).held now k = none := by
  rw [held, entry_del_self]
  rfl

theorem held_del_ne (h : k' ≠ k) : (m.del k).held now k' = m.held now k' := by
  rw [held, entry_del_ne m h, held]

@[simp] theorem held_replace_self :
    (m.replace now k v).held now k = some ⟨v, (m.held now k).bind Entry.expiresAt⟩ := by
  have hentry : (m.replace now k v).entry k =
      some ⟨v, (m.held now k).bind Entry.expiresAt⟩ := by simp [replace]
  rw [held, hentry, Option.filter_some]
  cases hheld : m.held now k with
  | none => rfl
  | some e =>
    have hlive : e.live now = true := live_of_held hheld
    have hsame : (⟨v, e.expiresAt⟩ : Entry V).live now = e.live now := rfl
    exact if_pos (hsame.trans hlive)

theorem held_replace_ne (h : k' ≠ k) : (m.replace now k v).held now k' = m.held now k' := by
  have hentry : (m.replace now k v).entry k' = m.entry k' := by simp [replace, h]
  rw [held, hentry, held]

end

end Cache

end Expiring
