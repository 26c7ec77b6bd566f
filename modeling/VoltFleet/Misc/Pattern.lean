import Mathlib.Data.List.Basic

/-!
# Patterns with lookaheads

Patterns over the characters of an alphabet `A`, as regular expressions with anchors
and lookaheads have them; a quantifier is over a class of characters.  A pattern is
tried at a place of a text: the characters behind it and those ahead.  What it can
match there is the list of the places where a match may end.
-/

namespace Matching

/-- A place in a text: the number of characters behind it, and the characters ahead. -/
abbrev Place (A : Type) : Type := Nat × List A

/-- Regular expressions over classes of characters, with look-ahead. -/
inductive Pattern (A : Type) where
  /-- The start of the text. -/
  | start
  /-- The end of the text. -/
  | stop
  /-- At least `min` and at most `max` characters of a class. -/
  | repeated (p : A → Bool) (min : Nat) (max : Option Nat)
  | seq (l r : Pattern A)
  /-- What follows matches, and is not consumed. -/
  | ahead (r : Pattern A)

namespace Pattern

variable {A : Type} {p q : A → Bool} {l r : Pattern A} {v w : Place A}

/-- One character of a class. -/
def one (p : A → Bool) : Pattern A := repeated p 1 (some 1)

/-- The places up to `max` characters of a class further on. -/
def skips (p : A → Bool) : Option Nat → Nat → List A → List (Place A)
  | _, n, [] => [(n, [])]
  | max, n, a :: rest =>
      (n, a :: rest) ::
        if p a = true ∧ max ≠ some 0 then skips p (max.map Nat.pred) (n + 1) rest else []

/-- Where a match that starts at a place may end. -/
def ends : Pattern A → Place A → List (Place A)
  | start, v => if v.1 = 0 then [v] else []
  | stop, v => if v.2.isEmpty then [v] else []
  | repeated p min max, v => (skips p max v.1 v.2).filter fun w => v.1 + min ≤ w.1
  | seq l r, v => (l.ends v).flatMap r.ends
  | ahead r, v => if (r.ends v).isEmpty then [] else [v]

/-- The pattern matches somewhere in the text. -/
def test (r : Pattern A) (text : List A) : Bool :=
  (List.range (text.length + 1)).any fun n => !(r.ends (n, text.drop n)).isEmpty

/-! ## What each pattern matches -/

/-- The bound is respected by `k` characters. -/
def Within (max : Option Nat) (k : Nat) : Prop := ∀ bound, max = some bound → k ≤ bound

theorem within_none (k : Nat) : Within none k := by
  intro bound he
  cases he

theorem within_zero (max : Option Nat) : Within max 0 := fun _ _ => Nat.zero_le _

theorem within_succ {max : Option Nat} {k : Nat} :
    Within max (k + 1) ↔ max ≠ some 0 ∧ Within (max.map Nat.pred) k := by
  cases max with
  | none => simp [Within]
  | some bound => cases bound <;> simp [Within]

theorem mem_skips {max : Option Nat} {n : Nat} {text : List A} :
    w ∈ skips p max n text ↔ ∃ taken, text = taken ++ w.2 ∧ w.1 = n + taken.length ∧
      Within max taken.length ∧ ∀ a ∈ taken, p a = true := by
  induction text generalizing max n with
  | nil =>
    obtain ⟨m, rest⟩ := w
    simp only [skips, List.mem_singleton, Prod.mk.injEq]
    constructor
    · intro ⟨hm, hrest⟩
      exact ⟨[], hrest.symm, hm, within_zero max, by simp⟩
    · intro ⟨taken, htext, hm, _⟩
      obtain ⟨rfl, hrest⟩ := List.append_eq_nil_iff.mp htext.symm
      exact ⟨hm, hrest⟩
  | cons a text ih =>
    obtain ⟨m, rest⟩ := w
    rw [skips, List.mem_cons]
    constructor
    · intro h
      rcases h with he | h
      · cases he
        exact ⟨[], rfl, rfl, within_zero max, by simp⟩
      · by_cases hgo : p a = true ∧ max ≠ some 0
        · rw [if_pos hgo] at h
          obtain ⟨taken, htext, hm, hwithin, hall⟩ := ih.mp h
          refine ⟨a :: taken, congrArg (a :: ·) htext, ?_, within_succ.mpr ⟨hgo.2, hwithin⟩,
            List.forall_mem_cons.mpr ⟨hgo.1, hall⟩⟩
          rw [List.length_cons]
          omega
        · rw [if_neg hgo] at h
          exact absurd h List.not_mem_nil
    · intro ⟨taken, htext, hm, hwithin, hall⟩
      cases taken with
      | nil => exact .inl (Prod.ext hm htext.symm)
      | cons b taken =>
        obtain ⟨rfl, hrest⟩ := List.cons.inj htext
        obtain ⟨hp, hall⟩ := List.forall_mem_cons.mp hall
        obtain ⟨hmax, hwithin⟩ := within_succ.mp hwithin
        rw [if_pos ⟨hp, hmax⟩]
        refine .inr (ih.mpr ⟨taken, hrest, ?_, hwithin, hall⟩)
        rw [List.length_cons] at hm
        omega

@[simp] theorem mem_ends_start : w ∈ (start : Pattern A).ends v ↔ v.1 = 0 ∧ w = v := by
  unfold ends
  split <;> simp_all

@[simp] theorem mem_ends_stop : w ∈ (stop : Pattern A).ends v ↔ v.2 = [] ∧ w = v := by
  unfold ends
  split <;> simp_all

@[simp] theorem mem_ends_seq : w ∈ (seq l r).ends v ↔ ∃ u ∈ l.ends v, w ∈ r.ends u := by
  simp [ends]

@[simp] theorem mem_ends_ahead : w ∈ (ahead r).ends v ↔ (∃ u, u ∈ r.ends v) ∧ w = v := by
  show w ∈ (if (r.ends v).isEmpty then [] else [v]) ↔ _
  cases r.ends v with
  | nil => simp
  | cons u us =>
    rw [if_neg (by simp), List.mem_singleton, and_iff_right]
    exact ⟨u, List.mem_cons_self⟩

theorem mem_ends_repeated {min : Nat} {max : Option Nat} :
    w ∈ (repeated p min max).ends v ↔ ∃ taken, v.2 = taken ++ w.2 ∧
      w.1 = v.1 + taken.length ∧ min ≤ taken.length ∧ Within max taken.length ∧
        ∀ a ∈ taken, p a = true := by
  rw [ends, List.mem_filter, mem_skips, decide_eq_true_iff]
  constructor
  · intro ⟨⟨taken, htext, hm, hwithin, hall⟩, hmin⟩
    exact ⟨taken, htext, hm, by omega, hwithin, hall⟩
  · intro ⟨taken, htext, hm, hmin, hwithin, hall⟩
    exact ⟨⟨taken, htext, hm, hwithin, hall⟩, by omega⟩

theorem mem_ends_one : w ∈ (one p).ends v ↔
    ∃ a, v.2 = a :: w.2 ∧ w.1 = v.1 + 1 ∧ p a = true := by
  rw [one, mem_ends_repeated]
  constructor
  · intro ⟨taken, htext, hm, hmin, hwithin, hall⟩
    have hlength : taken.length = 1 := Nat.le_antisymm (hwithin 1 rfl) hmin
    obtain ⟨a, rfl⟩ := List.length_eq_one_iff.mp hlength
    exact ⟨a, htext, hm, hall a List.mem_cons_self⟩
  · intro ⟨a, htext, hm, hp⟩
    refine ⟨[a], htext, hm, Nat.le_refl 1, fun bound he => ?_, by simpa using hp⟩
    exact Nat.le_of_eq (Option.some.inj he)

/-- A lookahead and what follows it match at the same place. -/
theorem exists_ends_ahead : (∃ w, w ∈ (seq (ahead l) r).ends v) ↔
    (∃ u, u ∈ l.ends v) ∧ ∃ w, w ∈ r.ends v := by
  constructor
  · intro ⟨w, hw⟩
    obtain ⟨u, hu, hrest⟩ := mem_ends_seq.mp hw
    obtain ⟨hl, rfl⟩ := mem_ends_ahead.mp hu
    exact ⟨hl, w, hrest⟩
  · intro ⟨hl, w, hw⟩
    exact ⟨w, mem_ends_seq.mpr ⟨v, mem_ends_ahead.mpr ⟨hl, rfl⟩, hw⟩⟩

/-! ## Searches -/

/-- A pattern that begins at the start of the text. -/
theorem test_start : (seq start r).test text = true ↔ ∃ w, w ∈ r.ends (0, text) := by
  simp only [test, List.any_eq_true, List.mem_range, Bool.not_eq_true', List.isEmpty_eq_false_iff,
    ne_eq, List.eq_nil_iff_forall_not_mem, not_forall, not_not]
  constructor
  · intro ⟨n, _, w, hw⟩
    obtain ⟨u, hu, hw⟩ := mem_ends_seq.mp hw
    obtain ⟨hn, rfl⟩ := mem_ends_start.mp hu
    obtain rfl : n = 0 := hn
    exact ⟨w, hw⟩
  · intro ⟨w, hw⟩
    exact ⟨0, Nat.succ_pos _, w, mem_ends_seq.mpr ⟨_, mem_ends_start.mpr ⟨rfl, rfl⟩, hw⟩⟩

/-- A character of the class `q`, after characters of the class `p` only. -/
theorem mem_ends_find : (∃ w, w ∈ (seq (repeated p 0 none) (one q)).ends v) ↔
    ∃ taken a rest, v.2 = taken ++ a :: rest ∧ (∀ b ∈ taken, p b = true) ∧ q a = true := by
  constructor
  · intro ⟨w, hw⟩
    obtain ⟨u, hu, hw⟩ := mem_ends_seq.mp hw
    obtain ⟨taken, htext, -, -, -, hall⟩ := mem_ends_repeated.mp hu
    obtain ⟨a, hrest, -, hq⟩ := mem_ends_one.mp hw
    exact ⟨taken, a, w.2, by rw [htext, hrest], hall, hq⟩
  · intro ⟨taken, a, rest, htext, hall, hq⟩
    refine ⟨(v.1 + taken.length + 1, rest), mem_ends_seq.mpr
      ⟨(v.1 + taken.length, a :: rest), mem_ends_repeated.mpr ?_, mem_ends_one.mpr ?_⟩⟩
    · exact ⟨taken, htext, rfl, Nat.zero_le _, within_none _, hall⟩
    · exact ⟨a, rfl, rfl, hq⟩

/-- In a text of characters of the class `p`, one of the class `q` is somewhere. -/
theorem mem_ends_find_of_all (h : ∀ a ∈ v.2, p a = true) :
    (∃ w, w ∈ (seq (repeated p 0 none) (one q)).ends v) ↔ ∃ a ∈ v.2, q a = true := by
  rw [mem_ends_find]
  constructor
  · intro ⟨taken, a, rest, htext, _, hq⟩
    exact ⟨a, by simp [htext], hq⟩
  · intro ⟨a, ha, hq⟩
    obtain ⟨taken, rest, htext⟩ := List.append_of_mem ha
    refine ⟨taken, a, rest, htext, fun b hb => h b ?_, hq⟩
    rw [htext]
    exact List.mem_append_left _ hb

/-- The whole rest of the text is of one class and of a certain length. -/
theorem mem_ends_all {min max : Nat} :
    (∃ w, w ∈ (seq (repeated p min (some max)) stop).ends v) ↔
      min ≤ v.2.length ∧ v.2.length ≤ max ∧ ∀ a ∈ v.2, p a = true := by
  constructor
  · intro ⟨w, hw⟩
    obtain ⟨u, hu, hw⟩ := mem_ends_seq.mp hw
    obtain ⟨taken, htext, -, hmin, hwithin, hall⟩ := mem_ends_repeated.mp hu
    rw [(mem_ends_stop.mp hw).1, List.append_nil] at htext
    rw [htext]
    exact ⟨hmin, hwithin max rfl, hall⟩
  · intro ⟨hmin, hmax, hall⟩
    refine ⟨(v.1 + v.2.length, []), mem_ends_seq.mpr ⟨(v.1 + v.2.length, []),
      mem_ends_repeated.mpr ⟨v.2, by simp, rfl, hmin, fun bound he => ?_, hall⟩, by simp⟩⟩
    exact Option.some.inj he ▸ hmax

end Pattern

end Matching
