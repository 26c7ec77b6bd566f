import Mathlib.Logic.Function.Basic

/-!
# Programs that await commands

A program either is finished, with a value or with an exception, or awaits the
answer of one command and goes on from there.  The commands `C`, the type of
each command's answer `R` and the exceptions `ε` are parameters: a client
instantiates them with the calls its code awaits.  A command can be answered
with an exception as well, which the program may catch.

`run` executes a program by itself; `VoltFleet.Misc.Interleaving` runs many
programs over one store, one command at a time.
-/

namespace Awaiting

/-- A program over the commands `C`. -/
inductive Prog (C : Type) (R : C → Type) (ε α : Type) : Type where
  | ret (a : α)
  | fail (e : ε)
  | call (c : C) (k : Except ε (R c) → Prog C R ε α)

/-- What each command does to a store `σ`, and its answer. -/
abbrev Handler (C : Type) (R : C → Type) (ε σ : Type) : Type :=
  (c : C) → σ → Except ε (R c) × σ

namespace Prog

variable {C : Type} {R : C → Type} {ε α β γ σ : Type}

/-- Sequencing; an exception of the first program is passed on. -/
def bind : Prog C R ε α → (α → Prog C R ε β) → Prog C R ε β
  | .ret a, f => f a
  | .fail e, _ => .fail e
  | .call c k, f => .call c fun r => (k r).bind f

/-- `try p catch e => h e`. -/
def tryCatch : Prog C R ε α → (ε → Prog C R ε α) → Prog C R ε α
  | .ret a, _ => .ret a
  | .fail e, h => h e
  | .call c k, h => .call c fun r => (k r).tryCatch h

/-- The rest of a program after an answer that is taken as it comes. -/
def ofExcept : Except ε α → Prog C R ε α
  | .ok a => .ret a
  | .error e => .fail e

/-- Await one command; its exception is thrown where it is awaited. -/
def await (c : C) : Prog C R ε (R c) := .call c ofExcept

instance : Monad (Prog C R ε) where
  pure := .ret
  bind := bind

instance : MonadExcept ε (Prog C R ε) where
  throw := .fail
  tryCatch := tryCatch

@[simp] theorem pure_eq (a : α) : (pure a : Prog C R ε α) = .ret a := rfl

@[simp] theorem throw_eq (e : ε) : (throw e : Prog C R ε α) = .fail e := rfl

@[simp] theorem ret_bind (a : α) (f : α → Prog C R ε β) : (Prog.ret a >>= f) = f a := rfl

@[simp] theorem fail_bind (e : ε) (f : α → Prog C R ε β) : (Prog.fail e >>= f) = .fail e := rfl

@[simp] theorem call_bind (c : C) (k : Except ε (R c) → Prog C R ε α) (f : α → Prog C R ε β) :
    (Prog.call c k >>= f) = .call c fun r => k r >>= f := rfl

@[simp] theorem await_bind (c : C) (f : R c → Prog C R ε β) :
    (await c >>= f) = .call c fun r => ofExcept r >>= f := rfl

@[simp] theorem ofExcept_ok (a : α) : (ofExcept (.ok a) : Prog C R ε α) = .ret a := rfl

@[simp] theorem ofExcept_error (e : ε) : (ofExcept (.error e) : Prog C R ε α) = .fail e := rfl

@[simp] theorem tryCatch_ret (a : α) (h : ε → Prog C R ε α) :
    MonadExcept.tryCatch (Prog.ret a : Prog C R ε α) h = .ret a := rfl

@[simp] theorem tryCatch_fail (e : ε) (h : ε → Prog C R ε α) :
    MonadExcept.tryCatch (Prog.fail e : Prog C R ε α) h = h e := rfl

@[simp] theorem tryCatch_call (c : C) (k : Except ε (R c) → Prog C R ε α)
    (h : ε → Prog C R ε α) :
    MonadExcept.tryCatch (Prog.call c k) h = .call c fun r => MonadExcept.tryCatch (k r) h := rfl

theorem bind_ret (p : Prog C R ε α) : p.bind .ret = p := by
  induction p with
  | ret a => rfl
  | fail e => rfl
  | call c k ih => simp [bind, ih]

theorem bind_assoc (p : Prog C R ε α) (f : α → Prog C R ε β) (g : β → Prog C R ε γ) :
    (p.bind f).bind g = p.bind fun a => (f a).bind g := by
  induction p with
  | ret a => rfl
  | fail e => rfl
  | call c k ih => simp [bind, ih]

instance : LawfulMonad (Prog C R ε) :=
  LawfulMonad.mk' _ bind_ret (fun _ _ => rfl) bind_assoc

/-! ## Running a program by itself -/

/-- Execute a program with nothing else running. -/
def run (H : Handler C R ε σ) : Prog C R ε α → σ → Except ε α × σ
  | .ret a, s => (.ok a, s)
  | .fail e, s => (.error e, s)
  | .call c k, s => run H (k (H c s).1) (H c s).2

variable (H : Handler C R ε σ)

@[simp] theorem run_ret (a : α) (s : σ) : run H (.ret a) s = (.ok a, s) := rfl

@[simp] theorem run_fail (e : ε) (s : σ) :
    run H (.fail e : Prog C R ε α) s = (.error e, s) := rfl

@[simp] theorem run_call (c : C) (k : Except ε (R c) → Prog C R ε α) (s : σ) :
    run H (.call c k) s = run H (k (H c s).1) (H c s).2 := rfl

@[simp] theorem run_ofExcept (r : Except ε α) (s : σ) :
    run H (ofExcept r : Prog C R ε α) s = (r, s) := by
  cases r <;> rfl

@[simp] theorem run_await (c : C) (s : σ) :
    run H (await c : Prog C R ε (R c)) s = H c s := by
  simp [await]

/-- A program that continues another starts where the first has ended. -/
theorem run_bind (p : Prog C R ε α) (f : α → Prog C R ε β) (s : σ) :
    run H (p >>= f) s =
      match run H p s with
      | (.ok a, s') => run H (f a) s'
      | (.error e, s') => (.error e, s') := by
  induction p generalizing s with
  | ret a => rfl
  | fail e => rfl
  | call c k ih => exact ih _ _

/-- What a program returns that continues another, the first has returned a value for. -/
theorem run_bind_eq_ok {p : Prog C R ε α} {f : α → Prog C R ε β} {s : σ} {b : β} :
    (run H (p >>= f) s).1 = .ok b ↔
      ∃ a, (run H p s).1 = .ok a ∧ (run H (f a) (run H p s).2).1 = .ok b := by
  rw [run_bind]
  rcases run H p s with ⟨r, s'⟩
  cases r <;> simp

/-- The same with the stores the two parts leave. -/
theorem run_bind_returns {p : Prog C R ε α} {f : α → Prog C R ε β} {s s' : σ} {b : β} :
    run H (p >>= f) s = (.ok b, s') ↔
      ∃ a t, run H p s = (.ok a, t) ∧ run H (f a) t = (.ok b, s') := by
  rw [run_bind]
  rcases run H p s with ⟨r, t⟩
  cases r with
  | error e => simp
  | ok a =>
    constructor
    · intro h
      exact ⟨a, t, rfl, h⟩
    · rintro ⟨a', t', hp, h⟩
      cases hp
      exact h

theorem run_map (f : α → β) (p : Prog C R ε α) (s : σ) :
    run H (f <$> p) s = ((run H p s).1.map f, (run H p s).2) := by
  rw [map_eq_pure_bind, run_bind]
  rcases run H p s with ⟨r, s'⟩
  cases r <;> rfl

theorem run_map_returns {f : α → β} {p : Prog C R ε α} {s s' : σ} {b : β} :
    run H (f <$> p) s = (.ok b, s') ↔ ∃ a, run H p s = (.ok a, s') ∧ f a = b := by
  rw [run_map]
  rcases run H p s with ⟨r, t⟩
  cases r with
  | error e => simp [Except.map]
  | ok a =>
    constructor
    · intro h
      cases h
      exact ⟨a, rfl, rfl⟩
    · rintro ⟨a', hp, rfl⟩
      cases hp
      rfl

/-- The handler of an exception starts from the store the exception has left. -/
theorem run_tryCatch (p : Prog C R ε α) (h : ε → Prog C R ε α) (s : σ) :
    run H (MonadExcept.tryCatch p h) s =
      match run H p s with
      | (.ok a, s') => (.ok a, s')
      | (.error e, s') => run H (h e) s' := by
  induction p generalizing s with
  | ret a => rfl
  | fail e => rfl
  | call c k ih => exact ih _ _

/-! ## The commands a program can reach -/

/-- Every command the program can come to issue, whatever the answers, is in `P`. -/
def Issues (P : C → Prop) : Prog C R ε α → Prop
  | .ret _ => True
  | .fail _ => True
  | .call c k => P c ∧ ∀ r, (k r).Issues P

variable {P : C → Prop}

@[simp] theorem issues_ret (a : α) : (Prog.ret a : Prog C R ε α).Issues P := trivial

@[simp] theorem issues_fail (e : ε) : (Prog.fail e : Prog C R ε α).Issues P := trivial

@[simp] theorem issues_call (c : C) (k : Except ε (R c) → Prog C R ε α) :
    (Prog.call c k).Issues P ↔ P c ∧ ∀ r, (k r).Issues P := Iff.rfl

@[simp] theorem issues_ofExcept (r : Except ε α) : (ofExcept r : Prog C R ε α).Issues P := by
  cases r <;> trivial

@[simp] theorem issues_await (c : C) : (await c : Prog C R ε (R c)).Issues P ↔ P c := by
  simp [await]

theorem Issues.await {c : C} (h : P c) : (await c : Prog C R ε (R c)).Issues P :=
  (issues_await c).mpr h

theorem Issues.mono {Q : C → Prop} {p : Prog C R ε α} (hp : p.Issues P) (h : ∀ c, P c → Q c) :
    p.Issues Q := by
  induction p with
  | ret a => trivial
  | fail e => trivial
  | call c k ih => exact ⟨h c hp.1, fun r => ih r (hp.2 r)⟩

theorem Issues.bind {p : Prog C R ε α} {f : α → Prog C R ε β} (hp : p.Issues P)
    (hf : ∀ a, (f a).Issues P) : (p >>= f).Issues P := by
  induction p with
  | ret a => exact hf a
  | fail e => trivial
  | call c k ih => exact ⟨hp.1, fun r => ih r (hp.2 r)⟩

theorem Issues.tryCatch {p : Prog C R ε α} {h : ε → Prog C R ε α} (hp : p.Issues P)
    (hh : ∀ e, (h e).Issues P) : (MonadExcept.tryCatch p h).Issues P := by
  induction p with
  | ret a => trivial
  | fail e => exact hh e
  | call c k ih => exact ⟨hp.1, fun r => ih r (hp.2 r)⟩

/-- A relation between stores that every reachable command keeps is kept by the run. -/
theorem Issues.run {p : Prog C R ε α} (hp : p.Issues P) {Rel : σ → σ → Prop}
    (refl : ∀ s, Rel s s) (trans : ∀ {s t u}, Rel s t → Rel t u → Rel s u)
    (step : ∀ c s, P c → Rel s (H c s).2) (s : σ) : Rel s (p.run H s).2 := by
  induction p generalizing s with
  | ret a => exact refl s
  | fail e => exact refl s
  | call c k ih => exact trans (step c s hp.1) (ih _ (hp.2 _) _)

/-! ## The commands a program cannot return without -/

/-- Whatever the answers, the program awaits a command in `P` before it returns. -/
def Requires (P : C → Prop) : Prog C R ε α → Prop
  | .ret _ => False
  | .fail _ => True
  | .call c k => P c ∨ ∀ r, (k r).Requires P

@[simp] theorem requires_ret (a : α) : ¬(Prog.ret a : Prog C R ε α).Requires P := id

@[simp] theorem requires_fail (e : ε) : (Prog.fail e : Prog C R ε α).Requires P := trivial

theorem Requires.bind {p : Prog C R ε α} {f : α → Prog C R ε β} (hp : p.Requires P) :
    (p >>= f).Requires P := by
  induction p with
  | ret a => exact hp.elim
  | fail e => trivial
  | call c k ih => exact hp.imp_right fun hk r => ih r (hk r)

theorem Requires.of_bind {p : Prog C R ε α} {f : α → Prog C R ε β} (hf : ∀ a, (f a).Requires P) :
    (p >>= f).Requires P := by
  induction p with
  | ret a => exact hf a
  | fail e => trivial
  | call c k ih => exact .inr ih

end Prog

end Awaiting
