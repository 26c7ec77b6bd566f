import VoltFleet.Misc.Contract

/-!
# Programs served one after the other

A program that is alone may still find that a command fails, and the environment
may act between its commands.  `Completes` relates the store it starts in to its
outcome and the store it leaves.  The served stores are those that calls lead to
when each of them starts where the one before has ended.
-/

namespace Awaiting

variable {C : Type} {R : C → Type} {ε α β σ ρ : Type}

/-- The program, started in one store, ends with an outcome and leaves the other. -/
inductive Completes (S : System C R ε σ ρ) : Prog C R ε α → σ → Except ε α → σ → Prop where
  | ret (a : α) (s : σ) : Completes S (.ret a) s (.ok a) s
  | fail (e : ε) (s : σ) : Completes S (.fail e) s (.error e) s
  | answered {c : C} {k : Except ε (R c) → Prog C R ε α} {s s' : σ} {r : Except ε α}
      (h : Completes S (k (S.handler c s).1) (S.handler c s).2 r s') :
      Completes S (.call c k) s r s'
  | faulted {c : C} {k : Except ε (R c) → Prog C R ε α} {e : ε} {s s' : σ} {r : Except ε α}
      (hf : S.fault c = some e) (h : Completes S (k (.error e)) s r s') :
      Completes S (.call c k) s r s'
  | env {p : Prog C R ε α} {s s' : σ} {r : Except ε α} (x : ρ)
      (h : Completes S p (S.env x s) r s') : Completes S p s r s'

variable {S : System C R ε σ ρ} {K : Contract C R ε} {Inv : σ → Prop}

/-- Nothing fails and nothing happens meanwhile. -/
theorem Completes.of_run (p : Prog C R ε α) (s : σ) :
    Completes S p s (p.run S.handler s).1 (p.run S.handler s).2 := by
  induction p generalizing s with
  | ret a => exact .ret a s
  | fail e => exact .fail e s
  | call c k ih => exact .answered (ih _ _)

/-- A program that meets its contract returns what the contract says. -/
theorem Prog.Meets.completes (hK : K.Honoured S Inv) {Q : α → Prop} {p : Prog C R ε α}
    (hp : p.Meets K Q) {s s' : σ} {r : Except ε α} (hs : Inv s) (h : Completes S p s r s') :
    Inv s' ∧ ∀ a, r = .ok a → Q a := by
  induction h with
  | ret a s =>
    refine ⟨hs, fun a' ha => ?_⟩
    cases ha
    exact hp
  | fail e s => exact ⟨hs, fun a ha => by cases ha⟩
  | answered h ih => exact ih (hp.2 _ (hK.answer _ _ hs)) (hK.step _ _ hp.1 hs)
  | faulted hf h ih => exact ih (hp.2 _ (hK.fault _ _ hf)) hs
  | env x h ih => exact ih hp (hK.env x _ hs)

/-! ## Programs that throw only before they write -/

/-- With the answers that can be given, the program returns. -/
def Prog.Succeeds (K : Contract C R ε) : Prog C R ε α → Prop
  | .ret _ => True
  | .fail _ => False
  | .call c k => ∀ r, K.answers c r → (k r).Succeeds K

/-- Once the program has issued a command in `W`, it returns. -/
def Prog.ThrowsBefore (K : Contract C R ε) (W : C → Prop) : Prog C R ε α → Prop
  | .ret _ => True
  | .fail _ => True
  | .call c k => ∀ r, K.answers c r → (k r).Succeeds K ∨ ¬W c ∧ (k r).ThrowsBefore K W

namespace Prog

variable {W : C → Prop}

theorem Succeeds.bind {p : Prog C R ε α} {f : α → Prog C R ε β} (hp : p.Succeeds K)
    (hf : ∀ a, (f a).Succeeds K) : (p >>= f).Succeeds K := by
  induction p with
  | ret a => exact hf a
  | fail e => exact hp.elim
  | call c k ih => exact fun r hr => ih r (hp r hr)

/-- A program whose exceptions are caught. -/
theorem Succeeds.tryCatch (p : Prog C R ε α) {h : ε → Prog C R ε α}
    (hh : ∀ e, (h e).Succeeds K) : (MonadExcept.tryCatch p h).Succeeds K := by
  induction p with
  | ret a => trivial
  | fail e => exact hh e
  | call c k ih => exact fun r _ => ih r

theorem Succeeds.completes (hK : K.Honoured S fun _ => True) {p : Prog C R ε α}
    (hp : p.Succeeds K) {s s' : σ} {r : Except ε α} (h : Completes S p s r s') :
    ∃ a, r = .ok a := by
  induction h with
  | ret a s => exact ⟨a, rfl⟩
  | fail e s => exact hp.elim
  | answered h ih => exact ih (hp _ (hK.answer _ _ trivial))
  | faulted hf h ih => exact ih (hp _ (hK.fault _ _ hf))
  | env x h ih => exact ih hp

/-- Commands outside `W` may come first. -/
theorem ThrowsBefore.bind {p : Prog C R ε α} {f : α → Prog C R ε β}
    (hp : p.Issues fun c => ¬W c) (hf : ∀ a, (f a).ThrowsBefore K W) :
    (p >>= f).ThrowsBefore K W := by
  induction p with
  | ret a => exact hf a
  | fail e => trivial
  | call c k ih => exact fun r _ => .inr ⟨hp.1, ih r (hp.2 r)⟩

/-- What every command outside `W` and the environment keep is kept by a program that throws
before it has issued a command in `W`, if it throws. -/
theorem ThrowsBefore.completes (hK : K.Honoured S fun _ => True) {Keep : σ → σ → Prop}
    (refl : ∀ s, Keep s s) (trans : ∀ {s t u}, Keep s t → Keep t u → Keep s u)
    (step : ∀ c s, ¬W c → Keep s (S.handler c s).2) (env : ∀ x s, Keep s (S.env x s))
    {p : Prog C R ε α} (hp : p.ThrowsBefore K W) {s s' : σ} {r : Except ε α}
    (h : Completes S p s r s') {e : ε} (he : r = .error e) : Keep s s' := by
  have thrown : ∀ {p : Prog C R ε α} {s : σ}, Completes S p s r s' → ¬p.Succeeds K := by
    intro p s h hp
    obtain ⟨a, ha⟩ := hp.completes hK h
    rw [ha] at he
    cases he
  induction h with
  | ret a s => cases he
  | fail e s => exact refl s
  | answered h ih =>
    rcases hp _ (hK.answer _ _ trivial) with hs | ⟨hW, hk⟩
    · exact absurd hs (thrown h)
    · exact trans (step _ _ hW) (ih hk he thrown)
  | faulted hf h ih =>
    rcases hp _ (hK.fault _ _ hf) with hs | ⟨-, hk⟩
    · exact absurd hs (thrown h)
    · exact ih hk he thrown
  | env x h ih => exact trans (env x _) (ih hp he thrown)

end Prog

/-! ## Calls -/

/-- The stores that calls lead to, one after the other. -/
inductive Served {O : Type} (S : System C R ε σ ρ) (prog : O → Prog C R ε α) (s₀ : σ) :
    σ → Prop where
  | start : Served S prog s₀ s₀
  | next {o : O} {s s' : σ} {r : Except ε α} (h : Served S prog s₀ s)
      (hc : Completes S (prog o) s r s') : Served S prog s₀ s'

/-- What every call keeps holds of every served store. -/
theorem Served.inv {O : Type} {prog : O → Prog C R ε α} {s₀ s : σ} (h : Served S prog s₀ s)
    (h₀ : Inv s₀) (step : ∀ o s r s', Inv s → Completes S (prog o) s r s' → Inv s') : Inv s := by
  induction h with
  | start => exact h₀
  | next h hc ih => exact step _ _ _ _ ih hc

end Awaiting
