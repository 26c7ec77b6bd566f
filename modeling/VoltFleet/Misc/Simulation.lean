import VoltFleet.Misc.Interleaving

/-!
# Runs over related stores

Two systems with the same commands whose stores are related: if every command
that the threads can issue is answered alike and keeps the relation, then the same
moves take both to related stores, with the same threads and the same history.
What the relation leaves open is what no thread can observe.
-/

namespace Awaiting

variable {ι C : Type} {R : C → Type} {ε α σ σ' ρ : Type} [DecidableEq ι]

/-- The commands in `P` are answered alike over related stores and keep the relation, and so do
failures and the environment. -/
structure Simulates (S : System C R ε σ ρ) (S' : System C R ε σ' ρ) (P : C → Prop)
    (Rel : σ → σ' → Prop) : Prop where
  answer : ∀ c s s', P c → Rel s s' → (S.handler c s).1 = (S'.handler c s').1
  step : ∀ c s s', P c → Rel s s' → Rel (S.handler c s).2 (S'.handler c s').2
  fault : ∀ c, P c → S.fault c = S'.fault c
  env : ∀ x s s', Rel s s' → Rel (S.env x s) (S'.env x s')

/-- A system simulates itself. -/
theorem Simulates.refl (S : System C R ε σ ρ) (P : C → Prop) :
    Simulates S S P fun s s' => s = s' where
  answer := by
    intro c s s' _ h
    rw [h]
  step := by
    intro c s s' _ h
    rw [h]
  fault _ _ := rfl
  env := by
    intro x s s' h
    rw [h]

namespace Config

/-- The threads and the histories agree, and the stores are related. -/
structure Alike (Rel : σ → σ' → Prop) (cfg : Config ι C R ε α σ)
    (cfg' : Config ι C R ε α σ') : Prop where
  threads : cfg.threads = cfg'.threads
  trace : cfg.trace = cfg'.trace
  store : Rel cfg.store cfg'.store

variable {S : System C R ε σ ρ} {S' : System C R ε σ' ρ} {P : C → Prop} {Rel : σ → σ' → Prop}
  {cfg : Config ι C R ε α σ} {cfg' : Config ι C R ε α σ'}

theorem Alike.deliver (h : Alike Rel cfg cfg') (i : ι) (c : C)
    (k : Except ε (R c) → Prog C R ε α) (r : Except ε (R c)) {s : σ} {s' : σ'} (hs : Rel s s') :
    Alike Rel (cfg.deliver i c k r s) (cfg'.deliver i c k r s') := by
  refine ⟨?_, ?_, hs⟩
  · show Function.update cfg.threads i (k r) = Function.update cfg'.threads i (k r)
    rw [h.threads]
  · show _ :: cfg.trace = _ :: cfg'.trace
    rw [h.trace]

theorem Alike.move (hS : Simulates S S' P Rel) (h : Alike Rel cfg cfg') (hP : cfg.Issuing P)
    (m : Move ι ρ) : Alike Rel (cfg.move S m) (cfg'.move S' m) := by
  cases m with
  | step i =>
    have hi := hP i
    have hsame : cfg'.threads i = cfg.threads i := by rw [h.threads]
    cases hc : cfg.threads i with
    | ret a => simpa [Config.move, hsame, hc] using h
    | fail e => simpa [Config.move, hsame, hc] using h
    | call c k =>
      rw [hc] at hi hsame
      simp only [Config.move, hc, hsame]
      rw [← hS.answer c _ _ hi.1 h.store]
      exact h.deliver i c k _ (hS.step c _ _ hi.1 h.store)
  | fault i =>
    have hi := hP i
    have hsame : cfg'.threads i = cfg.threads i := by rw [h.threads]
    cases hc : cfg.threads i with
    | ret a => simpa [Config.move, hsame, hc] using h
    | fail e => simpa [Config.move, hsame, hc] using h
    | call c k =>
      rw [hc] at hi hsame
      simp only [Config.move, hc, hsame]
      rw [← hS.fault c hi.1]
      cases S.fault c with
      | none => exact h
      | some e => exact h.deliver i c k _ h.store
  | env x => exact ⟨h.threads, h.trace, hS.env x _ _ h.store⟩

/-- The same moves lead to the same threads and the same history. -/
theorem Alike.exec (hS : Simulates S S' P Rel) (h : Alike Rel cfg cfg') (hP : cfg.Issuing P)
    (ms : List (Move ι ρ)) : Alike Rel (cfg.exec S ms) (cfg'.exec S' ms) := by
  induction ms generalizing cfg cfg' with
  | nil => exact h
  | cons m ms ih => exact ih (h.move hS hP m) (hP.move m)

end Config

end Awaiting
