import VoltFleet.Misc.Interleaving

/-!
# Programs under a contract

A contract says which commands a program may issue and which answers it may rely
on.  A program that meets it can be checked on its own, without a store: what a
command answers is only known as far as the contract says.  Threads that meet a
contract keep every property of the store that its commands keep, in every
interleaving, as long as the store gives the answers that are relied on.
-/

namespace Awaiting

/-- The commands that are allowed, and the answers that are relied on. -/
structure Contract (C : Type) (R : C → Type) (ε : Type) where
  allows : C → Prop
  answers : (c : C) → Except ε (R c) → Prop

namespace Prog

variable {C : Type} {R : C → Type} {ε α β : Type} {K : Contract C R ε}

/-- As long as the answers are the ones relied on, the program issues allowed commands only,
and what it returns satisfies `Q`. -/
def Meets (K : Contract C R ε) (Q : α → Prop) : Prog C R ε α → Prop
  | .ret a => Q a
  | .fail _ => True
  | .call c k => K.allows c ∧ ∀ r, K.answers c r → (k r).Meets K Q

theorem Meets.await {c : C} {Q : R c → Prop} (hc : K.allows c)
    (hQ : ∀ a, K.answers c (.ok a) → Q a) : (await c : Prog C R ε (R c)).Meets K Q := by
  refine ⟨hc, fun r hr => ?_⟩
  cases r with
  | error e => trivial
  | ok a => exact hQ a hr

theorem Meets.bind {p : Prog C R ε α} {f : α → Prog C R ε β} {Q : α → Prop} {Q' : β → Prop}
    (hp : p.Meets K Q) (hf : ∀ a, Q a → (f a).Meets K Q') : (p >>= f).Meets K Q' := by
  induction p with
  | ret a => exact hf a hp
  | fail e => trivial
  | call c k ih => exact ⟨hp.1, fun r hr => ih r (hp.2 r hr)⟩

theorem Meets.ofExcept {r : Except ε α} {Q : α → Prop} (h : ∀ a, r = .ok a → Q a) :
    (ofExcept r : Prog C R ε α).Meets K Q := by
  cases r with
  | error e => trivial
  | ok a => exact h a rfl

theorem Meets.map {p : Prog C R ε α} {f : α → β} {Q : α → Prop} {Q' : β → Prop}
    (hp : p.Meets K Q) (hf : ∀ a, Q a → Q' (f a)) : (f <$> p).Meets K Q' := by
  rw [map_eq_pure_bind]
  exact hp.bind hf

theorem Meets.tryCatch {p : Prog C R ε α} {h : ε → Prog C R ε α} {Q : α → Prop}
    (hp : p.Meets K Q) (hh : ∀ e, (h e).Meets K Q) : (MonadExcept.tryCatch p h).Meets K Q := by
  induction p with
  | ret a => exact hp
  | fail e => exact hh e
  | call c k ih => exact ⟨hp.1, fun r hr => ih r (hp.2 r hr)⟩

/-- A program that issues allowed commands whatever the answers are. -/
theorem Issues.meets {P : C → Prop} {p : Prog C R ε α} (hp : p.Issues P)
    (h : ∀ c, P c → K.allows c) : p.Meets K fun _ => True := by
  induction p with
  | ret a => trivial
  | fail e => trivial
  | call c k ih => exact ⟨h c hp.1, fun r _ => ih r (hp.2 r)⟩

/-- Where every command is allowed, every program meets the contract. -/
theorem meets_of_allows (h : ∀ c, K.allows c) (p : Prog C R ε α) : p.Meets K fun _ => True := by
  induction p with
  | ret a => trivial
  | fail e => trivial
  | call c k ih => exact ⟨h c, fun r _ => ih r⟩

end Prog

/-- The store answers as the contract says while `Inv` holds of it, and the allowed commands
keep `Inv`. -/
structure Contract.Honoured {C : Type} {R : C → Type} {ε σ ρ : Type} (K : Contract C R ε)
    (S : System C R ε σ ρ) (Inv : σ → Prop) : Prop where
  step : ∀ c s, K.allows c → Inv s → Inv (S.handler c s).2
  answer : ∀ c s, Inv s → K.answers c (S.handler c s).1
  fault : ∀ c e, S.fault c = some e → K.answers c (.error e)
  env : ∀ x s, Inv s → Inv (S.env x s)

/-- A program that meets its contract and runs by itself returns what the contract says. -/
theorem Prog.Meets.run {C : Type} {R : C → Type} {ε α σ ρ : Type} {K : Contract C R ε}
    {S : System C R ε σ ρ} {Inv : σ → Prop} (hK : K.Honoured S Inv) {Q : α → Prop}
    {p : Prog C R ε α} (hp : p.Meets K Q) {s : σ} (hs : Inv s) :
    Inv (p.run S.handler s).2 ∧ ∀ a, (p.run S.handler s).1 = .ok a → Q a := by
  induction p generalizing s with
  | ret a =>
    refine ⟨hs, fun a' ha => ?_⟩
    cases ha
    exact hp
  | fail e => exact ⟨hs, fun a ha => by cases ha⟩
  | call c k ih => exact ih _ (hp.2 _ (hK.answer c s hs)) (hK.step c s hp.1 hs)

namespace Config

variable {ι C : Type} {R : C → Type} {ε α σ ρ : Type} [DecidableEq ι]
  {S : System C R ε σ ρ} {K : Contract C R ε} {Inv : σ → Prop}
  {ok : Config ι C R ε α σ → Move ι ρ → Prop}

/-- Every thread meets the contract or is still at its start, and `Inv` holds of the store. -/
structure Upholds (K : Contract C R ε) (Inv : σ → Prop) (start : ι → Prog C R ε α)
    (cfg : Config ι C R ε α σ) : Prop where
  threads : ∀ i, cfg.threads i = start i ∨ (cfg.threads i).Meets K fun _ => True
  store : Inv cfg.store

theorem Upholds.deliver {start : ι → Prog C R ε α} {cfg : Config ι C R ε α σ}
    (h : cfg.Upholds K Inv start) {i : ι} {c : C} {k : Except ε (R c) → Prog C R ε α}
    {r : Except ε (R c)} {s : σ} (hr : (k r).Meets K fun _ => True) (hs : Inv s) :
    (cfg.deliver i c k r s).Upholds K Inv start := by
  refine ⟨?_, hs⟩
  exact threads_deliver (T := fun j p => p = start j ∨ p.Meets K fun _ => True) (.inr hr)
    fun j _ => h.threads j

/-- A thread may start with a command whose answer the contract does not cover, if in the
runs considered the thread meets the contract from there on. -/
theorem Upholds.exec (hK : K.Honoured S Inv) {start : ι → Prog C R ε α}
    (hstart : ∀ (cfg : Config ι C R ε α σ) i c k, Inv cfg.store → start i = .call c k →
      cfg.threads i = .call c k → ok cfg (.step i) →
        Inv (S.handler c cfg.store).2 ∧ (k (S.handler c cfg.store).1).Meets K fun _ => True)
    (hfault : ∀ i c k e, start i = .call c k → S.fault c = some e →
      (k (.error e)).Meets K fun _ => True)
    {cfg : Config ι C R ε α σ} (h : cfg.Upholds K Inv start) {ms : List (Move ι ρ)}
    (hok : Along S ok cfg ms) : (cfg.exec S ms).Upholds K Inv start := by
  have step : ∀ (cfg : Config ι C R ε α σ) m, cfg.Upholds K Inv start → ok cfg m →
      (cfg.move S m).Upholds K Inv start := by
    intro cfg m h hm
    refine move_cases (motive := Upholds K Inv start) cfg m h ?stepped ?faulted ?outside
    case stepped =>
      rintro i c k rfl hc
      rcases h.threads i with hi | hi
      · obtain ⟨hs, hk⟩ := hstart cfg i c k h.store (hi.symm.trans hc) hc hm
        exact h.deliver hk hs
      · rw [hc] at hi
        exact h.deliver (hi.2 _ (hK.answer c _ h.store)) (hK.step c _ hi.1 h.store)
    case faulted =>
      rintro i c k e rfl hc hf
      rcases h.threads i with hi | hi
      · exact h.deliver (hfault i c k e (hi.symm.trans hc) hf) h.store
      · rw [hc] at hi
        exact h.deliver (hi.2 _ (hK.fault c e hf)) h.store
    case outside =>
      rintro x rfl
      exact ⟨h.threads, hK.env x _ h.store⟩
  exact exec_inv step h hok

/-- Every thread meets the contract with a postcondition of its own, and `Inv` holds of the
store. -/
structure Fulfils (K : Contract C R ε) (Inv : σ → Prop) (Q : ι → α → Prop)
    (cfg : Config ι C R ε α σ) : Prop where
  threads : ∀ i, (cfg.threads i).Meets K (Q i)
  store : Inv cfg.store

theorem Fulfils.move (hK : K.Honoured S Inv) {Q : ι → α → Prop} {cfg : Config ι C R ε α σ}
    (h : cfg.Fulfils K Inv Q) (m : Move ι ρ) : (cfg.move S m).Fulfils K Inv Q := by
  have answered : ∀ i c k r s, cfg.threads i = .call c k → K.answers c r → Inv s →
      (cfg.deliver i c k r s).Fulfils K Inv Q := by
    intro i c k r s hc hr hs
    have hi := h.threads i
    rw [hc] at hi
    exact ⟨threads_deliver (T := fun j p => p.Meets K (Q j)) (hi.2 r hr) fun j _ => h.threads j, hs⟩
  refine move_cases (motive := Fulfils K Inv Q) cfg m h ?stepped ?faulted ?outside
  case stepped =>
    intro i c k _ hc
    have hi := h.threads i
    rw [hc] at hi
    exact answered i c k _ _ hc (hK.answer c _ h.store) (hK.step c _ hi.1 h.store)
  case faulted =>
    intro i c k e _ hc hf
    exact answered i c k _ _ hc (hK.fault c e hf) h.store
  case outside =>
    intro x _
    exact ⟨h.threads, hK.env x _ h.store⟩

/-- Threads that meet their contract return what it says, in every run. -/
theorem Fulfils.exec (hK : K.Honoured S Inv) {Q : ι → α → Prop} {cfg : Config ι C R ε α σ}
    (h : cfg.Fulfils K Inv Q) (ms : List (Move ι ρ)) : (cfg.exec S ms).Fulfils K Inv Q :=
  exec_inv_all (fun _ m h => h.move hK m) h ms

omit [DecidableEq ι] in
theorem Fulfils.returned {Q : ι → α → Prop} {cfg : Config ι C R ε α σ}
    (h : cfg.Fulfils K Inv Q) {i : ι} {a : α} (hi : cfg.threads i = .ret a) : Q i a := by
  have hmeets := h.threads i
  rw [hi] at hmeets
  exact hmeets

end Config

end Awaiting
