import VoltFleet.Misc.Interleaving

/-!
# Programs that rely on what they have learnt

Between two commands of a thread the other threads change the store, so what an
answer has told is of use later only if no step of any thread takes it back.  An
accord names the relation `later` that every step of every thread keeps, and says
for each store which commands are allowed and what an answer means there.  A
program that abides by it is checked on its own, against every store that may
have come about since its last command.
-/

namespace Awaiting

/-- Which commands a store allows, what their answers mean, and how stores may change. -/
structure Accord (C : Type) (R : C → Type) (ε σ : Type) where
  later : σ → σ → Prop
  refl : ∀ s, later s s
  trans : ∀ {s t u}, later s t → later t u → later s u
  allows : σ → C → Prop
  /-- What an answer means in the store that the command leaves. -/
  answers : σ → (c : C) → Except ε (R c) → Prop

namespace Prog

variable {C : Type} {R : C → Type} {ε α β σ : Type} {K : Accord C R ε σ}

/-- From `s` on, the program issues commands that are allowed when they execute, and what it
returns satisfies `Q`. -/
def Abides (K : Accord C R ε σ) (Q : σ → α → Prop) : σ → Prog C R ε α → Prop
  | s, .ret a => ∀ t, K.later s t → Q t a
  | _, .fail _ => True
  | s, .call c k => ∀ t, K.later s t → K.allows t c ∧
      ∀ u r, K.later t u → K.answers u c r → Abides K Q u (k r)

/-- What a program may rely on it may rely on later. -/
theorem Abides.later {Q : σ → α → Prop} {s t : σ} {p : Prog C R ε α} (hp : Abides K Q s p)
    (h : K.later s t) : Abides K Q t p := by
  cases p with
  | ret a => exact fun u hu => hp u (K.trans h hu)
  | fail e => trivial
  | call c k => exact fun u hu => hp u (K.trans h hu)

theorem Abides.await {c : C} {Q : σ → R c → Prop} {s : σ}
    (hc : ∀ t, K.later s t → K.allows t c)
    (hQ : ∀ t a, K.later s t → K.answers t c (.ok a) → ∀ u, K.later t u → Q u a) :
    Abides K Q s (await c : Prog C R ε (R c)) := by
  intro t ht
  refine ⟨hc t ht, fun u r hu hr => ?_⟩
  cases r with
  | error e => trivial
  | ok a => exact hQ u a (K.trans ht hu) hr

theorem Abides.bind {p : Prog C R ε α} {f : α → Prog C R ε β} {Q : σ → α → Prop}
    {Q' : σ → β → Prop} {s : σ} (hp : Abides K Q s p)
    (hf : ∀ a t, K.later s t → Q t a → Abides K Q' t (f a)) : Abides K Q' s (p >>= f) := by
  induction p generalizing s with
  | ret a => exact hf a s (K.refl s) (hp s (K.refl s))
  | fail e => trivial
  | call c k ih =>
    intro t ht
    refine ⟨(hp t ht).1, fun u r hu hr => ih r ((hp t ht).2 u r hu hr) ?_⟩
    intro a v hv ha
    exact hf a v (K.trans ht (K.trans hu hv)) ha

theorem Abides.tryCatch {p : Prog C R ε α} {h : ε → Prog C R ε α} {Q : σ → α → Prop} {s : σ}
    (hp : Abides K Q s p) (hh : ∀ e t, K.later s t → Abides K Q t (h e)) :
    Abides K Q s (MonadExcept.tryCatch p h) := by
  induction p generalizing s with
  | ret a => exact hp
  | fail e => exact hh e s (K.refl s)
  | call c k ih =>
    intro t ht
    refine ⟨(hp t ht).1, fun u r hu hr => ih r ((hp t ht).2 u r hu hr) ?_⟩
    intro e v hv
    exact hh e v (K.trans ht (K.trans hu hv))

theorem Abides.ofExcept {r : Except ε α} {Q : σ → α → Prop} {s : σ}
    (h : ∀ a, r = .ok a → ∀ t, K.later s t → Q t a) :
    Abides K Q s (ofExcept r : Prog C R ε α) := by
  cases r with
  | error e => trivial
  | ok a => exact h a rfl

/-- A program that issues commands which every store allows. -/
theorem Issues.abides {P : C → Prop} {p : Prog C R ε α} (hp : p.Issues P)
    (h : ∀ s c, P c → K.allows s c) (s : σ) : Abides K (fun _ _ => True) s p := by
  induction p generalizing s with
  | ret a => exact fun _ _ => trivial
  | fail e => trivial
  | call c k ih => exact fun t _ => ⟨h t c hp.1, fun u r _ _ => ih r (hp.2 r) u⟩

end Prog

/-- Allowed commands and the environment keep `Inv` and lead to later stores, and the answers
mean what the accord says. -/
structure Accord.Honoured {C : Type} {R : C → Type} {ε σ ρ : Type} (K : Accord C R ε σ)
    (S : System C R ε σ ρ) (Inv : σ → Prop) : Prop where
  step : ∀ c s, K.allows s c → Inv s → Inv (S.handler c s).2 ∧ K.later s (S.handler c s).2
  answer : ∀ c s, K.allows s c → Inv s → K.answers (S.handler c s).2 c (S.handler c s).1
  fault : ∀ c e s, S.fault c = some e → K.answers s c (.error e)
  env : ∀ x s, Inv s → Inv (S.env x s) ∧ K.later s (S.env x s)

namespace Config

variable {ι C : Type} {R : C → Type} {ε α σ ρ : Type} [DecidableEq ι]
  {S : System C R ε σ ρ} {K : Accord C R ε σ} {Inv : σ → Prop} {Q : ι → σ → α → Prop}

/-- Every thread abides by the accord from the present store on, and `Inv` holds of it. -/
structure Abiding (K : Accord C R ε σ) (Inv : σ → Prop) (Q : ι → σ → α → Prop)
    (cfg : Config ι C R ε α σ) : Prop where
  threads : ∀ i, (cfg.threads i).Abides K (Q i) cfg.store
  store : Inv cfg.store

theorem Abiding.deliver {cfg : Config ι C R ε α σ} (h : cfg.Abiding K Inv Q) {i : ι} {c : C}
    {k : Except ε (R c) → Prog C R ε α} {r : Except ε (R c)} {s : σ}
    (hc : cfg.threads i = .call c k) (hr : K.answers s c r) (hs : Inv s)
    (hlater : K.later cfg.store s) : (cfg.deliver i c k r s).Abiding K Inv Q := by
  have hi := h.threads i
  rw [hc] at hi
  have hk : (k r).Abides K (Q i) s := (hi _ (K.refl _)).2 s r hlater hr
  exact ⟨threads_deliver (T := fun j p => p.Abides K (Q j) s) hk
    fun j _ => (h.threads j).later hlater, hs⟩

/-- One move keeps the accord and leads to a later store. -/
theorem Abiding.move (hK : K.Honoured S Inv) {cfg : Config ι C R ε α σ}
    (h : cfg.Abiding K Inv Q) (m : Move ι ρ) :
    (cfg.move S m).Abiding K Inv Q ∧ K.later cfg.store (cfg.move S m).store := by
  refine move_cases (motive := fun cfg' => cfg'.Abiding K Inv Q ∧ K.later cfg.store cfg'.store)
    cfg m ⟨h, K.refl _⟩ ?stepped ?faulted ?outside
  case stepped =>
    intro i c k _ hc
    have hi := h.threads i
    rw [hc] at hi
    have hallows := (hi _ (K.refl _)).1
    obtain ⟨hs, hlater⟩ := hK.step c _ hallows h.store
    exact ⟨h.deliver hc (hK.answer c _ hallows h.store) hs hlater, hlater⟩
  case faulted =>
    intro i c k e _ hc hf
    exact ⟨h.deliver hc (hK.fault c e _ hf) h.store (K.refl _), K.refl _⟩
  case outside =>
    intro x _
    obtain ⟨hs, hlater⟩ := hK.env x _ h.store
    exact ⟨⟨fun i => (h.threads i).later hlater, hs⟩, hlater⟩

/-- Every run of threads that abide by an accord keeps it and leads to a later store. -/
theorem Abiding.exec (hK : K.Honoured S Inv) {cfg : Config ι C R ε α σ}
    (h : cfg.Abiding K Inv Q) (ms : List (Move ι ρ)) :
    (cfg.exec S ms).Abiding K Inv Q ∧ K.later cfg.store (cfg.exec S ms).store := by
  induction ms generalizing cfg with
  | nil => exact ⟨h, K.refl _⟩
  | cons m ms ih =>
    obtain ⟨hmove, hlater⟩ := h.move hK m
    obtain ⟨hexec, hrest⟩ := ih hmove
    exact ⟨hexec, K.trans hlater hrest⟩

end Config

end Awaiting
