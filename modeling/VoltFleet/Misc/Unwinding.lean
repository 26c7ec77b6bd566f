import VoltFleet.Misc.Simulation

/-!
# Threads that others cannot see

Some threads of a run are hidden.  Erasing their moves leaves the run that the others
have among themselves.  Where every command of a hidden thread leaves the store related
to what it was, and the commands of the others are answered alike over related stores
and keep the relation, no other thread can tell the two runs apart.
-/

namespace Awaiting

variable {ι C : Type} {R : C → Type} {ε α σ ρ : Type}

/-- The thread that a move is of. -/
def Move.thread : Move ι ρ → Option ι
  | .step i => some i
  | .fault i => some i
  | .env _ => none

/-- The moves of the threads that are not hidden, and those of the environment. -/
def Move.shown (hidden : ι → Bool) (m : Move ι ρ) : Bool := !m.thread.any hidden

/-- What a hidden thread does is not seen by the commands that are shown. -/
structure Unwinds (S : System C R ε σ ρ) (shown hidden : C → Prop) (Rel : σ → σ → Prop) :
    Prop where
  alike : Simulates S S shown Rel
  unseen : ∀ c s s', hidden c → Rel s s' → Rel (S.handler c s).2 s'

namespace Config

/-- The part of the history that is not of hidden threads. -/
def shownTrace (hidden : ι → Bool) (cfg : Config ι C R ε α σ) : List (Event ι C R ε) :=
  cfg.trace.filter fun e => !hidden e.thread

/-- The threads that are not hidden and their histories agree, and the stores are related. -/
structure AlikeShown (hidden : ι → Bool) (Rel : σ → σ → Prop) (cfg cfg' : Config ι C R ε α σ) :
    Prop where
  threads : ∀ i, hidden i = false → cfg.threads i = cfg'.threads i
  trace : cfg.shownTrace hidden = cfg'.shownTrace hidden
  store : Rel cfg.store cfg'.store

/-- Every thread issues the commands of its own kind. -/
def IssuingApart (hidden : ι → Bool) (shownCmds hiddenCmds : C → Prop)
    (cfg : Config ι C R ε α σ) : Prop :=
  ∀ i, (cfg.threads i).Issues fun c => if hidden i then hiddenCmds c else shownCmds c

variable [DecidableEq ι] {S : System C R ε σ ρ} {shownCmds hiddenCmds : C → Prop}
  {Rel : σ → σ → Prop} {hidden : ι → Bool} {cfg cfg' : Config ι C R ε α σ}

omit [DecidableEq ι] in
theorem IssuingApart.shown (h : cfg.IssuingApart hidden shownCmds hiddenCmds) (i : ι)
    (hi : hidden i = false) : (cfg.threads i).Issues shownCmds := by
  have hissues := h i
  rw [hi] at hissues
  exact hissues

theorem IssuingApart.deliver (h : cfg.IssuingApart hidden shownCmds hiddenCmds) {i : ι} {c : C}
    {k : Except ε (R c) → Prog C R ε α} (hc : cfg.threads i = .call c k) (r : Except ε (R c))
    (s : σ) : (cfg.deliver i c k r s).IssuingApart hidden shownCmds hiddenCmds := by
  have hi := h i
  rw [hc] at hi
  exact threads_deliver
    (T := fun j p => p.Issues fun c => if hidden j then hiddenCmds c else shownCmds c)
    (hi.2 r) fun j _ => h j

theorem IssuingApart.move (h : cfg.IssuingApart hidden shownCmds hiddenCmds) (m : Move ι ρ) :
    (cfg.move S m).IssuingApart hidden shownCmds hiddenCmds :=
  move_cases (motive := IssuingApart hidden shownCmds hiddenCmds) cfg m h
    (fun _ _ _ _ hc => h.deliver hc _ _) (fun _ _ _ _ _ hc _ => h.deliver hc _ _) fun _ _ => h

/-- The answer to a hidden thread changes nothing for the others. -/
theorem AlikeShown.hide (h : AlikeShown hidden Rel cfg cfg') {i : ι} (hi : hidden i = true) (c : C)
    (k : Except ε (R c) → Prog C R ε α) (r : Except ε (R c)) {s : σ} (hs : Rel s cfg'.store) :
    AlikeShown hidden Rel (cfg.deliver i c k r s) cfg' := by
  refine ⟨fun j hj => ?_, ?_, hs⟩
  · have hne : j ≠ i := by
      intro he
      rw [he, hi] at hj
      cases hj
    rw [deliver_threads_ne cfg hne]
    exact h.threads j hj
  · simpa [shownTrace, hi] using h.trace

/-- The same answer to a thread of both runs. -/
theorem AlikeShown.show (h : AlikeShown hidden Rel cfg cfg') (i : ι) (c : C)
    (k : Except ε (R c) → Prog C R ε α) (r : Except ε (R c)) {s s' : σ} (hs : Rel s s') :
    AlikeShown hidden Rel (cfg.deliver i c k r s) (cfg'.deliver i c k r s') := by
  refine ⟨fun j hj => ?_, ?_, hs⟩
  · by_cases hij : j = i
    · subst hij
      simp only [deliver_threads_self]
    · simp only [deliver_threads_ne _ hij]
      exact h.threads j hj
  · have htrace := h.trace
    simp only [shownTrace, deliver_trace, List.filter_cons] at htrace ⊢
    rw [htrace]

/-- A move of a hidden thread is a move of one run only. -/
theorem AlikeShown.move_hidden (hS : Unwinds S shownCmds hiddenCmds Rel)
    (h : AlikeShown hidden Rel cfg cfg') (hP : cfg.IssuingApart hidden shownCmds hiddenCmds)
    {m : Move ι ρ} (hm : m.shown hidden = false) : AlikeShown hidden Rel (cfg.move S m) cfg' := by
  refine move_cases (motive := fun cfg => AlikeShown hidden Rel cfg cfg') cfg m h
    ?stepped ?faulted ?outside
  case stepped =>
    intro i c k he hc
    have hi : hidden i = true := by simpa [he, Move.shown, Move.thread] using hm
    have hissues := hP i
    rw [hc, hi] at hissues
    exact h.hide hi c k _ (hS.unseen c _ _ hissues.1 h.store)
  case faulted =>
    intro i c k e he _ _
    have hi : hidden i = true := by simpa [he, Move.shown, Move.thread] using hm
    exact h.hide hi c k _ h.store
  case outside =>
    intro x he
    simp [he, Move.shown, Move.thread] at hm

/-- Any other move is the same move of both runs. -/
theorem AlikeShown.move_shown (hS : Simulates S S shownCmds Rel)
    (h : AlikeShown hidden Rel cfg cfg')
    (hP : ∀ i, hidden i = false → (cfg.threads i).Issues shownCmds)
    {m : Move ι ρ} (hm : m.shown hidden = true) :
    AlikeShown hidden Rel (cfg.move S m) (cfg'.move S m) := by
  cases m with
  | step i =>
    have hi : hidden i = false := by simpa [Move.shown, Move.thread] using hm
    have hissues := hP i hi
    have hsame := (h.threads i hi).symm
    cases hc : cfg.threads i with
    | ret a => simpa [Config.move, hsame, hc] using h
    | fail e => simpa [Config.move, hsame, hc] using h
    | call c k =>
      rw [hc] at hissues hsame
      simp only [Config.move, hc, hsame]
      rw [← hS.answer c _ _ hissues.1 h.store]
      exact h.show i c k _ (hS.step c _ _ hissues.1 h.store)
  | fault i =>
    have hi : hidden i = false := by simpa [Move.shown, Move.thread] using hm
    have hsame := (h.threads i hi).symm
    cases hc : cfg.threads i with
    | ret a => simpa [Config.move, hsame, hc] using h
    | fail e => simpa [Config.move, hsame, hc] using h
    | call c k =>
      rw [hc] at hsame
      simp only [Config.move, hc, hsame]
      cases S.fault c with
      | none => exact h
      | some e => exact h.show i c k _ h.store
  | env x => exact ⟨h.threads, h.trace, hS.env x _ _ h.store⟩

/-- The run without the moves of the hidden threads is the same for all the others. -/
theorem AlikeShown.exec (hS : Unwinds S shownCmds hiddenCmds Rel)
    (h : AlikeShown hidden Rel cfg cfg') (hP : cfg.IssuingApart hidden shownCmds hiddenCmds)
    (ms : List (Move ι ρ)) :
    AlikeShown hidden Rel (cfg.exec S ms) (cfg'.exec S (ms.filter (Move.shown hidden))) := by
  induction ms generalizing cfg cfg' with
  | nil => exact h
  | cons m ms ih =>
    cases hm : m.shown hidden with
    | false =>
      rw [List.filter_cons_of_neg (by simp [hm]), exec_cons]
      exact ih (h.move_hidden hS hP hm) (hP.move m)
    | true =>
      rw [List.filter_cons_of_pos hm, exec_cons, exec_cons]
      exact ih (h.move_shown hS.alike hP.shown hm) (hP.move m)

/-! ## Threads that have done nothing -/

variable {Idle : (c : C) → Except ε (R c) → Prop}

end Config

end Awaiting
