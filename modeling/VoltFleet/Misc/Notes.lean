import VoltFleet.Misc.Interleaving

/-!
# What each thread leaves on record

`note` picks out of a completed command what is worth recording of it.  The notes
of one thread are in the order of its program, whatever the other threads do in
between, so that what a program says of its own notes, at every point and for all
answers, holds of them in every run.
-/

namespace Awaiting

namespace Prog

variable {C : Type} {R : C → Type} {ε α β γ : Type}

/-- How a program has ended, if it has. -/
def outcome : Prog C R ε α → Option (Except ε α)
  | .ret a => some (.ok a)
  | .fail e => some (.error e)
  | .call _ _ => none

/-- At every point of the program, whatever the answers, `Φ` holds of the notes taken so far and
of the outcome there. -/
def Tells (note : (c : C) → Except ε (R c) → Option γ) :
    (List γ → Option (Except ε α) → Prop) → Prog C R ε α → Prop
  | Φ, .ret a => Φ [] (some (.ok a))
  | Φ, .fail e => Φ [] (some (.error e))
  | Φ, .call c k => Φ [] none ∧ ∀ r, Tells note (fun l o => Φ ((note c r).toList ++ l) o) (k r)

variable {note : (c : C) → Except ε (R c) → Option γ}
  {Φ Ψ : List γ → Option (Except ε α) → Prop}

/-- What holds at every point holds where the program starts. -/
theorem Tells.now {p : Prog C R ε α} (hp : p.Tells note Φ) : Φ [] p.outcome := by
  cases p with
  | ret a => exact hp
  | fail e => exact hp
  | call c k => exact hp.1

theorem Tells.mono {p : Prog C R ε α} (hp : p.Tells note Φ) (h : ∀ l o, Φ l o → Ψ l o) :
    p.Tells note Ψ := by
  induction p generalizing Φ Ψ with
  | ret a => exact h _ _ hp
  | fail e => exact h _ _ hp
  | call c k ih => exact ⟨h _ _ hp.1, fun r => ih r (hp.2 r) fun l o hl => h _ o hl⟩

theorem Tells.bind {p : Prog C R ε α} {f : α → Prog C R ε β}
    {Φ' : List γ → Option (Except ε β) → Prop} (hp : p.Tells note Φ)
    (hret : ∀ l a, Φ l (some (.ok a)) → (f a).Tells note fun l' o => Φ' (l ++ l') o)
    (hfail : ∀ l e, Φ l (some (.error e)) → Φ' l (some (.error e)))
    (hwait : ∀ l, Φ l none → Φ' l none) : (p >>= f).Tells note Φ' := by
  induction p generalizing Φ Φ' with
  | ret a => exact hret [] a hp
  | fail e => exact hfail [] e hp
  | call c k ih =>
    refine ⟨hwait [] hp.1, fun r => ih r (hp.2 r) (fun l a hl => ?_) (fun l e hl => hfail _ e hl)
      fun l hl => hwait _ hl⟩
    simpa only [List.append_assoc] using hret _ a hl

theorem Tells.await {c : C} {Φ : List γ → Option (Except ε (R c)) → Prop} (hwait : Φ [] none)
    (hanswer : ∀ r, Φ (note c r).toList (some r)) :
    (await c : Prog C R ε (R c)).Tells note Φ := by
  refine ⟨hwait, fun r => ?_⟩
  have hr := hanswer r
  cases r with
  | error e => simpa [Tells] using hr
  | ok a => simpa [Tells] using hr

theorem Tells.tryCatch {p : Prog C R ε α} {h : ε → Prog C R ε α} (hp : p.Tells note Φ)
    (hret : ∀ l a, Φ l (some (.ok a)) → Ψ l (some (.ok a)))
    (hfail : ∀ l e, Φ l (some (.error e)) → (h e).Tells note fun l' o => Ψ (l ++ l') o)
    (hwait : ∀ l, Φ l none → Ψ l none) : (MonadExcept.tryCatch p h).Tells note Ψ := by
  induction p generalizing Φ Ψ with
  | ret a => exact hret [] a hp
  | fail e => exact hfail [] e hp
  | call c k ih =>
    refine ⟨hwait [] hp.1, fun r => ih r (hp.2 r) (fun l a hl => hret _ a hl) (fun l e hl => ?_)
      fun l hl => hwait _ hl⟩
    simpa only [List.append_assoc] using hfail _ e hl

/-- A program that issues only commands of which nothing is noted. -/
theorem Issues.tells {P : C → Prop} {p : Prog C R ε α} (hp : p.Issues P)
    (h : ∀ c r, P c → note c r = none) : p.Tells note fun l _ => l = [] := by
  induction p with
  | ret a => rfl
  | fail e => rfl
  | call c k ih =>
    refine ⟨rfl, fun r => ?_⟩
    rw [h c r hp.1]
    exact ih r (hp.2 r)

end Prog

namespace Config

variable {ι C : Type} {R : C → Type} {ε α σ ρ γ : Type} [DecidableEq ι]
  (note : (c : C) → Except ε (R c) → Option γ)

/-- The notes of all threads, newest first. -/
def notes (cfg : Config ι C R ε α σ) : List (ι × γ) :=
  cfg.trace.filterMap fun e => (note e.cmd e.answer).map (Prod.mk e.thread)

/-- The notes of one thread, oldest first. -/
def notesOf (cfg : Config ι C R ε α σ) (i : ι) : List γ :=
  ((cfg.notes note).filterMap fun n => if n.1 = i then some n.2 else none).reverse

variable {note} {S : System C R ε σ ρ} {cfg : Config ι C R ε α σ}

theorem notes_deliver (i : ι) (c : C) (k : Except ε (R c) → Prog C R ε α) (r : Except ε (R c))
    (s : σ) : (cfg.deliver i c k r s).notes note =
      (note c r).toList.map (Prod.mk i) ++ cfg.notes note := by
  unfold notes
  rw [deliver_trace, List.filterMap_cons]
  cases note c r <;> rfl

theorem notesOf_deliver_self (i : ι) (c : C) (k : Except ε (R c) → Prog C R ε α)
    (r : Except ε (R c)) (s : σ) :
    (cfg.deliver i c k r s).notesOf note i = cfg.notesOf note i ++ (note c r).toList := by
  unfold notesOf
  rw [notes_deliver]
  cases note c r <;> simp

theorem notesOf_deliver_ne {i j : ι} (h : j ≠ i) (c : C) (k : Except ε (R c) → Prog C R ε α)
    (r : Except ε (R c)) (s : σ) :
    (cfg.deliver i c k r s).notesOf note j = cfg.notesOf note j := by
  unfold notesOf
  rw [notes_deliver]
  cases note c r with
  | none => rfl
  | some n => simp [Ne.symm h]

theorem mem_notesOf {i : ι} {n : γ} : n ∈ cfg.notesOf note i ↔ (i, n) ∈ cfg.notes note := by
  simp [notesOf, List.mem_filterMap]

/-- What every program tells of its notes holds of them after any moves. -/
theorem exec_tells {Φ : ι → List γ → Option (Except ε α) → Prop}
    (h : ∀ i, (cfg.threads i).Tells note fun l o => Φ i (cfg.notesOf note i ++ l) o)
    (ms : List (Move ι ρ)) (i : ι) :
    Φ i ((cfg.exec S ms).notesOf note i) ((cfg.exec S ms).threads i).outcome := by
  have answered : ∀ (cfg : Config ι C R ε α σ) (j : ι) (c : C)
      (k : Except ε (R c) → Prog C R ε α) (r : Except ε (R c)) (s : σ),
      (∀ i, (cfg.threads i).Tells note fun l o => Φ i (cfg.notesOf note i ++ l) o) →
      cfg.threads j = .call c k → ∀ i, ((cfg.deliver j c k r s).threads i).Tells note
        fun l o => Φ i ((cfg.deliver j c k r s).notesOf note i ++ l) o := by
    intro cfg j c k r s h hc
    refine threads_deliver (T := fun i p => p.Tells note
      fun l o => Φ i ((cfg.deliver j c k r s).notesOf note i ++ l) o) ?_ fun i hi => ?_
    · have hj := h j
      rw [hc] at hj
      simpa only [notesOf_deliver_self, List.append_assoc] using hj.2 r
    · rw [notesOf_deliver_ne hi]
      exact h i
  have step : ∀ (cfg : Config ι C R ε α σ) (m : Move ι ρ),
      (∀ i, (cfg.threads i).Tells note fun l o => Φ i (cfg.notesOf note i ++ l) o) →
      ∀ i, ((cfg.move S m).threads i).Tells note
        fun l o => Φ i ((cfg.move S m).notesOf note i ++ l) o := fun cfg m h =>
    move_cases (motive := fun cfg => ∀ i, (cfg.threads i).Tells note
      fun l o => Φ i (cfg.notesOf note i ++ l) o) cfg m h
      (fun j c k _ hc => answered cfg j c k _ _ h hc)
      (fun j c k e _ hc _ => answered cfg j c k _ _ h hc) (fun _ _ => h)
  simpa only [List.append_nil] using (exec_inv_all step h ms i).now

/-- Every completed command has been answered by the system on some store, or has failed. -/
def Answered (S : System C R ε σ ρ) (cfg : Config ι C R ε α σ) : Prop :=
  ∀ e ∈ cfg.trace, (∃ s, e.answer = (S.handler e.cmd s).1) ∨
    ∃ err, S.fault e.cmd = some err ∧ e.answer = .error err

theorem Answered.exec (h : cfg.Answered S) (ms : List (Move ι ρ)) :
    (cfg.exec S ms).Answered S := by
  refine exec_inv_all (fun cfg m h => ?_) h ms
  refine move_cases (motive := Answered S) cfg m h ?stepped ?faulted fun _ _ => h
  case stepped =>
    intro i c k _ _
    exact List.forall_mem_cons.mpr ⟨.inl ⟨cfg.store, rfl⟩, h⟩
  case faulted =>
    intro i c k e _ _ hf
    exact List.forall_mem_cons.mpr ⟨.inr ⟨e, hf, rfl⟩, h⟩

/-- What is picked out of the notes comes from distinct threads if no thread has two of it. -/
theorem nodup_picked {δ : Type} (pick : γ → Option δ)
    (h : ∀ i, ((cfg.notesOf note i).filterMap pick).length ≤ 1) :
    (((cfg.notes note).filterMap fun n => (pick n.2).map (Prod.mk n.1)).map Prod.fst).Nodup := by
  rw [List.nodup_iff_count]
  intro i
  have hcount : ∀ l : List (ι × γ),
      (((l.filterMap fun n => (pick n.2).map (Prod.mk n.1)).map Prod.fst).count i) =
        ((l.filterMap fun n => if n.1 = i then some n.2 else none).filterMap pick).length := by
    intro l
    induction l with
    | nil => rfl
    | cons n l ih =>
      by_cases hi : n.1 = i
      · cases hn : pick n.2 with
        | none => simp [hn, hi, ih]
        | some d => simp [hn, hi, ih]
      · cases hn : pick n.2 with
        | none => simp [hn, hi, ih]
        | some d => simp [hn, hi, ih]
  have hle := h i
  rw [notesOf, List.filterMap_reverse, List.length_reverse] at hle
  rw [hcount]
  exact hle

end Config

end Awaiting
