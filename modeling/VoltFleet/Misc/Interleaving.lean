import VoltFleet.Misc.Program

/-!
# Programs run side by side

A configuration holds one store and a family of programs, the threads.  One
move lets one thread complete the command it awaits, or lets that command fail
without touching the store, or lets the environment change the store.  Between
two commands of a thread any number of moves of the others may take place, and
a run is any list of moves, so a statement about all runs is a statement about
every interleaving at the granularity of the single commands.

The configuration records the commands completed so far, newest first, for
statements about the history of a run.
-/

namespace Awaiting

/-- How commands act on a store `σ`, which exception a failing command raises
(`none`: the command does not fail), and what the environment can do. -/
structure System (C : Type) (R : C → Type) (ε σ ρ : Type) where
  handler : Handler C R ε σ
  fault : C → Option ε
  env : ρ → σ → σ

/-- A thread completes its command, its command fails, or the environment acts. -/
inductive Move (ι ρ : Type) where
  | step (i : ι)
  | fault (i : ι)
  | env (x : ρ)
  deriving DecidableEq

/-- A completed command and its answer. -/
structure Event (ι C : Type) (R : C → Type) (ε : Type) where
  thread : ι
  cmd : C
  answer : Except ε (R cmd)

/-- The threads, the store they share, and what has happened, latest first. -/
structure Config (ι C : Type) (R : C → Type) (ε α σ : Type) where
  store : σ
  threads : ι → Prog C R ε α
  trace : List (Event ι C R ε)

namespace Config

variable {ι C : Type} {R : C → Type} {ε α σ ρ : Type} [DecidableEq ι]

/-- The configuration in which the threads are about to start. -/
def start (s : σ) (p : ι → Prog C R ε α) : Config ι C R ε α σ := ⟨s, p, []⟩

/-- Hand the answer `r` of command `c` to thread `i`, which goes on as `k r`. -/
def deliver (cfg : Config ι C R ε α σ) (i : ι) (c : C) (k : Except ε (R c) → Prog C R ε α)
    (r : Except ε (R c)) (s : σ) : Config ι C R ε α σ :=
  { store := s
    threads := Function.update cfg.threads i (k r)
    trace := ⟨i, c, r⟩ :: cfg.trace }

@[simp] theorem deliver_store (cfg : Config ι C R ε α σ) (i : ι) (c : C)
    (k : Except ε (R c) → Prog C R ε α) (r : Except ε (R c)) (s : σ) :
    (cfg.deliver i c k r s).store = s := rfl

@[simp] theorem deliver_threads_self (cfg : Config ι C R ε α σ) (i : ι) (c : C)
    (k : Except ε (R c) → Prog C R ε α) (r : Except ε (R c)) (s : σ) :
    (cfg.deliver i c k r s).threads i = k r := by
  simp [deliver]

theorem deliver_threads_ne (cfg : Config ι C R ε α σ) {i j : ι} (h : j ≠ i) (c : C)
    (k : Except ε (R c) → Prog C R ε α) (r : Except ε (R c)) (s : σ) :
    (cfg.deliver i c k r s).threads j = cfg.threads j := by
  simp [deliver, h]

/-- What holds of the thread that is answered and of the others holds of every thread. -/
theorem threads_deliver {T : ι → Prog C R ε α → Prop} {cfg : Config ι C R ε α σ} {i : ι} {c : C}
    {k : Except ε (R c) → Prog C R ε α} {r : Except ε (R c)} {s : σ} (hself : T i (k r))
    (hother : ∀ j, j ≠ i → T j (cfg.threads j)) (j : ι) :
    T j ((cfg.deliver i c k r s).threads j) := by
  by_cases hj : j = i
  · subst hj
    rw [deliver_threads_self]
    exact hself
  · rw [deliver_threads_ne cfg hj]
    exact hother j hj

@[simp] theorem deliver_trace (cfg : Config ι C R ε α σ) (i : ι) (c : C)
    (k : Except ε (R c) → Prog C R ε α) (r : Except ε (R c)) (s : σ) :
    (cfg.deliver i c k r s).trace = ⟨i, c, r⟩ :: cfg.trace := rfl

variable (S : System C R ε σ ρ)

/-- One move.  A thread that has finished does not move any more. -/
def move (cfg : Config ι C R ε α σ) : Move ι ρ → Config ι C R ε α σ
  | .step i =>
      match cfg.threads i with
      | .call c k => cfg.deliver i c k (S.handler c cfg.store).1 (S.handler c cfg.store).2
      | _ => cfg
  | .fault i =>
      match cfg.threads i with
      | .call c k =>
          match S.fault c with
          | some e => cfg.deliver i c k (.error e) cfg.store
          | none => cfg
      | _ => cfg
  | .env x => { cfg with store := S.env x cfg.store }

/-- The configuration a list of moves leads to. -/
def exec (cfg : Config ι C R ε α σ) (ms : List (Move ι ρ)) : Config ι C R ε α σ :=
  ms.foldl (move S) cfg

@[simp] theorem exec_nil (cfg : Config ι C R ε α σ) : cfg.exec S [] = cfg := rfl

@[simp] theorem exec_cons (cfg : Config ι C R ε α σ) (m : Move ι ρ) (ms : List (Move ι ρ)) :
    cfg.exec S (m :: ms) = (cfg.move S m).exec S ms := rfl

theorem exec_append (cfg : Config ι C R ε α σ) (ms ns : List (Move ι ρ)) :
    cfg.exec S (ms ++ ns) = (cfg.exec S ms).exec S ns :=
  List.foldl_append

/-- `ok` holds before every move of the run. -/
def Along (ok : Config ι C R ε α σ → Move ι ρ → Prop) :
    Config ι C R ε α σ → List (Move ι ρ) → Prop
  | _, [] => True
  | cfg, m :: ms => ok cfg m ∧ Along ok (cfg.move S m) ms

instance instDecidableAlong {ok : Config ι C R ε α σ → Move ι ρ → Prop}
    [∀ cfg m, Decidable (ok cfg m)] : ∀ cfg ms, Decidable (Along S ok cfg ms)
  | _, [] => .isTrue trivial
  | cfg, m :: ms =>
      @instDecidableAnd _ _ (inferInstanceAs (Decidable (ok cfg m)))
        (instDecidableAlong (cfg.move S m) ms)

variable {S}

/-- What a single move can do: nothing, complete one command, fail one command,
or change the store from outside. -/
theorem move_cases {motive : Config ι C R ε α σ → Prop} (cfg : Config ι C R ε α σ)
    (m : Move ι ρ) (same : motive cfg)
    (stepped : ∀ i c k, m = .step i → cfg.threads i = .call c k →
      motive (cfg.deliver i c k (S.handler c cfg.store).1 (S.handler c cfg.store).2))
    (faulted : ∀ i c k e, m = .fault i → cfg.threads i = .call c k → S.fault c = some e →
      motive (cfg.deliver i c k (.error e) cfg.store))
    (outside : ∀ x, m = .env x → motive { cfg with store := S.env x cfg.store }) :
    motive (cfg.move S m) := by
  cases m with
  | step i =>
    cases h : cfg.threads i with
    | ret a => simpa [move, h] using same
    | fail e => simpa [move, h] using same
    | call c k => simpa [move, h] using stepped i c k rfl h
  | fault i =>
    cases h : cfg.threads i with
    | ret a => simpa [move, h] using same
    | fail e => simpa [move, h] using same
    | call c k =>
      cases hf : S.fault c with
      | none => simpa [move, h, hf] using same
      | some e => simpa [move, h, hf] using faulted i c k e rfl h hf
  | env x => exact outside x rfl

theorem along_append {ok : Config ι C R ε α σ → Move ι ρ → Prop} {cfg : Config ι C R ε α σ}
    {ms ns : List (Move ι ρ)} :
    Along S ok cfg (ms ++ ns) ↔ Along S ok cfg ms ∧ Along S ok (cfg.exec S ms) ns := by
  induction ms generalizing cfg with
  | nil => simp [Along]
  | cons m ms ih => simp [Along, ih, and_assoc]

/-- A property that every admitted move keeps holds after every admitted run. -/
theorem exec_inv {ok : Config ι C R ε α σ → Move ι ρ → Prop}
    {Inv : Config ι C R ε α σ → Prop}
    (step : ∀ cfg m, Inv cfg → ok cfg m → Inv (cfg.move S m))
    {cfg : Config ι C R ε α σ} (h : Inv cfg) {ms : List (Move ι ρ)}
    (hok : Along S ok cfg ms) : Inv (cfg.exec S ms) := by
  induction ms generalizing cfg with
  | nil => exact h
  | cons m ms ih => exact ih (step cfg m h hok.1) hok.2

/-- `exec_inv` where every move is admitted. -/
theorem exec_inv_all {Inv : Config ι C R ε α σ → Prop}
    (step : ∀ cfg (m : Move ι ρ), Inv cfg → Inv (cfg.move S m))
    {cfg : Config ι C R ε α σ} (h : Inv cfg) (ms : List (Move ι ρ)) :
    Inv (cfg.exec S ms) := by
  induction ms generalizing cfg with
  | nil => exact h
  | cons m ms ih => exact ih (step cfg m h)

/-- What an invariant gives for one admitted move holds of every move of an admitted run. -/
theorem along_of_inv {ok good : Config ι C R ε α σ → Move ι ρ → Prop}
    {Inv : Config ι C R ε α σ → Prop}
    (step : ∀ cfg m, Inv cfg → ok cfg m → Inv (cfg.move S m))
    (safe : ∀ cfg m, Inv cfg → ok cfg m → good cfg m)
    {cfg : Config ι C R ε α σ} (h : Inv cfg) {ms : List (Move ι ρ)}
    (hok : Along S ok cfg ms) : Along S good cfg ms := by
  induction ms generalizing cfg with
  | nil => trivial
  | cons m ms ih => exact ⟨safe cfg m h hok.1, ih (step cfg m h hok.1) hok.2⟩

/-- Where an invariant makes two properties of a move the same, they hold along the same runs. -/
theorem along_congr_of_inv {ok good good' : Config ι C R ε α σ → Move ι ρ → Prop}
    {Inv : Config ι C R ε α σ → Prop}
    (step : ∀ cfg m, Inv cfg → ok cfg m → Inv (cfg.move S m))
    (iff : ∀ cfg m, Inv cfg → ok cfg m → (good cfg m ↔ good' cfg m))
    {cfg : Config ι C R ε α σ} (h : Inv cfg) {ms : List (Move ι ρ)}
    (hok : Along S ok cfg ms) : Along S good cfg ms ↔ Along S good' cfg ms := by
  induction ms generalizing cfg with
  | nil => exact Iff.rfl
  | cons m ms ih => exact and_congr (iff cfg m h hok.1) (ih (step cfg m h hok.1) hok.2)

/-- Every command a thread can come to issue is in `P`. -/
def Issuing (P : C → Prop) (cfg : Config ι C R ε α σ) : Prop := ∀ i, (cfg.threads i).Issues P

theorem Issuing.deliver {P : C → Prop} {cfg : Config ι C R ε α σ} (h : cfg.Issuing P) {i : ι}
    {c : C} {k : Except ε (R c) → Prog C R ε α} (hc : cfg.threads i = .call c k)
    (r : Except ε (R c)) (s : σ) : (cfg.deliver i c k r s).Issuing P := by
  have hi := h i
  rw [hc] at hi
  exact threads_deliver (T := fun _ p => p.Issues P) (hi.2 r) fun j _ => h j

theorem Issuing.move {P : C → Prop} {cfg : Config ι C R ε α σ} (h : cfg.Issuing P)
    (m : Move ι ρ) : (cfg.move S m).Issuing P :=
  move_cases (motive := Issuing P) cfg m h (fun _ _ _ _ hc => h.deliver hc _ _)
    (fun _ _ _ _ _ hc _ => h.deliver hc _ _) (fun _ _ => h)

/-- A property of the store that every command in `P` and the environment keep holds
throughout the runs of threads that issue such commands only. -/
theorem Issuing.exec {P : C → Prop} {Q : σ → Prop} {cfg : Config ι C R ε α σ}
    (h : cfg.Issuing P) (hs : Q cfg.store)
    (step : ∀ c s, P c → Q s → Q (S.handler c s).2) (env : ∀ x s, Q s → Q (S.env x s))
    (ms : List (Move ι ρ)) : (cfg.exec S ms).Issuing P ∧ Q (cfg.exec S ms).store := by
  induction ms generalizing cfg with
  | nil => exact ⟨h, hs⟩
  | cons m ms ih =>
    refine ih (h.move m) ?_
    refine move_cases (motive := fun cfg => Q cfg.store) cfg m hs ?stepped ?faulted ?outside
    case stepped =>
      intro i c k _ hc
      have hi := h i
      rw [hc] at hi
      exact step c _ hi.1 hs
    case faulted =>
      intro i c k e _ _ _
      exact hs
    case outside =>
      intro x _
      exact env x _ hs

/-- A thread that cannot return without a command in `P` has completed one once it has
returned. -/
theorem exec_requires {P : C → Prop} {cfg : Config ι C R ε α σ} {i : ι}
    (h : (cfg.threads i).Requires P ∨ ∃ e ∈ cfg.trace, e.thread = i ∧ P e.cmd)
    (ms : List (Move ι ρ)) : ((cfg.exec S ms).threads i).Requires P ∨
      ∃ e ∈ (cfg.exec S ms).trace, e.thread = i ∧ P e.cmd := by
  have answered : ∀ (cfg : Config ι C R ε α σ) j c k r s,
      ((cfg.threads i).Requires P ∨ ∃ e ∈ cfg.trace, e.thread = i ∧ P e.cmd) →
      cfg.threads j = .call c k → (((cfg.deliver j c k r s).threads i).Requires P ∨
        ∃ e ∈ (cfg.deliver j c k r s).trace, e.thread = i ∧ P e.cmd) := by
    intro cfg j c k r s h hj
    rcases h with h | ⟨e, he, hi, hP⟩
    · by_cases hij : i = j
      · subst hij
        rw [hj] at h
        rcases h with hc | hk
        · exact .inr ⟨⟨i, c, r⟩, List.mem_cons_self, rfl, hc⟩
        · rw [deliver_threads_self]
          exact .inl (hk r)
      · rw [deliver_threads_ne cfg hij]
        exact .inl h
    · exact .inr ⟨e, List.mem_cons_of_mem _ he, hi, hP⟩
  induction ms generalizing cfg with
  | nil => exact h
  | cons m ms ih =>
    refine ih ?_
    exact move_cases (motive := fun cfg => (cfg.threads i).Requires P ∨
        ∃ e ∈ cfg.trace, e.thread = i ∧ P e.cmd) cfg m h
      (fun j c k _ hj => answered cfg j c k _ _ h hj)
      (fun j c k e _ hj _ => answered cfg j c k _ _ h hj) (fun x _ => h)

/-- A condition on the moves alone. -/
theorem along_of_forall {ok : Move ι ρ → Prop} {cfg : Config ι C R ε α σ} {ms : List (Move ι ρ)}
    (h : ∀ m ∈ ms, ok m) : Along S (fun _ => ok) cfg ms := by
  induction ms generalizing cfg with
  | nil => trivial
  | cons m ms ih =>
    exact ⟨h m List.mem_cons_self, ih fun m' hm => h m' (List.mem_cons_of_mem _ hm)⟩

/-- A thread that moves alone comes to the end of the first part of its program. -/
theorem exec_alone_bind {β : Type} {cfg : Config ι C R ε α σ} {i : ι} {p : Prog C R ε β}
    {f : β → Prog C R ε α} {r : Except ε β} {s : σ} (hp : cfg.threads i = p >>= f)
    (hrun : p.run S.handler cfg.store = (r, s)) :
    ∃ n, (cfg.exec S (.replicate n (.step i))).store = s ∧
      (cfg.exec S (.replicate n (.step i))).threads i = .ofExcept r >>= f ∧
      ∀ j, j ≠ i → (cfg.exec S (.replicate n (.step i))).threads j = cfg.threads j := by
  induction p generalizing cfg with
  | ret a =>
    cases hrun
    exact ⟨0, rfl, hp, fun _ _ => rfl⟩
  | fail e =>
    cases hrun
    exact ⟨0, rfl, hp, fun _ _ => rfl⟩
  | call c k ih =>
    have hmove : cfg.move S (.step i) = cfg.deliver i c (fun r => k r >>= f)
        (S.handler c cfg.store).1 (S.handler c cfg.store).2 := by
      simp [move, hp]
    obtain ⟨n, hstore, hself, hothers⟩ := ih _ (deliver_threads_self cfg i c
      (fun r => k r >>= f) (S.handler c cfg.store).1 (S.handler c cfg.store).2) hrun
    refine ⟨n + 1, ?_⟩
    rw [List.replicate_succ, exec_cons, hmove]
    exact ⟨hstore, hself, fun j hj => (hothers j hj).trans (deliver_threads_ne cfg hj _ _ _ _)⟩

/-- A thread that moves alone does what its program does when it runs by itself. -/
theorem exec_alone {cfg : Config ι C R ε α σ} {i : ι} {p : Prog C R ε α} {r : Except ε α} {s : σ}
    (hp : cfg.threads i = p) (hrun : p.run S.handler cfg.store = (r, s)) :
    ∃ n, (cfg.exec S (.replicate n (.step i))).store = s ∧
      (cfg.exec S (.replicate n (.step i))).threads i = .ofExcept r ∧
      ∀ j, j ≠ i → (cfg.exec S (.replicate n (.step i))).threads j = cfg.threads j := by
  obtain ⟨n, hstore, hself, hothers⟩ :=
    exec_alone_bind (f := Prog.ret) (hp.trans (Prog.bind_ret p).symm) hrun
  exact ⟨n, hstore, hself.trans (Prog.bind_ret _), hothers⟩

/-- A thread that has returned stays as it is. -/
theorem exec_returned {cfg : Config ι C R ε α σ} {i : ι} {a : α} (h : cfg.threads i = .ret a)
    (ms : List (Move ι ρ)) : (cfg.exec S ms).threads i = .ret a := by
  have other : ∀ (cfg : Config ι C R ε α σ) j c k r s, cfg.threads i = .ret a →
      cfg.threads j = .call c k → (cfg.deliver j c k r s).threads i = .ret a := by
    intro cfg j c k r s h hj
    have hne : i ≠ j := by
      rintro rfl
      rw [h] at hj
      cases hj
    rw [deliver_threads_ne cfg hne]
    exact h
  induction ms generalizing cfg with
  | nil => exact h
  | cons m ms ih =>
    refine ih ?_
    exact move_cases (motive := fun cfg => cfg.threads i = .ret a) cfg m h
      (fun j c k _ hj => other cfg j c k _ _ h hj)
      (fun j c k e _ hj _ => other cfg j c k _ _ h hj) (fun x _ => h)

end Config

end Awaiting
