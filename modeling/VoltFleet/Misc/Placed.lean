import VoltFleet.Misc.Interleaving

/-!
# Programs at several sites

The same commands can be issued at many sites, each of which sees a store of its
own: some of it is shared by all sites, the rest is the site's.  A program placed
at a site issues its commands there, so that programs at different sites can run
side by side.
-/

namespace Awaiting

namespace Prog

variable {W C : Type} {R : C → Type} {ε α : Type}

/-- The program with every command issued at the site `w`. -/
def placed (w : W) : Prog C R ε α → Prog (W × C) (fun c => R c.2) ε α
  | .ret a => .ret a
  | .fail e => .fail e
  | .call c k => .call (w, c) fun r => (k r).placed w

theorem placed_eq_call {w : W} {p : Prog C R ε α} {c : W × C}
    {k : Except ε (R c.2) → Prog (W × C) (fun c => R c.2) ε α} (h : p.placed w = .call c k) :
    c.1 = w ∧ ∃ k', p = .call c.2 k' ∧ ∀ r, k r = (k' r).placed w := by
  cases p with
  | ret a => cases h
  | fail e => cases h
  | call c' k' =>
    cases h
    exact ⟨rfl, k', rfl, fun _ => rfl⟩

theorem Requires.placed {P : C → Prop} {p : Prog C R ε α} (h : p.Requires P) (w : W) :
    (p.placed w).Requires fun c => c.1 = w ∧ P c.2 := by
  induction p with
  | ret a => exact h.elim
  | fail e => trivial
  | call c k ih => exact h.imp (fun hc => ⟨rfl, hc⟩) fun hk r => ih r (hk r)

theorem Issues.placed {P : C → Prop} {p : Prog C R ε α} (h : p.Issues P) (w : W) :
    (p.placed w).Issues fun c => c.1 = w ∧ P c.2 := by
  induction p with
  | ret a => trivial
  | fail e => trivial
  | call c k ih => exact ⟨⟨rfl, h.1⟩, fun r => ih r (h.2 r)⟩

/-- A placed program does to what its site sees what the program does by itself. -/
theorem run_placed {σ τ : Type} {H : Handler C R ε σ}
    {H' : Handler (W × C) (fun c => R c.2) ε τ} {see : τ → σ} {w : W}
    (h : ∀ c t, (H' (w, c) t).1 = (H c (see t)).1 ∧ see (H' (w, c) t).2 = (H c (see t)).2)
    (p : Prog C R ε α) (t : τ) :
    ((p.placed w).run H' t).1 = (p.run H (see t)).1 ∧
      see ((p.placed w).run H' t).2 = (p.run H (see t)).2 := by
  induction p generalizing t with
  | ret a => exact ⟨rfl, rfl⟩
  | fail e => exact ⟨rfl, rfl⟩
  | call c k ih =>
    rw [placed, run_call, run_call, ← (h c t).2, (h c t).1]
    exact ih _ _

end Prog

/-- A handler at every site: `see` is the store a site sees, and `put` what it leaves. -/
def Handler.placed {W C : Type} {R : C → Type} {ε σ τ : Type} (H : Handler C R ε σ)
    (see : W → τ → σ) (put : W → σ → τ → τ) : Handler (W × C) (fun c => R c.2) ε τ :=
  fun c t => ((H c.2 (see c.1 t)).1, put c.1 (H c.2 (see c.1 t)).2 t)

end Awaiting
