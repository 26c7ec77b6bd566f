import VoltFleet.Misc.Interleaving

/-!
# Programs among more commands

A program over the commands `C` is a program over `C` and further commands `D`, none of
which it issues.  It does the same there, as the commands `C` do what they did.
-/

namespace Awaiting

variable {C D : Type} {R : C → Type} {Q : D → Type} {ε α σ : Type}

namespace Prog

/-- The program among more commands. -/
def extend : Prog C R ε α → Prog (C ⊕ D) (Sum.elim R Q) ε α
  | .ret a => .ret a
  | .fail e => .fail e
  | .call c k => .call (.inl c) fun r => (k r).extend

theorem Issues.extend {P : C ⊕ D → Prop} {p : Prog C R ε α} (h : p.Issues fun c => P (.inl c)) :
    (p.extend : Prog (C ⊕ D) (Sum.elim R Q) ε α).Issues P := by
  induction p with
  | ret a => trivial
  | fail e => trivial
  | call c k ih => exact ⟨h.1, fun r => ih r (h.2 r)⟩

end Prog

/-- The handler of both kinds of commands. -/
def Handler.sum (H : Handler C R ε σ) (H' : Handler D Q ε σ) :
    Handler (C ⊕ D) (Sum.elim R Q) ε σ
  | .inl c, s => H c s
  | .inr d, s => H' d s

theorem Prog.run_extend (H : Handler C R ε σ) (H' : Handler D Q ε σ) (p : Prog C R ε α) (s : σ) :
    p.extend.run (H.sum H') s = p.run H s := by
  induction p generalizing s with
  | ret a => rfl
  | fail e => rfl
  | call c k ih => exact ih _ _

end Awaiting
