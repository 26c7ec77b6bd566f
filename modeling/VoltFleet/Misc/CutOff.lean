import VoltFleet.Misc.Program

/-!
# A client that starts failing

Some commands of a program are sent to a server.  After a number of them the server
is cut off: each further one throws and changes nothing.
-/

namespace Awaiting

variable {C : Type} {R : C → Type} {ε σ α β : Type}

/-- The commands in `remote` are answered as long as there are answers left. -/
def cutOff (H : Handler C R ε σ) (remote : C → Bool) (e : ε) : Handler C R ε (σ × Nat) :=
  fun c s =>
    if remote c then
      match s.2 with
      | 0 => (.error e, s)
      | n + 1 => ((H c s.1).1, (H c s.1).2, n)
    else ((H c s.1).1, (H c s.1).2, s.2)

section

variable {H : Handler C R ε σ} {remote : C → Bool} {e : ε} {c : C} {s : σ} {n : Nat}

theorem cutOff_succ (h : remote c = true) :
    cutOff H remote e c (s, n + 1) = ((H c s).1, (H c s).2, n) := by
  rw [cutOff, if_pos h]

theorem cutOff_local (h : remote c = false) :
    cutOff H remote e c (s, n) = ((H c s).1, (H c s).2, n) := by
  rw [cutOff, if_neg (Bool.eq_false_iff.mp h)]

/-- A program that sends nothing to the server does not notice. -/
theorem Prog.Issues.run_cutOff {p : Prog C R ε α} (hp : p.Issues fun c => remote c = false)
    (s : σ) (n : Nat) :
    p.run (cutOff H remote e) (s, n) = ((p.run H s).1, (p.run H s).2, n) := by
  induction p generalizing s with
  | ret a => rfl
  | fail e' => rfl
  | call c k ih =>
    rw [Prog.run_call, Prog.run_call, cutOff_local hp.1]
    exact ih _ (hp.2 _) _

end

end Awaiting
