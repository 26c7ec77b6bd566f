import VoltFleet.Misc.Interleaving

/-!
# The exceptions a program ends with

`Raises D r` says that the exception of `r`, if it is one, is in `D`.  A program throws
exceptions in `E` if, whatever its commands answer and as long as their exceptions are
in `D`, every exception that it ends with is in `E`.
-/

namespace Awaiting

section

variable {ε α β : Type} {D E : ε → Prop}

/-- An exception, if there is one, is of kind `D`. -/
def Raises (D : ε → Prop) : Except ε α → Prop
  | .ok _ => True
  | .error e => D e

theorem Raises.mono {r : Except ε α} (h : Raises D r) (hDE : ∀ e, D e → E e) : Raises E r := by
  cases r with
  | ok a => trivial
  | error e => exact hDE e h

theorem Raises.bind {r : Except ε α} {f : α → Except ε β} (hr : Raises D r)
    (hf : ∀ a, Raises D (f a)) : Raises D (r >>= f) := by
  cases r with
  | ok a => exact hf a
  | error e => exact hr

end

variable {C : Type} {R : C → Type} {ε α β : Type} {D E F : ε → Prop}

namespace Prog

/-- Where the commands raise only `D`, the program raises only `E`. -/
def Throws (D E : ε → Prop) : Prog C R ε α → Prop
  | .ret _ => True
  | .fail e => E e
  | .call _ k => ∀ r, Raises D r → (k r).Throws D E

theorem Throws.mono {p : Prog C R ε α} (hp : p.Throws D E) (h : ∀ e, E e → F e) :
    p.Throws D F := by
  induction p with
  | ret a => trivial
  | fail e => exact h e hp
  | call c k ih => exact fun r hr => ih r (hp r hr)

theorem throws_ofExcept {r : Except ε α} (h : Raises E r) :
    (ofExcept r : Prog C R ε α).Throws D E := by
  cases r with
  | ok a => trivial
  | error e => exact h

theorem Throws.await (c : C) (h : ∀ e, D e → E e) :
    (await c : Prog C R ε (R c)).Throws D E :=
  fun _ hr => throws_ofExcept (hr.mono h)

theorem Throws.bind {p : Prog C R ε α} {f : α → Prog C R ε β} (hp : p.Throws D E)
    (hf : ∀ a, (f a).Throws D E) : (p >>= f).Throws D E := by
  induction p with
  | ret a => exact hf a
  | fail e => exact hp
  | call c k ih => exact fun r hr => ih r (hp r hr)

theorem Throws.tryCatch {p : Prog C R ε α} {h : ε → Prog C R ε α} (hp : p.Throws D F)
    (hh : ∀ e, F e → (h e).Throws D E) : (MonadExcept.tryCatch p h).Throws D E := by
  induction p with
  | ret a => trivial
  | fail e => exact hh e hp
  | call c k ih => exact fun r hr => ih r (hp r hr)

end Prog

end Awaiting
