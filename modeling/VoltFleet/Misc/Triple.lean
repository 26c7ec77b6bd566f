import VoltFleet.Misc.Sequential

/-!
# Preconditions and postconditions

A triple says what holds of the store that a program leaves which is served by
itself, when it returns and when it throws.  Each command may fail and the
environment may act before it, so that what a rule assumes of the store where a
command is awaited has to be stable.
-/

namespace Awaiting

variable {C : Type} {R : C → Type} {ε α β σ ρ : Type} {S : System C R ε σ ρ}

/-- The environment keeps the assertion. -/
def System.Stable (S : System C R ε σ ρ) (A : σ → Prop) : Prop :=
  ∀ x s, A s → A (S.env x s)

/-! ## How a program completes -/

namespace Completes

variable {A : σ → Prop} {s s' : σ}

theorem of_ret (hA : S.Stable A) {a : α} {r : Except ε α} (h : Completes S (.ret a) s r s')
    (hs : A s) : r = .ok a ∧ A s' := by
  generalize hp : (Prog.ret a : Prog C R ε α) = p at h
  induction h with
  | ret b s =>
    cases hp
    exact ⟨rfl, hs⟩
  | env x h ih => exact ih (hA x _ hs) hp
  | _ => cases hp

theorem of_fail (hA : S.Stable A) {e : ε} {r : Except ε α} (h : Completes S (.fail e) s r s')
    (hs : A s) : r = .error e ∧ A s' := by
  generalize hp : (Prog.fail e : Prog C R ε α) = p at h
  induction h with
  | fail e s =>
    cases hp
    exact ⟨rfl, hs⟩
  | env x h ih => exact ih (hA x _ hs) hp
  | _ => cases hp

/-- The command is answered or fails, in a store where the assertion still holds. -/
theorem of_call (hA : S.Stable A) {c : C} {k : Except ε (R c) → Prog C R ε α} {r : Except ε α}
    (h : Completes S (.call c k) s r s') (hs : A s) :
    ∃ t, A t ∧ (Completes S (k (S.handler c t).1) (S.handler c t).2 r s' ∨
      ∃ e, S.fault c = some e ∧ Completes S (k (.error e)) t r s') := by
  generalize hp : Prog.call c k = p at h
  induction h with
  | answered h ih =>
    cases hp
    exact ⟨_, hs, .inl h⟩
  | faulted hf h ih =>
    cases hp
    exact ⟨_, hs, .inr ⟨_, hf, h⟩⟩
  | env x h ih => exact ih (hA x _ hs) hp
  | _ => cases hp

/-- What can happen once the environment has acted could happen before. -/
theorem stable_from (S : System C R ε σ ρ) (p : Prog C R ε α) (s : σ) :
    S.Stable fun t => ∀ r s', Completes S p t r s' → Completes S p s r s' :=
  fun x _ h r s' hc => h r s' (.env x hc)

/-- The first program throws, or the second goes on from what it returns. -/
theorem of_bind {p : Prog C R ε α} {f : α → Prog C R ε β} {r : Except ε β}
    (h : Completes S (p >>= f) s r s') :
    (∃ a t, Completes S p s (.ok a) t ∧ Completes S (f a) t r s') ∨
      ∃ e, r = .error e ∧ Completes S p s (.error e) s' := by
  induction p generalizing s with
  | ret a => exact .inl ⟨a, s, .ret a s, h⟩
  | fail e =>
    obtain ⟨hr, hfrom⟩ := of_fail (stable_from S (.fail e : Prog C R ε α) s) h fun _ _ hc => hc
    exact .inr ⟨e, hr, hfrom _ _ (.fail e s')⟩
  | call c k ih =>
    obtain ⟨t, hfrom, hk⟩ := of_call (stable_from S (.call c k) s) h fun _ _ hc => hc
    rcases hk with hk | ⟨e, hf, hk⟩
    · rcases ih _ hk with ⟨a, t', hp, ha⟩ | ⟨e, hr, hp⟩
      · exact .inl ⟨a, t', hfrom _ _ (.answered hp), ha⟩
      · exact .inr ⟨e, hr, hfrom _ _ (.answered hp)⟩
    · rcases ih _ hk with ⟨a, t', hp, ha⟩ | ⟨e', hr, hp⟩
      · exact .inl ⟨a, t', hfrom _ _ (.faulted hf hp), ha⟩
      · exact .inr ⟨e', hr, hfrom _ _ (.faulted hf hp)⟩

/-- The program returns, or the handler goes on from what it throws. -/
theorem of_tryCatch {p : Prog C R ε α} {f : ε → Prog C R ε α} {r : Except ε α}
    (h : Completes S (MonadExcept.tryCatch p f) s r s') :
    (∃ a, r = .ok a ∧ Completes S p s (.ok a) s') ∨
      ∃ e t, Completes S p s (.error e) t ∧ Completes S (f e) t r s' := by
  induction p generalizing s with
  | ret a =>
    obtain ⟨hr, hfrom⟩ := of_ret (stable_from S (.ret a : Prog C R ε α) s) h fun _ _ hc => hc
    exact .inl ⟨a, hr, hfrom _ _ (.ret a s')⟩
  | fail e => exact .inr ⟨e, s, .fail e s, h⟩
  | call c k ih =>
    obtain ⟨t, hfrom, hk⟩ := of_call (stable_from S (.call c k) s) h fun _ _ hc => hc
    rcases hk with hk | ⟨e, hf, hk⟩
    · rcases ih _ hk with ⟨a, hr, hp⟩ | ⟨e, t', hp, hh⟩
      · exact .inl ⟨a, hr, hfrom _ _ (.answered hp)⟩
      · exact .inr ⟨e, t', hfrom _ _ (.answered hp), hh⟩
    · rcases ih _ hk with ⟨a, hr, hp⟩ | ⟨e', t', hp, hh⟩
      · exact .inl ⟨a, hr, hfrom _ _ (.faulted hf hp)⟩
      · exact .inr ⟨e', t', hfrom _ _ (.faulted hf hp), hh⟩

end Completes

/-! ## Triples -/

/-- What an outcome leaves: `Q` with a value, `E` with an exception. -/
def Leaves (Q : α → σ → Prop) (E : ε → σ → Prop) : Except ε α → σ → Prop
  | .ok a => Q a
  | .error e => E e

/-- Started where `A` holds, the program leaves `Q` if it returns and `E` if it throws. -/
def Triple (S : System C R ε σ ρ) (A : σ → Prop) (p : Prog C R ε α) (Q : α → σ → Prop)
    (E : ε → σ → Prop) : Prop :=
  ∀ s r s', A s → Completes S p s r s' → Leaves Q E r s'

namespace Triple

variable {A A' : σ → Prop} {Q Q' : α → σ → Prop} {E E' : ε → σ → Prop} {p : Prog C R ε α}

theorem imp (h : Triple S A p Q E) (hA : ∀ s, A' s → A s) (hQ : ∀ a s, Q a s → Q' a s)
    (hE : ∀ e s, E e s → E' e s) : Triple S A' p Q' E' := by
  intro s r s' hs hc
  have hleaves := h s r s' (hA s hs) hc
  cases r with
  | ok a => exact hQ a s' hleaves
  | error e => exact hE e s' hleaves

/-- What follows from the precondition and is not about the store. -/
theorem assuming {φ : Prop} (hφ : ∀ s, A s → φ) (h : φ → Triple S A p Q E) :
    Triple S A p Q E :=
  fun s r s' hs hc => h (hφ s hs) s r s' hs hc

theorem ret {a : α} (hQ : S.Stable (Q a)) (h : ∀ s, A s → Q a s) : Triple S A (.ret a) Q E := by
  intro s r s' hs hc
  obtain ⟨rfl, hs'⟩ := hc.of_ret hQ (h s hs)
  exact hs'

theorem fail {e : ε} (hE : S.Stable (E e)) (h : ∀ s, A s → E e s) :
    Triple S A (.fail e) Q E := by
  intro s r s' hs hc
  obtain ⟨rfl, hs'⟩ := hc.of_fail hE (h s hs)
  exact hs'

theorem await {c : C} {Q : R c → σ → Prop} (hA : S.Stable A) (hQ : ∀ a, S.Stable (Q a))
    (hE : ∀ e, S.Stable (E e))
    (answered : ∀ s, A s → Leaves Q E (S.handler c s).1 (S.handler c s).2)
    (faulted : ∀ e s, S.fault c = some e → A s → E e s) : Triple S A (.await c) Q E := by
  intro s r s' hs hc
  obtain ⟨t, ht, hk | ⟨e, hf, hk⟩⟩ := hc.of_call hA hs
  · have hleaves := answered t ht
    cases hr : (S.handler c t).1 with
    | ok a =>
      rw [hr] at hk hleaves
      exact ret (hQ a) (fun _ h => h) _ _ _ hleaves hk
    | error e =>
      rw [hr] at hk hleaves
      exact fail (hE e) (fun _ h => h) _ _ _ hleaves hk
  · exact fail (hE e) (faulted e · hf) _ _ _ ht hk

theorem bind {f : α → Prog C R ε β} {Q' : β → σ → Prop} (hp : Triple S A p Q E)
    (hf : ∀ a, Triple S (Q a) (f a) Q' E) : Triple S A (p >>= f) Q' E := by
  intro s r s' hs hc
  rcases hc.of_bind with ⟨a, t, hp', hf'⟩ | ⟨e, rfl, hp'⟩
  · exact hf a t r s' (hp s _ t hs hp') hf'
  · exact hp s _ s' hs hp'

theorem tryCatch {f : ε → Prog C R ε α} (hp : Triple S A p Q E)
    (hf : ∀ e, Triple S (E e) (f e) Q E') : Triple S A (MonadExcept.tryCatch p f) Q E' := by
  intro s r s' hs hc
  rcases hc.of_tryCatch with ⟨a, rfl, hp'⟩ | ⟨e, t, hp', hf'⟩
  · exact hp s _ s' hs hp'
  · exact hf e t r s' (hp s _ t hs hp') hf'

end Triple

end Awaiting
