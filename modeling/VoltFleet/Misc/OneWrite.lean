import VoltFleet.Misc.Notes

/-!
# Programs that write once

A program that only looks at the tables, then writes one row and from there on at most
writes elsewhere needs no transaction: if it fails it has written nothing, and between its
write and its end no table can let it down.  The rules follow the shape of a program.
-/

namespace Awaiting

/-- What a completed command has done: looked at a table, written one, or written elsewhere. -/
inductive Effect where
  | looked
  | wrote
  | wroteElsewhere
  deriving DecidableEq

namespace Effect

variable {ε α : Type}

/-- Nothing has been written. -/
def Looking (l : List Effect) (_ : Option (Except ε α)) : Prop := ∀ x ∈ l, x = looked

end Effect

namespace Prog

open Effect

variable {C : Type} {R : C → Type} {ε α β : Type} {note : (c : C) → Except ε (R c) → Option Effect}
  {p : Prog C R ε α} {f : α → Prog C R ε β} {h : ε → Prog C R ε α}

/-- A program whose commands are all of a kind. -/
theorem Issues.tells_all {P : C → Prop} {Q : Effect → Prop} (hp : p.Issues P)
    (hnote : ∀ c r x, P c → note c r = some x → Q x) : p.Tells note fun l _ => ∀ x ∈ l, Q x := by
  induction p with
  | ret a => exact fun _ hx => absurd hx List.not_mem_nil
  | fail e => exact fun _ hx => absurd hx List.not_mem_nil
  | call c k ih =>
    refine ⟨fun _ hx => absurd hx List.not_mem_nil, fun r => ?_⟩
    refine (ih r (hp.2 r)).mono fun l o hl x hx => ?_
    rcases List.mem_append.mp hx with hx | hx
    · exact hnote c r x hp.1 (Option.mem_toList.mp hx)
    · exact hl x hx

end Prog

end Awaiting
