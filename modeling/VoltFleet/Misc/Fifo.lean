import Mathlib.Data.List.Basic

/-!
# Queues and their events

What goes into a first-in first-out queue and what comes out of it.  Whatever the order
of the events, what has come out and what is left is what was there and has gone in, in
this order.
-/

namespace Fifo

/-- Several elements go in, in this order, or the oldest one comes out. -/
inductive Event (α : Type) where
  | pushed (data : List α)
  | popped (a : α)
  deriving DecidableEq

variable {α : Type}

namespace Event

/-- What an event puts in. -/
def ins : Event α → List α
  | pushed data => data
  | popped _ => []

/-- What an event takes out. -/
def outs : Event α → List α
  | pushed _ => []
  | popped a => [a]

end Event

/-- From the queue `l₀`, the oldest element first, the events lead to `left`: what has come out
and what is left is what was there and has gone in. -/
def Balanced (l₀ : List α) (events : List (Event α)) (left : List α) : Prop :=
  l₀ ++ events.flatMap Event.ins = events.flatMap Event.outs ++ left

theorem balanced_nil (l : List α) : Balanced l [] l := by
  simp [Balanced]

theorem balanced_pushed (l data : List α) : Balanced l [.pushed data] (l ++ data) := by
  simp [Balanced, Event.ins, Event.outs]

theorem balanced_popped (a : α) (l : List α) : Balanced (a :: l) [.popped a] l := by
  simp [Balanced, Event.ins, Event.outs]

/-- Events after events. -/
theorem Balanced.append {l₀ l l' : List α} {es es' : List (Event α)} (h : Balanced l₀ es l)
    (h' : Balanced l es' l') : Balanced l₀ (es ++ es') l' := by
  unfold Balanced at h h' ⊢
  calc l₀ ++ (es ++ es').flatMap Event.ins
      = (l₀ ++ es.flatMap Event.ins) ++ es'.flatMap Event.ins := by simp
    _ = es.flatMap Event.outs ++ (l ++ es'.flatMap Event.ins) := by
      rw [h, List.append_assoc]
    _ = (es ++ es').flatMap Event.outs ++ l' := by
      rw [h', ← List.append_assoc, List.flatMap_append]

end Fifo
