import VoltFleet.Cache.Proofs.Queue
import VoltFleet.Misc.Tickets

/-!
# Counters

`incr` makes a counter of a text.  In every run of calls that leave the key otherwise
alone, the calls get the numbers after the first one, each of them once.
-/

namespace VoltFleet

open Awaiting Tickets

/-- The key is a counter that does not expire; a missing key is a counter at 0. -/
structure CounterAt (key : String) (n : Int) (s : Store) : Prop where
  entry : s.cache.entry key = none ∧ n = 0 ∨ s.cache.entry key = some ⟨.str n.repr, none⟩
  lower : -2 ^ 63 ≤ n
  upper : n < 2 ^ 63

/-- The number that a completed command on the counter has handed out. -/
def countEvent (key : String) : (c : CacheCmd) → Except Thrown (CacheCmd.Answer c) → Option Int
  | .inr (.incr k), .ok n => if k = key then some n else none
  | _, _ => none

/-- The command on the counter, and those that leave it alone. -/
inductive CounterCmd (key : String) : CacheCmd → Prop
  | spares {c : CacheCmd} (h : c.Spares key) : CounterCmd key c
  | incr : CounterCmd key (.inr (.incr key))

/-- The call counts, or leaves the counter alone. -/
inductive CacheMethodCall.OnCounter (key : String) : CacheMethodCall → Prop
  | spares {call : CacheMethodCall} (h : call.touches ≠ some key) : OnCounter key call
  | incr : OnCounter key (.incr key)

section

variable {P : Platform} {s : Store} {key : String} {n : Int}

theorem counterOf_repr (lower : -2 ^ 63 ≤ n) (upper : n < 2 ^ 63) : counterOf n.repr = some n := by
  simp only [counterOf, Int.toInt?_repr, Option.filter_some]
  simp
  omega

/-- A counter is incremented by one, or the command is refused. -/
theorem CounterAt.incr (h : CounterAt key n s) :
    ((ListCmd.exec s (.incr key)).1 = .ok (n + 1) ∧
        CounterAt key (n + 1) (ListCmd.exec s (.incr key)).2) ∨
      ((∃ e, (ListCmd.exec s (.incr key)).1 = .error e) ∧
        CounterAt key n (ListCmd.exec s (.incr key)).2) := by
  have hlower := h.lower
  rcases h.entry with ⟨hnone, hzero⟩ | hsome
  · subst hzero
    have hget : s.cache.get s.clock key = none := Expiring.Cache.get_of_entry_none hnone _
    left
    simp only [ListCmd.exec, hget]
    refine ⟨rfl, .inr ?_, by norm_num, by norm_num⟩
    simp [Expiring.Cache.replace, Expiring.Cache.held, hnone]
  · have hget : s.cache.get s.clock key = some (.str n.repr) := by
      simp [Expiring.Cache.get, hsome, Option.filter]
    simp only [ListCmd.exec, hget, counterOf_repr h.lower h.upper]
    by_cases hmax : n + 1 = 2 ^ 63
    · right
      rw [if_pos hmax]
      exact ⟨⟨_, rfl⟩, h⟩
    · left
      have hupper := h.upper
      rw [if_neg hmax]
      refine ⟨rfl, .inr ?_, by omega, by omega⟩
      simp [Expiring.Cache.replace, Expiring.Cache.held, hsome, Option.filter]

/-- A command that leaves the counter alone hands out nothing. -/
theorem countEvent_spares {c : CacheCmd} (h : c.Spares key)
    (r : Except Thrown (CacheCmd.Answer c)) : countEvent key c r = none := by
  unfold countEvent
  split
  case h_1 k n => exact if_neg fun he => h (congrArg some he)
  case h_2 => rfl

/-- What one command hands out is the next number. -/
theorem CounterCmd.exec {c : CacheCmd} (hc : CounterCmd key c) {n₀ : Int} {l : List Int}
    (hl : Counted n₀ l n) (h : CounterAt key n s) :
    ∃ n', CounterAt key n' ((cacheSystem P).handler c s).2 ∧
      Counted n₀ (l ++ (countEvent key c ((cacheSystem P).handler c s).1).toList) n' := by
  cases hc with
  | spares hs =>
    refine ⟨n, ⟨?_, h.lower, h.upper⟩, ?_⟩
    · rw [hs.entry]
      exact h.entry
    · rw [countEvent_spares hs]
      simpa using hl
  | incr =>
    have hexec : (cacheSystem P).handler (.inr (.incr key)) s = ListCmd.exec s (.incr key) := rfl
    rw [hexec]
    rcases h.incr with ⟨hok, hafter⟩ | ⟨⟨e, herror⟩, hafter⟩
    · refine ⟨n + 1, hafter, ?_⟩
      have hevent : countEvent key (.inr (.incr key)) (ListCmd.exec s (.incr key)).1 =
          some (n + 1) := by
        rw [hok]
        exact if_pos rfl
      rw [hevent]
      exact hl.snoc
    · refine ⟨n, hafter, ?_⟩
      have hevent : countEvent key (.inr (.incr key)) (ListCmd.exec s (.incr key)).1 = none := by
        rw [herror]
        rfl
      rw [hevent]
      simpa using hl

end

/-! ## Runs -/

section

variable {ι : Type} [DecidableEq ι] {P : Platform} {key : String} {n₀ : Int}

theorem CacheMethodCall.OnCounter.issues {call : CacheMethodCall} (h : call.OnCounter key) :
    call.prog.Issues (CounterCmd key) := by
  cases h with
  | spares h => exact (call_spares h).mono fun _ => .spares
  | incr =>
    have hincr : (CacheService.incr key).Issues (CounterCmd key) :=
      .tryCatch (.bind (.await .incr) fun _ => trivial) fun _ => trivial
    exact .bind hincr fun _ => trivial

end

namespace CacheService

end CacheService

end VoltFleet
