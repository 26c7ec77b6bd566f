import VoltFleet.Misc.Unwinding
import VoltFleet.Proofs.WritesOnce
import VoltFleet.Vehicle.Proofs.Membership

/-!
# Requests that might as well not have been sent

A request that has failed has only looked, and looking leaves the store as it was.  A run
without such requests is therefore the same run for everybody else.
-/

namespace VoltFleet

open Awaiting

/-- The command makes a random choice even if it is refused: a salt, or the order of rows that
are sorted alike. -/
def Cmd.draws : Cmd → Bool
  | .process .genSalt => true
  | .vehicles (.getManyAndCount ..) => true
  | .fleets (.getManyAndCount ..) => true
  | .telemetry (.findLatest _) => true
  | .telemetry (.getManyAndCount ..) => true
  | _ => false

/-- By this answer the command has not done anything. -/
structure Cmd.Idle (c : Cmd) (r : Except Thrown c.Answer) : Prop where
  looked : ∀ x, c.did r = some x → x = .looked
  plain : c.draws = false

section

variable {P : Platform} {s : Store} {c : Cmd}

theorem commit_failed {β : Type} {r : Except Thrown (β × Store)} {e : Thrown}
    (h : (commit s r).1 = .error e) : (commit s r).2 = s := by
  cases r with
  | error e' => rfl
  | ok r => cases h

/-- A command of the cache that is refused changes nothing. -/
theorem redis_failed (c : RedisCmd) {e : Thrown} (h : (c.exec s).1 = .error e) :
    (c.exec s).2 = s := by
  cases c with
  | rpush key data =>
    rw [RedisCmd.exec] at h ⊢
    split at h <;> simp_all
  | hset key field value =>
    rw [RedisCmd.exec] at h ⊢
    split at h <;> simp_all
  | get key => rfl
  | lrange key => rfl
  | set key value => cases h
  | expire key ttl => cases h
  | del key => cases h

/-- A command that is refused changes nothing. -/
theorem exec_failed (hdraws : c.draws = false) {e : Thrown} (h : (exec P c s).1 = .error e) :
    (exec P c s).2 = s := by
  cases c with
  | users c =>
    cases c with
    | insert user => exact commit_failed h
    | save user => exact commit_failed h
    | _ => rfl
  | roles c =>
    cases c with
    | insert dto => exact commit_failed h
    | save role => exact commit_failed h
    | _ => rfl
  | privileges c =>
    cases c with
    | insert dto => exact commit_failed h
    | _ => rfl
  | fleets c =>
    cases c with
    | insert name manager => exact commit_failed h
    | save fleet => exact commit_failed h
    | remove fleet => exact commit_failed h
    | findOneWithVehicles id => rfl
    | getManyAndCount skip take => cases hdraws
  | vehicles c =>
    cases c with
    | insert dto => exact commit_failed h
    | save vehicle => exact commit_failed h
    | remove vehicle => exact commit_failed h
    | findOne id => rfl
    | getManyAndCount status fleetId skip take => cases hdraws
  | telemetry c =>
    cases c with
    | insert reading => exact commit_failed h
    | findLatest vehicleId => cases hdraws
    | getManyAndCount vehicleId from? to? skip take => cases hdraws
  | redis c => exact redis_failed c h
  | process c => cases c <;> cases h

/-- A command that looks changes nothing. -/
theorem exec_looks (hdraws : c.draws = false) (h : c.Looks) : (exec P c s).2 = s := by
  cases c with
  | users c => cases c <;> first | rfl | simp [Cmd.Looks, Cmd.effect] at h
  | roles c => cases c <;> first | rfl | simp [Cmd.Looks, Cmd.effect] at h
  | privileges c => cases c <;> first | rfl | simp [Cmd.Looks, Cmd.effect] at h
  | fleets c => cases c <;> first | cases hdraws; done | rfl | simp [Cmd.Looks, Cmd.effect] at h
  | vehicles c => cases c <;> first | cases hdraws; done | rfl | simp [Cmd.Looks, Cmd.effect] at h
  | telemetry c =>
    cases c <;> first | cases hdraws; done | rfl | simp [Cmd.Looks, Cmd.effect] at h
  | redis c => cases c <;> first | rfl | simp [Cmd.Looks, Cmd.effect] at h
  | process c => cases c <;> first | cases hdraws; done | rfl | simp [Cmd.Looks, Cmd.effect] at h

/-- What has not done anything has changed nothing. -/
theorem Cmd.Idle.exec (h : c.Idle (exec P c s).1) : (VoltFleet.exec P c s).2 = s := by
  by_cases hlooks : c.Looks
  · exact exec_looks h.plain hlooks
  · cases hr : (VoltFleet.exec P c s).1 with
    | error e => exact exec_failed h.plain hr
    | ok a =>
      have hlooked := h.looked
      rw [hr] at hlooked
      unfold Cmd.Looks at hlooks
      cases heffect : c.effect with
      | none => exact absurd (.inl heffect) hlooks
      | some x =>
        have hx : x = .looked := hlooked x heffect
        exact absurd (.inr (hx ▸ heffect)) hlooks

end

namespace HttpRequest

variable {ι : Type} [DecidableEq ι]

end HttpRequest

end VoltFleet
