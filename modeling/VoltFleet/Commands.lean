import VoltFleet.Misc.Interleaving
import VoltFleet.Repository.Access
import VoltFleet.Repository.Fleets
import VoltFleet.Repository.Telemetry
import VoltFleet.Repository.Users

/-!
# The commands a service awaits

A service is a program over these commands: the repositories, the Redis client,
and what a service reads or changes in its own process (the clock, the salt of a
hash, the session object, the websocket server).
-/

namespace VoltFleet

open Awaiting

/-- The commands of the Redis client. -/
inductive RedisCmd where
  | get (key : String)
  | set (key value : String)
  | expire (key : String) (ttl : Nat)
  | del (key : String)
  | rpush (key : String) (data : List String)
  /-- The whole list: `LRANGE key 0 -1`. -/
  | lrange (key : String)
  | hset (key field value : String)
  deriving DecidableEq

/-- What a command replies. -/
abbrev RedisCmd.Answer : RedisCmd → Type
  | .get _ => Option String
  | .set .. => Unit
  | .expire .. => Unit
  | .del _ => Unit
  | .rpush .. => Unit
  | .lrange _ => List String
  | .hset .. => Unit

/-- What a command throws that finds another kind of value under its key. -/
def wrongType : Thrown :=
  .error "WRONGTYPE Operation against a key holding the wrong kind of value"

/-- Set a field of a hash. -/
def setField (field value : String) : List (String × String) → List (String × String)
  | [] => [(field, value)]
  | (name, old) :: fields =>
      if name = field then (field, value) :: fields
      else (name, old) :: setField field value fields

/-- What a command does to the cache. -/
def RedisCmd.exec (s : Store) : (c : RedisCmd) → Except Thrown c.Answer × Store
  | .get key =>
      (match s.cache.get s.clock key with
        | none => .ok none
        | some (.str value) => .ok (some value)
        | some _ => .error wrongType,
        s)
  | .set key value => (.ok (), { s with cache := s.cache.set key (.str value) })
  | .expire key ttl => (.ok (), { s with cache := s.cache.expire s.clock key ttl })
  | .del key => (.ok (), { s with cache := s.cache.del key })
  | .rpush key data =>
      match s.cache.get s.clock key with
      | none => (.ok (), { s with cache := s.cache.replace s.clock key (.list data) })
      | some (.list l) =>
          (.ok (), { s with cache := s.cache.replace s.clock key (.list (l ++ data)) })
      | some _ => (.error wrongType, s)
  | .lrange key =>
      (match s.cache.get s.clock key with
        | none => .ok []
        | some (.list l) => .ok l
        | some _ => .error wrongType,
        s)
  | .hset key field value =>
      match s.cache.get s.clock key with
      | none => (.ok (), { s with cache := s.cache.replace s.clock key (.hash [(field, value)]) })
      | some (.hash fields) =>
          (.ok (), { s with
            cache := s.cache.replace s.clock key (.hash (setField field value fields)) })
      | some _ => (.error wrongType, s)

/-- The client changes the cache only. -/
theorem RedisCmd.exec_store (c : RedisCmd) (s : Store) :
    ∃ cache, (c.exec s).2 = { s with cache := cache } := by
  cases c with
  | rpush key data =>
    rw [exec]
    split <;> exact ⟨_, rfl⟩
  | hset key field value =>
    rw [exec]
    split <;> exact ⟨_, rfl⟩
  | _ => exact ⟨_, rfl⟩

/-- What a service takes from its own process and the objects in it. -/
inductive ProcessCmd where
  /-- `Date.now()`. -/
  | now
  /-- `bcrypt.genSalt()`. -/
  | genSalt
  /-- `session.currentUser = user`. -/
  | setCurrentUser (session : Nat) (user : User)
  /-- `server.to(room).emit('telemetry', telemetry)`. -/
  | broadcast (fleetId : String) (telemetry : TelemetryPayload)

/-- What it gets. -/
abbrev ProcessCmd.Answer : ProcessCmd → Type
  | .now => Nat
  | .genSalt => Nat
  | .setCurrentUser .. => Unit
  | .broadcast .. => Unit

/-- What is done in the process. -/
def ProcessCmd.exec (s : Store) : (c : ProcessCmd) → Except Thrown c.Answer × Store
  | .now => (.ok s.clock, s)
  | .genSalt => (.ok s.draws, { s with draws := s.draws + 1 })
  | .setCurrentUser session user =>
      (.ok (), { s with sessions := Function.update s.sessions session (some user) })
  | .broadcast fleetId telemetry =>
      (.ok (), { s with gateway := s.gateway.broadcastToFleet fleetId telemetry })

/-- Everything a service awaits. -/
inductive Cmd where
  | users (c : UserCmd)
  | roles (c : RoleCmd)
  | privileges (c : PrivilegeCmd)
  | fleets (c : FleetCmd)
  | vehicles (c : VehicleCmd)
  | telemetry (c : TelemetryCmd)
  | redis (c : RedisCmd)
  | process (c : ProcessCmd)

/-- What an awaited call returns. -/
abbrev Cmd.Answer : Cmd → Type
  | .users c => c.Answer
  | .roles c => c.Answer
  | .privileges c => c.Answer
  | .fleets c => c.Answer
  | .vehicles c => c.Answer
  | .telemetry c => c.Answer
  | .redis c => c.Answer
  | .process c => c.Answer

/-- What each command does to the stores. -/
def exec (P : Platform) : Handler Cmd Cmd.Answer Thrown Store
  | .users c, s => c.exec P s
  | .roles c, s => c.exec P s
  | .privileges c, s => c.exec P s
  | .fleets c, s => c.exec P s
  | .vehicles c, s => c.exec P s
  | .telemetry c, s => c.exec P s
  | .redis c, s => c.exec s
  | .process c, s => c.exec s

/-- A call that leaves the process can fail; the process itself does not. -/
def canFail : Cmd → Option Thrown
  | .process _ => none
  | _ => some .storeFailed

/-- The environment of the services lets time pass. -/
def elapse (d : Nat) (s : Store) : Store := { s with clock := s.clock + d }

/-- The services of one process: their commands, and time passing meanwhile. -/
def system (P : Platform) : System Cmd Cmd.Answer Thrown Store Nat := ⟨exec P, canFail, elapse⟩

/-- An `async` method. -/
abbrev Service (α : Type) : Type := Prog Cmd Cmd.Answer Thrown α

/-- The stores and the calls that are being served. -/
abbrev Serving (ι α : Type) : Type := Config ι Cmd Cmd.Answer Thrown α Store

namespace Service

variable {α : Type}

/-- Await one command. -/
def await (c : Cmd) : Service c.Answer := Prog.await c

/-- A call whose result is dropped. -/
def dropResult (p : Service α) : Service Unit := do
  let _ ← p

theorem run_dropResult {σ : Type} (H : Handler Cmd Cmd.Answer Thrown σ) (p : Service α) (s : σ) :
    (dropResult p).run H s = ((p.run H s).1.map fun _ => (), (p.run H s).2) := by
  rw [dropResult, Prog.run_bind]
  rcases p.run H s with ⟨r, s'⟩
  cases r <;> rfl

/-- A value or the exception thrown in its place. -/
def lift (r : Except Thrown α) : Service α := Prog.ofExcept r

end Service

end VoltFleet
