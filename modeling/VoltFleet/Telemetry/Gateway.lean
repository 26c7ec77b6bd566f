import Mathlib.Data.Finset.Basic
import Mathlib.Data.Rat.Init

/-!
# `TelemetryGateway`

The gateway keeps, for every client, the set of fleets it has subscribed to, and
puts the client's socket in one room for each of them.  `rooms` and `emitted`
are the part socket.io plays: the rooms each connected socket is in, and what
has been sent to which sockets, newest first.
-/

namespace VoltFleet

/-- `client.id`. -/
abbrev ClientId := String

/-- The message of one reading. -/
structure TelemetryPayload where
  vehicleId : String
  fleetId : String
  latitude : ℚ
  longitude : ℚ
  speed : ℚ
  soc : ℚ
  temperature : ℚ
  receivedAt : Nat
  deriving DecidableEq

/-- One emit and the sockets it reached. -/
structure Delivery where
  clients : Finset ClientId
  telemetry : TelemetryPayload
  deriving DecidableEq

/-- The subscriptions the gateway keeps, and what socket.io keeps: the sockets, their rooms and
the emits, latest first. -/
structure Gateway where
  subscriptions : ClientId → Option (Finset String)
  connected : Finset ClientId
  rooms : ClientId → Finset String
  emitted : List Delivery

namespace Gateway

/-- A server that no client has connected to. -/
def empty : Gateway := ⟨fun _ => none, ∅, fun _ => ∅, []⟩

/-- The room of a fleet's subscribers. -/
def fleetRoom (fleetId : String) : String := "fleet:" ++ fleetId

/-- `client.join(room)`. -/
def join (g : Gateway) (client : ClientId) (room : String) : Gateway :=
  { g with rooms := Function.update g.rooms client (insert room (g.rooms client)) }

/-- `client.leave(room)`. -/
def leave (g : Gateway) (client : ClientId) (room : String) : Gateway :=
  { g with rooms := Function.update g.rooms client ((g.rooms client).erase room) }

/-- A socket connects; it is in no room yet, and the handler only logs. -/
def handleConnection (g : Gateway) (client : ClientId) : Gateway :=
  { g with
    connected := insert client g.connected
    rooms := Function.update g.rooms client ∅ }

/-- A socket disconnects: it leaves its rooms, and its entry is deleted. -/
def handleDisconnect (g : Gateway) (client : ClientId) : Gateway :=
  { g with
    connected := g.connected.erase client
    rooms := Function.update g.rooms client ∅
    subscriptions := Function.update g.subscriptions client none }

/-- A socket subscribes; an empty fleet is ignored. -/
def handleSubscribe (g : Gateway) (fleetId : String) (client : ClientId) : Gateway :=
  if fleetId = "" then g
  else
    let set := insert fleetId ((g.subscriptions client).getD ∅)
    { g with subscriptions := Function.update g.subscriptions client (some set) }.join client
      (fleetRoom fleetId)

/-- A socket unsubscribes; one without subscriptions is ignored. -/
def handleUnsubscribe (g : Gateway) (fleetId : String) (client : ClientId) : Gateway :=
  match g.subscriptions client with
  | none => g
  | some set =>
      { g with
        subscriptions := Function.update g.subscriptions client (some (set.erase fleetId)) }.leave
        client (fleetRoom fleetId)

/-- The sockets an emit to a room reaches. -/
def members (g : Gateway) (room : String) : Finset ClientId :=
  g.connected.filter fun client => room ∈ g.rooms client

/-- Emits to the sockets that are in the room of the fleet. -/
def broadcastToFleet (g : Gateway) (fleetId : String) (telemetry : TelemetryPayload) : Gateway :=
  { g with emitted := ⟨g.members (fleetRoom fleetId), telemetry⟩ :: g.emitted }

/-- The client is subscribed to the fleet. -/
def Subscribed (g : Gateway) (client : ClientId) (fleetId : String) : Prop :=
  ∃ set, g.subscriptions client = some set ∧ fleetId ∈ set

end Gateway

end VoltFleet
