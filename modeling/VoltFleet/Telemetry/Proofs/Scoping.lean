import VoltFleet.PlainPlatform
import VoltFleet.Telemetry.Proofs.Rooms
import VoltFleet.Telemetry.TelemetryService
import VoltFleet.Vehicle.Proofs.Membership

/-!
# Whom a reading reaches

`ingestTelemetry` takes the fleet of a reading from the request body and not from
the vehicle's row.  In a run in which every body names the fleet its vehicle is
in when the reading is sent and stored, a reading reaches subscribers of that
fleet only and is stored under that fleet.
-/

namespace VoltFleet

open Awaiting Service

/-- What happens outside the services: the events of the clients, and time passing. -/
inductive LiveEvent where
  | client (e : ClientEvent)
  | elapse (d : Nat)
  deriving DecidableEq

/-- What an event does to the gateway or the clock. -/
def LiveEvent.apply : LiveEvent → Store → Store
  | .client e, s => { s with gateway := s.gateway.handle e }
  | .elapse d, s => VoltFleet.elapse d s

/-- The services and the clients of the gateway. -/
def liveSystem (P : Platform) : System Cmd Cmd.Answer Thrown Store LiveEvent :=
  ⟨exec P, canFail, LiveEvent.apply⟩

/-- The operations that the scope of a reading depends on. -/
inductive LiveOp where
  | assignVehicleToFleet (fleetId vehicleId : String)
  | ingestTelemetry (dto : CreateTelemetryDto)

namespace LiveOp

/-- An operation as a thread. -/
def prog : LiveOp → Service Unit
  | .assignVehicleToFleet fleetId vehicleId =>
      (FleetOp.assignVehicleToFleet fleetId vehicleId).prog
  | .ingestTelemetry dto => dropResult (TelemetryService.ingestTelemetry dto)

/-- `ingestTelemetry` after the broadcast. -/
def ingestStore (dto : CreateTelemetryDto) (payload : TelemetryPayload) :
    Service TelemetryPayload := do
  try
    let _ ← Service.await (.telemetry (.insert
      { vehicleId := dto.vehicleId
        latitude := dto.latitude
        longitude := dto.longitude
        speed := dto.speed
        soc := dto.soc
        temperature := dto.temperature
        fleetId := dto.room }))
  catch _ => pure ()
  return payload

/-- The reading `ingestTelemetry` sends. -/
def reading (dto : CreateTelemetryDto) (receivedAt : Nat) : TelemetryPayload where
  vehicleId := dto.vehicleId
  fleetId := dto.room
  latitude := dto.latitude
  longitude := dto.longitude
  speed := dto.speed
  soc := dto.soc
  temperature := dto.temperature
  receivedAt := receivedAt

/-- `ingestTelemetry` from the broadcast on. -/
def ingestSend (dto : CreateTelemetryDto) (payload : TelemetryPayload) :
    Service TelemetryPayload := do
  try Service.await (.process (.broadcast payload.fleetId payload))
  catch _ => pure ()
  ingestStore dto payload

/-- `ingestTelemetry` once it has found the vehicle. -/
def ingestFound (dto : CreateTelemetryDto) : Service TelemetryPayload := do
  let receivedAt ← Service.await (.process .now)
  if dto.room ≠ "" then ingestSend dto (reading dto receivedAt)
  else ingestStore dto (reading dto receivedAt)

/-- The points of `ingestTelemetry`. -/
inductive IngestAt (dto : CreateTelemetryDto) : Service Unit → Prop where
  | start : IngestAt dto (LiveOp.ingestTelemetry dto).prog
  | found : IngestAt dto (dropResult (ingestFound dto))
  | sending (receivedAt : Nat) : IngestAt dto (dropResult (ingestSend dto (reading dto receivedAt)))
  | storing (receivedAt : Nat) :
      IngestAt dto (dropResult (ingestStore dto (reading dto receivedAt)))
  | returned : IngestAt dto (.ret ())
  | threw (e : Thrown) : IngestAt dto (.fail e)

/-- The points of an operation. -/
def At : LiveOp → Service Unit → Prop
  | .assignVehicleToFleet fleetId vehicleId, p =>
      FleetOp.At (.assignVehicleToFleet fleetId vehicleId) p
  | .ingestTelemetry dto, p => IngestAt dto p

theorem at_prog (op : LiveOp) : op.At op.prog := by
  cases op with
  | assignVehicleToFleet fleetId vehicleId => exact .start _
  | ingestTelemetry dto => exact .start

/-- The command `ingestTelemetry` awaits. -/
inductive IngestAwaits (dto : CreateTelemetryDto) : Cmd → Prop where
  | findOne : IngestAwaits dto (.vehicles (.findOne dto.vehicleId))
  | now : IngestAwaits dto (.process .now)
  | broadcast (receivedAt : Nat) :
      IngestAwaits dto (.process (.broadcast dto.room (reading dto receivedAt)))
  | insert : IngestAwaits dto (.telemetry (.insert
      { vehicleId := dto.vehicleId
        latitude := dto.latitude
        longitude := dto.longitude
        speed := dto.speed
        soc := dto.soc
        temperature := dto.temperature
        fleetId := dto.room }))

section

variable {dto : CreateTelemetryDto} {c : Cmd} {k : Except Thrown c.Answer → Service Unit}

theorem IngestAt.awaits (h : IngestAt dto (.call c k)) : IngestAwaits dto c := by
  generalize hp : Prog.call c k = p at h
  cases h with
  | start =>
    cases hp
    exact .findOne
  | found =>
    cases hp
    exact .now
  | sending receivedAt =>
    cases hp
    exact .broadcast receivedAt
  | storing receivedAt =>
    cases hp
    exact .insert
  | returned => cases hp
  | threw e => cases hp

theorem ingestAt_stored (r : Except Thrown TelemetryRow) (receivedAt : Nat) :
    IngestAt dto (dropResult (do
      try
        let _ ← Service.lift r
      catch _ => pure ()
      return reading dto receivedAt)) := by
  cases r with
  | ok row => exact .returned
  | error e => exact .returned

theorem ingestAt_sent (r : Except Thrown Unit) (receivedAt : Nat) :
    IngestAt dto (dropResult (do
      try Service.lift r
      catch _ => pure ()
      ingestStore dto (reading dto receivedAt))) := by
  cases r with
  | ok u => exact .storing receivedAt
  | error e => exact .storing receivedAt

theorem ingestAt_found (r : Except Thrown Nat) :
    IngestAt dto (dropResult (do
      let receivedAt ← Service.lift r
      if dto.room ≠ "" then ingestSend dto (reading dto receivedAt)
      else ingestStore dto (reading dto receivedAt))) := by
  cases r with
  | error e => exact .threw e
  | ok receivedAt =>
    show IngestAt dto (dropResult (if dto.room ≠ "" then _ else _))
    by_cases hroom : dto.room ≠ ""
    · rw [if_pos hroom]
      exact .sending receivedAt
    · rw [if_neg hroom]
      exact .storing receivedAt

/-- Whatever a command is answered, `ingestTelemetry` is at the next point. -/
theorem IngestAt.answer (h : IngestAt dto (.call c k)) (r : Except Thrown c.Answer) :
    IngestAt dto (k r) := by
  generalize hp : Prog.call c k = p at h
  cases h with
  | start =>
    cases hp
    cases r with
    | error e => exact .threw e
    | ok vehicle =>
      cases vehicle with
      | none => exact .threw _
      | some v => exact .found
  | found =>
    cases hp
    exact ingestAt_found r
  | sending receivedAt =>
    cases hp
    exact ingestAt_sent r receivedAt
  | storing receivedAt =>
    cases hp
    exact ingestAt_stored r receivedAt
  | returned => cases hp
  | threw e => cases hp

end

end LiveOp

/-! ## One move -/

/-- The fleet the vehicle of a request is in. -/
def Store.fleetAt (s : Store) (vehicleId : String) : Option Uuid :=
  (Uuid.ofString? vehicleId).bind fun u => (s.fleetOf u).join

/-- A reading sent between two stores reaches subscribers of its vehicle's fleet only,
and one stored is stored under that fleet, or under none where the vehicle is in none. -/
structure Scoped (s s' : Store) : Prop where
  sent : ∀ d, s'.gateway.emitted = d :: s.gateway.emitted → ∀ client ∈ d.clients,
    ∃ f, s.fleetAt d.telemetry.vehicleId = some f ∧ s.gateway.Subscribed client f.text
  stored : ∀ row, s'.telemetry.rows = row :: s.telemetry.rows → ∀ f,
    s.fleetOf row.vehicleId = some (some f) → row.fleetId = some f.text
  unassigned : ∀ row, s'.telemetry.rows = row :: s.telemetry.rows →
    (s.fleetOf row.vehicleId).join = none → ∀ text, row.fleetId = some text →
      ∀ f, Uuid.ofString? text = some f → s.fleets.find? f = none

theorem Scoped.of_eq {s s' : Store} (hg : s'.gateway.emitted = s.gateway.emitted)
    (ht : s'.telemetry = s.telemetry) : Scoped s s' := by
  constructor
  · intro d hd
    rw [hg] at hd
    exact absurd hd.symm (List.cons_ne_self _ _)
  · intro row hrow
    rw [ht] at hrow
    exact absurd hrow.symm (List.cons_ne_self _ _)
  · intro row hrow
    rw [ht] at hrow
    exact absurd hrow.symm (List.cons_ne_self _ _)

/-- The commands on vehicles and fleets leave the gateway and the readings alone. -/
theorem FleetOp.Awaits.live_eq {op : FleetOp} {c : Cmd} (h : FleetOp.Awaits op c) (P : Platform)
    (s : Store) : (exec P c s).2.gateway = s.gateway ∧ (exec P c s).2.telemetry = s.telemetry := by
  have vehicle : ∀ v, (commit s (saveVehicle P s v)).2.gateway = s.gateway ∧
      (commit s (saveVehicle P s v)).2.telemetry = s.telemetry := by
    intro v
    refine commit_snd (p := fun s' => s'.gateway = s.gateway ∧ s'.telemetry = s.telemetry)
      ⟨rfl, rfl⟩ fun v' s' hs => ?_
    obtain ⟨row, vehicles, -, -, -, rfl⟩ := saveVehicle_ok hs
    exact ⟨rfl, rfl⟩
  cases h with
  | findVehicle id => exact ⟨rfl, rfl⟩
  | findFleet id => exact ⟨rfl, rfl⟩
  | write hw =>
    cases hw with
    | updateVehicle v hv hf => exact vehicle _
    | assignVehicleToFleet f v hf hv => exact vehicle _
    | deleteVehicle v hv =>
      refine commit_snd (p := fun s' => s'.gateway = s.gateway ∧ s'.telemetry = s.telemetry)
        ⟨rfl, rfl⟩ fun u s' hs => ?_
      cases removeVehicle_ok hs
      exact ⟨rfl, rfl⟩
    | updateFleet f hf =>
      refine commit_snd (p := fun s' => s'.gateway = s.gateway ∧ s'.telemetry = s.telemetry)
        ⟨rfl, rfl⟩ fun f' s' hs => ?_
      obtain ⟨row, fleets, -, -, rfl⟩ := saveFleet_ok hs
      exact ⟨rfl, rfl⟩
    | deleteFleet f hf =>
      refine commit_snd (p := fun s' => s'.gateway = s.gateway ∧ s'.telemetry = s.telemetry)
        ⟨rfl, rfl⟩ fun u s' hs => ?_
      cases removeFleet_ok hs
      exact ⟨rfl, rfl⟩

theorem exec_insertTelemetry (P : Platform) (rec : NewTelemetry) (s : Store) :
    exec P (.telemetry (.insert rec)) s = commit s (insertTelemetry P s rec) := rfl

namespace LiveOp

/-- The body names the vehicle's fleet; or the vehicle is in none, and the body names no stored
fleet and no room that a client is in. -/
def namesFleet (s : Store) (dto : CreateTelemetryDto) : Bool :=
  match s.fleetAt dto.vehicleId with
  | some f => dto.fleetId = some f.text
  | none =>
      s.gateway.members (Gateway.fleetRoom dto.room) = ∅ ∧
        ((Uuid.ofString? dto.room).bind s.fleets.find?).isNone

/-- The move neither sends nor stores a reading, or its body names the vehicle's fleet. -/
def bodyNamesFleet {ι : Type} (ops : ι → LiveOp) (cfg : Serving ι Unit) :
    Move ι LiveEvent → Bool
  | .step i =>
      match ops i, cfg.threads i with
      | .ingestTelemetry dto, .call (.process (.broadcast ..)) _ => namesFleet cfg.store dto
      | .ingestTelemetry dto, .call (.telemetry (.insert _)) _ => namesFleet cfg.store dto
      | _, _ => true
  | _ => true

theorem room_of_namesFleet {s : Store} {dto : CreateTelemetryDto} {f : Uuid}
    (hf : s.fleetAt dto.vehicleId = some f) (h : namesFleet s dto = true) :
    dto.room = f.text := by
  unfold namesFleet at h
  generalize s.fleetAt dto.vehicleId = found at h hf
  subst hf
  rw [CreateTelemetryDto.room, of_decide_eq_true h]
  rfl

theorem unnamed_of_namesFleet {s : Store} {dto : CreateTelemetryDto}
    (hnone : s.fleetAt dto.vehicleId = none) (h : namesFleet s dto = true) :
    s.gateway.members (Gateway.fleetRoom dto.room) = ∅ ∧
      ∀ f, Uuid.ofString? dto.room = some f → s.fleets.find? f = none := by
  unfold namesFleet at h
  generalize s.fleetAt dto.vehicleId = found at h hnone
  subst hnone
  obtain ⟨hempty, hunknown⟩ := of_decide_eq_true h
  refine ⟨hempty, fun f hf => ?_⟩
  rw [hf, Option.bind_some, Option.isNone_iff_eq_none] at hunknown
  exact hunknown

/-- The broadcast of a reading whose body names the vehicle's fleet. -/
theorem scoped_broadcast {P : Platform} {s : Store} (hg : s.gateway.RoomsSubscribed)
    {dto : CreateTelemetryDto} (h : namesFleet s dto = true) (receivedAt : Nat) :
    Scoped s (exec P (.process (.broadcast dto.room (reading dto receivedAt))) s).2 := by
  refine ⟨?_, fun row hrow => absurd hrow.symm (List.cons_ne_self _ _),
    fun row hrow => absurd hrow.symm (List.cons_ne_self _ _)⟩
  intro d hd client hclient
  change _ :: s.gateway.emitted = d :: s.gateway.emitted at hd
  obtain rfl := (List.cons.inj hd).1
  change client ∈ s.gateway.members (Gateway.fleetRoom dto.room) at hclient
  show ∃ f, s.fleetAt dto.vehicleId = some f ∧ _
  cases hf : s.fleetAt dto.vehicleId with
  | none =>
    rw [(unnamed_of_namesFleet hf h).1] at hclient
    exact absurd hclient (Finset.notMem_empty client)
  | some f =>
    refine ⟨f, rfl, ?_⟩
    rw [← room_of_namesFleet hf h]
    exact hg.of_member hclient

/-- The insert of a reading whose body names the vehicle's fleet. -/
theorem scoped_insert {P : Platform} {s : Store} {dto : CreateTelemetryDto}
    (h : namesFleet s dto = true) {rec : NewTelemetry} (hv : rec.vehicleId = dto.vehicleId)
    (hr : rec.fleetId = dto.room) : Scoped s (exec P (.telemetry (.insert rec)) s).2 := by
  rw [exec_insertTelemetry]
  refine commit_snd (r := insertTelemetry P s rec) (p := Scoped s) (.of_eq rfl rfl)
    fun row s' hs => ?_
  obtain ⟨hu, hfleet, -, telemetry, htelemetry, rfl⟩ := insertTelemetry_ok hs
  have hat : s.fleetAt dto.vehicleId = (s.fleetOf row.vehicleId).join := by
    rw [Store.fleetAt, ← hv, hu, Option.bind_some]
  refine ⟨fun d hd => absurd hd.symm (List.cons_ne_self _ _), ?_, ?_⟩
  · intro row' hrow f hf
    obtain rfl := (List.cons.inj (htelemetry.symm.trans hrow)).1
    rw [hf] at hat
    rw [hfleet, hr, room_of_namesFleet hat h]
  · intro row' hrow hnone text htext f hf
    obtain rfl := (List.cons.inj (htelemetry.symm.trans hrow)).1
    rw [hfleet, hr] at htext
    cases htext
    exact (unnamed_of_namesFleet (hat.trans hnone) h).2 f hf

theorem insertTelemetry_gateway (P : Platform) (rec : NewTelemetry) (s : Store) :
    (exec P (.telemetry (.insert rec)) s).2.gateway = s.gateway := by
  rw [exec_insertTelemetry]
  cases hr : insertTelemetry P s rec with
  | error e => rfl
  | ok r =>
    obtain ⟨row, s'⟩ := r
    obtain ⟨-, -, -, telemetry, -, rfl⟩ := insertTelemetry_ok hr
    rfl

/-- A command of an operation keeps the rooms. -/
theorem gateway_subscribed {P : Platform} {op : LiveOp} {c : Cmd}
    {k : Except Thrown c.Answer → Service Unit} (h : op.At (.call c k)) {s : Store}
    (hg : s.gateway.RoomsSubscribed) : (exec P c s).2.gateway.RoomsSubscribed := by
  cases op with
  | assignVehicleToFleet fleetId vehicleId =>
    rw [((FleetOp.At.awaits h).live_eq P s).1]
    exact hg
  | ingestTelemetry dto =>
    cases IngestAt.awaits h with
    | findOne => exact hg
    | now => exact hg
    | broadcast receivedAt => exact hg
    | insert =>
      rw [insertTelemetry_gateway]
      exact hg

section

variable {ι : Type} [DecidableEq ι] {P : Platform} {ops : ι → LiveOp}

/-- Every operation is at one of its points, and sockets are in their subscribers' rooms. -/
def Live (ops : ι → LiveOp) (cfg : Serving ι Unit) : Prop :=
  (∀ i, (ops i).At (cfg.threads i)) ∧ cfg.store.gateway.RoomsSubscribed

theorem At.answer {op : LiveOp} {c : Cmd} {k : Except Thrown c.Answer → Service Unit}
    (h : op.At (.call c k)) (s : Store) : op.At (k (exec P c s).1) := by
  cases op with
  | assignVehicleToFleet fleetId vehicleId => exact FleetOp.At.answer h P s
  | ingestTelemetry dto => exact IngestAt.answer h _

theorem At.fault {op : LiveOp} {c : Cmd} {k : Except Thrown c.Answer → Service Unit}
    (h : op.At (.call c k)) (e : Thrown) : op.At (k (.error e)) := by
  cases op with
  | assignVehicleToFleet fleetId vehicleId =>
    show FleetOp.At _ (k (.error e))
    rw [FleetOp.At.fault h]
    exact .threw _ e
  | ingestTelemetry dto => exact IngestAt.answer h _

theorem live_move {cfg : Serving ι Unit} (h : Live ops cfg) (m : Move ι LiveEvent) :
    Live ops (cfg.move (liveSystem P) m) := by
  refine Config.move_cases cfg m h ?stepped ?faulted ?outside
  case stepped =>
    rintro i c k rfl hc
    have hat : (ops i).At (.call c k) := hc ▸ h.1 i
    refine ⟨?_, gateway_subscribed hat h.2⟩
    exact Config.threads_deliver (T := fun j => (ops j).At) (hat.answer cfg.store) fun j _ => h.1 j
  case faulted =>
    rintro i c k e rfl hc -
    have hat : (ops i).At (.call c k) := hc ▸ h.1 i
    refine ⟨?_, h.2⟩
    exact Config.threads_deliver (T := fun j => (ops j).At) (hat.fault e) fun j _ => h.1 j
  case outside =>
    rintro x rfl
    refine ⟨h.1, ?_⟩
    cases x with
    | client e => exact h.2.handle e
    | elapse d => exact h.2

theorem scoped_move {cfg : Serving ι Unit} (h : Live ops cfg) (m : Move ι LiveEvent)
    (hm : bodyNamesFleet ops cfg m = true) :
    Scoped cfg.store (cfg.move (liveSystem P) m).store := by
  refine Config.move_cases (motive := fun cfg' => Scoped cfg.store cfg'.store) cfg m
    (.of_eq rfl rfl) ?stepped ?faulted ?outside
  case stepped =>
    rintro i c k rfl hc
    have hat : (ops i).At (.call c k) := hc ▸ h.1 i
    rw [bodyNamesFleet, hc] at hm
    show Scoped cfg.store (exec P c cfg.store).2
    cases hop : ops i with
    | assignVehicleToFleet fleetId vehicleId =>
      rw [hop] at hat
      obtain ⟨hg, ht⟩ := (FleetOp.At.awaits hat).live_eq P cfg.store
      exact .of_eq (by rw [hg]) ht
    | ingestTelemetry dto =>
      rw [hop] at hat hm
      cases IngestAt.awaits hat with
      | findOne => exact .of_eq rfl rfl
      | now => exact .of_eq rfl rfl
      | broadcast receivedAt => exact scoped_broadcast h.2 hm receivedAt
      | insert => exact scoped_insert hm rfl rfl
  case faulted =>
    rintro i c k e rfl hc -
    exact .of_eq rfl rfl
  case outside =>
    rintro x rfl
    cases x with
    | client e => exact .of_eq (Gateway.handle_emitted _ e) rfl
    | elapse d => exact .of_eq rfl rfl

/-- From a gateway no client has connected to, in a run in which every body names the
fleet its vehicle is in, every move is scoped. -/
theorem readings_scoped (P : Platform) (s : Store) (ops : ι → LiveOp)
    (ms : List (Move ι LiveEvent))
    (hnames : Config.Along (liveSystem P) (fun cfg m => bodyNamesFleet ops cfg m = true)
      (.start { s with gateway := .empty } fun i => (ops i).prog) ms) :
    Config.Along (liveSystem P)
      (fun cfg m => Scoped cfg.store (cfg.move (liveSystem P) m).store)
      (.start { s with gateway := .empty } fun i => (ops i).prog) ms := by
  have step : ∀ cfg m, Live ops cfg → bodyNamesFleet ops cfg m = true →
      Live ops (cfg.move (liveSystem P) m) := fun _ m h _ => live_move h m
  have safe : ∀ cfg m, Live ops cfg → bodyNamesFleet ops cfg m = true →
      Scoped cfg.store (cfg.move (liveSystem P) m).store := fun _ m h hm => scoped_move h m hm
  have init : Live ops (.start { s with gateway := .empty } fun i => (ops i).prog) :=
    ⟨fun i => at_prog (ops i), Gateway.roomsSubscribed_empty⟩
  exact Config.along_of_inv step safe init hnames

end

/-! ## A reading that reaches another fleet's subscriber -/

/-- A vehicle in no fleet, and a fleet it can be assigned to. -/
def assignAndIngest (ingests : Bool) : LiveOp :=
  if ingests then
    .ingestTelemetry ⟨(Uuid.ofNat 1).text, 52, 13, 80, 50, 21, some (Uuid.ofNat 2).text⟩
  else .assignVehicleToFleet (Uuid.ofNat 2).text (Uuid.ofNat 1).text

/-- A client subscribes to the fleet, the vehicle joins it, and sends a reading. -/
def joinThenIngest : List (Move Bool LiveEvent) :=
  [.env (.client (.connect "dashboard")),
    .env (.client (.subscribe (Uuid.ofNat 2).text "dashboard")),
    .step false, .step false, .step false, .step true, .step true, .step true, .step true]

theorem readings_scoped_after_joining :
    Config.Along (liveSystem .plain)
      (fun cfg m => Scoped cfg.store (cfg.move (liveSystem .plain) m).store)
      (.start { FleetOp.vehicleAndFleet with gateway := .empty } fun i => (assignAndIngest i).prog)
      joinThenIngest :=
  readings_scoped .plain FleetOp.vehicleAndFleet assignAndIngest joinThenIngest
    (by decide +kernel)

/-- A reading of the vehicle whose body names another fleet. -/
def misnamed (_ : Unit) : LiveOp :=
  .ingestTelemetry ⟨(Uuid.ofNat 1).text, 52, 13, 80, 50, 21, some (Uuid.ofNat 3).text⟩

/-- The vehicle is in the fleet `2`; a client subscribes to the fleet `3`, and the reading is
about to be sent. -/
def beforeMisnamed : Serving Unit Unit :=
  (Config.start
    { FleetOp.vehicleAndFleet with
      vehicles := ((∅ : Keyed.Table Uuid VehicleRow VehicleRow.vin).put (.ofNat 1)
        ⟨"VIN-1", "Leaf", "Nissan", 2020, .ACTIVE, some (.ofNat 2), 0⟩).getD ∅
      gateway := .empty }
    fun i => (misnamed i).prog).exec (liveSystem .plain)
    [.env (.client (.connect "dashboard")),
      .env (.client (.subscribe (Uuid.ofNat 3).text "dashboard")), .step (), .step ()]

/-- The client of the other fleet receives the reading. -/
theorem reading_reaches_other_fleet :
    ¬ Scoped beforeMisnamed.store (beforeMisnamed.move (liveSystem .plain) (.step ())).store := by
  intro h
  obtain ⟨f, hf, set, hset, hmem⟩ := h.sent
    ⟨{"dashboard"}, ⟨(Uuid.ofNat 1).text, (Uuid.ofNat 3).text, 52, 13, 80, 50, 21, 0⟩⟩
    (by decide +kernel) "dashboard" (by decide +kernel)
  have hfleet : beforeMisnamed.store.fleetAt (Uuid.ofNat 1).text = some (.ofNat 2) := by
    decide +kernel
  obtain rfl : Uuid.ofNat 2 = f := Option.some.inj (hfleet.symm.trans hf)
  have hsubs : beforeMisnamed.store.gateway.subscriptions "dashboard" =
      some {(Uuid.ofNat 3).text} := by decide +kernel
  obtain rfl : {(Uuid.ofNat 3).text} = set := Option.some.inj (hsubs.symm.trans hset)
  revert hmem
  decide +kernel

end LiveOp

end VoltFleet
