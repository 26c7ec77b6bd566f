import VoltFleet.Vehicle.FleetService
import VoltFleet.Vehicle.VehicleService
import VoltFleet.Vehicle.Proofs.Writes

/-!
# The operations on vehicles and fleets as threads

An operation reads the row it works on, perhaps a second one, and then writes
once.  `FleetOp.At` lists the points at which such a thread can be, with what it
has read so far, and `at_exec` shows that a thread is always at one of them.
-/

namespace VoltFleet

open Awaiting Service

/-- The operations that load a vehicle or a fleet and then write it. -/
inductive FleetOp where
  | updateVehicle (id : String) (dto : UpdateVehicleDto)
  | deleteVehicle (id : String)
  | assignVehicleToFleet (fleetId vehicleId : String)
  | updateFleet (id : String) (dto : UpdateFleetDto)
  | deleteFleet (id : String)

namespace FleetOp

/-- An operation as a thread. -/
def prog : FleetOp → Service Unit
  | .updateVehicle id dto => dropResult (VehicleService.updateVehicle id dto)
  | .deleteVehicle id => dropResult (VehicleService.deleteVehicle id)
  | .assignVehicleToFleet fleetId vehicleId =>
      dropResult (FleetService.assignVehicleToFleet fleetId vehicleId)
  | .updateFleet id dto => dropResult (FleetService.updateFleet id dto)
  | .deleteFleet id => dropResult (FleetService.deleteFleet id)

/-- Return once the answer is there. -/
def done {α : Type} (r : Except Thrown α) : Service Unit := dropResult (Service.lift r)

/-- The one write of an operation, made from what it has read. -/
inductive Writes : FleetOp → Cmd → Prop where
  | updateVehicle {id dto} (v : Vehicle) (hv : Uuid.ofString? id = some v.id)
      (hf : v.fleet = none) :
      Writes (.updateVehicle id dto) (.vehicles (.save (v.assign dto)))
  | deleteVehicle {id} (v : Vehicle) (hv : Uuid.ofString? id = some v.id) :
      Writes (.deleteVehicle id) (.vehicles (.remove v))
  | assignVehicleToFleet {fleetId vehicleId} (f : Uuid) (v : Vehicle)
      (hf : Uuid.ofString? fleetId = some f) (hv : Uuid.ofString? vehicleId = some v.id) :
      Writes (.assignVehicleToFleet fleetId vehicleId)
        (.vehicles (.save { v with fleet := some f }))
  | updateFleet {id dto} (f : Fleet) (hf : Uuid.ofString? id = some f.id) :
      Writes (.updateFleet id dto) (.fleets (.save (f.assign dto)))
  | deleteFleet {id} (f : Fleet) (hf : Uuid.ofString? id = some f.id) :
      Writes (.deleteFleet id) (.fleets (.remove f))

/-- `assignVehicleToFleet` after it has read the fleet. -/
def assignRest (f : Fleet) (vehicleId : String) : Service Vehicle := do
  match ← Service.await (.vehicles (.findOne vehicleId)) with
  | none => throw (.notFound ("Vehicle with ID " ++ vehicleId ++ " not found"))
  | some vehicle => Service.await (.vehicles (.save { vehicle with fleet := some f.id }))

/-- The points of an operation. -/
inductive At : FleetOp → Service Unit → Prop where
  | start (op : FleetOp) : At op op.prog
  | foundFleet {fleetId vehicleId} (f : Fleet) (hf : Uuid.ofString? fleetId = some f.id) :
      At (.assignVehicleToFleet fleetId vehicleId) (dropResult (assignRest f vehicleId))
  | writing {op c} (h : Writes op c) : At op (.call c done)
  | returned (op : FleetOp) : At op (.ret ())
  | threw (op : FleetOp) (e : Thrown) : At op (.fail e)

theorem prog_ne_ret (op : FleetOp) : op.prog ≠ .ret () := by
  cases op <;> exact nofun

theorem at_done {op : FleetOp} {α : Type} (r : Except Thrown α) : At op (done r) := by
  cases r with
  | ok a => exact .returned op
  | error e => exact .threw op e

end FleetOp

/-! ## The reads -/

theorem findOne_ok {P : Platform} {s : Store} {id : String} {r : Option Vehicle}
    (h : ((VehicleCmd.findOne id).exec P s).1 = .ok r) :
    ∃ u, Uuid.ofString? id = some u ∧ r = (s.vehicles.find? u).map (Store.vehicleEntity u) := by
  obtain ⟨u, hu, h⟩ := bind_eq_ok.mp h
  cases h
  exact ⟨u, uuidParam_eq_ok.mp hu, rfl⟩

theorem findOneWithVehicles_ok {P : Platform} {s : Store} {id : String} {r : Option Fleet}
    (h : ((FleetCmd.findOneWithVehicles id).exec P s).1 = .ok r) :
    ∃ u, Uuid.ofString? id = some u ∧ r = (s.fleets.find? u).map (s.fleetEntity u) := by
  obtain ⟨u, hu, h⟩ := bind_eq_ok.mp h
  cases h
  exact ⟨u, uuidParam_eq_ok.mp hu, rfl⟩

/-- The three answers to a read of a vehicle. -/
theorem findOne_cases (P : Platform) (id : String) (s : Store) :
    (∃ e, (exec P (.vehicles (.findOne id)) s).1 = .error e) ∨
      (exec P (.vehicles (.findOne id)) s).1 = .ok none ∨
      ∃ u row, Uuid.ofString? id = some u ∧ s.vehicles.find? u = some row ∧
        (exec P (.vehicles (.findOne id)) s).1 = .ok (some (Store.vehicleEntity u row)) := by
  show (∃ e, ((VehicleCmd.findOne id).exec P s).1 = .error e) ∨
    ((VehicleCmd.findOne id).exec P s).1 = .ok none ∨ _
  cases hr : ((VehicleCmd.findOne id).exec P s).1 with
  | error e => exact .inl ⟨e, rfl⟩
  | ok r =>
    obtain ⟨u, hid, rfl⟩ := findOne_ok hr
    cases hrow : s.vehicles.find? u with
    | none => exact .inr (.inl rfl)
    | some row => exact .inr (.inr ⟨u, row, hid, hrow, hr.trans (by rw [hrow]; rfl)⟩)

/-- The three answers to a read of a fleet with its vehicles. -/
theorem findOneWithVehicles_cases (P : Platform) (id : String) (s : Store) :
    (∃ e, (exec P (.fleets (.findOneWithVehicles id)) s).1 = .error e) ∨
      (exec P (.fleets (.findOneWithVehicles id)) s).1 = .ok none ∨
      ∃ u row, Uuid.ofString? id = some u ∧ s.fleets.find? u = some row ∧
        (exec P (.fleets (.findOneWithVehicles id)) s).1 = .ok (some (s.fleetEntity u row)) := by
  show (∃ e, ((FleetCmd.findOneWithVehicles id).exec P s).1 = .error e) ∨
    ((FleetCmd.findOneWithVehicles id).exec P s).1 = .ok none ∨ _
  cases hr : ((FleetCmd.findOneWithVehicles id).exec P s).1 with
  | error e => exact .inl ⟨e, rfl⟩
  | ok r =>
    obtain ⟨u, hid, rfl⟩ := findOneWithVehicles_ok hr
    cases hrow : s.fleets.find? u with
    | none => exact .inr (.inl rfl)
    | some row => exact .inr (.inr ⟨u, row, hid, hrow, hr.trans (by rw [hrow]; rfl)⟩)

namespace FleetOp

/-- The command a thread awaits is a read of its operation or its write. -/
inductive Awaits : FleetOp → Cmd → Prop where
  | findVehicle (op : FleetOp) (id : String) : Awaits op (.vehicles (.findOne id))
  | findFleet (op : FleetOp) (id : String) : Awaits op (.fleets (.findOneWithVehicles id))
  | write {op c} (h : Writes op c) : Awaits op c

theorem At.awaits {op : FleetOp} {c : Cmd} {k : Except Thrown c.Answer → Service Unit}
    (h : At op (.call c k)) : Awaits op c := by
  generalize hp : Prog.call c k = p at h
  cases h with
  | start op =>
    cases op with
    | updateVehicle id dto =>
      cases hp
      exact .findVehicle _ _
    | deleteVehicle id =>
      cases hp
      exact .findVehicle _ _
    | assignVehicleToFleet fleetId vehicleId =>
      cases hp
      exact .findFleet _ _
    | updateFleet id dto =>
      cases hp
      exact .findFleet _ _
    | deleteFleet id =>
      cases hp
      exact .findFleet _ _
  | foundFleet f hf =>
    cases hp
    exact .findVehicle _ _
  | writing hw =>
    cases hp
    exact .write hw
  | returned op => cases hp
  | threw op e => cases hp

/-- A thread whose command has failed has thrown. -/
theorem At.fault {op : FleetOp} {c : Cmd} {k : Except Thrown c.Answer → Service Unit}
    (h : At op (.call c k)) (e : Thrown) : k (.error e) = .fail e := by
  generalize hp : Prog.call c k = p at h
  cases h with
  | start op =>
    cases op with
    | updateVehicle id dto =>
      cases hp
      rfl
    | deleteVehicle id =>
      cases hp
      rfl
    | assignVehicleToFleet fleetId vehicleId =>
      cases hp
      rfl
    | updateFleet id dto =>
      cases hp
      rfl
    | deleteFleet id =>
      cases hp
      rfl
  | foundFleet f hf =>
    cases hp
    rfl
  | writing hw =>
    cases hp
    rfl
  | returned op => cases hp
  | threw op e => cases hp

/-- A thread whose command has been answered is at the next point. -/
theorem At.answer {op : FleetOp} {c : Cmd}
    {k : Except Thrown c.Answer → Service Unit} (h : At op (.call c k)) (P : Platform) (s : Store) :
    At op (k (exec P c s).1) := by
  generalize hp : Prog.call c k = p at h
  cases h with
  | start op =>
    cases op with
    | updateVehicle id dto =>
      cases hp
      rcases findOne_cases P id s with ⟨e, h⟩ | h | ⟨u, row, hid, -, h⟩ <;> rw [h]
      · exact .threw _ e
      · exact .threw _ _
      · exact .writing (.updateVehicle (Store.vehicleEntity u row) hid rfl)
    | deleteVehicle id =>
      cases hp
      rcases findOne_cases P id s with ⟨e, h⟩ | h | ⟨u, row, hid, -, h⟩ <;> rw [h]
      · exact .threw _ e
      · exact .threw _ _
      · exact .writing (.deleteVehicle (Store.vehicleEntity u row) hid)
    | assignVehicleToFleet fleetId vehicleId =>
      cases hp
      rcases findOneWithVehicles_cases P fleetId s with ⟨e, h⟩ | h | ⟨u, row, hid, -, h⟩ <;> rw [h]
      · exact .threw _ e
      · exact .threw _ _
      · exact .foundFleet (s.fleetEntity u row) hid
    | updateFleet id dto =>
      cases hp
      rcases findOneWithVehicles_cases P id s with ⟨e, h⟩ | h | ⟨u, row, hid, -, h⟩ <;> rw [h]
      · exact .threw _ e
      · exact .threw _ _
      · exact .writing (.updateFleet (s.fleetEntity u row) hid)
    | deleteFleet id =>
      cases hp
      rcases findOneWithVehicles_cases P id s with ⟨e, h⟩ | h | ⟨u, row, hid, -, h⟩ <;> rw [h]
      · exact .threw _ e
      · exact .threw _ _
      · exact .writing (.deleteFleet (s.fleetEntity u row) hid)
  | @foundFleet fleetId vehicleId f hf =>
    cases hp
    rcases findOne_cases P vehicleId s with ⟨e, h⟩ | h | ⟨u, row, hid, -, h⟩ <;> rw [h]
    · exact .threw _ e
    · exact .threw _ _
    · exact .writing (.assignVehicleToFleet f.id (Store.vehicleEntity u row) hf hid)
  | writing hw =>
    cases hp
    exact at_done _
  | returned op => cases hp
  | threw op e => cases hp

/-- A thread that returns has had its write done. -/
theorem At.returning {op : FleetOp} {c : Cmd} {k : Except Thrown c.Answer → Service Unit}
    (h : At op (.call c k)) {P : Platform} {s : Store} (hret : k (exec P c s).1 = .ret ()) :
    Writes op c ∧ ∃ a, (exec P c s).1 = .ok a := by
  generalize hp : Prog.call c k = p at h
  cases h with
  | start op =>
    cases op with
    | updateVehicle id dto =>
      cases hp
      rcases findOne_cases P id s with ⟨e, h⟩ | h | ⟨u, row, -, -, h⟩ <;> rw [h] at hret <;>
        cases hret
    | deleteVehicle id =>
      cases hp
      rcases findOne_cases P id s with ⟨e, h⟩ | h | ⟨u, row, -, -, h⟩ <;> rw [h] at hret <;>
        cases hret
    | assignVehicleToFleet fleetId vehicleId =>
      cases hp
      rcases findOneWithVehicles_cases P fleetId s with ⟨e, h⟩ | h | ⟨u, row, -, -, h⟩ <;>
        rw [h] at hret <;> cases hret
    | updateFleet id dto =>
      cases hp
      rcases findOneWithVehicles_cases P id s with ⟨e, h⟩ | h | ⟨u, row, -, -, h⟩ <;>
        rw [h] at hret <;> cases hret
    | deleteFleet id =>
      cases hp
      rcases findOneWithVehicles_cases P id s with ⟨e, h⟩ | h | ⟨u, row, -, -, h⟩ <;>
        rw [h] at hret <;> cases hret
  | @foundFleet fleetId vehicleId f hf =>
    cases hp
    rcases findOne_cases P vehicleId s with ⟨e, h⟩ | h | ⟨u, row, -, -, h⟩ <;> rw [h] at hret <;>
      cases hret
  | writing hw =>
    cases hp
    refine ⟨hw, ?_⟩
    cases hr : (exec P c s).1 with
    | ok a => exact ⟨a, rfl⟩
    | error e =>
      rw [hr] at hret
      cases hret
  | returned op => cases hp
  | threw op e => cases hp

/-! ## Runs -/

section

variable {ι : Type}

/-- Every operation is at one of its points. -/
def Running (ops : ι → FleetOp) (cfg : Serving ι Unit) : Prop := ∀ i, At (ops i) (cfg.threads i)

/-- The operations are about to start. -/
def started (s : Store) (ops : ι → FleetOp) : Serving ι Unit := .start s fun i => (ops i).prog

theorem running_started (s : Store) (ops : ι → FleetOp) : Running ops (started s ops) :=
  fun i => .start (ops i)

variable [DecidableEq ι]

theorem running_move {P : Platform} {ops : ι → FleetOp} {cfg : Serving ι Unit}
    (h : Running ops cfg) (m : Move ι Nat) : Running ops (cfg.move (system P) m) := by
  refine Config.move_cases cfg m h ?stepped ?faulted fun x _ => h
  case stepped =>
    intro i c k _ hc
    have hat : At (ops i) (.call c k) := hc ▸ h i
    exact Config.threads_deliver (T := fun j => At (ops j)) (hat.answer P cfg.store) fun j _ => h j
  case faulted =>
    intro i c k e _ hc _
    have hat : At (ops i) (.call c k) := hc ▸ h i
    have hself : At (ops i) (k (.error e)) := by
      rw [hat.fault]
      exact .threw _ e
    exact Config.threads_deliver (T := fun j => At (ops j)) hself fun j _ => h j

end

end FleetOp

end VoltFleet
