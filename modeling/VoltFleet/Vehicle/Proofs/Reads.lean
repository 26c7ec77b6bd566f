import VoltFleet.Commands
import VoltFleet.Vehicle.FleetService
import VoltFleet.Vehicle.VehicleService

/-!
# What the reads of fleets and vehicles answer

A read leaves the store as it is.  An id that is no UUID is refused by the database,
and a row that is not there is reported by the service.
-/

namespace VoltFleet

open Awaiting

/-- What a service makes of a row it has looked up. -/
def foundOr {α : Type} (message : String) : Except Thrown (Option α) → Except Thrown α
  | .error e => .error e
  | .ok none => .error (.notFound message)
  | .ok (some a) => .ok a

section

variable (P : Platform) (id : String) (s : Store)

/-- The answer to a read of a vehicle. -/
def vehicleAt : Except Thrown (Option Vehicle) :=
  (uuidParam id).map fun u => (s.vehicles.find? u).map (Store.vehicleEntity u)

/-- The answer to a read of a fleet with its vehicles. -/
def fleetAt : Except Thrown (Option Fleet) :=
  (uuidParam id).map fun u => (s.fleets.find? u).map (s.fleetEntity u)

theorem exec_findOne : exec P (.vehicles (.findOne id)) s = (vehicleAt id s, s) := by
  refine Prod.ext ?_ rfl
  show (uuidParam id >>= fun u => pure ((s.vehicles.find? u).map (Store.vehicleEntity u))) = _
  unfold vehicleAt
  cases uuidParam id <;> rfl

theorem exec_findOneWithVehicles :
    exec P (.fleets (.findOneWithVehicles id)) s = (fleetAt id s, s) := by
  refine Prod.ext ?_ rfl
  show (uuidParam id >>= fun u => pure ((s.fleets.find? u).map (s.fleetEntity u))) = _
  unfold fleetAt
  cases uuidParam id <;> rfl

theorem run_getVehicleById : (VehicleService.getVehicleById id).run (exec P) s =
    (foundOr "Vehicle not found" (vehicleAt id s), s) := by
  unfold VehicleService.getVehicleById
  rw [Prog.run_bind, Service.await, Prog.run_await, exec_findOne]
  rcases vehicleAt id s with e | (_ | vehicle) <;> rfl

theorem run_getFleetById : (FleetService.getFleetById id).run (exec P) s =
    (foundOr ("Fleet with ID " ++ id ++ " not found") (fleetAt id s), s) := by
  unfold FleetService.getFleetById
  rw [Prog.run_bind, Service.await, Prog.run_await, exec_findOneWithVehicles]
  rcases fleetAt id s with e | (_ | fleet) <;> rfl

end

section

variable {id : String} {u : Uuid} {s : Store}

theorem vehicleAt_of_uuid (hid : Uuid.ofString? id = some u) :
    vehicleAt id s = .ok ((s.vehicles.find? u).map (Store.vehicleEntity u)) := by
  rw [vehicleAt, uuidParam_eq_ok.mpr hid]
  rfl

theorem uuidParam_of_none (hid : Uuid.ofString? id = none) :
    uuidParam id = .error .invalidText := by
  unfold uuidParam
  rw [hid]

theorem vehicleAt_of_none (hid : Uuid.ofString? id = none) :
    vehicleAt id s = .error .invalidText := by
  rw [vehicleAt, uuidParam_of_none hid]
  rfl

theorem fleetAt_of_none (hid : Uuid.ofString? id = none) : fleetAt id s = .error .invalidText := by
  rw [fleetAt, uuidParam_of_none hid]
  rfl

theorem fleetAt_of_uuid (hid : Uuid.ofString? id = some u) :
    fleetAt id s = .ok ((s.fleets.find? u).map (s.fleetEntity u)) := by
  rw [fleetAt, uuidParam_eq_ok.mpr hid]
  rfl

end

end VoltFleet
