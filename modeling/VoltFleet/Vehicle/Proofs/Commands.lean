import VoltFleet.Telemetry.TelemetryService
import VoltFleet.Vehicle.FleetService
import VoltFleet.Vehicle.VehicleService

/-!
# The commands of the services for vehicles, fleets and readings
-/

namespace VoltFleet

open Awaiting

theorem dropResult_issues {α : Type} {Q : Cmd → Prop} {p : Service α} (h : p.Issues Q) :
    (Service.dropResult p).Issues Q := .bind h fun _ => trivial

/-- The commands on vehicles, fleets and readings, and those that leave all tables alone. -/
def FleetCmds : Cmd → Prop
  | .users (.findOneById _) => True
  | .fleets _ => True
  | .vehicles _ => True
  | .telemetry _ => True
  | .process _ => True
  | _ => False

theorem getVehicleById_issues (id : String) :
    (VehicleService.getVehicleById id).Issues FleetCmds := by
  refine .bind (.await trivial) fun vehicle => ?_
  cases vehicle <;> trivial

theorem updateVehicle_issues (id : String) (dto : UpdateVehicleDto) :
    (VehicleService.updateVehicle id dto).Issues FleetCmds :=
  .bind (getVehicleById_issues id) fun _ => .await trivial

theorem deleteVehicle_issues (id : String) :
    (VehicleService.deleteVehicle id).Issues FleetCmds :=
  .bind (getVehicleById_issues id) fun _ => .await trivial

theorem createFleet_issues (dto : CreateFleetDto) :
    (FleetService.createFleet dto).Issues FleetCmds := by
  refine .bind (.await trivial) fun manager => ?_
  cases manager with
  | none => trivial
  | some manager => exact .await trivial

theorem getFleetById_issues (id : String) :
    (FleetService.getFleetById id).Issues FleetCmds := by
  refine .bind (.await trivial) fun fleet => ?_
  cases fleet <;> trivial

theorem updateFleet_issues (id : String) (dto : UpdateFleetDto) :
    (FleetService.updateFleet id dto).Issues FleetCmds :=
  .bind (getFleetById_issues id) fun _ => .await trivial

theorem deleteFleet_issues (id : String) :
    (FleetService.deleteFleet id).Issues FleetCmds :=
  .bind (getFleetById_issues id) fun _ => .await trivial

theorem assignVehicleToFleet_issues (fleetId vehicleId : String) :
    (FleetService.assignVehicleToFleet fleetId vehicleId).Issues FleetCmds := by
  refine .bind (getFleetById_issues fleetId) fun _ => .bind (.await trivial) fun vehicle => ?_
  cases vehicle with
  | none => trivial
  | some vehicle => exact .await trivial

theorem ingestTelemetry_issues (dto : CreateTelemetryDto) :
    (TelemetryService.ingestTelemetry dto).Issues FleetCmds := by
  have hinsert : ∀ rec payload, (do
      try
        let _ ← Service.await (.telemetry (.insert rec))
      catch _ => pure ()
      return payload : Service TelemetryPayload).Issues FleetCmds := fun rec payload =>
    .bind (.tryCatch (.bind (.await trivial) fun _ => trivial) fun _ => trivial) fun _ => trivial
  refine .bind (.await trivial) fun vehicle => ?_
  cases vehicle with
  | none => trivial
  | some vehicle =>
    refine .bind (.await trivial) fun receivedAt => ?_
    dsimp only
    split
    · exact .bind (.tryCatch (.await trivial) fun _ => trivial) fun _ => hinsert _ _
    · exact hinsert _ _

end VoltFleet
