import VoltFleet.Auth.Repositories

/-!
# `FleetService`
-/

namespace VoltFleet

/-- The body of `createFleet`. -/
structure CreateFleetDto where
  name : String
  managerId : Uuid
  deriving DecidableEq

/-- `UpdateFleetDto`; every property is optional, and may be `null`. -/
structure UpdateFleetDto where
  name : Property String
  managerId : Property String
  deriving DecidableEq

/-- The query of `getAllFleets`. -/
structure GetFleetsDto where
  page : Option String
  perPage : Option String
  deriving DecidableEq

/-- `Object.assign(fleet, updateData)`. -/
def Fleet.assign (f : Fleet) (dto : UpdateFleetDto) : Fleet :=
  { f with name := f.name.assign dto.name, managerId := f.managerId.assign dto.managerId }

/-- The counts of a fleet; what is not active counts as inactive. -/
structure FleetSummary where
  fleetId : String
  totalVehicles : Nat
  activeVehicles : Nat
  inactiveVehicles : Nat
  deriving DecidableEq

namespace FleetService

/-- Creates a fleet under a manager who exists. -/
def createFleet (createFleetDto : CreateFleetDto) : Service Fleet := do
  match ← Service.await (.users (.findOneById createFleetDto.managerId.text)) with
  | none => throw (.notFound "Manager not found.")
  | some manager => Service.await (.fleets (.insert createFleetDto.name manager))

/-- A page of the fleets. -/
def getAllFleets (P : Platform) (getFleetsDto : GetFleetsDto) (req : Option Request) :
    Service (PaginationResult Fleet) := do
  try
    let page := P.param getFleetsDto.page 1
    let perPage := P.param getFleetsDto.perPage 10
    let (data, total) ←
      Service.await (.fleets (.getManyAndCount (skipOf page perPage) perPage.value))
    Service.lift (generatePagination P page perPage total req data)
  catch _ => throw (.internalServerError "Failed to retrieve fleets")

/-- Get a single fleet by ID. -/
def getFleetById (fleetId : String) : Service Fleet := do
  match ← Service.await (.fleets (.findOneWithVehicles fleetId)) with
  | none => throw (.notFound ("Fleet with ID " ++ fleetId ++ " not found"))
  | some fleet => return fleet

/-- Loads the fleet with its vehicles and saves it with what the body sets. -/
def updateFleet (fleetId : String) (updateData : UpdateFleetDto) : Service Fleet := do
  let fleet ← getFleetById fleetId
  Service.await (.fleets (.save (fleet.assign updateData)))

/-- Loads the fleet and removes it. -/
def deleteFleet (fleetId : String) : Service Unit := do
  let fleet ← getFleetById fleetId
  Service.await (.fleets (.remove fleet))

/-- Loads both and saves the vehicle with its new fleet. -/
def assignVehicleToFleet (fleetId vehicleId : String) : Service Vehicle := do
  let fleet ← getFleetById fleetId
  match ← Service.await (.vehicles (.findOne vehicleId)) with
  | none => throw (.notFound ("Vehicle with ID " ++ vehicleId ++ " not found"))
  | some vehicle => Service.await (.vehicles (.save { vehicle with fleet := some fleet.id }))

/-- The counts of the fleet as loaded. -/
def getFleetSummary (fleetId : String) : Service FleetSummary := do
  let fleet ← getFleetById fleetId
  let vehicles := fleet.vehicles.getD []
  let totalVehicles := vehicles.length
  let activeVehicles := (vehicles.filter fun v => v.status = .value .ACTIVE).length
  return ⟨fleetId, totalVehicles, activeVehicles, totalVehicles - activeVehicles⟩

end FleetService

end VoltFleet
