import VoltFleet.Auth.Repositories

/-!
# `VehicleService`
-/

namespace VoltFleet

/-- `UpdateVehicleDto`; every property is optional, and may be `null`. -/
structure UpdateVehicleDto where
  vin : Property String
  model : Property String
  manufacturer : Property String
  year : Property Int
  status : Property VehicleStatus
  fleetId : Property String
  deriving DecidableEq

/-- The query of `getAllVehicles`. -/
structure GetVehiclesDto where
  status : Option VehicleStatus
  fleetId : Option String
  page : Option String
  perPage : Option String
  deriving DecidableEq

/-- `Object.assign(vehicle, dto)`. -/
def Vehicle.assign (v : Vehicle) (dto : UpdateVehicleDto) : Vehicle :=
  { v with
    vin := v.vin.assign dto.vin
    model := v.model.assign dto.model
    manufacturer := v.manufacturer.assign dto.manufacturer
    year := v.year.assign dto.year
    status := v.status.assign dto.status
    fleetId := v.fleetId.assign dto.fleetId }

namespace VehicleService

/-- Saves a new vehicle. -/
def createVehicle (createVehicleDto : CreateVehicleDto) : Service Vehicle :=
  Service.await (.vehicles (.insert createVehicleDto))

/-- A page of the vehicles of a status and a fleet, latest first. -/
def getAllVehicles (P : Platform) (getVehiclesDto : GetVehiclesDto) (req : Option Request) :
    Service (PaginationResult Vehicle) := do
  try
    let page := P.param getVehiclesDto.page 1
    let perPage := P.param getVehiclesDto.perPage 10
    let (data, total) ←
      Service.await (.vehicles (.getManyAndCount getVehiclesDto.status
        (getVehiclesDto.fleetId.filter (· ≠ "")) (skipOf page perPage) perPage.value))
    Service.lift (generatePagination P page perPage total req data)
  catch _ => throw (.internalServerError "Failed to retrieve vehicles")

/-- The vehicle with this key. -/
def getVehicleById (id : String) : Service Vehicle := do
  match ← Service.await (.vehicles (.findOne id)) with
  | none => throw (.notFound "Vehicle not found")
  | some vehicle => return vehicle

/-- Loads the vehicle and saves it with what the body sets. -/
def updateVehicle (id : String) (dto : UpdateVehicleDto) : Service Vehicle := do
  let vehicle ← getVehicleById id
  Service.await (.vehicles (.save (vehicle.assign dto)))

/-- Loads the vehicle and removes it. -/
def deleteVehicle (id : String) : Service Unit := do
  let vehicle ← getVehicleById id
  Service.await (.vehicles (.remove vehicle))

end VehicleService

end VoltFleet
