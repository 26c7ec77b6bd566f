import VoltFleet.Endpoints
import VoltFleet.Responses

/-!
# The list routes of vehicles and fleets

`VehicleController.getAllVehicles` and `FleetController.getAllFleets` declare the
query with `@Query()` and their `req` without a decorator, so that the handler is
called with `undefined` in its place.
-/

namespace VoltFleet

/-- The status with this text. -/
def VehicleStatus.ofText? (text : String) : Option VehicleStatus :=
  [VehicleStatus.ACTIVE, .INACTIVE, .MAINTENANCE].find? fun status => status.text = text

/-- `page` and `perPage` of both query DTOs. -/
def pageFields (W : Web) : List DtoField :=
  [.positiveInt W "page" " must be an integer" " must be at least 1",
    .positiveInt W "perPage" " must be an integer" " must be at least 1"]

namespace GetVehiclesDto

/-- The checks of `GetVehiclesDto`. -/
def fields (W : Web) : List DtoField :=
  ⟨"status", [("status must be ACTIVE, INACTIVE, or MAINTENANCE",
      fun text => (VehicleStatus.ofText? text).isSome)]⟩ ::
    .string "fleetId" :: pageFields W

/-- The DTO of a query that has passed the pipes. -/
def ofQuery (W : Web) (req : Request) : GetVehiclesDto where
  status := (req.param "status").bind VehicleStatus.ofText?
  fleetId := req.param "fleetId"
  page := (req.param "page").map W.converted
  perPage := (req.param "perPage").map W.converted

end GetVehiclesDto

namespace GetFleetsDto

/-- The checks of `GetFleetsDto`. -/
def fields (W : Web) : List DtoField := pageFields W

/-- The DTO of a query that has passed the pipes. -/
def ofQuery (W : Web) (req : Request) : GetFleetsDto where
  page := (req.param "page").map W.converted
  perPage := (req.param "perPage").map W.converted

end GetFleetsDto

/-- The two routes. -/
inductive ListRoute where
  | getAllVehicles
  | getAllFleets
  deriving DecidableEq

namespace ListRoute

/-- What the route lists. -/
abbrev Row : ListRoute → Type
  | .getAllVehicles => Vehicle
  | .getAllFleets => Fleet

/-- The checks of the query of each route. -/
def fields (W : Web) : ListRoute → List DtoField
  | .getAllVehicles => GetVehiclesDto.fields W
  | .getAllFleets => GetFleetsDto.fields W

/-- The message of the catch-all. -/
def failure : ListRoute → String
  | .getAllVehicles => "Failed to retrieve vehicles"
  | .getAllFleets => "Failed to retrieve fleets"

/-- The service call of the controller, for the request it hands over. -/
def call (W : Web) (query : Request) (req : Option Request) :
    (route : ListRoute) → Service (PaginationResult route.Row)
  | .getAllVehicles => VehicleService.getAllVehicles W.toPlatform (.ofQuery W query) req
  | .getAllFleets => FleetService.getAllFleets W.toPlatform (.ofQuery W query) req

/-- The answer to a request: the pipes, and the handler without its `req`. -/
def respond (W : Web) (s : Store) (req : Request) (route : ListRoute) :
    Except Refusal (PaginationResult route.Row) := do
  let query ← pipes (route.fields W) req
  Endpoint.answer W s (route.call W query none)

end ListRoute

end VoltFleet
