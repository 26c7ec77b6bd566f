import VoltFleet.Auth.AssignPrivilege
import VoltFleet.Auth.JwtStrategy
import VoltFleet.Telemetry.TelemetryService
import VoltFleet.Vehicle.FleetService
import VoltFleet.Vehicle.VehicleService

/-!
# The controllers

The routes of `AuthController`, `VehicleController`, `FleetController` and
`TelemetryController`: what each reads of a request, the guards in front of it,
and its handler.  A body has passed the `ValidationPipe`, which rejects every
property that its DTO does not declare, so that it is a value of the DTO.
-/

namespace VoltFleet

/-- A route, with the body, the parameters and the query its handler reads. -/
inductive Route where
  | getAllUsers (page perPage search : Option String) (req : Request)
  | getAllRoles (page perPage search : Option String) (req : Request)
  | getAllPrivileges (page perPage search : Option String) (req : Request)
  | getRoleById (id : Uuid)
  | validateLoginOtp (dto : AuthCredentialsDto) (session : Nat)
  | refreshAccessToken (refreshToken : String)
  | logout (refreshToken : String)
  | resetPassword (dto : ResetPasswordDto) (newPassword : NewPasswordDto)
  | createRole (dto : AccessDto)
  | createPrivilege (dto : AccessDto)
  /-- With the lookups that happen to be answered before the save; no other is awaited. -/
  | assignPrivilege (dto : AssignPrivilegeDto) (answered : List String)
  | registerAdmin (dto : CreateUserDto)
  | signUpAsAStaff (dto : CreateUserDto)
  | createVehicle (dto : CreateVehicleDto)
  | getAllVehicles (dto : GetVehiclesDto)
  | getVehicleById (id : String)
  | updateVehicle (id : String) (dto : UpdateVehicleDto)
  | deleteVehicle (id : String)
  | createFleet (dto : CreateFleetDto)
  | getAllFleets (dto : GetFleetsDto)
  | getFleetById (id : String)
  | updateFleet (id : String) (dto : UpdateFleetDto)
  | deleteFleet (id : String)
  | ingest (dto : CreateTelemetryDto)
  | latest (vehicleId : String)
  | history (vehicleId : String) (dto : GetHistoryDto) (req : Request)

/-- `@UseGuards`, with the privileges of `@Privileges`. -/
inductive Guards where
  | unguarded
  | authGuard
  | privilegesGuard (required : List AllPrivileges)
  deriving DecidableEq

namespace Route

/-- The guards in front of each route. -/
def guards : Route → Guards
  | .getAllUsers .. => .privilegesGuard [.CAN_VIEW_USERS]
  | .getAllRoles .. => .privilegesGuard [.CAN_VIEW_ROLES]
  | .getAllPrivileges .. => .privilegesGuard [.CAN_VIEW_PRIVILEGES]
  | .getRoleById _ => .privilegesGuard [.CAN_VIEW_ROLES]
  | .logout _ => .authGuard
  | .createRole _ => .privilegesGuard [.CAN_CREATE_ROLE]
  | .createPrivilege _ => .privilegesGuard [.CAN_CREATE_PRIVILEGE]
  | .assignPrivilege .. => .privilegesGuard [.CAN_ASSIGN_PRIVILEGES]
  | .registerAdmin _ => .privilegesGuard [.CAN_CREATE_ADMIN]
  | _ => .unguarded

/-- The handler.  The list routes of vehicles and fleets declare their `req` without a
decorator, so that it is `undefined`. -/
def handler (P : Platform) : Route → Service Unit
  | .getAllUsers page perPage search req =>
      Service.dropResult (AuthService.getAllUsers P page perPage search (some req))
  | .getAllRoles page perPage search req =>
      Service.dropResult (UserRoleRepository.getAllRoles P page perPage search (some req))
  | .getAllPrivileges page perPage search req =>
      Service.dropResult (UserPrivilegeRepository.getAllPrivileges P page perPage search (some req))
  | .getRoleById id => Service.dropResult (AuthService.getRoleById P id.text)
  | .validateLoginOtp dto session => Service.dropResult (AuthService.signIn P dto session)
  | .refreshAccessToken refreshToken =>
      Service.dropResult (AuthService.refreshAccessToken P refreshToken)
  | .logout refreshToken => AuthService.logout P refreshToken
  | .resetPassword dto newPassword =>
      Service.dropResult (AuthService.resetPassword P dto newPassword)
  | .createRole dto => Service.dropResult (UserRoleRepository.createRole dto)
  | .createPrivilege dto => Service.dropResult (UserPrivilegeRepository.createPrivilege dto)
  | .assignPrivilege dto answered => AssignPrivilege.inTurn dto answered
  | .registerAdmin dto => AuthService.signUp P { dto with role := .value .ADMIN }
  | .signUpAsAStaff dto => AuthService.signUp P { dto with role := .value .OTHER_STAFF }
  | .createVehicle dto => Service.dropResult (VehicleService.createVehicle dto)
  | .getAllVehicles dto => Service.dropResult (VehicleService.getAllVehicles P dto none)
  | .getVehicleById id => Service.dropResult (VehicleService.getVehicleById id)
  | .updateVehicle id dto => Service.dropResult (VehicleService.updateVehicle id dto)
  | .deleteVehicle id => VehicleService.deleteVehicle id
  | .createFleet dto => Service.dropResult (FleetService.createFleet dto)
  | .getAllFleets dto => Service.dropResult (FleetService.getAllFleets P dto none)
  | .getFleetById id => Service.dropResult (FleetService.getFleetById id)
  | .updateFleet id dto => Service.dropResult (FleetService.updateFleet id dto)
  | .deleteFleet id => FleetService.deleteFleet id
  | .ingest dto => Service.dropResult (TelemetryService.ingestTelemetry dto)
  | .latest vehicleId => Service.dropResult (TelemetryService.getLatest vehicleId)
  | .history vehicleId dto req =>
      Service.dropResult (TelemetryService.getHistory P vehicleId dto (some req))

end Route

/-- A request; `proceeds` tells whether the interceptors let it pass.  (The
`RequestContextInterceptor` throws "Method not implemented." whatever the request is; no
statement here rests on that.) -/
structure HttpRequest where
  bearer : Option String
  route : Route
  proceeds : Bool

namespace HttpRequest

/-- What comes after the guards. -/
def handle (P : Platform) (request : HttpRequest) : Service Unit := do
  if !request.proceeds then
    throw (.error "Method not implemented.")
  request.route.handler P

/-- What comes after `AuthGuard()`. -/
def authorized (P : Platform) (request : HttpRequest) (user : User) : Service Unit := do
  match request.route.guards with
  | .privilegesGuard required =>
      Service.lift (PrivilegesGuard.canActivate (required.map AllPrivileges.text) (some user))
  | _ => pure ()
  request.handle P

/-- A request as a thread: the guards and the handler. -/
def prog (P : Platform) (request : HttpRequest) : Service Unit :=
  match request.route.guards with
  | .unguarded => request.handle P
  | _ => do
      let user ← VoltFleet.authGuard P request.bearer
      request.authorized P user

end HttpRequest

end VoltFleet
