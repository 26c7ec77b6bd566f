import VoltFleet.Auth.AuthService
import VoltFleet.Vehicle.FleetService
import VoltFleet.Vehicle.VehicleService

/-!
# What is sent to a client

`TransformInterceptor` passes what a handler returns through `instanceToPlain`,
which copies every property: no entity has an `@Exclude` decorator.  A password
hash is a leaf of its own here, so that it can be told from a text that happens to
be equal to it.
-/

namespace VoltFleet

/-- A plain JavaScript value. -/
inductive Plain where
  | null
  | bool (b : Bool)
  | number (n : JsNumber)
  | text (s : String)
  | hash (h : PasswordHash)
  | array (items : List Plain)
  | object (props : List (String × Plain))

namespace Plain

/-- The hash is somewhere inside the value. -/
inductive Contains (h : PasswordHash) : Plain → Prop where
  | hash : Contains h (.hash h)
  | item {items : List Plain} {p : Plain} (hp : p ∈ items) (hc : Contains h p) :
      Contains h (.array items)
  | property {props : List (String × Plain)} {name : String} {p : Plain}
      (hp : (name, p) ∈ props) (hc : Contains h p) : Contains h (.object props)

/-- A property that may be missing. -/
def optional (name : String) : Option Plain → List (String × Plain)
  | none => []
  | some p => [(name, p)]

/-- A property that may be missing or `null`. -/
def property {α : Type} (name : String) (toPlain : α → Plain) : Property α → List (String × Plain)
  | .undefined => []
  | .null => [(name, .null)]
  | .value a => [(name, toPlain a)]

/-- A property that may be `null`. -/
def nullable {α : Type} (toPlain : α → Plain) : Option α → Plain
  | none => .null
  | some a => toPlain a

end Plain

/-- The text of a status. -/
def AccountStatus.text : AccountStatus → String
  | .ACTIVE => "ACTIVE"
  | .INACTIVE => "INACTIVE"
  | .LOCKED => "LOCKED"

/-- The text of a status. -/
def VehicleStatus.text : VehicleStatus → String
  | .ACTIVE => "ACTIVE"
  | .INACTIVE => "INACTIVE"
  | .MAINTENANCE => "MAINTENANCE"

/-! ## `instanceToPlain` -/

/-- A privilege as it is sent. -/
def UserPrivilege.toPlain (p : UserPrivilege) : Plain :=
  .object [("id", .text p.id.text), ("name", .text p.name),
    ("comment", .nullable .text p.comment)]

/-- A role as it is sent, with its privileges. -/
def UserRole.toPlain (r : UserRole) : Plain :=
  .object [("id", .text r.id.text), ("name", .text r.name),
    ("comment", .nullable .text r.comment),
    ("userPrivileges", .array (r.userPrivileges.map UserPrivilege.toPlain))]

/-- The properties of a user. -/
def User.properties (u : User) : List (String × Plain) :=
  [("id", .text u.id.text), ("firstName", .text u.firstName), ("lastName", .text u.lastName),
    ("email", .text u.email)] ++
  Plain.optional "password" (u.password.map .hash) ++
  [("accountStatus", .text u.accountStatus.text), ("isEmailVerified", .bool u.isEmailVerified),
    ("userRole", .nullable UserRole.toPlain u.userRole)]

/-- A user as it is sent, with the hash unless that has been deleted. -/
def User.toPlain (u : User) : Plain := .object u.properties

/-- A loaded fleet relation is kept by its key. -/
def Vehicle.toPlain (v : Vehicle) : Plain :=
  .object ([("id", .text v.id.text)] ++ Plain.property "vin" .text v.vin ++
    Plain.property "model" .text v.model ++ Plain.property "manufacturer" .text v.manufacturer ++
    Plain.property "year" (fun year : Int => .number (.finite year)) v.year ++
    Plain.property "status" (fun status => .text status.text) v.status ++
    Plain.optional "fleet" (v.fleet.map fun f => .object [("id", .text f.text)]) ++
    Plain.property "fleetId" .text v.fleetId)

/-- A fleet as it is sent, with what has been loaded of its relations. -/
def Fleet.toPlain (f : Fleet) : Plain :=
  .object ([("id", .text f.id.text)] ++ Plain.property "name" .text f.name ++
    Plain.optional "manager" (f.manager.map User.toPlain) ++
    Plain.optional "vehicles" (f.vehicles.map fun vs => .array (vs.map Vehicle.toPlain)) ++
    Plain.property "managerId" .text f.managerId)

/-- The block of a page as it is sent. -/
def Pagination.toPlain (p : Pagination) : Plain :=
  .object [("currentPage", .text p.currentPage.text), ("totalPages", .number p.totalPages),
    ("totalItems", .number (.finite p.totalItems)),
    ("itemsPerPage", .text p.itemsPerPage.text), ("currUrl", .text p.currUrl),
    ("prevUrl", .nullable .text p.prevUrl), ("nextUrl", .nullable .text p.nextUrl)]

/-- A page as it is sent. -/
def PaginationResult.toPlain {α : Type} (toPlain : α → Plain) (r : PaginationResult α) : Plain :=
  .object [("data", .array (r.data.map toPlain)), ("pagination", r.pagination.toPlain)]

/-- `{ accessToken, refreshToken, ...user }`. -/
def SignInResult.toPlain (r : SignInResult) : Plain :=
  .object ([("accessToken", .text r.accessToken), ("refreshToken", .text r.refreshToken)] ++
    r.user.properties)

/-! ## The operations whose result is sent -/

/-- The calls and their arguments. -/
inductive SentCall where
  | signIn (dto : AuthCredentialsDto) (session : Nat)
  | getAllUsers (page perPage search : Option String) (req : Option Request)
  | refreshAccessToken (refreshToken : String)
  | resetPassword (dto : ResetPasswordDto) (newPassword : NewPasswordDto)
  | createFleet (dto : CreateFleetDto)
  | getFleetById (id : String)
  | updateFleet (id : String) (dto : UpdateFleetDto)
  | createVehicle (dto : CreateVehicleDto)
  | updateVehicle (id : String) (dto : UpdateVehicleDto)
  | getVehicleById (id : String)

namespace SentCall

/-- A call and what is sent of its result. -/
def prog (P : Platform) : SentCall → Service Plain
  | .signIn dto session => SignInResult.toPlain <$> AuthService.signIn P dto session
  | .getAllUsers page perPage search req =>
      PaginationResult.toPlain User.toPlain <$> AuthService.getAllUsers P page perPage search req
  | .refreshAccessToken refreshToken =>
      (fun accessToken => .object [("accessToken", .text accessToken)]) <$>
        AuthService.refreshAccessToken P refreshToken
  | .resetPassword dto newPassword =>
      (fun message => .object [("message", .text message)]) <$>
        AuthService.resetPassword P dto newPassword
  | .createFleet dto => Fleet.toPlain <$> FleetService.createFleet dto
  | .getFleetById id => Fleet.toPlain <$> FleetService.getFleetById id
  | .updateFleet id dto => Fleet.toPlain <$> FleetService.updateFleet id dto
  | .createVehicle dto => Vehicle.toPlain <$> VehicleService.createVehicle dto
  | .updateVehicle id dto => Vehicle.toPlain <$> VehicleService.updateVehicle id dto
  | .getVehicleById id => Vehicle.toPlain <$> VehicleService.getVehicleById id

/-- The `session.currentUser` a call fills. -/
def filled (s : Store) : SentCall → Option User
  | .signIn _ session => s.sessions session
  | _ => none

/-- What a call hands out when it returns `result` and leaves the store `s`. -/
def handedOut (call : SentCall) (s : Store) (result : Plain) : List Plain :=
  result :: ((call.filled s).map User.toPlain).toList

end SentCall

end VoltFleet
