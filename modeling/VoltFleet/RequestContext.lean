import VoltFleet.Controllers
import VoltFleet.Misc.Placed
import VoltFleet.Responses

/-!
# The request context

`BaseEntitySubscriber` is to stamp what is inserted and updated with the user of
the request, whose key travels in an `AsyncLocalStorage`.  The interceptor that is
to fill the storage throws, and `NestFactory` installs it in `main.ts` only.

An object that is saved is held by its properties, so that `in` finds exactly what
has been given to `create`, loaded, or assigned.
-/

namespace VoltFleet

open Awaiting

/-- `interface RequestContext`. -/
structure RequestContext where
  userId : Option String
  deriving DecidableEq

/-- `getUserId`, from what `storage.getStore()` returns. -/
def RequestContextService.getUserId (store : Option RequestContext) : Option String :=
  store.bind RequestContext.userId

namespace RequestContextInterceptor

/-- `intercept`: the storage of the handler, from `request.user?.['id']`. -/
def intercept (_ : Option String) : Except Thrown (Option RequestContext) :=
  .error (.error "Method not implemented.")

/-- The `intercept` that is commented out. -/
def interceptCommentedOut (userId : Option String) : Except Thrown (Option RequestContext) :=
  .ok (some ⟨userId⟩)

end RequestContextInterceptor

/-! ## `BaseEntitySubscriber` -/

/-- The own properties of an object. -/
abbrev Properties : Type := List (String × Plain)

namespace Properties

/-- `name in entity`. -/
def Has (props : Properties) (name : String) : Prop := name ∈ props.map Prod.fst

instance (props : Properties) (name : String) : Decidable (props.Has name) :=
  inferInstanceAs (Decidable (name ∈ props.map Prod.fst))

/-- `if (name in entity) entity[name] = value`. -/
def stamp (name value : String) (props : Properties) : Properties :=
  if props.Has name then props.map fun e => if e.1 = name then (name, .text value) else e
  else props

end Properties

/-- The properties of an object; other values have none. -/
def Plain.props : Plain → Properties
  | .object props => props
  | _ => []

namespace BaseEntitySubscriber

/-- Stamps both columns, where the object has them and a user is known. -/
def beforeInsert (userId : Option String) (entity : Properties) : Properties :=
  match userId with
  | none => entity
  | some userId =>
      if userId = "" then entity
      else (entity.stamp "createdBy" userId).stamp "updatedBy" userId

example : beforeInsert (some "ada") [("name", .null), ("createdBy", .null)] =
    [("name", .null), ("createdBy", .text "ada")] := by rfl

/-- A row that is updated through the relation of another entity comes without one. -/
def beforeUpdate (userId : Option String) (entity : Option Properties) : Option Properties :=
  match userId, entity with
  | some userId, some entity =>
      if userId = "" then some entity else some (entity.stamp "updatedBy" userId)
  | _, _ => entity

end BaseEntitySubscriber

/-! ## The rows and their stamps -/

/-- The classes that extend `BaseEntity`. -/
inductive BaseEntity where
  | user
  | userRole
  | userPrivilege
  | fleet
  | vehicle
  | telemetry
  deriving DecidableEq

/-- The columns of a class.  The join rows of a role's privileges are in a table of their own. -/
abbrev BaseEntity.Row : BaseEntity → Type
  | .user => UserRow
  | .userRole => String × Option String
  | .userPrivilege => PrivilegeRow
  | .fleet => FleetRow
  | .vehicle => VehicleRow
  | .telemetry => TelemetryRow

instance : ∀ t : BaseEntity, DecidableEq t.Row
  | .user => inferInstanceAs (DecidableEq UserRow)
  | .userRole => inferInstanceAs (DecidableEq (String × Option String))
  | .userPrivilege => inferInstanceAs (DecidableEq PrivilegeRow)
  | .fleet => inferInstanceAs (DecidableEq FleetRow)
  | .vehicle => inferInstanceAs (DecidableEq VehicleRow)
  | .telemetry => inferInstanceAs (DecidableEq TelemetryRow)

/-- The stored row of a class, under its key. -/
def Store.row? (s : Store) : (t : BaseEntity) → Uuid → Option t.Row
  | .user, id => s.users.find? id
  | .userRole, id => (s.roles.find? id).map fun r => (r.name, r.comment)
  | .userPrivilege, id => s.privileges.find? id
  | .fleet, id => s.fleets.find? id
  | .vehicle, id => s.vehicles.find? id
  | .telemetry, id => s.telemetry.rows.find? (·.id = id)

/-- The columns `createdBy` and `updatedBy`. -/
structure Stamp where
  createdBy : Option String
  updatedBy : Option String
  deriving DecidableEq

/-- What is written to a nullable text column. -/
def Properties.column (props : Properties) (name : String) (old : Option String) :
    Option String :=
  match props.lookup name with
  | none => old
  | some (.text value) => some value
  | some _ => none

namespace Stamp

/-- A row that has not been stamped. -/
def blank : Stamp := ⟨none, none⟩

/-- The columns of a row once an object has been saved to it. -/
def write (st : Stamp) (entity : Properties) : Stamp :=
  ⟨entity.column "createdBy" st.createdBy, entity.column "updatedBy" st.updatedBy⟩

end Stamp

/-! ## What is saved -/

/-- What `create` keeps of a sign-up. -/
def NewUser.properties (u : NewUser) : Properties :=
  [("firstName", .text u.firstName), ("lastName", .text u.lastName), ("email", .text u.email),
    ("password", .hash u.password)] ++
  Plain.property "accountStatus" (fun status => .text status.text) u.accountStatus ++
  [("userRole", .nullable UserRole.toPlain u.userRole)]

/-- What `create` keeps of a role or a privilege. -/
def AccessDto.properties (dto : AccessDto) : Properties :=
  [("name", .text dto.name)] ++ Plain.optional "comment" (dto.comment.map .text)

/-- What `create` keeps of the body: `fleetId` is no property of the entity. -/
def CreateVehicleDto.properties (dto : CreateVehicleDto) : Properties :=
  [("vin", .text dto.vin), ("model", .text dto.model), ("manufacturer", .text dto.manufacturer),
    ("year", .number (.finite dto.year)), ("status", .text dto.status.text)]

/-- What `create` keeps of a reading. -/
def NewTelemetry.properties (rec : NewTelemetry) : Properties :=
  [("vehicleId", .text rec.vehicleId), ("latitude", .number (.finite rec.latitude)),
    ("longitude", .number (.finite rec.longitude)), ("speed", .number (.finite rec.speed)),
    ("soc", .number (.finite rec.soc)), ("temperature", .number (.finite rec.temperature)),
    ("fleetId", .text rec.fleetId)]

/-- The object that a command saves to a row of a class.  Saving a fleet writes its vehicles
through the relation. -/
def Cmd.saved : Cmd → BaseEntity → Option Properties
  | .users (.insert u), .user => some u.properties
  | .users (.save u), .user => some u.properties
  | .roles (.insert dto), .userRole => some dto.properties
  | .roles (.save role), .userRole => some role.toPlain.props
  | .privileges (.insert dto), .userPrivilege => some dto.properties
  | .fleets (.insert name manager), .fleet =>
      some [("name", .text name), ("manager", manager.toPlain)]
  | .fleets (.save f), .fleet => some f.toPlain.props
  | .vehicles (.insert dto), .vehicle => some dto.properties
  | .vehicles (.save v), .vehicle => some v.toPlain.props
  | .telemetry (.insert rec), .telemetry => some rec.properties
  | _, _ => none

/-! ## Requests -/

/-- A request that is being handled. -/
structure Handling where
  /-- `request.user?.['id']`. -/
  user : Option Uuid
  /-- What `storage.getStore()` returns. -/
  context : Option RequestContext

/-- The key the subscriber finds. -/
def Handling.userId (h : Handling) : Option String := RequestContextService.getUserId h.context

/-- The stores, with the stamps of the rows. -/
structure Stamped where
  store : Store
  stamps : BaseEntity → Uuid → Stamp

/-- The stamp of a row that a command finds as `old` and leaves as `new`. -/
def stampRow {R : Type} [DecidableEq R] (userId : Option String) (entity : Option Properties)
    (old new : Option R) (st : Stamp) : Stamp :=
  match old, new with
  | none, some _ => Stamp.blank.write (BaseEntitySubscriber.beforeInsert userId (entity.getD []))
  | some old, some new =>
      if old = new then st
      else ((BaseEntitySubscriber.beforeUpdate userId entity).map st.write).getD st
  | _, none => st

/-- What each command of a request does to the stores and the stamps. -/
def stampedExec (P : Platform) :
    Handler (Handling × Cmd) (fun c => c.2.Answer) Thrown Stamped := fun c x =>
  let s := (exec P c.2 x.store).2
  ((exec P c.2 x.store).1, ⟨s, fun t id =>
    stampRow c.1.userId (c.2.saved t) (x.store.row? t id) (s.row? t id) (x.stamps t id)⟩)

/-- The services with the subscriber. -/
def stampedSystem (P : Platform) :
    System (Handling × Cmd) (fun c => c.2.Answer) Thrown Stamped Nat :=
  ⟨stampedExec P, fun c => canFail c.2, fun d x => { x with store := elapse d x.store }⟩

/-- The global interceptors of an application: they throw, or fill the storage of the handler. -/
structure Application where
  intercept : Option String → Except Thrown (Option RequestContext)

namespace Application

/-- The application of `main.ts`. -/
def main : Application := ⟨RequestContextInterceptor.intercept⟩

/-- The application of the end-to-end tests, which is built of `AppModule` alone.  (A body is a
value of its DTO here as well.) -/
def testing : Application := ⟨fun _ => .ok none⟩

/-- `main.ts` with the interceptor that is commented out. -/
def intended : Application := ⟨RequestContextInterceptor.interceptCommentedOut⟩

variable (A : Application) (P : Platform) (request : HttpRequest)

/-- What comes after the guards. -/
def handle (user : Option User) : Prog (Handling × Cmd) (fun c => c.2.Answer) Thrown Unit :=
  match A.intercept (user.map (·.id.text)) with
  | .error e => .fail e
  | .ok context => (request.route.handler P).placed ⟨user.map User.id, context⟩

/-- What comes after `AuthGuard()`. -/
def authorized (user : User) : Prog (Handling × Cmd) (fun c => c.2.Answer) Thrown Unit := do
  match request.route.guards with
  | .privilegesGuard required =>
      Prog.ofExcept (PrivilegesGuard.canActivate (required.map AllPrivileges.text) (some user))
  | _ => pure ()
  A.handle P request (some user)

/-- A request as a thread.  (Its `proceeds` is not read: the application has its interceptors.) -/
def prog : Prog (Handling × Cmd) (fun c => c.2.Answer) Thrown Unit :=
  match request.route.guards with
  | .unguarded => A.handle P request none
  | _ => do
      let user ← (VoltFleet.authGuard P request.bearer).placed ⟨none, none⟩
      A.authorized P request user

end Application

end VoltFleet
