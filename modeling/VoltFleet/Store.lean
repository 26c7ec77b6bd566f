import VoltFleet.Platform
import VoltFleet.Misc.Expiring
import VoltFleet.Misc.Table
import VoltFleet.Telemetry.Gateway

/-!
# The stores

The rows of the tables behind the entities, the cache, and the state of the
process that the services change.  Every table has one unique column.  The join
table of `UserRole.userPrivileges` is kept in the role's row, and a reference to
another row is kept by its key.
-/

namespace VoltFleet

/-- An account. -/
structure UserRow where
  firstName : String
  lastName : String
  email : String
  password : PasswordHash
  accountStatus : AccountStatus
  isEmailVerified : Bool
  userRoleId : Option Uuid
  deriving DecidableEq

/-- A role, with the keys of its privileges. -/
structure RoleRow where
  name : String
  comment : Option String
  privilegeIds : List Uuid
  deriving DecidableEq

/-- A privilege. -/
structure PrivilegeRow where
  name : String
  comment : Option String
  deriving DecidableEq

/-- A fleet, with the key of its manager. -/
structure FleetRow where
  name : String
  managerId : Option Uuid
  createdAt : Nat
  deriving DecidableEq

/-- A vehicle, with the key of its fleet. -/
structure VehicleRow where
  vin : String
  model : String
  manufacturer : String
  year : Int
  status : VehicleStatus
  fleetId : Option Uuid
  createdAt : Nat
  deriving DecidableEq

/-- A reading; its `fleetId` is a plain text and refers to nothing. -/
structure TelemetryRow where
  id : Uuid
  vehicleId : Uuid
  latitude : ℚ
  longitude : ℚ
  speed : ℚ
  soc : ℚ
  temperature : ℚ
  fleetId : Option String
  createdAt : Nat
  deriving DecidableEq

/-- What a key of the cache can hold. -/
inductive RedisValue where
  | str (s : String)
  | list (l : List String)
  | hash (fields : List (String × String))
  deriving DecidableEq

/-- Everything the services share. -/
structure Store where
  users : Keyed.Table Uuid UserRow UserRow.email
  roles : Keyed.Table Uuid RoleRow RoleRow.name
  privileges : Keyed.Table Uuid PrivilegeRow PrivilegeRow.name
  fleets : Keyed.Table Uuid FleetRow FleetRow.name
  vehicles : Keyed.Table Uuid VehicleRow VehicleRow.vin
  telemetry : Keyed.Records Uuid TelemetryRow TelemetryRow.id
  cache : Expiring.Cache String RedisValue
  /-- `Date.now()`, in seconds. -/
  clock : Nat
  /-- The number of random choices made so far. -/
  draws : Nat
  /-- `session.currentUser` of each client session. -/
  sessions : Nat → Option User
  gateway : Gateway

namespace Store

/-- No row, no key, no client. -/
def empty : Store where
  users := ∅
  roles := ∅
  privileges := ∅
  fleets := ∅
  vehicles := ∅
  telemetry := ∅
  cache := ⟨fun _ => none⟩
  clock := 0
  draws := 0
  sessions := fun _ => none
  gateway := Gateway.empty

/-- A privilege's row as an entity. -/
def privilege? (s : Store) (id : Uuid) : Option UserPrivilege :=
  (s.privileges.find? id).map fun r => ⟨id, r.name, r.comment⟩

/-- A role's row as an entity; its privileges are an eager relation. -/
def roleEntity (s : Store) (id : Uuid) (r : RoleRow) : UserRole :=
  ⟨id, r.name, r.comment, r.privilegeIds.filterMap s.privilege?⟩

/-- The role under a key, with its privileges. -/
def role? (s : Store) (id : Uuid) : Option UserRole := (s.roles.find? id).map (s.roleEntity id)

/-- A user's row as an entity; its role is an eager relation. -/
def userEntity (s : Store) (id : Uuid) (r : UserRow) : User where
  id := id
  firstName := r.firstName
  lastName := r.lastName
  email := r.email
  password := some r.password
  accountStatus := r.accountStatus
  isEmailVerified := r.isEmailVerified
  userRole := r.userRoleId.bind s.role?

/-- A vehicle's row as an entity, without its relations. -/
def vehicleEntity (id : Uuid) (r : VehicleRow) : Vehicle where
  id := id
  vin := .value r.vin
  model := .value r.model
  manufacturer := .value r.manufacturer
  year := .value r.year
  status := .value r.status
  fleet := none
  fleetId := .undefined

/-- The vehicles whose row refers to a fleet. -/
def vehiclesOf (s : Store) (fleet : Uuid) : List Vehicle :=
  (s.vehicles.toList.filter fun e => e.2.fleetId = some fleet).map fun e => vehicleEntity e.1 e.2

/-- A fleet's row as an entity, with the relation `vehicles`. -/
def fleetEntity (s : Store) (id : Uuid) (r : FleetRow) : Fleet where
  id := id
  name := .value r.name
  manager := none
  vehicles := some (s.vehiclesOf id)
  managerId := .undefined

end Store

end VoltFleet
