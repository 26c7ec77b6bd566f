import VoltFleet.Common.Enums
import VoltFleet.Common.Uuid

/-!
# Entities

The objects TypeORM hands to the services.  A loaded entity has every mapped
column; a relation is there only if the query asked for it or the relation is
eager.  `createdAt`, `updatedAt`, `deletedAt`, `createdBy` and `updatedBy` are
declared with `select: false`, so that a loaded entity does not have them.
-/

namespace VoltFleet

/-- A property of a JavaScript object: missing, `null` or a value. -/
inductive Property (α : Type) where
  | undefined
  | null
  | value (a : α)
  deriving DecidableEq, Repr

namespace Property

variable {α : Type}

/-- `Object.assign`: an own property of the source replaces the target's. -/
def assign (old new : Property α) : Property α :=
  match new with
  | .undefined => old
  | p => p

/-- Write a property to a column that is not nullable. -/
def toColumn (old : α) : Property α → Except Thrown α
  | .undefined => .ok old
  | .null => .error .notNull
  | .value a => .ok a

@[simp] theorem assign_undefined (p : Property α) : p.assign .undefined = p := rfl
@[simp] theorem assign_null (p : Property α) : p.assign .null = .null := rfl
@[simp] theorem assign_value (p : Property α) (a : α) : p.assign (.value a) = .value a := rfl

end Property

/-- What `bcrypt.hash` returns and the `password` column holds. -/
structure PasswordHash where
  digest : String
  deriving DecidableEq, Repr

/-- A loaded privilege. -/
structure UserPrivilege where
  id : Uuid
  name : String
  comment : Option String
  deriving DecidableEq

/-- A loaded role, with its privileges where they are selected. -/
structure UserRole where
  id : Uuid
  name : String
  comment : Option String
  userPrivileges : List UserPrivilege
  deriving DecidableEq

/-- A loaded user.  The role is an eager relation, and its privileges are one of
the role.  `password` is `none` after `delete user.password`. -/
structure User where
  id : Uuid
  firstName : String
  lastName : String
  email : String
  password : Option PasswordHash
  accountStatus : AccountStatus
  isEmailVerified : Bool
  userRole : Option UserRole
  deriving DecidableEq

/-- A loaded vehicle.  `fleet` is the relation, held by the key of the fleet it
points to; `fleetId` is no mapped property, and is there only if a request body
has put it there. -/
structure Vehicle where
  id : Uuid
  vin : Property String
  model : Property String
  manufacturer : Property String
  year : Property Int
  status : Property VehicleStatus
  fleet : Option Uuid
  fleetId : Property String
  deriving DecidableEq

/-- A fleet.  Its vehicles are there if the query asked for the relation, its
manager only on the fleet `createFleet` has built.  `managerId` is no mapped
property, as `Vehicle.fleetId`. -/
structure Fleet where
  id : Uuid
  name : Property String
  manager : Option User
  vehicles : Option (List Vehicle)
  managerId : Property String
  deriving DecidableEq

end VoltFleet
