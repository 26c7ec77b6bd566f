import Mathlib.Data.List.Infix

/-!
# Enumerations and exceptions

The enumerations of `common/enums`, with the texts the database and the
decorators use, and the exceptions a service can throw.
-/

namespace VoltFleet

/-- The status of an account. -/
inductive AccountStatus where
  | ACTIVE
  | INACTIVE
  | LOCKED
  deriving DecidableEq, Repr

/-- The status of a vehicle. -/
inductive VehicleStatus where
  | ACTIVE
  | INACTIVE
  | MAINTENANCE
  deriving DecidableEq, Repr

/-- The roles the code knows by name. -/
inductive RolesConstant where
  | ADMIN
  | SUPER_ADMIN
  | MANAGER
  | OTHER_STAFF
  deriving DecidableEq, Repr

/-- The name a role has in the database. -/
def RolesConstant.text : RolesConstant → String
  | .ADMIN => "ADMIN"
  | .SUPER_ADMIN => "SUPER_ADMIN"
  | .MANAGER => "MANAGER"
  | .OTHER_STAFF => "OTHER_STAFF"

theorem RolesConstant.text_inj {r r' : RolesConstant} (h : r.text = r'.text) : r = r' := by
  cases r <;> cases r' <;> first | rfl | exact absurd h (by decide)

/-- The members of `AllPrivileges` that a handler requires. -/
inductive AllPrivileges where
  | CAN_VIEW_USERS
  | CAN_VIEW_ROLES
  | CAN_VIEW_PRIVILEGES
  | CAN_CREATE_ROLE
  | CAN_CREATE_PRIVILEGE
  | CAN_ASSIGN_PRIVILEGES
  | CAN_CREATE_ADMIN
  deriving DecidableEq, Repr

/-- The name a privilege has in the database. -/
def AllPrivileges.text : AllPrivileges → String
  | .CAN_VIEW_USERS => "CAN_VIEW_USERS"
  | .CAN_VIEW_ROLES => "CAN_VIEW_ROLES"
  | .CAN_VIEW_PRIVILEGES => "CAN_VIEW_PRIVILEGES"
  | .CAN_CREATE_ROLE => "CAN_CREATE_ROLE"
  | .CAN_CREATE_PRIVILEGE => "CAN_CREATE_PRIVILEGE"
  | .CAN_ASSIGN_PRIVILEGES => "CAN_ASSIGN_PRIVILEGES"
  | .CAN_CREATE_ADMIN => "CAN_CREATE_ADMIN"

/-- What a service throws: the exceptions of `@nestjs/common` with their
messages, an error of the database driver with its code, and any other `Error`. -/
inductive Thrown where
  | unauthorized (message : String)
  | forbidden (message : String)
  | badRequest (message : String)
  | notFound (message : String)
  | conflict (message : String)
  | internalServerError (message : String)
  | queryFailed (code message : String)
  | error (message : String)
  deriving DecidableEq, Repr

namespace Thrown

/-- How the text of a unique violation begins. -/
def duplicateKeyMessage : String := "duplicate key value violates unique constraint"

/-- A write that a unique index refuses. -/
def duplicateKey : Thrown := .queryFailed "23505" duplicateKeyMessage

/-- A write that leaves a reference to a row that is not there. -/
def foreignKey : Thrown :=
  .queryFailed "23503" "insert or update or delete violates foreign key constraint"

/-- A write of `null` to a column that is not nullable. -/
def notNull : Thrown :=
  .queryFailed "23502" "null value violates not-null constraint"

/-- A parameter that is no literal of the column's type. -/
def invalidText : Thrown :=
  .queryFailed "22P02" "invalid input syntax for type uuid"

/-- `error.code`. -/
def code : Thrown → Option String
  | .queryFailed code _ => some code
  | _ => none

/-- `error.message`. -/
def message : Thrown → String
  | .unauthorized m | .forbidden m | .badRequest m | .notFound m | .conflict m
  | .internalServerError m | .queryFailed _ m | .error m => m

/-- A command that a store does not answer. -/
def storeFailed : Thrown := .error "connection lost"

end Thrown

end VoltFleet
