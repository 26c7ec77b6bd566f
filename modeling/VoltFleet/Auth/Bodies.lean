import VoltFleet.Auth.AuthService
import VoltFleet.Common.Body
import VoltFleet.Responses

/-!
# The bodies of sign-ups and resets

The DTOs of these bodies with their decorators, and how a body is read as one.  The
decorators of a property apply from the last to the first.
-/

namespace VoltFleet

open Matching BodyField

/-! ## The pattern of passwords -/

/-- `.`, which is no line terminator. -/
def isDot (unit : Nat) : Bool := unit ∉ [0x0A, 0x0D, 0x2028, 0x2029]

/-- `[a-z]`. -/
def isLower (unit : Nat) : Bool := 97 ≤ unit ∧ unit ≤ 122

/-- `[A-Z]`. -/
def isUpper (unit : Nat) : Bool := 65 ≤ unit ∧ unit ≤ 90

/-- `\d`. -/
def isDigit (unit : Nat) : Bool := 48 ≤ unit ∧ unit ≤ 57

/-- `[\W_]`. -/
def isSpecial (unit : Nat) : Bool := !(isLower unit || isUpper unit || isDigit unit)

/-- `(?=.*[…])`. -/
def lookFor (p : Nat → Bool) : Pattern Nat := .ahead (.seq (.repeated isDot 0 none) (.one p))

/-- `/^(?=.*[a-z])(?=.*[A-Z])(?=.*\d)(?=.*[\W_]).{8,32}$/`. -/
def passwordPattern : Pattern Nat :=
  .seq .start (.seq (lookFor isLower) (.seq (lookFor isUpper) (.seq (lookFor isDigit)
    (.seq (lookFor isSpecial) (.seq (.repeated isDot 8 (some 32)) .stop)))))

/-- What a refused password is answered with. -/
def passwordMessage : String :=
  "Password must contain at least one uppercase letter, one lowercase letter, one number, " ++
    "and one special character"

/-! ## Enumerations -/

/-- The values of the enumeration. -/
def AccountStatus.all : List AccountStatus := [.ACTIVE, .INACTIVE, .LOCKED]

/-- The values of the enumeration. -/
def RolesConstant.all : List RolesConstant := [.ADMIN, .SUPER_ADMIN, .MANAGER, .OTHER_STAFF]

/-- The status a text stands for. -/
def AccountStatus.ofText? (text : String) : Option AccountStatus :=
  AccountStatus.all.find? (·.text = text)

/-- The role a text stands for. -/
def RolesConstant.ofText? (text : String) : Option RolesConstant :=
  RolesConstant.all.find? (·.text = text)

/-! ## The DTOs -/

namespace CreateUserDto

/-- The fields, with what each is checked for in the order of the messages. -/
def fields (K : Checks) : List BodyField :=
  [⟨"firstName", false, [maxLength K "firstName" 30, minLength K "firstName" 2]⟩,
    ⟨"lastName", false, [maxLength K "lastName" 30, minLength K "lastName" 2]⟩,
    ⟨"email", false, [isEmail K "email"]⟩,
    ⟨"accountStatus", true, [isEnum "accountStatus" (AccountStatus.all.map AccountStatus.text)]⟩,
    ⟨"role", true, [isEnum "role" (RolesConstant.all.map RolesConstant.text)]⟩,
    ⟨"password", false, [matchesPattern passwordPattern passwordMessage,
      maxLength K "password" 32, minLength K "password" 8]⟩]

/-- The DTO of a body that has passed the checks. -/
def read (body : Body) : Option CreateUserDto := do
  let firstName ← body.text? "firstName"
  let lastName ← body.text? "lastName"
  let email ← body.text? "email"
  let password ← body.text? "password"
  return {
    firstName := firstName
    lastName := lastName
    email := email
    accountStatus := body.property "accountStatus" AccountStatus.ofText?
    role := body.property "role" RolesConstant.ofText?
    password := password }

/-- The body of a sign-up, as its handler gets it. -/
def receive (K : Checks) (body : Body) : Except Refusal CreateUserDto :=
  Body.receive (fields K) read body

end CreateUserDto

namespace NewPasswordDto

/-- The one field and its checks. -/
def fields (K : Checks) : List BodyField :=
  [⟨"newPassword", false, [matchesPattern passwordPattern passwordMessage,
    maxLength K "newPassword" 32, minLength K "newPassword" 8, isNotEmpty "newPassword",
    isString "newPassword"]⟩]

/-- The DTO of a body that has passed the checks. -/
def read (body : Body) : Option NewPasswordDto := do
  let newPassword ← body.text? "newPassword"
  return ⟨newPassword⟩

/-- The body of a reset, as its handler gets it. -/
def receive (K : Checks) (body : Body) : Except Refusal NewPasswordDto :=
  Body.receive (fields K) read body

end NewPasswordDto

namespace ResetPasswordDto

/-- The fields and their checks. -/
def fields : List BodyField :=
  [⟨"userId", false, [isNotEmpty "userId", isString "userId"]⟩,
    ⟨"token", false, [isNotEmpty "token", isString "token"]⟩]

/-- The DTO of a query that has passed the checks. -/
def read (query : Body) : Option ResetPasswordDto := do
  let userId ← query.text? "userId"
  let token ← query.text? "token"
  return ⟨userId, token⟩

/-- The query of a reset, as its handler gets it. -/
def receive (query : Body) : Except Refusal ResetPasswordDto := Body.receive fields read query

end ResetPasswordDto

end VoltFleet
