import VoltFleet.Commands
import VoltFleet.Common.Pagination

/-!
# The methods of the auth repositories

`UserRepository`, `UserRoleRepository` and `UserPrivilegeRepository`: the queries
of the auth module with the checks and the error translation around them.
-/

namespace VoltFleet

/-- `CreateUserDto`; an optional property may also be `null`. -/
structure CreateUserDto where
  firstName : String
  lastName : String
  email : String
  accountStatus : Property AccountStatus
  role : Property RolesConstant
  password : String
  deriving DecidableEq

/-- `skip = (page - 1) * perPage`. -/
def skipOf (page perPage : NumericParam) : JsNumber := (page.value.sub 1).mul perPage.value

namespace UserRepository

/-- Hashes the password and inserts the account; a repeated email is a conflict. -/
def registerAccount (P : Platform) (createUserDto : CreateUserDto) (role : Option UserRole) :
    Service User := do
  let salt ← Service.await (.process .genSalt)
  let hashedPassword := P.bcryptHash salt createUserDto.password
  -- `create` keeps the mapped columns of the spread body; `role` is none of them
  let user : NewUser :=
    { firstName := createUserDto.firstName
      lastName := createUserDto.lastName
      email := P.toLowerCase createUserDto.email
      password := hashedPassword
      accountStatus := createUserDto.accountStatus
      userRole := role }
  try
    Service.await (.users (.insert user))
  catch error =>
    if error.code = some "23505" ∨ Thrown.duplicateKeyMessage.toList <:+: error.message.toList then
      throw (.conflict "Account email already exists")
    else
      throw (.internalServerError "Internal Server Error")

/-- Marks the account with this email as confirmed and active. -/
def confirmAccount (email : String) : Service User := do
  match ← Service.await (.users (.findOneByEmail email)) with
  | none => throw (.notFound "User not found")
  | some user =>
      let user := { user with isEmailVerified := true, accountStatus := .ACTIVE }
      let _ ← Service.await (.users (.save user))
      return user

/-- The account with this email, which has to be one. -/
def getUserByEmail (P : Platform) (email : String) : Service (Option User) := do
  if !P.isEmail email then
    throw (.badRequest "This is not a valid email.")
  try
    Service.await (.users (.findOneByEmail email))
  catch _ => throw (.error "Something went wrong")

/-- The account with this key. -/
def findUserById (id : String) : Service (Option User) := do
  try
    Service.await (.users (.findOneById id))
  catch _ => throw (.error "Something went wrong")

end UserRepository

namespace UserRoleRepository

/-- Saves a new role. -/
def createRole (accessDto : AccessDto) : Service UserRole :=
  Service.await (.roles (.insert accessDto))

/-- `name` is `none` where the caller passes `undefined` or `null`. -/
def getRoleByName (name : Option String) : Service UserRole := do
  match name with
  | none => throw (.badRequest "Role name cannot be empty")
  | some name =>
      if name = "" then
        throw (.badRequest "Role name cannot be empty")
      match ← Service.await (.roles (.findOneByName name)) with
      | none => throw (.badRequest "No role found with this option")
      | some role => return role

/-- The role with this key; that there is none is an internal error, too. -/
def getRoleById (id : String) : Service UserRole := do
  if id = "" then
    throw (.badRequest "Role name cannot be empty")
  try
    match ← Service.await (.roles (.findOneById id)) with
    | none => throw (.badRequest "No role found with this option")
    | some role => return role
  catch _ => throw (.internalServerError "Something went wrong")

/-- A page of the roles. -/
def getAllRoles (P : Platform) (page perPage search : Option String) (req : Option Request) :
    Service (PaginationResult UserRole) := do
  try
    let page := P.param page 1
    let perPage := P.param perPage 10
    let (result, total) ←
      Service.await (.roles (.findAndCount search (skipOf page perPage) perPage.value))
    Service.lift (generatePagination P page perPage total req result)
  catch _ => throw (.internalServerError "Some thing went wrong: UPR-ERROR")

end UserRoleRepository

namespace UserPrivilegeRepository

/-- Saves a new privilege. -/
def createPrivilege (accessDto : AccessDto) : Service UserPrivilege :=
  Service.await (.privileges (.insert accessDto))

/-- A page of the privileges. -/
def getAllPrivileges (P : Platform) (page perPage search : Option String)
    (req : Option Request) : Service (PaginationResult UserPrivilege) := do
  try
    let page := P.param page 1
    let perPage := P.param perPage 10
    let (result, total) ←
      Service.await (.privileges (.findAndCount search (skipOf page perPage) perPage.value))
    Service.lift (generatePagination P page perPage total req result)
  catch _ => throw (.internalServerError "Some thing went wrong: UPR-ERROR")

end UserPrivilegeRepository

end VoltFleet
