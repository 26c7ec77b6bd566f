import VoltFleet.Auth.Repositories
import VoltFleet.Cache.CacheService

/-!
# `AuthService`

A token is signed for the email and the role of a user.  Signing in records the
access token under `session:` and the refresh token under `refresh:`, for a day
and for a week.
-/

namespace VoltFleet

/-- The body of `signIn`, without `otp`, which nothing uses. -/
structure AuthCredentialsDto where
  email : String
  password : String
  deriving DecidableEq

/-- Whose password is reset, and the token that allows it. -/
structure ResetPasswordDto where
  userId : String
  token : String
  deriving DecidableEq

/-- The password that is to be set. -/
structure NewPasswordDto where
  newPassword : String
  deriving DecidableEq

/-- `{ accessToken, refreshToken, ...user }`. -/
structure SignInResult where
  accessToken : String
  refreshToken : String
  user : User
  deriving DecidableEq

namespace AuthService

/-- `60 * 60 * 24`. -/
def sessionTtl : Nat := 86400

/-- `60 * 60 * 24 * 7`, and `'7d'`. -/
def refreshTtl : Nat := 604800

/-- `'15m'`. -/
def accessLifetime : Nat := 900

/-- The cache key of an access token. -/
def sessionKey (userId : Uuid) (accessToken : String) : String :=
  "session:" ++ (userId.text ++ (":" ++ accessToken))

/-- The cache key of a refresh token. -/
def refreshKey (userId : Uuid) (refreshToken : String) : String :=
  "refresh:" ++ (userId.text ++ (":" ++ refreshToken))

/-- The cache key of a reset token. -/
def resetPasswordKey (userId : String) : String := "reset-password:" ++ userId

/-- `jwtService.sign(payload, { expiresIn })`. -/
def sign (P : Platform) (payload : JwtPayload) (expiresIn : Nat) : Service String := do
  let now ← Service.await (.process .now)
  return P.jwt.sign ⟨payload, now, now + expiresIn⟩

/-- `jwtService.verify(token)`. -/
def verify (P : Platform) (token : String) : Service JwtPayload := do
  let now ← Service.await (.process .now)
  match P.jwt.verify now token with
  | none => throw (.error "invalid token")
  | some claims => return claims.payload

/-- What `registerAccount` and the lookups of a sign-up throw, as it is passed on. -/
def signUpError : Thrown → Thrown
  | .badRequest message => .badRequest message
  | .conflict message => .conflict message
  | _ => .internalServerError "Something went wrong while creating the user account"

/-- The name a role is looked up by; `null` and `undefined` name none. -/
def roleName : Property RolesConstant → Option String
  | .value role => some role.text
  | _ => none

/-- Registers an account with the role of the body. -/
def signUp (P : Platform) (createUserDto : CreateUserDto) : Service Unit := do
  try
    match ← Service.await (.users (.findOneByEmail createUserDto.email)) with
    | some _ => throw (.conflict "Account with this email already exists")
    | none => pure ()
    let roleData ← UserRoleRepository.getRoleByName (roleName createUserDto.role)
    let _ ← UserRepository.registerAccount P createUserDto (some roleData)
  catch error => throw (signUpError error)

/-- Checks the credentials, signs both tokens, and records them and the session object. -/
def signIn (P : Platform) (authCredentialsDto : AuthCredentialsDto) (session : Nat) :
    Service SignInResult := do
  let normalizedEmail := P.toLowerCase authCredentialsDto.email
  match ← UserRepository.getUserByEmail P normalizedEmail with
  | none => throw (.unauthorized "Wrong email/password. Please check your login credentials")
  | some user =>
      if user.userRole.map UserRole.name = some RolesConstant.ADMIN.text ∨
          user.userRole.map UserRole.name = some RolesConstant.SUPER_ADMIN.text then
        throw (.unauthorized
          "Admin accounts cannot log in through this endpoint. Please use the admin panel.")
      if !user.isEmailVerified then
        throw (.forbidden
          "This account is yet to be confirmed. Request a confirmation email.")
      -- the source makes the same check twice
      if !user.isEmailVerified then
        throw (.forbidden
          "This account is yet to be confirmed. Request a confirmation email.")
      if !user.password.any (P.bcryptCompare authCredentialsDto.password) then
        throw (.unauthorized "Wrong email/password. Please check your login credentials")
      let payload : JwtPayload := ⟨normalizedEmail, user.userRole⟩
      let accessToken ← sign P payload P.expiresIn
      let refreshToken ← sign P payload refreshTtl
      let user := { user with password := none }
      Service.await (.process (.setCurrentUser session user))
      CacheService.set (sessionKey user.id accessToken) "active" (some sessionTtl)
      CacheService.set (refreshKey user.id refreshToken) "active" (some refreshTtl)
      return ⟨accessToken, refreshToken, user⟩

/-- Returns the new access token. -/
def refreshAccessToken (P : Platform) (refreshToken : String) : Service String := do
  let payload ←
    try verify P refreshToken
    catch _ => throw (.unauthorized "Invalid or expired refresh token")
  match ← UserRepository.getUserByEmail P payload.email with
  | none => throw (.unauthorized "User not found")
  | some user =>
      let isValid ← CacheService.get (refreshKey user.id refreshToken)
      if isValid ≠ some "active" then
        throw (.unauthorized "Refresh token is invalid or has been revoked")
      let newAccessToken ← sign P ⟨user.email, user.userRole⟩ accessLifetime
      CacheService.set (sessionKey user.id newAccessToken) "active" (some sessionTtl)
      return newAccessToken

/-- Deletes the refresh key of the token; whatever fails is swallowed. -/
def logout (P : Platform) (refreshToken : String) : Service Unit := do
  try
    let payload ← verify P refreshToken
    match ← UserRepository.getUserByEmail P payload.email with
    | none => pure ()
    | some user => CacheService.delete (refreshKey user.id refreshToken)
  catch _ => pure ()

/-- Returns the `message` of the response. -/
def resetPassword (P : Platform) (resetPasswordDto : ResetPasswordDto)
    (newPasswordDto : NewPasswordDto) : Service String := do
  let storedToken ← CacheService.get (resetPasswordKey resetPasswordDto.userId)
  if storedToken.getD "" = "" ∨ storedToken ≠ some resetPasswordDto.token then
    throw (.badRequest "Invalid or expired reset token")
  match ← UserRepository.findUserById resetPasswordDto.userId with
  | none => throw (.notFound "User not found")
  | some user =>
      let salt ← Service.await (.process .genSalt)
      let hashedPassword := P.bcryptHash salt newPasswordDto.newPassword
      let _ ← Service.await (.users (.save { user with password := some hashedPassword }))
      CacheService.delete (resetPasswordKey resetPasswordDto.userId)
      return "Password has been reset successfully"

/-- A page of the accounts, without their hashes. -/
def getAllUsers (P : Platform) (page perPage search : Option String) (req : Option Request) :
    Service (PaginationResult User) := do
  try
    let page := P.param page 1
    let perPage := P.param perPage 10
    let (result, total) ←
      Service.await (.users (.findAndCount search (skipOf page perPage) perPage.value))
    let result := result.map fun user => { user with password := none }
    Service.lift (generatePagination P page perPage total req result)
  catch _ => throw (.internalServerError "Some thing went wrong: AS-ERROR")

/-- The role with this key, which has to be a UUID. -/
def getRoleById (P : Platform) (id : String) : Service UserRole := do
  if !P.isUUID id then
    throw (.badRequest "Invalid Role ID")
  UserRoleRepository.getRoleById id

end AuthService

end VoltFleet
