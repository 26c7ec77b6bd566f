import VoltFleet.Auth.AuthService

/-!
# `JwtStrategy` and `PrivilegesGuard`

What stands between a request and a guarded handler: the bearer token is
verified, its email is looked up, and the privileges of the user found are
compared with those the handler requires.
-/

namespace VoltFleet

/-- `JwtStrategy.validate`. -/
def JwtStrategy.validate (payload : JwtPayload) : Service User := do
  match ← Service.await (.users (.findOneByEmail payload.email)) with
  | none => throw (.unauthorized "Unauthorized")
  | some user => return user

/-- `AuthGuard()`: passport verifies the bearer token and calls `validate`. -/
def authGuard (P : Platform) (bearer : Option String) : Service User := do
  match bearer with
  | none => throw (.unauthorized "Unauthorized")
  | some token =>
      let payload ←
        try AuthService.verify P token
        catch _ => throw (.unauthorized "Unauthorized")
      JwtStrategy.validate payload

/-- The names of the privileges a user's role holds. -/
def User.privilegeNames (user : User) : List String :=
  match user.userRole with
  | none => []
  | some role => role.userPrivileges.map UserPrivilege.name

/-- `PrivilegesGuard.canActivate` for a handler that requires these privileges. -/
def PrivilegesGuard.canActivate (requiredPrivileges : List String) (user : Option User) :
    Except Thrown Unit :=
  if requiredPrivileges = [] then .ok ()
  else
    let userPrivileges := (user.map User.privilegeNames).getD []
    if requiredPrivileges.all (userPrivileges.contains ·) then .ok ()
    else .error (.forbidden "Access denied: insufficient privileges")

end VoltFleet
