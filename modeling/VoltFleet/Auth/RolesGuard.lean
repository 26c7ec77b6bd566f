import VoltFleet.PlainPlatform

/-!
# `Roles` and `RolesGuard`

The decorator stores the roles it is given under the key the guard reads.  The
guard takes what it finds for the name of one role.
-/

namespace VoltFleet

/-- What `Reflector.get` returns for a handler. -/
inductive Metadata where
  | undefined
  | text (s : String)
  | array (items : List String)
  deriving DecidableEq

namespace Metadata

/-- `!value` is false. -/
def truthy : Metadata → Bool
  | undefined => false
  | text s => s ≠ ""
  | array _ => true

/-- A text that may be missing. -/
def ofOption : Option String → Metadata
  | none => undefined
  | some s => text s

/-- `value === other` for a text that may be missing: an array is the same as no text. -/
def strictEq (value : Option String) (other : Metadata) : Bool := ofOption value = other

theorem strictEq_array (value : Option String) (items : List String) :
    strictEq value (array items) = false := by
  cases value <;> rfl

end Metadata

/-- `@Roles(...roles)`. -/
def Roles (roles : List RolesConstant) : Metadata := .array (roles.map RolesConstant.text)

namespace User

/-- `user.userRole?.name`. -/
def roleName? (user : User) : Option String := user.userRole.map UserRole.name

/-- The user's role is one of these. -/
def HasRole (user : User) (roles : List RolesConstant) : Prop :=
  ∃ role ∈ roles, user.roleName? = some role.text

instance (user : User) (roles : List RolesConstant) : Decidable (user.HasRole roles) :=
  inferInstanceAs (Decidable (∃ role ∈ roles, user.roleName? = some role.text))

end User

namespace RolesGuard

/-- `canActivate` with what the handler carries and `request.user`. -/
def canActivate (requiredRole : Metadata) (user : Option User) : Except Thrown Unit :=
  if ¬requiredRole.truthy then .ok ()
  else
    match user with
    | none => .error (.error "Cannot read properties of undefined (reading 'userRole')")
    | some user =>
        if ¬Metadata.strictEq user.roleName? requiredRole then
          .error (.forbidden "Access denied: role elevation required")
        else .ok ()

/-- No role passes a list of roles, not even an empty one. -/
theorem canActivate_roles (roles : List RolesConstant) (user : User) :
    canActivate (Roles roles) (some user) =
      .error (.forbidden "Access denied: role elevation required") := by
  have htruthy : (Roles roles).truthy = true := rfl
  have hne : Metadata.strictEq user.roleName? (Roles roles) = false := Metadata.strictEq_array ..
  simp [canActivate, htruthy, hne]

/-- The guard admits those whom the decorator names, and everybody where it names nobody. -/
def Agrees (roles : List RolesConstant) (user : User) : Prop :=
  canActivate (Roles roles) (some user) =
    if roles = [] ∨ user.HasRole roles then .ok ()
    else .error (.forbidden "Access denied: role elevation required")

/-- The guard agrees with the decorator on the users it is to refuse, and on no other. -/
theorem agrees_iff (roles : List RolesConstant) (user : User) :
    Agrees roles user ↔ roles ≠ [] ∧ ¬user.HasRole roles := by
  rw [Agrees, canActivate_roles, ← not_or]
  by_cases h : roles = [] ∨ user.HasRole roles
  · rw [if_pos h]
    constructor
    · intro hok
      cases hok
    · intro hnot
      exact absurd h hnot
  · rw [if_neg h]
    exact iff_of_true rfl h

/-- An administrator, at a handler for administrators. -/
theorem not_agrees_admin : ¬Agrees [.ADMIN]
    { id := .ofNat 1
      firstName := "Ada"
      lastName := "Byron"
      email := "ada@example.com"
      password := none
      accountStatus := .ACTIVE
      isEmailVerified := true
      userRole := some ⟨.ofNat 2, "ADMIN", none, []⟩ } := by
  unfold Agrees
  decide

end RolesGuard

end VoltFleet
