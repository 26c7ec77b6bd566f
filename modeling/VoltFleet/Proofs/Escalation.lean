import VoltFleet.Auth.Proofs.Operations
import VoltFleet.Auth.Proofs.Revocation
import VoltFleet.Misc.Contract
import VoltFleet.PlainPlatform
import VoltFleet.Proofs.Routes

/-!
# No privilege escalation

Requests of accounts that cannot create roles, privileges or admins and cannot
assign privileges reach the stored accounts through two handlers only: the
registration of a staff member, which stores the role it has looked up, and the
password reset, which writes back the role the user was loaded with.  Both keep
`Unescalated`, in every interleaving.
-/

namespace VoltFleet

open Awaiting

/-- The privileges to change roles, privileges or the role of an account. -/
def elevating : List AllPrivileges :=
  [.CAN_ASSIGN_PRIVILEGES, .CAN_CREATE_ADMIN, .CAN_CREATE_ROLE, .CAN_CREATE_PRIVILEGE]

/-- None of these privileges is among the names. -/
def Unelevated (privilegeNames : List String) : Prop :=
  ∀ p ∈ elevating, p.text ∉ privilegeNames

instance (privilegeNames : List String) : Decidable (Unelevated privilegeNames) :=
  inferInstanceAs (Decidable (∀ p ∈ elevating, p.text ∉ privilegeNames))

/-- The role is the stored one with this name. -/
def RoleNamed (s₀ : Store) (name : String) (role : UserRole) : Prop :=
  ∃ r row, s₀.roles.find? r = some row ∧ row.name = name ∧ role = s₀.roleEntity r row

/-- The role an account may have: its own, or that of the staff if the account is new. -/
def RoleKept (s₀ : Store) (user : User) : Prop :=
  match s₀.users.find? user.id with
  | some row => user.userRole = (s₀.userEntity user.id row).userRole ∧ user.email = row.email
  | none => ∃ role, user.userRole = some role ∧ RoleNamed s₀ RolesConstant.OTHER_STAFF.text role

/-- The roles and privileges are those of the start, and so is the role of every account that
was there; the others are staff. -/
structure Unescalated (s₀ s : Store) : Prop where
  roles : s.roles = s₀.roles
  privileges : s.privileges = s₀.privileges
  present : ∀ u row₀, s₀.users.find? u = some row₀ → ∃ row, s.users.find? u = some row
  kept : ∀ u row, s.users.find? u = some row → RoleKept s₀ (s.userEntity u row)

theorem Unescalated.refl (s : Store) : Unescalated s s := by
  refine ⟨rfl, rfl, fun u row h => ⟨row, h⟩, fun u row h => ?_⟩
  have hrow : s.users.find? (s.userEntity u row).id = some row := h
  rw [RoleKept, hrow]
  exact ⟨rfl, rfl⟩

section

variable {P : Platform} {s₀ s : Store}

theorem Unescalated.role? (h : Unescalated s₀ s) : s.role? = s₀.role? :=
  role?_congr h.roles h.privileges

/-- Commands that write no account keep the invariant. -/
theorem Unescalated.of_same (h : Unescalated s₀ s) {s' : Store} (hs : SameAccounts s s') :
    Unescalated s₀ s' := by
  refine ⟨hs.roles.trans h.roles, hs.privileges.trans h.privileges, ?_, ?_⟩
  · rw [hs.users]
    exact h.present
  · intro u row hrow
    rw [hs.users] at hrow
    rw [hs.userEntity_eq]
    exact h.kept u row hrow

/-- A role that an account may have is read back from its key. -/
theorem RoleKept.role_eq {user : User} (h : RoleKept s₀ user) :
    (user.userRole.map UserRole.id).bind s₀.role? = user.userRole := by
  have hback : ∀ r role, s₀.role? r = some role → s₀.role? role.id = some role := by
    intro r role hr
    obtain ⟨row, hrow, rfl⟩ := Option.map_eq_some_iff.mp hr
    exact hr
  unfold RoleKept at h
  split at h
  · rename_i row hrow
    rw [h.1]
    show (((row.userRoleId.bind s₀.role?).map UserRole.id).bind s₀.role?) = _
    cases hrole : row.userRoleId.bind s₀.role? with
    | none => exact hrole.symm
    | some role =>
      obtain ⟨r, -, hr⟩ := Option.bind_eq_some_iff.mp hrole
      exact (hback r role hr).trans hrole.symm
  · obtain ⟨role, hrole, r, row, hrow, -, rfl⟩ := h
    rw [hrole]
    show s₀.role? r = _
    rw [Store.role?, hrow]
    rfl

/-- Only the key, the role and the email of a user matter. -/
theorem RoleKept.congr {user user' : User} (h : RoleKept s₀ user) (hid : user'.id = user.id)
    (hrole : user'.userRole = user.userRole) (hemail : user'.email = user.email) :
    RoleKept s₀ user' := by
  unfold RoleKept at h ⊢
  rw [hid, hrole, hemail]
  exact h

/-! ## The two writes -/

theorem Unescalated.put (h : Unescalated s₀ s) {u : Uuid} {row : UserRow}
    {users : Keyed.Table Uuid UserRow UserRow.email} (hput : s.users.put u row = some users)
    (hkept : RoleKept s₀ (s.userEntity u row)) : Unescalated s₀ { s with users := users } := by
  refine ⟨h.roles, h.privileges, fun v row₀ hv => ?_, fun v row' hv => ?_⟩
  · by_cases hvu : v = u
    · subst hvu
      exact ⟨row, Keyed.Table.find?_put_self hput⟩
    · obtain ⟨row', hrow'⟩ := h.present v row₀ hv
      exact ⟨row', (Keyed.Table.find?_put_ne hput hvu).trans hrow'⟩
  · by_cases hvu : v = u
    · subst hvu
      have hself : users.find? v = some row' := hv
      rw [Keyed.Table.find?_put_self hput] at hself
      cases hself
      exact hkept
    · exact h.kept v row' ((Keyed.Table.find?_put_ne hput hvu).symm.trans hv)

theorem Unescalated.save (h : Unescalated s₀ s) {user : User} (huser : RoleKept s₀ user) :
    Unescalated s₀ (commit s (saveUser s user)).2 := by
  refine commit_snd (p := Unescalated s₀) h fun user' s' hsave => ?_
  obtain ⟨row, users, hrow, -, hput, rfl⟩ := saveUser_ok hsave
  obtain ⟨password, rfl⟩ := savedRow_eq_row hrow
  have hrole : (s.userEntity user.id (user.row password)).userRole = user.userRole := by
    show (user.userRole.map UserRole.id).bind s.role? = _
    rw [h.role?]
    exact huser.role_eq
  exact h.put hput (huser.congr rfl hrole rfl)

theorem Unescalated.insert (h : Unescalated s₀ s) {user : NewUser} {role : UserRole}
    (huser : user.userRole = some role) (hrole : RoleNamed s₀ RolesConstant.OTHER_STAFF.text role) :
    Unescalated s₀ (commit s (insertUser P s user)).2 := by
  refine commit_snd (p := Unescalated s₀) h fun user' s' hinsert => ?_
  obtain ⟨status, users, -, -, hfree, hput, rfl⟩ := insertUser_ok hinsert
  have hnew : s₀.users.find? (P.uuid s.draws) = none := by
    cases hu : s₀.users.find? (P.uuid s.draws) with
    | none => rfl
    | some row₀ =>
      obtain ⟨row, hrow⟩ := h.present _ _ hu
      rw [hfree] at hrow
      cases hrow
  have hkept : RoleKept s₀ (s.userEntity (P.uuid s.draws) (user.row status)) := by
    have hid : s₀.users.find? (s.userEntity (P.uuid s.draws) (user.row status)).id = none := hnew
    rw [RoleKept, hid]
    refine ⟨role, ?_, hrole⟩
    obtain ⟨r, row, hrow, -, rfl⟩ := hrole
    show (user.userRole.map UserRole.id).bind s.role? = _
    rw [huser, h.role?]
    show s₀.role? r = _
    rw [Store.role?, hrow]
    rfl
  exact (h.put hput hkept).of_same ⟨rfl, rfl, rfl⟩

/-! ## The contract -/

/-- What a request may do that elevates nobody, and what it learns about accounts. -/
def requestContract (s₀ : Store) : Contract Cmd Cmd.Answer Thrown where
  allows
    | .users (.insert user) =>
        ∃ role, user.userRole = some role ∧ RoleNamed s₀ RolesConstant.OTHER_STAFF.text role
    | .users (.save user) => RoleKept s₀ user
    | c => LeavesAccounts c
  answers
    | .users (.findOneByEmail email), .ok (some user) => RoleKept s₀ user ∧ user.email = email
    | .users (.findOneById _), .ok (some user) => RoleKept s₀ user
    | .roles (.findOneByName name), .ok (some role) => RoleNamed s₀ name role
    | _, _ => True

theorem allows_of_leavesAccounts (c : Cmd) (h : LeavesAccounts c) :
    (requestContract s₀).allows c := by
  cases c with
  | users c =>
    cases c with
    | insert user => exact h.elim
    | save user => exact h.elim
    | _ => trivial
  | _ => exact h

theorem allows_cases {c : Cmd} (h : (requestContract s₀).allows c) :
    (∃ user role, c = .users (.insert user) ∧ user.userRole = some role ∧
      RoleNamed s₀ RolesConstant.OTHER_STAFF.text role) ∨
      (∃ user, c = .users (.save user) ∧ RoleKept s₀ user) ∨ LeavesAccounts c := by
  cases c with
  | users c =>
    cases c with
    | insert user =>
      obtain ⟨role, huser, hrole⟩ := h
      exact .inl ⟨user, role, rfl, huser, hrole⟩
    | save user => exact .inr (.inl ⟨user, rfl, h⟩)
    | _ => exact .inr (.inr trivial)
  | _ => exact .inr (.inr h)

theorem requestContract_findOneById {id : String} {r : Except Thrown (Option User)}
    (h : ∀ user, r = .ok (some user) → RoleKept s₀ user) :
    (requestContract s₀).answers (.users (.findOneById id)) r := by
  cases r with
  | error e => trivial
  | ok found =>
    cases found with
    | none => trivial
    | some user => exact h user rfl

theorem requestContract_honoured (P : Platform) (s₀ : Store) :
    (requestContract s₀).Honoured (system P) (Unescalated s₀) := by
  constructor
  case step =>
    intro c s hc hs
    show Unescalated s₀ (exec P c s).2
    rcases allows_cases hc with ⟨user, role, rfl, huser, hrole⟩ | ⟨user, rfl, huser⟩ | hleaves
    · exact hs.insert huser hrole
    · exact hs.save huser
    · exact hs.of_same (hleaves.exec P s)
  case answer =>
    intro c s hs
    show (requestContract s₀).answers c (exec P c s).1
    cases c with
    | users c =>
      cases c with
      | findOneByEmail email =>
        rcases findOneByEmail_cases P email s with h | ⟨u, row, hrow, hemail, h⟩ <;> rw [h]
        · trivial
        · exact ⟨hs.kept u row hrow, hemail⟩
      | findOneById id =>
        refine requestContract_findOneById fun user huser => ?_
        have hread : ((UserCmd.findOneById id).exec P s).1 = .ok (some user) := huser
        obtain ⟨u, -, hfound⟩ := findOneById_ok hread
        obtain ⟨row, hrow, rfl⟩ := Option.map_eq_some_iff.mp hfound.symm
        exact hs.kept u row hrow
      | _ => trivial
    | roles c =>
      cases c with
      | findOneByName name =>
        rcases findOneByName_cases P name s with h | ⟨r, row, hrow, hname, h⟩ <;> rw [h]
        · trivial
        · rw [hs.roles] at hrow
          rw [roleEntity_congr hs.privileges]
          exact ⟨r, row, hrow, hname, rfl⟩
      | _ => trivial
    | _ => trivial
  case fault =>
    intro c e _
    cases c with
    | users c => cases c <;> trivial
    | roles c => cases c <;> trivial
    | _ => trivial
  case env =>
    intro d s hs
    exact hs.of_same ⟨rfl, rfl, rfl⟩

/-! ## The handlers -/

theorem getRoleByName_meets (name : String) :
    (UserRoleRepository.getRoleByName (some name)).Meets (requestContract s₀)
      (RoleNamed s₀ name) := by
  unfold UserRoleRepository.getRoleByName
  by_cases hname : name = ""
  · simp only [if_pos hname]
    trivial
  · simp only [if_neg hname]
    refine .bind (Q := fun r => ∀ role, r = some role → RoleNamed s₀ name role)
      (.await trivial ?_) ?_
    · rintro r hr role rfl
      exact hr
    · intro r hr
      cases r with
      | none => trivial
      | some role => exact hr role rfl

theorem registerAccount_meets (dto : CreateUserDto) {role : UserRole}
    (hrole : RoleNamed s₀ RolesConstant.OTHER_STAFF.text role) :
    (UserRepository.registerAccount P dto (some role)).Meets (requestContract s₀)
      fun _ => True := by
  unfold UserRepository.registerAccount
  refine .bind (Q := fun _ => True) (.await trivial fun _ _ => trivial) fun salt _ => ?_
  refine .tryCatch (.await ⟨role, rfl, hrole⟩ fun _ _ => trivial) fun e => ?_
  split <;> trivial

theorem signUp_meets (dto : CreateUserDto) :
    (AuthService.signUp P { dto with role := .value .OTHER_STAFF }).Meets (requestContract s₀)
      fun _ => True := by
  unfold AuthService.signUp
  refine .tryCatch (.bind (Q := fun _ => True) (.await trivial fun _ _ => trivial)
    fun user _ => ?_) fun e => trivial
  cases user with
  | some user => trivial
  | none =>
    refine .bind (getRoleByName_meets RolesConstant.OTHER_STAFF.text) fun role hrole => ?_
    exact .bind (registerAccount_meets _ hrole) fun _ _ => trivial

theorem resetPassword_meets (dto : ResetPasswordDto) (newPassword : NewPasswordDto) :
    (AuthService.resetPassword P dto newPassword).Meets (requestContract s₀) fun _ => True :=
  AccountOp.resetPassword_meets_of (fun _ => trivial) (fun _ => trivial) trivial trivial
    fun _ _ huser => huser.congr rfl rfl rfl

/-- The privileges a route requires cannot be held without holding an elevating one. -/
def Route.Elevating (route : Route) : Prop :=
  ∃ required, route.guards = .privilegesGuard required ∧ ∃ p ∈ elevating, p ∈ required

theorem handler_meets {route : Route} (h : ¬ route.Elevating) :
    (route.handler P).Meets (requestContract s₀) fun _ => True := by
  by_cases hwrites : route.WritesAccounts
  · cases route with
    | resetPassword dto newPassword =>
      exact .bind (resetPassword_meets dto newPassword) fun _ _ => trivial
    | signUpAsAStaff dto => exact signUp_meets dto
    | createRole dto => exact absurd ⟨_, rfl, .CAN_CREATE_ROLE, by decide, by decide⟩ h
    | createPrivilege dto => exact absurd ⟨_, rfl, .CAN_CREATE_PRIVILEGE, by decide, by decide⟩ h
    | assignPrivilege dto answered =>
      exact absurd ⟨_, rfl, .CAN_ASSIGN_PRIVILEGES, by decide, by decide⟩ h
    | registerAdmin dto => exact absurd ⟨_, rfl, .CAN_CREATE_ADMIN, by decide, by decide⟩ h
    | _ => cases hwrites
  · exact (handler_issues hwrites).meets allows_of_leavesAccounts

/-! ## The guards -/

theorem handle_meets {request : HttpRequest} (h : ¬ request.route.Elevating) :
    (request.handle P).Meets (requestContract s₀) fun _ => True := by
  unfold HttpRequest.handle
  cases request.proceeds with
  | false => trivial
  | true => exact handler_meets h

/-- A route that requires an elevating privilege turns away a user without one. -/
theorem canActivate_elevating {required : List AllPrivileges} {user : User}
    (hrequired : ∃ p ∈ elevating, p ∈ required) (huser : Unelevated user.privilegeNames) :
    PrivilegesGuard.canActivate (required.map AllPrivileges.text) (some user) =
      .error (.forbidden "Access denied: insufficient privileges") := by
  obtain ⟨p, hp, hmem⟩ := hrequired
  have hne : required.map AllPrivileges.text ≠ [] := by
    intro he
    rw [List.map_eq_nil_iff.mp he] at hmem
    exact List.not_mem_nil hmem
  have hlacks :
      ¬ (required.map AllPrivileges.text).all (user.privilegeNames.contains ·) = true := by
    intro hall
    have hp' := List.all_eq_true.mp hall p.text (List.mem_map_of_mem hmem)
    exact huser p hp (List.contains_iff_mem.mp hp')
  unfold PrivilegesGuard.canActivate
  rw [if_neg hne]
  exact if_neg hlacks

theorem authorized_meets {request : HttpRequest} {user : User}
    (huser : Unelevated user.privilegeNames) :
    (request.authorized P user).Meets (requestContract s₀) fun _ => True := by
  unfold HttpRequest.authorized
  by_cases h : request.route.Elevating
  · obtain ⟨required, hguards, hrequired⟩ := h
    rw [hguards]
    dsimp only
    rw [canActivate_elevating hrequired huser]
    trivial
  · cases hguards : request.route.guards with
    | unguarded => exact handle_meets h
    | authGuard => exact handle_meets h
    | privilegesGuard required =>
      refine Prog.Meets.bind (Q := fun _ => True) ?_ fun _ _ => handle_meets h
      unfold Service.lift
      cases PrivilegesGuard.canActivate (required.map AllPrivileges.text) (some user) <;> trivial

/-- Whoever is found under the email of a verified token is unelevated, if the guard lets
nobody else in now. -/
theorem unelevated_of_verified (h : Unescalated s₀ s)
    (hstaff : ∀ role, RoleNamed s₀ RolesConstant.OTHER_STAFF.text role →
      Unelevated (role.userPrivileges.map UserPrivilege.name))
    {token : String} {claims : JwtClaims} (hv : P.jwt.verify s.clock token = some claims)
    (hnow : ∀ user, ((authGuard P (some token)).run (exec P) s).1 = .ok user →
      Unelevated user.privilegeNames) {user : User} (huser : RoleKept s₀ user)
    (hemail : user.email = claims.payload.email) : Unelevated user.privilegeNames := by
  cases hrow₀ : s₀.users.find? user.id with
  | none =>
    rw [RoleKept, hrow₀] at huser
    obtain ⟨role, hrole, hnamed⟩ := huser
    rw [User.privilegeNames, hrole]
    exact hstaff role hnamed
  | some row₀ =>
    -- the account was there at the start, and is there now with the same role and email
    obtain ⟨row, hrow⟩ := h.present user.id row₀ hrow₀
    have hkept : RoleKept s₀ (s.userEntity user.id row) := h.kept user.id row hrow
    have hid : s₀.users.find? (s.userEntity user.id row).id = some row₀ := hrow₀
    rw [RoleKept, hid] at hkept
    rw [RoleKept, hrow₀] at huser
    have hfound : s.userByEmail claims.payload.email = some (s.userEntity user.id row) :=
      userByEmail_eq_some.mpr ⟨user.id, row, hrow, (hkept.2.trans huser.2.symm).trans hemail, rfl⟩
    have hlast := hnow _ (authGuard_ok hv hfound)
    rw [User.privilegeNames, hkept.1] at hlast
    rw [User.privilegeNames, huser.1]
    exact hlast

/-- `AuthGuard()` after it has read the clock. -/
def guardVerify (P : Platform) (token : String) (now : Nat) : Service User :=
  match P.jwt.verify now token with
  | none => throw (.unauthorized "Unauthorized")
  | some claims => JwtStrategy.validate claims.payload

theorem authGuard_bind {α : Type} (token : String) (f : User → Service α) :
    ∃ k, (authGuard P (some token) >>= f) = .call (.process .now) k ∧
      ∀ now, k (.ok now) = guardVerify P token now >>= f := by
  refine ⟨_, rfl, fun now => ?_⟩
  show (tryCatch (AuthService.verified P token now) _ >>= JwtStrategy.validate) >>= f = _
  unfold guardVerify AuthService.verified
  cases P.jwt.verify now token <;> rfl

/-- A guarded request after its token has been verified. -/
theorem verified_meets {request : HttpRequest} {claims : JwtClaims}
    (h : ∀ user, RoleKept s₀ user → user.email = claims.payload.email →
      Unelevated user.privilegeNames) :
    (JwtStrategy.validate claims.payload >>= request.authorized P).Meets (requestContract s₀)
      fun _ => True := by
  have hvalidate : (JwtStrategy.validate claims.payload).Meets (requestContract s₀)
      fun user => Unelevated user.privilegeNames := by
    refine .bind (Q := fun r => ∀ user, r = some user → Unelevated user.privilegeNames)
      (.await trivial ?_) ?_
    · rintro r hr user rfl
      exact h user hr.1 hr.2
    · intro r hr
      cases r with
      | none => trivial
      | some user => exact hr user rfl
  exact .bind hvalidate fun user huser => authorized_meets huser

theorem prog_guarded {request : HttpRequest} (h : request.route.guards ≠ .unguarded) :
    request.prog P = authGuard P request.bearer >>= request.authorized P := by
  unfold HttpRequest.prog
  cases hguards : request.route.guards with
  | unguarded => exact absurd hguards h
  | authGuard => rfl
  | privilegesGuard required => rfl

theorem prog_unguarded {request : HttpRequest} (h : request.route.guards = .unguarded) :
    (request.prog P).Meets (requestContract s₀) fun _ => True := by
  unfold HttpRequest.prog
  rw [h]
  refine handle_meets ?_
  rintro ⟨required, hguards, -⟩
  rw [h] at hguards
  cases hguards

end

/-! ## Runs of requests -/

/-- The roles and privileges are the same, every account has kept its role, and the new
accounts are staff. -/
structure NoEscalation (s s' : Store) : Prop where
  roles : s'.roles = s.roles
  privileges : s'.privileges = s.privileges
  kept : ∀ u row, s.users.find? u = some row → ∃ row', s'.users.find? u = some row' ∧
    (s'.userEntity u row').userRole = (s.userEntity u row).userRole
  created : ∀ u row', s.users.find? u = none → s'.users.find? u = some row' →
    (s'.userEntity u row').userRole.map UserRole.name = some RolesConstant.OTHER_STAFF.text

theorem Unescalated.noEscalation {s s' : Store} (h : Unescalated s s') : NoEscalation s s' := by
  refine ⟨h.roles, h.privileges, fun u row hrow => ?_, fun u row' hnew hrow' => ?_⟩
  · obtain ⟨row', hrow'⟩ := h.present u row hrow
    have hkept : RoleKept s (s'.userEntity u row') := h.kept u row' hrow'
    have hid : s.users.find? (s'.userEntity u row').id = some row := hrow
    rw [RoleKept, hid] at hkept
    exact ⟨row', hrow', hkept.1⟩
  · have hkept : RoleKept s (s'.userEntity u row') := h.kept u row' hrow'
    have hid : s.users.find? (s'.userEntity u row').id = none := hnew
    rw [RoleKept, hid] at hkept
    obtain ⟨role, hrole, r, row, -, hname, rfl⟩ := hkept
    rw [hrole]
    exact congrArg some hname

namespace HttpRequest

variable {ι : Type}

/-- The requests are about to be served. -/
def started (P : Platform) (s : Store) (requests : ι → HttpRequest) : Serving ι Unit :=
  .start s fun i => (requests i).prog P

/-- A guarded request that is about to be checked is unauthenticated, or is that of an account
whose role holds no elevating privilege. -/
def OfUnelevated (P : Platform) (requests : ι → HttpRequest) (cfg : Serving ι Unit) :
    Move ι Nat → Prop
  | .step i =>
      (requests i).route.guards ≠ .unguarded → cfg.threads i = (requests i).prog P →
        ∀ user, ((VoltFleet.authGuard P (requests i).bearer).run (exec P) cfg.store).1 = .ok user →
          Unelevated user.privilegeNames
  | _ => True

/-- If the staff role holds no elevating privilege, no run of requests of unelevated accounts
changes a role, a privilege or the role of an account, and every account it creates is
staff. -/
theorem no_escalation [DecidableEq ι] (P : Platform) (s : Store) (requests : ι → HttpRequest)
    (hstaff : ∀ role, RoleNamed s RolesConstant.OTHER_STAFF.text role →
      Unelevated (role.userPrivileges.map UserPrivilege.name))
    (ms : List (Move ι Nat))
    (hrun : Config.Along (system P) (OfUnelevated P requests) (started P s requests) ms) :
    NoEscalation s ((started P s requests).exec (system P) ms).store := by
  have init : (started P s requests).Upholds (requestContract s) (Unescalated s)
      fun i => (requests i).prog P := ⟨fun i => .inl rfl, .refl s⟩
  refine (init.exec (requestContract_honoured P s) ?_ ?_ hrun).store.noEscalation
  · intro cfg i c k hinv hstart hc hok
    have hhonoured := requestContract_honoured P s
    by_cases hguards : (requests i).route.guards = .unguarded
    · have hmeets : ((requests i).prog P).Meets (requestContract s) fun _ => True :=
        prog_unguarded hguards
      rw [hstart] at hmeets
      exact ⟨hhonoured.step c _ hmeets.1 hinv, hmeets.2 _ (hhonoured.answer c _ hinv)⟩
    · rw [prog_guarded hguards] at hstart
      have hnow := hok hguards (hc.trans (by rw [prog_guarded hguards, hstart]))
      cases hbearer : (requests i).bearer with
      | none =>
        rw [hbearer] at hstart
        cases hstart
      | some token =>
        obtain ⟨k', hk', hverify⟩ := authGuard_bind (P := P) token ((requests i).authorized P)
        rw [hbearer] at hnow hstart
        rw [hk'] at hstart
        cases hstart
        refine ⟨hinv, ?_⟩
        show (k' (.ok cfg.store.clock)).Meets _ _
        rw [hverify, guardVerify]
        cases hv : P.jwt.verify cfg.store.clock token with
        | none => trivial
        | some claims =>
          exact verified_meets fun user huser hemail =>
            unelevated_of_verified hinv hstaff hv hnow huser hemail
  · intro i c k e hstart hf
    by_cases hguards : (requests i).route.guards = .unguarded
    · have hmeets : ((requests i).prog P).Meets (requestContract s) fun _ => True :=
        prog_unguarded hguards
      rw [hstart] at hmeets
      exact hmeets.2 _ ((requestContract_honoured P s).fault c e hf)
    · rw [prog_guarded hguards] at hstart
      cases hbearer : (requests i).bearer with
      | none =>
        rw [hbearer] at hstart
        cases hstart
      | some token =>
        rw [hbearer] at hstart
        cases hstart
        cases hf

/-! ## Two requests -/

/-- The staff role and a member of the staff. -/
def staffStore : Store :=
  { Store.empty with
    roles := ((∅ : Keyed.Table Uuid RoleRow RoleRow.name).put (.ofNat 7)
      ⟨"OTHER_STAFF", none, []⟩).getD ∅
    users := ((∅ : Keyed.Table Uuid UserRow UserRow.email).put (.ofNat 8)
      ⟨"Ada", "Byron", "ada@example.com", ⟨"#secret"⟩, .ACTIVE, true, some (.ofNat 7)⟩).getD ∅ }

/-- A member of the staff who wants to create a role, and a stranger who wants to register as
an admin. -/
def twoRequests : Bool → HttpRequest
  | false =>
      { bearer := some (Platform.plain.jwt.sign ⟨⟨"ada@example.com", none⟩, 0, 36000⟩)
        route := .createRole ⟨"ROOT", none⟩
        proceeds := true }
  | true =>
      { bearer := none
        route := .signUpAsAStaff ⟨"Eve", "Doe", "eve@example.com", .value .ACTIVE,
          .value .SUPER_ADMIN, "P@ssw0rd"⟩
        proceeds := true }

/-- The stranger becomes staff. -/
theorem stranger_becomes_staff :
    let cfg := (started .plain staffStore twoRequests).exec (system .plain)
      [.step false, .step true, .step true, .step true, .step true]
    (cfg.store.userByEmail "eve@example.com").isSome = true ∧
      NoEscalation staffStore cfg.store := by
  intro cfg
  refine ⟨by decide, no_escalation .plain staffStore twoRequests ?_ _ ?_⟩
  · rintro role ⟨r, row, hrow, -, rfl⟩
    have hput : (∅ : Keyed.Table Uuid RoleRow RoleRow.name).put (.ofNat 7)
        ⟨"OTHER_STAFF", none, []⟩ = some staffStore.roles := by rfl
    rw [Keyed.Table.find?_put hput] at hrow
    split at hrow
    · cases hrow
      exact fun p _ hmem => absurd hmem List.not_mem_nil
    · cases hrow
  · refine ⟨fun _ _ user huser => ?_, fun h => absurd rfl h, fun h => absurd rfl h,
      fun h => absurd rfl h, fun h => absurd rfl h, trivial⟩
    have hada : ((VoltFleet.authGuard .plain (twoRequests false).bearer).run (exec .plain)
        staffStore).1 = .ok (staffStore.userEntity (.ofNat 8) ⟨"Ada", "Byron", "ada@example.com",
          ⟨"#secret"⟩, .ACTIVE, true, some (.ofNat 7)⟩) :=
      authGuard_ok (JwtService.verify_eq_some.mpr ⟨rfl, by decide⟩)
        (userByEmail_eq_some.mpr ⟨.ofNat 8, _, by rfl, rfl, rfl⟩)
    obtain rfl := Except.ok.inj (hada.symm.trans huser)
    decide +kernel

end HttpRequest

end VoltFleet
