import VoltFleet.Auth.AssignPrivilege
import VoltFleet.Auth.Proofs.Logout
import VoltFleet.Auth.Proofs.SessionContract
import VoltFleet.Misc.Sequential

/-!
# Who is given tokens

A refresh looks neither at the confirmation nor at the role of its account.  What
it relies on is that only a sign-in writes refresh keys, for accounts that have
passed its checks, and that no other call takes the confirmation of an account
back or gives it another role.
-/

namespace VoltFleet

open Awaiting AuthService

/-- The operations on accounts, tokens and roles. -/
inductive AuthOp where
  | signUp (dto : CreateUserDto)
  | confirmAccount (email : String)
  | signIn (dto : AuthCredentialsDto) (session : Nat)
  | refreshAccessToken (token : String)
  | logout (token : String)
  | resetPassword (dto : ResetPasswordDto) (newPassword : NewPasswordDto)
  | createRole (dto : AccessDto)
  /-- With the lookups that happen to be answered before the save. -/
  | assignPrivilege (dto : AssignPrivilegeDto) (answered : List String)

/-- A call, with the tokens it returns. -/
def AuthOp.prog (P : Platform) : AuthOp → Service (List String)
  | .signUp dto => (fun _ => []) <$> AuthService.signUp P dto
  | .confirmAccount email => (fun _ => []) <$> UserRepository.confirmAccount email
  | .signIn dto session =>
      (fun result => [result.accessToken, result.refreshToken]) <$>
        AuthService.signIn P dto session
  | .refreshAccessToken token =>
      (fun accessToken => [accessToken]) <$> AuthService.refreshAccessToken P token
  | .logout token => (fun _ => []) <$> AuthService.logout P token
  | .resetPassword dto newPassword => (fun _ => []) <$> AuthService.resetPassword P dto newPassword
  | .createRole dto => (fun _ => []) <$> UserRoleRepository.createRole dto
  | .assignPrivilege dto answered => (fun _ => []) <$> AssignPrivilege.inTurn dto answered

/-- The account is confirmed, and a role it has is neither of the two admin roles. -/
structure Cleared (s : Store) (u : Uuid) (row : UserRow) : Prop where
  stored : s.users.find? u = some row
  verified : row.isEmailVerified = true
  role : ∀ r, row.userRoleId = some r → ∃ role, s.roles.find? r = some role ∧
    role.name ≠ RolesConstant.ADMIN.text ∧ role.name ≠ RolesConstant.SUPER_ADMIN.text

/-- Every reference to a role is to a stored one. -/
def RolesFound (s : Store) : Prop :=
  ∀ u row r, s.users.find? u = some row → row.userRoleId = some r →
    ∃ role, s.roles.find? r = some role

/-- Who may sign in is cleared. -/
theorem cleared_of_maySignIn {P : Platform} {s : Store} {dto : AuthCredentialsDto} {user : User}
    (hroles : RolesFound s) (h : MaySignIn P s dto user) : ∃ row, Cleared s user.id row := by
  obtain ⟨u, row, hrow, -, rfl⟩ := userByEmail_eq_some.mp h.found
  refine ⟨row, hrow, h.verified, fun r hr => ?_⟩
  obtain ⟨role, hrole⟩ := hroles u row r hrow hr
  have hname := userEntity_role_name hr hrole u
  have hadmin := h.role
  rw [hname, Option.some.injEq, Option.some.injEq] at hadmin
  exact ⟨role, hrole, fun he => hadmin (.inl he), fun he => hadmin (.inr he)⟩

/-! ## What the other calls leave -/

/-- Accounts keep their email and their role and stay confirmed, new ones have a role, roles
keep their names, and no refresh key comes about. -/
structure Follows (s₀ s : Store) : Prop where
  kept : ∀ u row₀, s₀.users.find? u = some row₀ → ∃ row, s.users.find? u = some row ∧
    row.email = row₀.email ∧ row.userRoleId = row₀.userRoleId ∧
    (row₀.isEmailVerified = true → row.isEmailVerified = true)
  created : ∀ u row, s₀.users.find? u = none → s.users.find? u = some row →
    ∃ r role, row.userRoleId = some r ∧ s.roles.find? r = some role
  roles : ∀ r role₀, s₀.roles.find? r = some role₀ →
    ∃ role, s.roles.find? r = some role ∧ role.name = role₀.name
  keys : ∀ u token, s₀.cache.get s₀.clock (refreshKey u token) = none →
    s.cache.get s.clock (refreshKey u token) = none

/-- A user that may be saved: an account with its email, its role and its confirmation. -/
structure Carries (s₀ : Store) (user : User) : Prop where
  kept : ∀ row₀, s₀.users.find? user.id = some row₀ → user.email = row₀.email ∧
    user.userRole.map UserRole.id = row₀.userRoleId ∧
    (row₀.isEmailVerified = true → user.isEmailVerified = true)
  created : s₀.users.find? user.id = none → user.userRole ≠ none

/-- A role that may be saved: one with its name. -/
def NameKept (s₀ : Store) (role : UserRole) : Prop :=
  ∀ role₀, s₀.roles.find? role.id = some role₀ → role.name = role₀.name

theorem Follows.refl (s : Store) : Follows s s := by
  refine ⟨fun u row h => ⟨row, h, rfl, rfl, id⟩, fun u row hnone h => ?_,
    fun r role h => ⟨role, h, rfl⟩, fun _ _ h => h⟩
  rw [hnone] at h
  cases h

section

variable {P : Platform} {s₀ s : Store}

theorem Follows.rolesFound (h : Follows s₀ s) (hroles : RolesFound s₀) : RolesFound s := by
  intro u row r hrow hr
  cases hrow₀ : s₀.users.find? u with
  | none =>
    obtain ⟨r', role, hr', hrole⟩ := h.created u row hrow₀ hrow
    rw [hr] at hr'
    cases hr'
    exact ⟨role, hrole⟩
  | some row₀ =>
    obtain ⟨row', hrow', -, hrole, -⟩ := h.kept u row₀ hrow₀
    rw [hrow] at hrow'
    cases hrow'
    rw [hr] at hrole
    obtain ⟨role₀, hrole₀⟩ := hroles u row₀ r hrow₀ hrole.symm
    obtain ⟨role, hfound, -⟩ := h.roles r role₀ hrole₀
    exact ⟨role, hfound⟩

theorem Follows.cleared (h : Follows s₀ s) {u : Uuid} {row₀ : UserRow}
    (hclear : Cleared s₀ u row₀) : ∃ row, Cleared s u row := by
  obtain ⟨row, hrow, -, hrole, hverified⟩ := h.kept u row₀ hclear.stored
  refine ⟨row, hrow, hverified hclear.verified, fun r hr => ?_⟩
  rw [hrole] at hr
  obtain ⟨role₀, hrole₀, hadmin, hsuper⟩ := hclear.role r hr
  obtain ⟨role, hfound, hname⟩ := h.roles r role₀ hrole₀
  rw [← hname] at hadmin hsuper
  exact ⟨role, hfound, hadmin, hsuper⟩

/-- What a lookup finds may be saved. -/
theorem Follows.carries (h : Follows s₀ s) (hroles : RolesFound s₀) {u : Uuid} {row : UserRow}
    (hrow : s.users.find? u = some row) : Carries s₀ (s.userEntity u row) := by
  have hid := userEntity_role_id (h.rolesFound hroles u row · hrow) u
  constructor
  · intro row₀ hrow₀
    obtain ⟨row', hrow', hemail, hrole, hverified⟩ := h.kept u row₀ hrow₀
    rw [hrow] at hrow'
    cases hrow'
    exact ⟨hemail, hid.trans hrole, hverified⟩
  · intro hnone hrole
    obtain ⟨r, role, hr, -⟩ := h.created u row hnone hrow
    rw [hrole, hr] at hid
    cases hid

theorem Follows.nameKept (h : Follows s₀ s) {r : Uuid} {row : RoleRow}
    (hrow : s.roles.find? r = some row) : NameKept s₀ (s.roleEntity r row) := by
  intro role₀ hrole₀
  obtain ⟨role, hrole, hname⟩ := h.roles r role₀ hrole₀
  rw [hrow] at hrole
  cases hrole
  exact hname

/-! ## The writes -/

/-- A command that writes no account and no refresh key. -/
theorem Follows.quiet (h : Follows s₀ s) {s' : Store} (hsame : SameAccounts s s')
    (hkeys : ∀ u token, s.cache.get s.clock (refreshKey u token) = none →
      s'.cache.get s'.clock (refreshKey u token) = none) : Follows s₀ s' := by
  refine ⟨?_, ?_, ?_, fun u token hnone => hkeys u token (h.keys u token hnone)⟩
  · rw [hsame.users]
    exact h.kept
  · rw [hsame.users, hsame.roles]
    exact h.created
  · rw [hsame.roles]
    exact h.roles

theorem Follows.putUser (h : Follows s₀ s) {u : Uuid} {row : UserRow}
    {users : Keyed.Table Uuid UserRow UserRow.email} (hput : s.users.put u row = some users)
    (hkept : ∀ row₀, s₀.users.find? u = some row₀ → row.email = row₀.email ∧
      row.userRoleId = row₀.userRoleId ∧ (row₀.isEmailVerified = true → row.isEmailVerified = true))
    (hcreated : s₀.users.find? u = none →
      ∃ r role, row.userRoleId = some r ∧ s.roles.find? r = some role) :
    Follows s₀ { s with users := users } := by
  refine ⟨fun v row₀ hrow₀ => ?_, fun v row' hnone hrow' => ?_, h.roles, h.keys⟩
  · by_cases hv : v = u
    · subst hv
      exact ⟨row, Keyed.Table.find?_put_self hput, hkept row₀ hrow₀⟩
    · obtain ⟨row', hrow', hrest⟩ := h.kept v row₀ hrow₀
      exact ⟨row', (Keyed.Table.find?_put_ne hput hv).trans hrow', hrest⟩
  · by_cases hv : v = u
    · subst hv
      have hself : users.find? v = some row' := hrow'
      rw [Keyed.Table.find?_put_self hput] at hself
      cases hself
      exact hcreated hnone
    · exact h.created v row' hnone ((Keyed.Table.find?_put_ne hput hv).symm.trans hrow')

theorem Follows.putRole (h : Follows s₀ s) {r : Uuid} {row : RoleRow}
    {roles : Keyed.Table Uuid RoleRow RoleRow.name} (hput : s.roles.put r row = some roles)
    (hname : ∀ role₀, s₀.roles.find? r = some role₀ → row.name = role₀.name) :
    Follows s₀ { s with roles := roles } := by
  have found : ∀ r' role, s.roles.find? r' = some role → ∃ role', roles.find? r' = some role' := by
    intro r' role hrole
    by_cases hr : r' = r
    · subst hr
      exact ⟨row, Keyed.Table.find?_put_self hput⟩
    · exact ⟨role, (Keyed.Table.find?_put_ne hput hr).trans hrole⟩
  refine ⟨h.kept, fun u user hnone huser => ?_, fun r' role₀ hrole₀ => ?_, h.keys⟩
  · obtain ⟨r', role, hr', hrole⟩ := h.created u user hnone huser
    obtain ⟨role', hrole'⟩ := found r' role hrole
    exact ⟨r', role', hr', hrole'⟩
  · by_cases hr : r' = r
    · subst hr
      exact ⟨row, Keyed.Table.find?_put_self hput, hname role₀ hrole₀⟩
    · obtain ⟨role, hrole, hkept⟩ := h.roles r' role₀ hrole₀
      exact ⟨role, (Keyed.Table.find?_put_ne hput hr).trans hrole, hkept⟩

theorem Follows.save (h : Follows s₀ s) {user : User} (huser : Carries s₀ user) :
    Follows s₀ (commit s (saveUser s user)).2 := by
  refine commit_snd (p := Follows s₀) h fun user' s' hsave => ?_
  obtain ⟨row, users, hrow, href, hput, rfl⟩ := saveUser_ok hsave
  obtain ⟨password, rfl⟩ := savedRow_eq_row hrow
  refine h.putUser hput huser.kept fun hnone => ?_
  obtain ⟨role, hrole⟩ := Option.ne_none_iff_exists'.mp (huser.created hnone)
  have hid : (user.row password).userRoleId = some role.id := by
    rw [User.row, hrole]
    rfl
  obtain ⟨row, hrow⟩ := checkReference_eq_ok.mp href role.id hid
  exact ⟨role.id, row, hid, hrow⟩

theorem Follows.insert (h : Follows s₀ s) {user : NewUser} (huser : user.userRole ≠ none) :
    Follows s₀ (commit s (insertUser P s user)).2 := by
  refine commit_snd (p := Follows s₀) h fun user' s' hinsert => ?_
  obtain ⟨status, users, -, href, hfree, hput, rfl⟩ := insertUser_ok hinsert
  obtain ⟨role, hrole⟩ := Option.ne_none_iff_exists'.mp huser
  have hid : (user.row status).userRoleId = some role.id := by
    rw [NewUser.row, hrole]
    rfl
  obtain ⟨row, hrow⟩ := checkReference_eq_ok.mp href role.id hid
  have hinserted : Follows s₀ { s with users := users } := by
    refine h.putUser hput (fun row₀ hrow₀ => ?_) fun _ => ⟨role.id, row, hid, hrow⟩
    obtain ⟨row', hrow', -⟩ := h.kept _ row₀ hrow₀
    rw [hfree] at hrow'
    cases hrow'
  exact hinserted.quiet ⟨rfl, rfl, rfl⟩ fun _ _ hnone => hnone

theorem Follows.saveRole (h : Follows s₀ s) {role : UserRole} (hrole : NameKept s₀ role) :
    Follows s₀ (commit s (saveRole P s role)).2 := by
  refine commit_snd (p := Follows s₀) h fun role' s' hsave => ?_
  obtain ⟨roles, hput, rfl⟩ := saveRole_ok hsave
  exact h.putRole hput hrole

theorem Follows.insertRole (h : Follows s₀ s) (dto : AccessDto) :
    Follows s₀ (commit s (insertRole P s dto)).2 := by
  refine commit_snd (p := Follows s₀) h fun role s' hinsert => ?_
  obtain ⟨-, roles, hfree, hput, rfl⟩ := insertRole_ok hinsert
  have hinserted : Follows s₀ { s with roles := roles } := by
    refine h.putRole hput fun role₀ hrole₀ => ?_
    obtain ⟨role, hrole, -⟩ := h.roles _ role₀ hrole₀
    rw [hfree] at hrole
    cases hrole
  exact hinserted.quiet ⟨rfl, rfl, rfl⟩ fun _ _ hnone => hnone

/-! ## The contract -/

/-- What the calls other than a sign-in and a refresh may do, and what they load. -/
def accountContract (s₀ : Store) : Contract Cmd Cmd.Answer Thrown where
  allows
    | .users (.insert user) => user.userRole ≠ none
    | .users (.save user) => Carries s₀ user
    | .roles (.save role) => NameKept s₀ role
    | .redis (.set key _) => ∀ u token, refreshKey u token ≠ key
    | .redis (.rpush ..) => False
    | .redis (.hset ..) => False
    | .privileges (.insert _) => False
    | .fleets _ => False
    | .vehicles _ => False
    | .telemetry _ => False
    | _ => True
  answers
    | .users (.findOneByEmail _), .ok (some user) => Carries s₀ user
    | .users (.findOneById _), .ok (some user) => Carries s₀ user
    | .roles (.findOneById _), .ok (some role) => NameKept s₀ role
    | _, _ => True

theorem accountContract_refreshCmd (c : Cmd) (h : RefreshCmd c) :
    (accountContract s₀).allows c := by
  cases c with
  | users c =>
    cases c with
    | findOneByEmail email => trivial
    | _ => exact h.elim
  | redis c =>
    cases c with
    | set key value =>
      obtain ⟨u, token, rfl⟩ := h
      exact fun u' token' => refreshKey_ne_sessionKey u' u token' token
    | rpush key data => exact h.elim
    | hset key field value => exact h.elim
    | _ => trivial
  | process c => trivial
  | _ => exact h.elim

theorem accountContract_step {c : Cmd} (hc : (accountContract s₀).allows c) (h : Follows s₀ s) :
    Follows s₀ (exec P c s).2 := by
  cases c with
  | users c =>
    cases c with
    | insert user => exact h.insert hc
    | save user => exact h.save hc
    | _ => exact h
  | roles c =>
    cases c with
    | insert dto => exact h.insertRole dto
    | save role => exact h.saveRole hc
    | _ => exact h
  | privileges c =>
    cases c with
    | insert dto => exact hc.elim
    | _ => exact h
  | redis c =>
    refine h.quiet (LeavesAccounts.exec (c := .redis c) trivial P s) fun u token hnone => ?_
    have hcmd : SessionCmd (.redis c) := by
      cases c with
      | rpush key data => exact hc.elim
      | hset key field value => exact hc.elim
      | _ => trivial
    refine hcmd.get_of_none P ?_ hnone
    intro value hset
    cases hset
    exact hc u token rfl
  | process c =>
    refine h.quiet (LeavesAccounts.exec (c := .process c) trivial P s) fun u token hnone => ?_
    exact SessionCmd.get_of_none (c := .process c) trivial P nofun hnone
  | _ => exact hc.elim

theorem accountContract_answer (hroles : RolesFound s₀) (c : Cmd) (h : Follows s₀ s) :
    (accountContract s₀).answers c (exec P c s).1 := by
  cases c with
  | users c =>
    cases c with
    | findOneByEmail email =>
      rcases findOneByEmail_cases P email s with hr | ⟨u, row, hrow, -, hr⟩ <;> rw [hr]
      · trivial
      · exact h.carries hroles hrow
    | findOneById id =>
      have loaded : ∀ r : Except Thrown (Option User),
          (∀ user, r = .ok (some user) → Carries s₀ user) →
          (accountContract s₀).answers (.users (.findOneById id)) r := by
        intro r hr
        cases r with
        | error e => trivial
        | ok found =>
          cases found with
          | none => trivial
          | some user => exact hr user rfl
      refine loaded _ fun user huser => ?_
      rcases findOneById_cases P id s with ⟨e, hr⟩ | hr | ⟨u, row, -, hrow, hr⟩
      · cases hr.symm.trans huser
      · cases hr.symm.trans huser
      · cases hr.symm.trans huser
        exact h.carries hroles hrow
    | _ => trivial
  | roles c =>
    cases c with
    | findOneById id =>
      have named : ∀ r : Except Thrown (Option UserRole),
          (∀ role, r = .ok (some role) → NameKept s₀ role) →
          (accountContract s₀).answers (.roles (.findOneById id)) r := by
        intro r hr
        cases r with
        | error e => trivial
        | ok found =>
          cases found with
          | none => trivial
          | some role => exact hr role rfl
      refine named _ fun role hrole => ?_
      obtain ⟨r, -, hfound⟩ := bind_eq_ok.mp hrole
      obtain ⟨row, hrow, rfl⟩ := Option.map_eq_some_iff.mp (Except.ok.inj hfound)
      exact h.nameKept hrow
    | _ => trivial
  | _ => trivial

theorem accountContract_honoured (P : Platform) (hroles : RolesFound s₀) :
    (accountContract s₀).Honoured (system P) (Follows s₀) := by
  constructor
  case step =>
    intro c s hc hs
    exact accountContract_step hc hs
  case answer =>
    intro c s hs
    exact accountContract_answer hroles c hs
  case fault =>
    intro c e _
    cases c with
    | users c => cases c <;> trivial
    | roles c => cases c <;> trivial
    | _ => trivial
  case env =>
    intro d s hs
    exact hs.quiet ⟨rfl, rfl, rfl⟩ fun _ _ hnone => Expiring.Cache.get_add_of_none hnone

/-! ## The calls -/

theorem confirmAccount_meets (email : String) :
    (UserRepository.confirmAccount email).Meets (accountContract s₀) fun _ => True := by
  unfold UserRepository.confirmAccount
  refine .bind (Q := fun found => ∀ user, found = some user → Carries s₀ user)
    (.await trivial ?_) fun found hfound => ?_
  · rintro found hfound user rfl
    exact hfound
  · cases found with
    | none => trivial
    | some user =>
      have hcarries := hfound user rfl
      have hconfirmed :
          Carries s₀ { user with isEmailVerified := true, accountStatus := .ACTIVE } :=
        ⟨fun row₀ hrow₀ =>
            ⟨(hcarries.kept row₀ hrow₀).1, (hcarries.kept row₀ hrow₀).2.1, fun _ => rfl⟩,
          hcarries.created⟩
      exact .bind (Q := fun _ => True) (.await hconfirmed fun _ _ => trivial) fun _ _ => trivial

theorem lookups_issues (ids : List String) :
    (AssignPrivilege.lookups ids).Issues fun c => ∃ id, c = .privileges (.findOneById id) := by
  induction ids with
  | nil => trivial
  | cons id ids ih =>
    unfold AssignPrivilege.lookups
    refine .bind (.tryCatch (.await ⟨id, rfl⟩) fun _ => trivial) fun privilege => ?_
    exact .bind ih fun _ => trivial

theorem inTurn_meets (dto : AssignPrivilegeDto) (answered : List String) :
    (AssignPrivilege.inTurn dto answered).Meets (accountContract s₀) fun _ => True := by
  have hlookups : (AssignPrivilege.lookups answered).Meets (accountContract s₀) fun _ => True := by
    refine (lookups_issues answered).meets ?_
    rintro c ⟨id, rfl⟩
    trivial
  unfold AssignPrivilege.inTurn
  refine .tryCatch ?_ fun _ => trivial
  refine .bind (Q := fun found => ∀ role, found = some role → NameKept s₀ role)
    (.await trivial ?_) fun found hfound => ?_
  · rintro found hfound role rfl
    exact hfound
  · cases found with
    | none => trivial
    | some role =>
      refine .bind hlookups fun availablePrivs _ => ?_
      have hsaved : NameKept s₀ { role with userPrivileges := availablePrivs } := hfound role rfl
      exact .bind (Q := fun _ => True) (.await hsaved fun _ _ => trivial) fun _ _ => trivial

end

/-! ## A sign-in that throws -/

/-- The command may change the store: it is neither a lookup by email nor a look at the clock. -/
def MayWrite : Cmd → Prop
  | .users (.findOneByEmail _) => False
  | .process .now => False
  | _ => True

theorem exec_of_not_mayWrite {c : Cmd} (h : ¬MayWrite c) (P : Platform) (s : Store) :
    (exec P c s).2 = s := by
  cases c with
  | users c =>
    cases c with
    | findOneByEmail email => rfl
    | _ => exact absurd trivial h
  | process c =>
    cases c with
    | now => rfl
    | _ => exact absurd trivial h
  | _ => exact absurd trivial h

/-- The process answers. -/
def processContract : Contract Cmd Cmd.Answer Thrown where
  allows _ := True
  answers
    | .process c, r => ∃ a : c.Answer, r = .ok a
    | _, _ => True

theorem processContract_honoured (P : Platform) :
    processContract.Honoured (system P) fun _ => True := by
  constructor
  case step =>
    intro c s _ _
    trivial
  case answer =>
    intro c s _
    cases c with
    | process c => cases c <;> exact ⟨_, rfl⟩
    | _ => trivial
  case fault =>
    intro c e hf
    cases c with
    | process c => cases hf
    | _ => trivial
  case env =>
    intro d s _
    trivial

section

variable {P : Platform}

theorem set_succeeds (key value : String) (ttl : Option Nat) :
    (CacheService.set key value ttl).Succeeds processContract :=
  Prog.Succeeds.tryCatch _ fun _ => trivial

theorem signIn_throwsBefore (dto : AuthCredentialsDto) (session : Nat) :
    (signIn P dto session).ThrowsBefore processContract MayWrite := by
  have hsign : ∀ payload expiresIn, (sign P payload expiresIn).Issues fun c => ¬MayWrite c :=
    sign_issues not_false
  unfold signIn
  refine .bind (getUserByEmail_issues not_false) fun user => ?_
  cases user with
  | none => trivial
  | some user =>
    dsimp only
    split
    · trivial
    · split
      · trivial
      · split
        · trivial
        · refine .bind (hsign _ _) fun accessToken => .bind (hsign _ _) fun refreshToken => ?_
          rintro r ⟨a, rfl⟩
          -- the session object is set: from here on every exception is caught
          refine .inl (.bind (p := CacheService.set (sessionKey user.id accessToken) "active"
            (some sessionTtl)) (set_succeeds _ _ _) fun _ => ?_)
          exact .bind (p := CacheService.set (refreshKey user.id refreshToken) "active"
            (some refreshTtl)) (set_succeeds _ _ _) fun _ => trivial

/-- Only time has passed. -/
def Later (s s' : Store) : Prop :=
  ∃ d, s' = elapse d s

theorem Later.refl (s : Store) : Later s s :=
  ⟨0, rfl⟩

theorem Later.trans {s t u : Store} (h : Later s t) (h' : Later t u) : Later s u := by
  obtain ⟨d, rfl⟩ := h
  obtain ⟨d', rfl⟩ := h'
  exact ⟨d + d', by rw [elapse, elapse, elapse, Nat.add_assoc]⟩

theorem later_of_not_mayWrite {c : Cmd} (s : Store) (h : ¬MayWrite c) :
    Later s ((system P).handler c s).2 := by
  have hsame : ((system P).handler c s).2 = s := exec_of_not_mayWrite h P s
  rw [hsame]
  exact .refl s

/-- A sign-in that throws has changed nothing; time may have passed. -/
theorem signIn_throws_unchanged {dto : AuthCredentialsDto} {session : Nat} {s s' : Store}
    {e : Thrown} (h : Completes (system P) (signIn P dto session) s (.error e) s') :
    ∃ d, s' = elapse d s := by
  have henv : ∀ (d : Nat) (s : Store), Later s ((system P).env d s) := fun d s => ⟨d, rfl⟩
  have hlater : Later s s' := (signIn_throwsBefore dto session).completes
    (processContract_honoured P) Later.refl Later.trans
    (fun c s hc => later_of_not_mayWrite s hc) henv h rfl
  exact hlater

end

/-! ## Runs -/

/-- The token is signed for the email of an account that is cleared, and that has a role unless
it had none in `s₀`. -/
def Belongs (P : Platform) (s₀ s : Store) (token : String) : Prop :=
  ∃ claims u row, P.jwt.sign claims = token ∧ row.email = claims.payload.email ∧
    Cleared s u row ∧
    (row.userRoleId = none → ∃ row₀, s₀.users.find? u = some row₀ ∧ row₀.userRoleId = none)

/-- What holds whenever calls are served one after the other. -/
structure Gated (s₀ s : Store) : Prop where
  roles : RolesFound s
  keys : ∀ u token, s.cache.get s.clock (refreshKey u token) ≠ none → ∃ row, Cleared s u row
  roleless : ∀ u row, s.users.find? u = some row → row.userRoleId = none →
    ∃ row₀, s₀.users.find? u = some row₀ ∧ row₀.userRoleId = none

section

variable {P : Platform} {s₀ s s' : Store}

theorem Gated.follows (h : Gated s₀ s) (hf : Follows s s') : Gated s₀ s' := by
  refine ⟨hf.rolesFound h.roles, fun u token hkey => ?_, fun u row' hrow' hnone => ?_⟩
  · obtain ⟨row, hclear⟩ := h.keys u token fun hnone => hkey (hf.keys u token hnone)
    exact hf.cleared hclear
  · cases hrow : s.users.find? u with
    | none =>
      obtain ⟨r, role, hr, -⟩ := hf.created u row' hrow hrow'
      rw [hnone] at hr
      cases hr
    | some row =>
      obtain ⟨row'', hrow'', -, hrole, -⟩ := hf.kept u row hrow
      rw [hrow'] at hrow''
      cases hrow''
      exact h.roleless u row hrow (hrole.symm.trans hnone)

/-- The refresh keys are those of cleared accounts. -/
abbrev ofCleared (s : Store) : Uuid → String → Prop := fun u _ => ∃ row, Cleared s u row

theorem Cleared.congr {u : Uuid} {row : UserRow} (h : Cleared s u row) (hsame : SameAccounts s s') :
    Cleared s' u row := by
  refine ⟨?_, h.verified, ?_⟩
  · rw [hsame.users]
    exact h.stored
  · rw [hsame.roles]
    exact h.role

theorem Gated.session (h : Gated s₀ s) (hk : KeepsGood s (ofCleared s) s') : Gated s₀ s' := by
  refine ⟨?_, fun u token hkey => ?_, ?_⟩
  · unfold RolesFound
    rw [hk.accounts.users, hk.accounts.roles]
    exact h.roles
  · obtain ⟨row, hclear⟩ := hk.keys u token hkey
    exact ⟨row, hclear.congr hk.accounts⟩
  · rw [hk.accounts.users]
    exact h.roleless

/-- A token that is signed for a cleared account belongs to it. -/
theorem Gated.belongs (h : Gated s₀ s) (hsame : SameAccounts s s') {email : String} {user : User}
    (hfound : s.userByEmail email = some user) (hclear : ∃ row, Cleared s user.id row)
    {claims : JwtClaims} (hclaims : claims.payload.email = user.email) :
    Belongs P s₀ s' (P.jwt.sign claims) := by
  obtain ⟨u, row, hrow, -, rfl⟩ := userByEmail_eq_some.mp hfound
  obtain ⟨row', hclear⟩ := hclear
  have hstored : s.users.find? u = some row' := hclear.stored
  rw [hrow] at hstored
  cases hstored
  exact ⟨claims, u, row, rfl, hclaims.symm, hclear.congr hsame, h.roleless u row hrow⟩

/-- One call. -/
theorem Gated.serve (h : Gated s₀ s) {op : AuthOp} {r : Except Thrown (List String)}
    (hc : Completes (system P) (op.prog P) s r s') :
    Gated s₀ s' ∧ ∀ tokens, r = .ok tokens → ∀ token ∈ tokens, Belongs P s₀ s' token := by
  have account : ∀ {α : Type} {p : Service α}, (p.Meets (accountContract s) fun _ => True) →
      op.prog P = (fun _ => ([] : List String)) <$> p →
      Gated s₀ s' ∧ ∀ tokens, r = .ok tokens → ∀ token ∈ tokens, Belongs P s₀ s' token := by
    intro α p hp hprog
    rw [hprog] at hc
    have hp' : ((fun _ => ([] : List String)) <$> p).Meets (accountContract s) (· = []) :=
      hp.map fun _ _ => rfl
    obtain ⟨hfollows, hret⟩ := hp'.completes (accountContract_honoured P h.roles) (.refl s) hc
    refine ⟨h.follows hfollows, fun tokens hr token hmem => ?_⟩
    rw [hret tokens hr] at hmem
    exact absurd hmem List.not_mem_nil
  have hkeeps : KeepsGood s (ofCleared s) s := ⟨.refl s, h.keys⟩
  have hhonoured := sessionContract_honoured P s (ofCleared s)
  cases op with
  | signUp dto =>
    refine account (p := AuthService.signUp P dto) ?_ rfl
    refine (signUp_issues_of (Q := (accountContract s).allows) (fun _ => trivial) trivial ?_
      (fun _ => trivial) dto).meets fun _ hc => hc
    intro user role hrole hnone
    rw [hrole] at hnone
    cases hnone
  | confirmAccount email => exact account (confirmAccount_meets email) rfl
  | logout token =>
    exact account ((logout_issues (P := P) token).meets accountContract_refreshCmd) rfl
  | resetPassword dto newPassword =>
    refine account (p := AuthService.resetPassword P dto newPassword) ?_ rfl
    exact AccountOp.resetPassword_meets_of (fun _ => trivial) (fun _ => trivial) trivial trivial
      fun user salt huser => ⟨huser.kept, huser.created⟩
  | createRole dto =>
    exact account (p := UserRoleRepository.createRole dto) (.await trivial fun _ _ => trivial) rfl
  | assignPrivilege dto answered => exact account (inTurn_meets dto answered) rfl
  | signIn dto session =>
    have hsigned : (AuthService.signIn P dto session).Meets (sessionContract s (ofCleared s))
        fun result => ∃ user, SessionContract.SignedIn P s dto user result :=
      SessionContract.signIn_meets session fun user _ hmay => cleared_of_maySignIn h.roles hmay
    have hmeets : ((AuthOp.signIn dto session).prog P).Meets (sessionContract s (ofCleared s))
        fun tokens => ∃ user result, tokens = [result.accessToken, result.refreshToken] ∧
          SessionContract.SignedIn P s dto user result :=
      hsigned.map fun result ⟨user, hin⟩ => ⟨user, result, rfl, hin⟩
    obtain ⟨hk, hret⟩ := hmeets.completes hhonoured hkeeps hc
    refine ⟨h.session hk, fun tokens hr token hmem => ?_⟩
    obtain ⟨user, result, rfl, hmay, ⟨iat, haccess⟩, iat', hrefresh⟩ := hret tokens hr
    obtain ⟨u, row, hrow, hemail, huser⟩ := userByEmail_eq_some.mp hmay.found
    have hpayload : P.toLowerCase dto.email = user.email := by
      rw [huser]
      exact hemail.symm
    rcases List.mem_pair.mp hmem with ht | ht
    · rw [ht, haccess]
      exact h.belongs hk.accounts hmay.found (cleared_of_maySignIn h.roles hmay) hpayload
    · rw [ht, hrefresh]
      exact h.belongs hk.accounts hmay.found (cleared_of_maySignIn h.roles hmay) hpayload
  | refreshAccessToken token =>
    have hrefreshed : (AuthService.refreshAccessToken P token).Meets
        (sessionContract s (ofCleared s)) fun accessToken =>
          ∃ email user iat, s.userByEmail email = some user ∧ (∃ row, Cleared s user.id row) ∧
            accessToken = P.jwt.sign ⟨⟨user.email, user.userRole⟩, iat, iat + accessLifetime⟩ :=
      SessionContract.refreshAccessToken_meets token
    have hmeets : ((AuthOp.refreshAccessToken token).prog P).Meets
        (sessionContract s (ofCleared s)) fun tokens =>
          ∃ email user iat, s.userByEmail email = some user ∧ (∃ row, Cleared s user.id row) ∧
            tokens = [P.jwt.sign ⟨⟨user.email, user.userRole⟩, iat, iat + accessLifetime⟩] :=
      hrefreshed.map fun accessToken ⟨email, user, iat, hfound, hgood, he⟩ =>
        ⟨email, user, iat, hfound, hgood, by rw [he]⟩
    obtain ⟨hk, hret⟩ := hmeets.completes hhonoured hkeeps hc
    refine ⟨h.session hk, fun tokens hr accessToken hmem => ?_⟩
    obtain ⟨email, user, iat, hfound, hclear, rfl⟩ := hret tokens hr
    rw [List.mem_singleton.mp hmem]
    exact h.belongs hk.accounts hfound hclear rfl

/-- From a cache without refresh keys, in every run of calls one after the other: the tokens
that a sign-in or a refresh returns belong to cleared accounts, and a sign-in that throws
leaves the sessions and the cache. -/
theorem tokens_gated (P : Platform) (s₀ : Store) (hroles : RolesFound s₀)
    (hkeys : ∀ u token, s₀.cache.get s₀.clock (refreshKey u token) = none) {s : Store}
    (hs : Served (system P) (AuthOp.prog P) s₀ s) :
    (∀ op tokens s', Completes (system P) (AuthOp.prog P op) s (.ok tokens) s' →
      ∀ token ∈ tokens, Belongs P s₀ s' token) ∧
    ∀ dto session e s', Completes (system P) (signIn P dto session) s (.error e) s' →
      s'.sessions = s.sessions ∧ s'.cache = s.cache := by
  have init : Gated s₀ s₀ :=
    ⟨hroles, fun u token hkey => absurd (hkeys u token) hkey,
      fun u row hrow hnone => ⟨row, hrow, hnone⟩⟩
  have h : Gated s₀ s := hs.inv init fun _ _ _ _ h hc => (h.serve hc).1
  constructor
  · intro op tokens s' hc
    exact (h.serve hc).2 tokens rfl
  · intro dto session e s' hc
    obtain ⟨d, rfl⟩ := signIn_throws_unchanged hc
    exact ⟨rfl, rfl⟩

end

/-- The one account has no role. -/
theorem verifiedUserStore_row {u : Uuid} {row : UserRow}
    (h : verifiedUserStore.users.find? u = some row) : row = verifiedUser := by
  have hput : (∅ : Keyed.Table Uuid UserRow UserRow.email).put (.ofNat 1) verifiedUser =
      some verifiedUserStore.users := by rfl
  rw [Keyed.Table.find?_put hput] at h
  split at h
  · exact (Option.some.inj h).symm
  · cases h

theorem completes_firstSignIn :
    Completes (system .plain) (AuthOp.prog .plain (.signIn ⟨"Ada@example.com", "secret"⟩ 0))
      verifiedUserStore (.ok [firstSignIn.accessToken, firstSignIn.refreshToken])
      SessionCall.firstSignInStore := by
  have hrun : (AuthOp.prog .plain (.signIn ⟨"Ada@example.com", "secret"⟩ 0)).run
      (system .plain).handler verifiedUserStore =
        (.ok [firstSignIn.accessToken, firstSignIn.refreshToken],
          SessionCall.firstSignInStore) := by
    show Prog.run (exec .plain) _ _ = _
    rw [AuthOp.prog, Prog.run_map, SessionCall.run_firstSignIn]
    rfl
  have hcompletes := Completes.of_run (S := system .plain)
    (AuthOp.prog .plain (.signIn ⟨"Ada@example.com", "secret"⟩ 0)) verifiedUserStore
  rw [hrun] at hcompletes
  exact hcompletes

/-- The refresh token of a sign-in belongs to a cleared account. -/
theorem first_tokens_gated :
    Belongs .plain verifiedUserStore SessionCall.firstSignInStore firstSignIn.refreshToken := by
  have hroles : RolesFound verifiedUserStore := by
    intro u row r hrow hr
    rw [verifiedUserStore_row hrow] at hr
    cases hr
  exact (tokens_gated .plain verifiedUserStore hroles (fun _ _ => rfl) .start).1 _ _ _
    completes_firstSignIn _ (by simp)

/-- The account that signs in has no role. -/
theorem roleless_account_signs_in :
    (∀ u token, verifiedUserStore.cache.get verifiedUserStore.clock (refreshKey u token) = none) ∧
      Completes (system .plain) (AuthOp.prog .plain (.signIn ⟨"Ada@example.com", "secret"⟩ 0))
        verifiedUserStore (.ok [firstSignIn.accessToken, firstSignIn.refreshToken])
        SessionCall.firstSignInStore ∧
      ∀ u row, SessionCall.firstSignInStore.users.find? u = some row → row.userRoleId = none := by
  refine ⟨fun _ _ => rfl, completes_firstSignIn, fun u row hrow => ?_⟩
  have husers : SessionCall.firstSignInStore.users = verifiedUserStore.users :=
    signedInStore_users ..
  rw [husers] at hrow
  rw [verifiedUserStore_row hrow]
  rfl

end VoltFleet
