import VoltFleet.Auth.Proofs.TokenGate
import VoltFleet.Misc.Knowledge
import VoltFleet.Proofs.RouteCommands
import VoltFleet.Proofs.TablesOnly

/-!
# What requests leave of the accounts

No route removes an account, a role or a privilege.  Of an account only the
password changes, and only by a reset that presents a token which was stored
before the first request, as no route stores one.  No route confirms an account,
so that whoever signs in was confirmed before.  What a thread has loaded is
written back later, after other threads have written, so that each fact it rests
on is one that no request takes back: `Grown` is what all of them keep.
-/

namespace VoltFleet

open Awaiting AuthService

/-- Accounts, roles and privileges stay; of an account only the password may change and of a
role only its privileges. -/
structure Grown (s s' : Store) : Prop where
  users : ∀ u row, s.users.find? u = some row →
    ∃ password, s'.users.find? u = some { row with password := password }
  roles : ∀ r row, s.roles.find? r = some row →
    ∃ privilegeIds, s'.roles.find? r = some { row with privilegeIds := privilegeIds }
  privileges : ∀ p row, s.privileges.find? p = some row → s'.privileges.find? p = some row
  clock : s.clock ≤ s'.clock

theorem Grown.refl (s : Store) : Grown s s :=
  ⟨fun _ row h => ⟨row.password, h⟩, fun _ row h => ⟨row.privilegeIds, h⟩, fun _ _ h => h, le_rfl⟩

theorem Grown.trans {s t u : Store} (h : Grown s t) (h' : Grown t u) : Grown s u := by
  refine ⟨fun v row hrow => ?_, fun r row hrow => ?_,
    fun p row hrow => h'.privileges p row (h.privileges p row hrow), h.clock.trans h'.clock⟩
  · obtain ⟨password, hmid⟩ := h.users v row hrow
    obtain ⟨password', hend⟩ := h'.users v _ hmid
    exact ⟨password', hend⟩
  · obtain ⟨privilegeIds, hmid⟩ := h.roles r row hrow
    obtain ⟨privilegeIds', hend⟩ := h'.roles r _ hmid
    exact ⟨privilegeIds', hend⟩

/-- Every reference to a role or a privilege is one to a stored row. -/
structure AccountsLinked (s : Store) : Prop where
  roles : RolesFound s
  privileges : ∀ r row p, s.roles.find? r = some row → p ∈ row.privilegeIds →
    ∃ privilege, s.privileges.find? p = some privilege

/-- The sign-up that a route makes: the body and the role. -/
def Route.registers : Route → Option (CreateUserDto × RolesConstant)
  | .registerAdmin dto => some (dto, .ADMIN)
  | .signUpAsAStaff dto => some (dto, .OTHER_STAFF)
  | _ => none

/-! ## What may be written -/

section

variable (P : Platform) (s₀ : Store) {ι : Type} (requests : ι → HttpRequest)

/-- One of the requests resets the password of `u` to one with this hash, and presents the token
that was stored for `u` at the start. -/
def ResetTo (u : Uuid) (password : PasswordHash) : Prop :=
  ∃ i dto newPassword salt, (requests i).route = .resetPassword dto newPassword ∧
    Uuid.ofString? dto.userId = some u ∧ dto.token ≠ "" ∧
    s₀.cache.get s₀.clock (resetPasswordKey dto.userId) = some (.str dto.token) ∧
    password = P.bcryptHash salt newPassword.newPassword

/-- The row is that of a sign-up with this body and this role, but for the password. -/
structure RegisteredAs (s : Store) (dto : CreateUserDto) (name : RolesConstant)
    (row : UserRow) : Prop where
  firstName : row.firstName = dto.firstName
  lastName : row.lastName = dto.lastName
  email : row.email = P.toLowerCase dto.email
  status : dto.accountStatus.toColumn .INACTIVE = .ok row.accountStatus
  unverified : row.isEmailVerified = false
  role : ∃ r role, row.userRoleId = some r ∧ s.roles.find? r = some role ∧ role.name = name.text

/-- The row is that of an account which a sign-up among the requests has made. -/
def SignedUp (s : Store) (u : Uuid) (row : UserRow) : Prop :=
  ∃ i dto name, (requests i).route.registers = some (dto, name) ∧
    RegisteredAs P s dto name row ∧
    ((∃ salt, row.password = P.bcryptHash salt dto.password) ∨
      ResetTo P s₀ requests u row.password)

/-- The key is the refresh key of an account that could sign in at the start, or a session key
of such an account or of one that had a refresh key then. -/
def SignedKey (key : String) : Prop :=
  ∃ u token, (key = refreshKey u token ∧ ∃ row, Cleared s₀ u row) ∨
    (key = sessionKey u token ∧ ((∃ row, Cleared s₀ u row) ∨
      ∃ t, s₀.cache.get s₀.clock (refreshKey u t) ≠ none))

/-- What holds throughout a run of the requests. -/
structure Booked (s : Store) : Prop where
  grown : Grown s₀ s
  linked : AccountsLinked s
  kept : ∀ u row₀ row, s₀.users.find? u = some row₀ → s.users.find? u = some row →
    row.password = row₀.password ∨ ResetTo P s₀ requests u row.password
  created : ∀ u row, s₀.users.find? u = none → s.users.find? u = some row →
    SignedUp P s₀ requests s u row
  keys : ∀ key, s.cache.entry key = none ∨ s.cache.entry key = s₀.cache.entry key ∨
    SignedKey s₀ key
  sessions : ∀ n, s.sessions n = s₀.sessions n ∨ ∃ user, s.sessions n = some user ∧
    (∃ row, Cleared s₀ user.id row) ∧ user.password = none

/-- A loaded user: its row, with the password it had then. -/
def KnownUser (s : Store) (user : User) : Prop :=
  ∃ row password, s.users.find? user.id = some row ∧
    ∀ old, user.row old = { row with password := password }

/-- A loaded role: its name and its comment are the stored ones, and its privileges are stored. -/
def KnownRole (s : Store) (role : UserRole) : Prop :=
  ∃ row, s.roles.find? role.id = some row ∧ role.name = row.name ∧ role.comment = row.comment ∧
    ∀ p ∈ role.userPrivileges, ∃ privilege, s.privileges.find? p.id = some privilege

/-- Whoever passes the checks of a sign-in was cleared at the start. -/
def GatedUser (user : User) : Prop :=
  user.isEmailVerified = true → user.userRole.map UserRole.name ≠ some RolesConstant.ADMIN.text →
    user.userRole.map UserRole.name ≠ some RolesConstant.SUPER_ADMIN.text →
    ∃ row, Cleared s₀ user.id row

/-- The user a sign-up among the requests inserts. -/
def NewAccount (s : Store) (user : NewUser) : Prop :=
  ∃ i dto name salt role, (requests i).route.registers = some (dto, name) ∧ KnownRole s role ∧
    role.name = name.text ∧ user = ⟨dto.firstName, dto.lastName, P.toLowerCase dto.email,
      P.bcryptHash salt dto.password, dto.accountStatus, some role⟩

/-- The user a reset among the requests saves. -/
def Rewrites (s : Store) (user : User) : Prop :=
  ∃ row password, s.users.find? user.id = some row ∧
    (∀ old, user.row old = { row with password := password }) ∧
    ResetTo P s₀ requests user.id password

/-- What a request may do to the accounts and the cache, and what it learns of them. -/
def bookAccord : Accord Cmd Cmd.Answer Thrown Store where
  later := Grown
  refl := Grown.refl
  trans := Grown.trans
  allows s
    | .users (.insert user) => NewAccount P requests s user
    | .users (.save user) => Rewrites P s₀ requests s user
    | .roles (.save role) => KnownRole s role
    | .redis (.set key _) => SignedKey s₀ key
    | .redis (.expire key _) => SignedKey s₀ key
    | .redis (.rpush ..) => False
    | .redis (.hset ..) => False
    | .process (.setCurrentUser _ user) => (∃ row, Cleared s₀ user.id row) ∧ user.password = none
    | _ => True
  answers s
    | .users (.findOneByEmail _), .ok (some user) => KnownUser s user ∧ GatedUser s₀ user
    | .users (.findOneById id), .ok (some user) =>
        KnownUser s user ∧ Uuid.ofString? id = some user.id
    | .roles (.findOneByName name), .ok (some role) => KnownRole s role ∧ role.name = name
    | .roles (.findOneById _), .ok (some role) => KnownRole s role
    | .privileges (.findOneById _), .ok (some p) =>
        ∃ privilege, s.privileges.find? p.id = some privilege
    | .redis (.get key), .ok (some value) =>
        s₀.cache.get s₀.clock key = some (.str value) ∨ SignedKey s₀ key
    | _, _ => True

end

section

variable {P : Platform} {s₀ s s' : Store} {ι : Type} {requests : ι → HttpRequest}

theorem KnownRole.later {role : UserRole} (h : KnownRole s role) (hs : Grown s s') :
    KnownRole s' role := by
  obtain ⟨row, hrow, hname, hcomment, hprivileges⟩ := h
  obtain ⟨privilegeIds, hrow'⟩ := hs.roles _ row hrow
  refine ⟨_, hrow', hname, hcomment, fun p hp => ?_⟩
  obtain ⟨privilege, hprivilege⟩ := hprivileges p hp
  exact ⟨privilege, hs.privileges _ _ hprivilege⟩

theorem KnownUser.later {user : User} (h : KnownUser s user) (hs : Grown s s') :
    KnownUser s' user := by
  obtain ⟨row, password, hrow, huser⟩ := h
  obtain ⟨password', hrow'⟩ := hs.users _ row hrow
  exact ⟨_, password, hrow', huser⟩

theorem RegisteredAs.later {dto : CreateUserDto} {name : RolesConstant} {row : UserRow}
    (h : RegisteredAs P s dto name row) (hs : Grown s s') : RegisteredAs P s' dto name row := by
  obtain ⟨r, role, hr, hrole, hname⟩ := h.role
  obtain ⟨privilegeIds, hrole'⟩ := hs.roles r role hrole
  exact { h with role := ⟨r, _, hr, hrole', hname⟩ }

theorem SignedUp.later {u : Uuid} {row : UserRow} (h : SignedUp P s₀ requests s u row)
    (hs : Grown s s') : SignedUp P s₀ requests s' u row := by
  obtain ⟨i, dto, name, hroute, hregistered, hpassword⟩ := h
  exact ⟨i, dto, name, hroute, hregistered.later hs, hpassword⟩

/-- A signed-up account whose password has been reset. -/
theorem SignedUp.reset {u : Uuid} {row : UserRow} (h : SignedUp P s₀ requests s u row)
    {password : PasswordHash} (hreset : ResetTo P s₀ requests u password) :
    SignedUp P s₀ requests s u { row with password := password } := by
  obtain ⟨i, dto, name, hroute, hregistered, -⟩ := h
  exact ⟨i, dto, name, hroute, ⟨hregistered.firstName, hregistered.lastName, hregistered.email,
    hregistered.status, hregistered.unverified, hregistered.role⟩, .inr hreset⟩

/-! ## The writes -/

theorem Grown.of_same (hs : SameAccounts s s') (hclock : s.clock ≤ s'.clock) : Grown s s' := by
  refine ⟨fun u row h => ⟨row.password, ?_⟩, fun r row h => ⟨row.privilegeIds, ?_⟩,
    fun p row h => ?_, hclock⟩
  · rw [hs.users]
    exact h
  · rw [hs.roles]
    exact h
  · rw [hs.privileges]
    exact h

/-- A command that writes no account, no key and no session. -/
theorem Booked.of_same (h : Booked P s₀ requests s) (hs : SameAccounts s s')
    (hclock : s.clock ≤ s'.clock) (hcache : s'.cache = s.cache)
    (hsessions : s'.sessions = s.sessions) : Booked P s₀ requests s' := by
  have hgrown := Grown.of_same hs hclock
  refine ⟨h.grown.trans hgrown, ⟨?_, ?_⟩, ?_, ?_, ?_, ?_⟩
  · unfold RolesFound
    rw [hs.users, hs.roles]
    exact h.linked.roles
  · rw [hs.roles, hs.privileges]
    exact h.linked.privileges
  · rw [hs.users]
    exact h.kept
  · rw [hs.users]
    intro u row hnone hrow
    exact (h.created u row hnone hrow).later hgrown
  · rw [hcache]
    exact h.keys
  · rw [hsessions]
    exact h.sessions

/-- The write of one key. -/
theorem Booked.of_entry (h : Booked P s₀ requests s) {cache : Expiring.Cache String RedisValue}
    (hcache : ∀ key, cache.entry key = s.cache.entry key ∨ cache.entry key = none ∨
      SignedKey s₀ key) : Booked P s₀ requests { s with cache := cache } := by
  have hgrown : Grown s { s with cache := cache } := .of_same ⟨rfl, rfl, rfl⟩ le_rfl
  refine ⟨h.grown.trans hgrown, ⟨h.linked.roles, h.linked.privileges⟩, h.kept,
    fun u row hnone hrow => (h.created u row hnone hrow).later hgrown, ?_, h.sessions⟩
  intro key
  rcases hcache key with hsame | hnone | hsigned
  · rw [hsame]
    exact h.keys key
  · exact .inl hnone
  · exact .inr (.inr hsigned)

/-- The write of a user's row: a new one is that of a sign-up, and a stored one gets another
password at most. -/
theorem Booked.putUser (h : Booked P s₀ requests s) {u : Uuid} {row : UserRow}
    {users : Keyed.Table Uuid UserRow UserRow.email} {draws : Nat}
    (hput : s.users.put u row = some users)
    (hold : ∀ old, s.users.find? u = some old → ∃ password, row = { old with password := password })
    (hrole : ∀ r, row.userRoleId = some r → ∃ role, s.roles.find? r = some role)
    (hkept : ∀ row₀, s₀.users.find? u = some row₀ →
      row.password = row₀.password ∨ ResetTo P s₀ requests u row.password)
    (hcreated : s₀.users.find? u = none → SignedUp P s₀ requests s u row) :
    Booked P s₀ requests { s with users := users, draws := draws } ∧
      Grown s { s with users := users, draws := draws } := by
  have found : ∀ v row', users.find? v = some row' →
      (v = u ∧ row' = row) ∨ s.users.find? v = some row' := by
    intro v row' hv
    rw [Keyed.Table.find?_put hput] at hv
    split at hv
    next he =>
      cases hv
      exact .inl ⟨he, rfl⟩
    next => exact .inr hv
  have hgrown : Grown s { s with users := users, draws := draws } := by
    refine ⟨fun v old hv => ?_, fun r row h => ⟨row.privilegeIds, h⟩, fun _ _ h => h, le_rfl⟩
    by_cases hvu : v = u
    · subst hvu
      obtain ⟨password, hrow⟩ := hold old hv
      exact ⟨password, (Keyed.Table.find?_put_self hput).trans (congrArg some hrow)⟩
    · exact ⟨old.password, (Keyed.Table.find?_put_ne hput hvu).trans hv⟩
  refine ⟨⟨h.grown.trans hgrown, ⟨?_, h.linked.privileges⟩, ?_, ?_, h.keys, h.sessions⟩, hgrown⟩
  · intro v row' r hv hr
    rcases found v row' hv with ⟨rfl, rfl⟩ | hv
    · exact hrole r hr
    · exact h.linked.roles v row' r hv hr
  · intro v row₀ row' hv₀ hv
    rcases found v row' hv with ⟨rfl, rfl⟩ | hv
    · exact hkept row₀ hv₀
    · exact h.kept v row₀ row' hv₀ hv
  · intro v row' hv₀ hv
    rcases found v row' hv with ⟨rfl, rfl⟩ | hv
    · exact (hcreated hv₀).later hgrown
    · exact (h.created v row' hv₀ hv).later hgrown

/-- The write of a role: a new one, or one that keeps its name and its comment. -/
theorem Booked.putRole (h : Booked P s₀ requests s) {r : Uuid} {row : RoleRow}
    {roles : Keyed.Table Uuid RoleRow RoleRow.name} {draws : Nat}
    (hput : s.roles.put r row = some roles)
    (hold : ∀ old, s.roles.find? r = some old → row.name = old.name ∧ row.comment = old.comment)
    (hprivileges : ∀ p ∈ row.privilegeIds, ∃ privilege, s.privileges.find? p = some privilege) :
    Booked P s₀ requests { s with roles := roles, draws := draws } ∧
      Grown s { s with roles := roles, draws := draws } := by
  have hgrown : Grown s { s with roles := roles, draws := draws } := by
    refine ⟨fun _ row h => ⟨row.password, h⟩, fun r' old hr' => ?_, fun _ _ h => h, le_rfl⟩
    by_cases he : r' = r
    · subst he
      obtain ⟨hname, hcomment⟩ := hold old hr'
      refine ⟨row.privilegeIds, (Keyed.Table.find?_put_self hput).trans (congrArg some ?_)⟩
      rw [← hname, ← hcomment]
    · exact ⟨old.privilegeIds, (Keyed.Table.find?_put_ne hput he).trans hr'⟩
  refine ⟨⟨h.grown.trans hgrown, ⟨?_, ?_⟩, h.kept, ?_, h.keys, h.sessions⟩, hgrown⟩
  · intro u user r' hu hr'
    obtain ⟨role, hrole⟩ := h.linked.roles u user r' hu hr'
    obtain ⟨privilegeIds, hrole'⟩ := hgrown.roles r' role hrole
    exact ⟨_, hrole'⟩
  · intro r' row' p hr' hp
    change roles.find? r' = some row' at hr'
    rw [Keyed.Table.find?_put hput] at hr'
    split at hr'
    · cases hr'
      exact hprivileges p hp
    · exact h.linked.privileges r' row' p hr' hp
  · intro u user hnone hu
    exact (h.created u user hnone hu).later hgrown

/-- The write of a new privilege. -/
theorem Booked.putPrivilege (h : Booked P s₀ requests s) {p : Uuid} {row : PrivilegeRow}
    {privileges : Keyed.Table Uuid PrivilegeRow PrivilegeRow.name} {draws : Nat}
    (hfree : s.privileges.find? p = none) (hput : s.privileges.put p row = some privileges) :
    Booked P s₀ requests { s with privileges := privileges, draws := draws } ∧
      Grown s { s with privileges := privileges, draws := draws } := by
  have kept : ∀ p' row', s.privileges.find? p' = some row' →
      privileges.find? p' = some row' := by
    intro p' row' hp'
    have hne : p' ≠ p := by
      rintro rfl
      rw [hfree] at hp'
      cases hp'
    exact (Keyed.Table.find?_put_ne hput hne).trans hp'
  have hgrown : Grown s { s with privileges := privileges, draws := draws } :=
    ⟨fun _ row h => ⟨row.password, h⟩, fun _ row h => ⟨row.privilegeIds, h⟩, kept, le_rfl⟩
  refine ⟨⟨h.grown.trans hgrown, ⟨h.linked.roles, ?_⟩, h.kept, fun u row hnone hrow =>
    (h.created u row hnone hrow).later hgrown, h.keys, h.sessions⟩, hgrown⟩
  intro r role p' hr hp'
  obtain ⟨privilege, hprivilege⟩ := h.linked.privileges r role p' hr hp'
  exact ⟨privilege, kept p' privilege hprivilege⟩

end

end VoltFleet
