import VoltFleet.Auth.AuthService
import VoltFleet.Auth.Proofs.Users
import VoltFleet.PlainPlatform

/-!
# Sign-ups side by side

The lookup that begins a sign-up takes the email as it was typed, and another call
may insert between it and the insert.  So nothing but the unique index decides
which of the sign-ups for one email is accepted, and two translations of its
refusal decide what the others throw.
-/

namespace VoltFleet

open Awaiting AuthService

namespace SignUp

/-! ## A sign-up, command by command -/

/-- The user a sign-up inserts. -/
def newUser (P : Platform) (dto : CreateUserDto) (role : UserRole) (salt : Nat) : NewUser where
  firstName := dto.firstName
  lastName := dto.lastName
  email := P.toLowerCase dto.email
  password := P.bcryptHash salt dto.password
  accountStatus := dto.accountStatus
  userRole := some role

/-- What a sign-up throws for the exception of its insert. -/
def insertThrown (error : Thrown) : Thrown :=
  if error.code = some "23505" ∨ Thrown.duplicateKeyMessage.toList <:+: error.message.toList then
    .conflict "Account email already exists"
  else
    .internalServerError "Something went wrong while creating the user account"

/-- After the insert. -/
def inserted : Except Thrown User → Service Unit
  | .ok _ => .ret ()
  | .error e => .fail (insertThrown e)

/-- What is left of a sign-up once the salt is drawn. -/
def insert (P : Platform) (dto : CreateUserDto) (role : UserRole) (salt : Nat) : Service Unit :=
  .call (.users (.insert (newUser P dto role salt))) inserted

/-- After the salt. -/
def salted (P : Platform) (dto : CreateUserDto) (role : UserRole) : Except Thrown Nat → Service Unit
  | .ok salt => insert P dto role salt
  | .error e => .fail (signUpError e)

/-- What is left once the role is found. -/
def register (P : Platform) (dto : CreateUserDto) (role : UserRole) : Service Unit :=
  .call (.process .genSalt) (salted P dto role)

/-- After the lookup of the role. -/
def named (P : Platform) (dto : CreateUserDto) : Except Thrown (Option UserRole) → Service Unit
  | .ok (some role) => register P dto role
  | .ok none => .fail (.badRequest "No role found with this option")
  | .error e => .fail (signUpError e)

/-- What is left once the email is found to be free. -/
def lookRoleUp (P : Platform) (dto : CreateUserDto) : Service Unit :=
  match dto.role with
  | .value role => .call (.roles (.findOneByName role.text)) (named P dto)
  | _ => .fail (.badRequest "Role name cannot be empty")

/-- After the lookup of the email. -/
def looked (P : Platform) (dto : CreateUserDto) : Except Thrown (Option User) → Service Unit
  | .ok none => lookRoleUp P dto
  | .ok (some _) => .fail (.conflict "Account with this email already exists")
  | .error e => .fail (signUpError e)

/-- `catch error` of a sign-up. -/
def rethrow (error : Thrown) : Service Unit := .fail (signUpError error)

theorem registerAccount_eq (P : Platform) (dto : CreateUserDto) (role : UserRole) :
    tryCatch (Service.dropResult (UserRepository.registerAccount P dto (some role))) rethrow =
      register P dto role := by
  refine congrArg (Prog.call _) (funext fun salt => ?_)
  cases salt with
  | error e => rfl
  | ok salt =>
    refine congrArg (Prog.call _) (funext fun answer => ?_)
    cases answer with
    | ok user => rfl
    | error e =>
      show tryCatch (Service.dropResult (if e.code = some "23505" ∨
          Thrown.duplicateKeyMessage.toList <:+: e.message.toList then
        Prog.fail (.conflict "Account email already exists")
      else Prog.fail (.internalServerError "Internal Server Error"))) rethrow =
        .fail (insertThrown e)
      unfold insertThrown
      split <;> rfl

/-- The lookup of a role answers, or the name is refused. -/
def roleNamed : Except Thrown (Option UserRole) → Service UserRole
  | .ok (some role) => .ret role
  | .ok none => .fail (.badRequest "No role found with this option")
  | .error e => .fail e

theorem getRoleByName_eq (role : RolesConstant) :
    UserRoleRepository.getRoleByName (some role.text) =
      .call (.roles (.findOneByName role.text)) roleNamed := by
  have htext : role.text ≠ "" := by cases role <;> decide
  unfold UserRoleRepository.getRoleByName
  simp only [if_neg htext]
  refine congrArg (Prog.call _) (funext fun found => ?_)
  rcases found with e | found
  · rfl
  · cases found <;> rfl

theorem signUp_eq (P : Platform) (dto : CreateUserDto) :
    signUp P dto = .call (.users (.findOneByEmail dto.email)) (looked P dto) := by
  refine congrArg (Prog.call _) (funext fun found => ?_)
  rcases found with e | found
  · rfl
  · cases found with
    | some user => rfl
    | none =>
      show tryCatch (UserRoleRepository.getRoleByName (roleName dto.role) >>= fun role =>
        Service.dropResult (UserRepository.registerAccount P dto (some role))) rethrow =
          lookRoleUp P dto
      unfold lookRoleUp
      cases dto.role with
      | undefined => rfl
      | null => rfl
      | value role =>
        rw [roleName, getRoleByName_eq]
        refine congrArg (Prog.call _) (funext fun answer => ?_)
        rcases answer with e | answer
        · rfl
        · cases answer with
          | none => rfl
          | some role => exact registerAccount_eq P dto role

/-! ## The insert -/

/-- The role is a stored one with the name the body asks for. -/
def RoleFor (s₀ : Store) (dto : CreateUserDto) (role : UserRole) : Prop :=
  ∃ name row, dto.role = .value name ∧ s₀.roles.find? role.id = some row ∧ row.name = name.text

/-- The account the body asks for. -/
structure Created (P : Platform) (s₀ : Store) (dto : CreateUserDto) (row : UserRow) : Prop where
  email : row.email = P.toLowerCase dto.email
  password : ∃ salt, row.password = P.bcryptHash salt dto.password
  role : ∃ name r role, dto.role = .value name ∧ row.userRoleId = some r ∧
    s₀.roles.find? r = some role ∧ role.name = name.text
  status : dto.accountStatus.toColumn .INACTIVE = .ok row.accountStatus
  names : row.firstName = dto.firstName ∧ row.lastName = dto.lastName
  unverified : row.isEmailVerified = false

section

variable {P : Platform} {s₀ s : Store} {dto : CreateUserDto} {role : UserRole} {salt : Nat}

/-- The users aside, only the time and the number of choices made are different. -/
def OnlyUsers (s₀ s : Store) : Prop :=
  ∃ users clock draws, s = { s₀ with users := users, clock := clock, draws := draws }

theorem OnlyUsers.roles (h : OnlyUsers s₀ s) : s.roles = s₀.roles := by
  obtain ⟨users, clock, draws, rfl⟩ := h
  rfl

theorem OnlyUsers.write (h : OnlyUsers s₀ s) (users : Keyed.Table Uuid UserRow UserRow.email)
    (clock draws : Nat) :
    OnlyUsers s₀ { s with users := users, clock := clock, draws := draws } := by
  obtain ⟨_, _, _, rfl⟩ := h
  exact ⟨users, clock, draws, rfl⟩

theorem created_newUser (hrole : RoleFor s₀ dto role) {status : AccountStatus}
    (hstatus : dto.accountStatus.toColumn .INACTIVE = .ok status) :
    Created P s₀ dto ((newUser P dto role salt).row status) := by
  obtain ⟨name, row, hname, hrow, htext⟩ := hrole
  exact ⟨rfl, ⟨salt, rfl⟩, ⟨name, role.id, row, hname, rfl, hrow, htext⟩, hstatus, ⟨rfl, rfl⟩, rfl⟩

/-- The columns of the table hold what the body gives: the status is not `null`, and the database
takes the texts. -/
structure Storable (P : Platform) (dto : CreateUserDto) : Prop where
  status : dto.accountStatus ≠ .null
  texts : ∀ t ∈ [dto.firstName, dto.lastName, P.toLowerCase dto.email], P.takesText t = true

/-- An insert of values that the columns hold is refused by a unique index only. -/
theorem insertUser_error (hs : OnlyUsers s₀ s) (hrole : RoleFor s₀ dto role)
    (hstorable : Storable P dto) {e : Thrown}
    (h : insertUser P s (newUser P dto role salt) = .error e) : e = .duplicateKey := by
  rcases bind_eq_error.mp h with h | ⟨u, -, h⟩
  · have htexts : sendTexts P [dto.firstName, dto.lastName, P.toLowerCase dto.email] = .ok () :=
      sendTexts_eq_ok.mpr hstorable.texts
    have herror : sendTexts P [dto.firstName, dto.lastName, P.toLowerCase dto.email] = .error e := h
    rw [htexts] at herror
    cases herror
  rcases bind_eq_error.mp h with h | ⟨status, -, h⟩
  · have hcolumn : dto.accountStatus.toColumn .INACTIVE = .error e := h
    cases hd : dto.accountStatus with
    | null => exact absurd hd hstorable.status
    | _ =>
      rw [hd] at hcolumn
      cases hcolumn
  · rcases bind_eq_error.mp h with h | ⟨_, -, h⟩
    · have href : checkReference s.roles (some role.id) = .ok () := by
        obtain ⟨name, row, -, hrow, -⟩ := hrole
        refine checkReference_eq_ok.mpr fun r hr => ?_
        cases hr
        rw [hs.roles]
        exact ⟨row, hrow⟩
      have herror : checkReference s.roles (some role.id) = .error e := h
      rw [href] at herror
      cases herror
    · rcases bind_eq_error.mp h with h | ⟨users, -, h⟩
      · exact insertRow_error h
      · cases h

end

/-! ## The points of a sign-up -/

/-- Where a sign-up can be, and the key of the account it has added. -/
inductive At (P : Platform) (s₀ : Store) (dto : CreateUserDto) :
    Option Uuid → Service Unit → Prop where
  | start : At P s₀ dto none (signUp P dto)
  | checked {name : RolesConstant} (hname : dto.role = .value name) :
      At P s₀ dto none (.call (.roles (.findOneByName name.text)) (named P dto))
  | found {role : UserRole} (hrole : RoleFor s₀ dto role) : At P s₀ dto none (register P dto role)
  | hashed {role : UserRole} (salt : Nat) (hrole : RoleFor s₀ dto role) :
      At P s₀ dto none (insert P dto role salt)
  | returned (u : Uuid) : At P s₀ dto (some u) (.ret ())
  | threw (e : Thrown) : At P s₀ dto none (.fail e)

/-- The call has returned, or thrown what a taken email makes it throw. -/
def Settled (p : Service Unit) : Prop :=
  p = .ret () ∨ p = .fail (.conflict "Account email already exists")

/-- The inserts among the commands. -/
def IsInsert (c : Cmd) : Prop := ∃ user, c = .users (.insert user)

section

variable {P : Platform} {s₀ s : Store} {dto : CreateUserDto} {key : Option Uuid} {c : Cmd}
  {k : Except Thrown c.Answer → Service Unit}

theorem At.lookRoleUp : At P s₀ dto none (lookRoleUp P dto) := by
  unfold SignUp.lookRoleUp
  cases hrole : dto.role with
  | value name => exact .checked hrole
  | _ => exact .threw _

/-- What a command of a sign-up does: it changes no account and leads to the next point, or it
is the insert of the account the body asks for. -/
theorem At.call_cases (h : At P s₀ dto key (.call c k)) (hs : OnlyUsers s₀ s) :
    key = none ∧
      (¬IsInsert c ∧ (exec P c s).2.users = s.users ∧ OnlyUsers s₀ (exec P c s).2 ∧
          At P s₀ dto none (k (exec P c s).1) ∨
        ∃ role salt, RoleFor s₀ dto role ∧
          Prog.call c k = insert P dto role salt) := by
  generalize hp : Prog.call c k = p at h
  cases h with
  | start =>
    rw [signUp_eq] at hp
    cases hp
    refine ⟨rfl, .inl ⟨nofun, rfl, hs, ?_⟩⟩
    rcases findOneByEmail_cases P dto.email s with hr | ⟨u, row, -, -, hr⟩ <;> rw [hr]
    · exact .lookRoleUp
    · exact .threw _
  | @checked name hname =>
    cases hp
    refine ⟨rfl, .inl ⟨nofun, rfl, hs, ?_⟩⟩
    rcases findOneByName_cases P name.text s with hr | ⟨r, row, hrow, htext, hr⟩ <;> rw [hr]
    · exact .threw _
    · rw [hs.roles] at hrow
      exact .found ⟨name, row, hname, hrow, htext⟩
  | found hrole =>
    cases hp
    exact ⟨rfl, .inl ⟨nofun, rfl, hs.write s.users s.clock (s.draws + 1), .hashed s.draws hrole⟩⟩
  | @hashed role salt hrole =>
    cases hp
    exact ⟨rfl, .inr ⟨role, salt, hrole, rfl⟩⟩
  | returned u => cases hp
  | threw e => cases hp

/-- A failed command ends the sign-up. -/
theorem At.fault (h : At P s₀ dto key (.call c k)) (e : Thrown) :
    key = none ∧ ∃ e', k (.error e) = .fail e' := by
  generalize hp : Prog.call c k = p at h
  cases h with
  | start =>
    rw [signUp_eq] at hp
    cases hp
    exact ⟨rfl, _, rfl⟩
  | returned u => cases hp
  | threw e => cases hp
  | _ =>
    cases hp
    exact ⟨rfl, _, rfl⟩

theorem At.key_of_ret (h : At P s₀ dto key (.ret ())) : ∃ u, key = some u := by
  generalize hp : (Prog.ret () : Service Unit) = p at h
  cases h with
  | start =>
    rw [signUp_eq] at hp
    cases hp
  | returned u => exact ⟨u, rfl⟩
  | _ => cases hp

theorem At.ret_of_key {p : Service Unit} {u : Uuid} (h : At P s₀ dto (some u) p) : p = .ret () := by
  cases h
  rfl

end

/-! ## Runs -/

section

variable {ι : Type} {P : Platform} {s₀ : Store} {dtos : ι → CreateUserDto} {key : ι → Option Uuid}
  {cfg : Serving ι Unit}

/-- The sign-ups are about to start. -/
def started (P : Platform) (s : Store) (dtos : ι → CreateUserDto) : Serving ι Unit :=
  .start s fun i => signUp P (dtos i)

/-- The accounts are those of the start and one for each call that has a key, and a call whose
insert the database has answered is settled. -/
structure Registers (P : Platform) (s₀ : Store) (dtos : ι → CreateUserDto) (key : ι → Option Uuid)
    (cfg : Serving ι Unit) : Prop where
  threads : ∀ i, At P s₀ (dtos i) (key i) (cfg.threads i)
  rest : OnlyUsers s₀ cfg.store
  kept : ∀ u, (∀ i, key i ≠ some u) → cfg.store.users.find? u = s₀.users.find? u
  created : ∀ i u, key i = some u → s₀.users.find? u = none ∧
    ∃ row, cfg.store.users.find? u = some row ∧ Created P s₀ (dtos i) row
  distinct : ∀ i j u, key i = some u → key j = some u → i = j
  settled : ∀ i user r, ⟨i, .users (.insert user), r⟩ ∈ cfg.trace → r ≠ .error .storeFailed →
    Storable P (dtos i) → Settled (cfg.threads i)

theorem Settled.not_call {c : Cmd} {k : Except Thrown c.Answer → Service Unit}
    (h : Settled (.call c k)) : False := by
  rcases h with h | h <;> cases h

theorem registers_started (P : Platform) (s₀ : Store) (dtos : ι → CreateUserDto) :
    Registers P s₀ dtos (fun _ => none) (started P s₀ dtos) := by
  refine ⟨fun i => .start, ⟨s₀.users, s₀.clock, s₀.draws, rfl⟩, fun u _ => rfl, nofun, nofun, ?_⟩
  intro i user r hmem
  exact absurd hmem List.not_mem_nil

variable [DecidableEq ι]

/-- The calls that have settled stay settled when another call is answered. -/
theorem Registers.settled_deliver (h : Registers P s₀ dtos key cfg) {i : ι} {c : Cmd}
    {k : Except Thrown c.Answer → Service Unit} (hc : cfg.threads i = .call c k)
    {r : Except Thrown c.Answer} {s : Store}
    (hnew : IsInsert c → r ≠ .error .storeFailed → Storable P (dtos i) → Settled (k r))
    (j : ι) (user : NewUser) (r' : Except Thrown User)
    (hmem : ⟨j, .users (.insert user), r'⟩ ∈ (cfg.deliver i c k r s).trace)
    (hr' : r' ≠ .error .storeFailed) (hstorable : Storable P (dtos j)) :
    Settled ((cfg.deliver i c k r s).threads j) := by
  rcases List.mem_cons.mp hmem with he | hmem
  · cases he
    rw [Config.deliver_threads_self]
    exact hnew ⟨user, rfl⟩ hr' hstorable
  · have hsettled := h.settled j user r' hmem hr' hstorable
    by_cases hj : j = i
    · subst hj
      rw [hc] at hsettled
      exact hsettled.not_call.elim
    · rw [Config.deliver_threads_ne cfg hj]
      exact hsettled

/-- A command that changes no account. -/
theorem Registers.quiet (h : Registers P s₀ dtos key cfg) {i : ι} {c : Cmd}
    {k : Except Thrown c.Answer → Service Unit} (hc : cfg.threads i = .call c k)
    {r : Except Thrown c.Answer} {s : Store} (hat : At P s₀ (dtos i) (key i) (k r))
    (husers : s.users = cfg.store.users) (hrest : OnlyUsers s₀ s)
    (hnew : IsInsert c → r ≠ .error .storeFailed → Storable P (dtos i) → Settled (k r)) :
    Registers P s₀ dtos key (cfg.deliver i c k r s) := by
  refine ⟨?_, hrest, ?_, ?_, h.distinct, h.settled_deliver hc hnew⟩
  · exact Config.threads_deliver (T := fun j p => At P s₀ (dtos j) (key j) p) hat
      fun j _ => h.threads j
  · rw [Config.deliver_store, husers]
    exact h.kept
  · rw [Config.deliver_store, husers]
    exact h.created

omit [DecidableEq ι] in
/-- No call has the key of a row that is not stored. -/
theorem Registers.key_ne (h : Registers P s₀ dtos key cfg) {u : Uuid}
    (hfree : cfg.store.users.find? u = none) (i : ι) : key i ≠ some u := by
  intro hkey
  obtain ⟨-, row, hrow, -⟩ := h.created i u hkey
  rw [hfree] at hrow
  cases hrow

/-- An insert that is accepted. -/
theorem Registers.add (h : Registers P s₀ dtos key cfg) {i : ι} {c : Cmd}
    {k : Except Thrown c.Answer → Service Unit} (hc : cfg.threads i = .call c k)
    {r : Except Thrown c.Answer} {s : Store} (hkey : key i = none) (hret : k r = .ret ()) {u : Uuid}
    {row : UserRow} {users : Keyed.Table Uuid UserRow UserRow.email}
    (hfree : cfg.store.users.find? u = none) (hput : cfg.store.users.put u row = some users)
    (hrow : Created P s₀ (dtos i) row) (husers : s.users = users) (hrest : OnlyUsers s₀ s) :
    Registers P s₀ dtos (Function.update key i (some u)) (cfg.deliver i c k r s) := by
  have hself : Function.update key i (some u) i = some u := Function.update_self ..
  have hother : ∀ j, j ≠ i → Function.update key i (some u) j = key j :=
    fun j hj => Function.update_of_ne hj _ _
  have hnone : s₀.users.find? u = none := by
    rw [← h.kept u (h.key_ne hfree)]
    exact hfree
  refine ⟨?_, hrest, ?_, ?_, ?_, h.settled_deliver hc fun _ _ _ => ?_⟩
  · refine Config.threads_deliver
      (T := fun j p => At P s₀ (dtos j) (Function.update key i (some u) j) p) ?_ fun j hj => ?_
    · rw [hself, hret]
      exact .returned u
    · rw [hother j hj]
      exact h.threads j
  · intro v hv
    have hne : v ≠ u := by
      rintro rfl
      exact hv i hself
    rw [Config.deliver_store, husers, Keyed.Table.find?_put_ne hput hne]
    refine h.kept v fun j hj => ?_
    by_cases hji : j = i
    · subst hji
      rw [hkey] at hj
      cases hj
    · exact hv j ((hother j hji).trans hj)
  · intro j v hj
    by_cases hji : j = i
    · subst hji
      rw [hself] at hj
      cases hj
      refine ⟨hnone, row, ?_, hrow⟩
      rw [Config.deliver_store, husers]
      exact Keyed.Table.find?_put_self hput
    · rw [hother j hji] at hj
      obtain ⟨hnew, row', hrow', hcreated⟩ := h.created j v hj
      have hne : v ≠ u := by
        rintro rfl
        exact h.key_ne hfree j hj
      refine ⟨hnew, row', ?_, hcreated⟩
      rw [Config.deliver_store, husers, Keyed.Table.find?_put_ne hput hne]
      exact hrow'
  · intro j j' v hj hj'
    by_cases hji : j = i <;> by_cases hji' : j' = i
    · rw [hji, hji']
    · subst hji
      rw [hself] at hj
      cases hj
      rw [hother j' hji'] at hj'
      exact absurd hj' (h.key_ne hfree j')
    · subst hji'
      rw [hself] at hj'
      cases hj'
      rw [hother j hji] at hj
      exact absurd hj (h.key_ne hfree j)
    · rw [hother j hji] at hj
      rw [hother j' hji'] at hj'
      exact h.distinct j j' v hj hj'
  · rw [hret]
    exact .inl rfl

theorem registers_move (h : ∃ key, Registers P s₀ dtos key cfg) (m : Move ι Nat) :
    ∃ key, Registers P s₀ dtos key (cfg.move (system P) m) := by
  obtain ⟨key, h⟩ := h
  refine Config.move_cases (motive := fun cfg => ∃ key, Registers P s₀ dtos key cfg) cfg m ⟨key, h⟩
    ?stepped ?faulted ?outside
  case outside =>
    intro d _
    exact ⟨key, h.threads, h.rest.write cfg.store.users (cfg.store.clock + d) cfg.store.draws,
      h.kept, h.created, h.distinct, h.settled⟩
  case faulted =>
    intro i c k e _ hc hf
    have hat := h.threads i
    rw [hc] at hat
    obtain ⟨hkey, e', he'⟩ := hat.fault e
    refine ⟨key, h.quiet hc ?_ rfl h.rest fun hinsert hne => ?_⟩
    · rw [hkey, he']
      exact .threw e'
    · obtain ⟨user, rfl⟩ := hinsert
      cases hf
      exact absurd rfl hne
  case stepped =>
    intro i c k _ hc
    have hat := h.threads i
    rw [hc] at hat
    obtain ⟨hkey, ⟨hno, husers, hrest, hnext⟩ | ⟨role, salt, hrole, hp⟩⟩ :=
      hat.call_cases h.rest
    · refine ⟨key, h.quiet hc ?_ husers hrest fun hinsert => absurd hinsert hno⟩
      rw [hkey]
      exact hnext
    · cases hp
      show ∃ key, Registers P s₀ dtos key (cfg.deliver i
        (.users (.insert (newUser P (dtos i) role salt))) inserted
        (commit cfg.store (insertUser P cfg.store (newUser P (dtos i) role salt))).1
        (commit cfg.store (insertUser P cfg.store (newUser P (dtos i) role salt))).2)
      cases hr : insertUser P cfg.store (newUser P (dtos i) role salt) with
      | error e =>
        refine ⟨key, h.quiet hc ?_ rfl h.rest fun _ _ hstorable => .inr ?_⟩
        · rw [hkey]
          exact .threw _
        · rw [insertUser_error h.rest hrole hstorable hr]
          rfl
      | ok answer =>
        obtain ⟨user, s⟩ := answer
        obtain ⟨status, users, hstatus, -, hfree, hput, rfl⟩ := insertUser_ok hr
        exact ⟨_, h.add hc hkey rfl hfree hput (created_newUser hrole hstatus) rfl
          (h.rest.write users cfg.store.clock (cfg.store.draws + 1))⟩

/-- Each call that has returned has added one account, the one its body asks for, under a key of
its own; nothing else has changed. -/
structure Adds (P : Platform) (s₀ : Store) (dtos : ι → CreateUserDto) (cfg : Serving ι Unit)
    (key : ι → Option Uuid) : Prop where
  returned : ∀ i, cfg.threads i = .ret () ↔ ∃ u, key i = some u
  added : ∀ i u, key i = some u → s₀.users.find? u = none ∧
    ∃ row, cfg.store.users.find? u = some row ∧ Created P s₀ (dtos i) row
  distinct : ∀ i j u, key i = some u → key j = some u → i = j
  kept : ∀ u, (∀ i, key i ≠ some u) → cfg.store.users.find? u = s₀.users.find? u
  rest : OnlyUsers s₀ cfg.store

omit [DecidableEq ι] in
theorem Registers.adds (h : Registers P s₀ dtos key cfg) : Adds P s₀ dtos cfg key := by
  refine ⟨fun i => ⟨fun hret => ?_, ?_⟩, h.created, h.distinct, h.kept, h.rest⟩
  · have hat := h.threads i
    rw [hret] at hat
    exact hat.key_of_ret
  · rintro ⟨u, hkey⟩
    have hat := h.threads i
    rw [hkey] at hat
    exact hat.ret_of_key

omit [DecidableEq ι] in
/-- Emails stay in lower case. -/
theorem Adds.lower (h : Adds P s₀ dtos cfg key)
    (hlower : ∀ t, P.toLowerCase (P.toLowerCase t) = P.toLowerCase t)
    (hs : ∀ u row, s₀.users.find? u = some row → P.toLowerCase row.email = row.email) {u : Uuid}
    {row : UserRow} (hrow : cfg.store.users.find? u = some row) :
    P.toLowerCase row.email = row.email := by
  by_cases hkey : ∃ i, key i = some u
  · obtain ⟨i, hkey⟩ := hkey
    obtain ⟨-, row', hrow', hcreated⟩ := h.added i u hkey
    rw [hrow] at hrow'
    cases hrow'
    rw [hcreated.email]
    exact hlower _
  · rw [h.kept u fun i hi => hkey ⟨i, hi⟩] at hrow
    exact hs u row hrow

omit [DecidableEq ι] in
/-- One of the calls for an email returns. -/
theorem Adds.unique (h : Adds P s₀ dtos cfg key) {i j : ι} (hi : cfg.threads i = .ret ())
    (hj : cfg.threads j = .ret ())
    (he : P.toLowerCase (dtos i).email = P.toLowerCase (dtos j).email) : i = j := by
  obtain ⟨u, hu⟩ := (h.returned i).mp hi
  obtain ⟨v, hv⟩ := (h.returned j).mp hj
  obtain ⟨-, row, hrow, hcreated⟩ := h.added i u hu
  obtain ⟨-, row', hrow', hcreated'⟩ := h.added j v hv
  have hemail : row.email = row'.email := by
    rw [hcreated.email, hcreated'.email]
    exact he
  obtain rfl : u = v := Keyed.Table.find?_inj hrow hrow' hemail
  exact h.distinct i j u hu hv

/-- In every run of sign-ups the emails stay in lower case and distinct, each call that returns
has added the account it asks for and no other call has changed anything, one of the calls
for an email returns, and a call whose insert is answered returns or reports the conflict,
unless it asks for the status `null` or has a text that the database refuses. -/
theorem sign_ups_register (P : Platform) (s₀ : Store)
    (hlower : ∀ t, P.toLowerCase (P.toLowerCase t) = P.toLowerCase t)
    (hs : ∀ u row, s₀.users.find? u = some row → P.toLowerCase row.email = row.email)
    (dtos : ι → CreateUserDto) (ms : List (Move ι Nat)) :
    let cfg := (started P s₀ dtos).exec (system P) ms
    (∀ u row, cfg.store.users.find? u = some row → P.toLowerCase row.email = row.email) ∧
    (∀ u v row row', cfg.store.users.find? u = some row → cfg.store.users.find? v = some row' →
      row.email = row'.email → u = v) ∧
    (∃ key, Adds P s₀ dtos cfg key) ∧
    (∀ i j, cfg.threads i = .ret () → cfg.threads j = .ret () →
      P.toLowerCase (dtos i).email = P.toLowerCase (dtos j).email → i = j) ∧
    ∀ i user r, ⟨i, .users (.insert user), r⟩ ∈ cfg.trace → r ≠ .error .storeFailed →
      Storable P (dtos i) → Settled (cfg.threads i) := by
  intro cfg
  have init : ∃ key, Registers P s₀ dtos key (started P s₀ dtos) :=
    ⟨_, registers_started P s₀ dtos⟩
  have step : ∀ (cfg : Serving ι Unit) (m : Move ι Nat), (∃ key, Registers P s₀ dtos key cfg) →
      ∃ key, Registers P s₀ dtos key (cfg.move (system P) m) := fun _ m h => registers_move h m
  obtain ⟨key, h⟩ := Config.exec_inv_all step init ms
  have hadds : Adds P s₀ dtos cfg key := h.adds
  refine ⟨fun u row hrow => hadds.lower hlower hs hrow, ?_, ⟨key, hadds⟩, fun i j => hadds.unique,
    h.settled⟩
  exact fun u v row row' => Keyed.Table.find?_inj

end

/-! ## Two sign-ups -/

/-- The staff role, and no user. -/
def staffRoleStore : Store :=
  { Store.empty with
    roles := ((∅ : Keyed.Table Uuid RoleRow RoleRow.name).put (.ofNat 7)
      ⟨"OTHER_STAFF", none, []⟩).getD ∅ }

/-- Sign-ups for two spellings of an email, the second with this status. -/
def twoSpellings (status : Property AccountStatus) : Bool → CreateUserDto
  | false => ⟨"Eve", "Doe", "Eve@example.com", .undefined, .value .OTHER_STAFF, "P@ssw0rd"⟩
  | true => ⟨"Eve", "Doe", "eve@EXAMPLE.com", status, .value .OTHER_STAFF, "P@ssw0rd"⟩

/-- Both calls look the email up before one of them inserts. -/
def race : List (Move Bool Nat) :=
  [.step false, .step true, .step false, .step true, .step false, .step true,
    .step false, .step true]

/-- The slower of the two reports the conflict. -/
theorem slower_sign_up_conflicts :
    let cfg := (started .plain staffRoleStore (twoSpellings .undefined)).exec (system .plain) race
    cfg.threads false = .ret () ∧
      cfg.threads true = .fail (.conflict "Account email already exists") := by
  intro cfg
  have hfalse : cfg.threads false = .ret () := by rfl
  have hemail : Platform.plain.toLowerCase (twoSpellings .undefined false).email =
      Platform.plain.toLowerCase (twoSpellings .undefined true).email := by decide
  obtain ⟨-, -, -, hunique, hsettled⟩ :=
    sign_ups_register .plain staffRoleStore asciiLower_asciiLower
    (by intro u row hrow; cases hrow) (twoSpellings .undefined) race
  refine ⟨hfalse, ?_⟩
  rcases hsettled true _ _ List.mem_cons_self (by decide)
    ⟨nofun, by decide⟩ with htrue | htrue
  · exact absurd (hunique false true hfalse htrue hemail) (by decide)
  · exact htrue

/-- With the status `null` the slower of the two reports no conflict. -/
theorem null_status_no_conflict :
    let cfg := (started .plain staffRoleStore (twoSpellings .null)).exec (system .plain) race
    cfg.threads false = .ret () ∧
      (∃ user, ⟨true, .users (.insert user), .error .notNull⟩ ∈ cfg.trace) ∧
      cfg.threads true =
        .fail (.internalServerError "Something went wrong while creating the user account") := by
  intro cfg
  exact ⟨by rfl, ⟨_, List.mem_cons_self⟩, by rfl⟩

end SignUp

end VoltFleet
