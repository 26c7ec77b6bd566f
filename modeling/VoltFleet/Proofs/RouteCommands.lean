import VoltFleet.Auth.Proofs.TokenGate
import VoltFleet.Controllers
import VoltFleet.Telemetry.Proofs.Scoping
import VoltFleet.Vehicle.Proofs.Commands

/-!
# The commands of the routes

The routes fall into three groups by what their handlers can issue: the plain
ones, which write vehicles, fleets, new roles and new privileges and delete refresh
keys; those that write accounts and keys; and the ingestion of a reading.
-/

namespace VoltFleet

open Awaiting AuthService

/-- The commands of the guards. -/
inductive GuardCmd : Cmd → Prop where
  | now : GuardCmd (.process .now)
  | findUserByEmail (email : String) : GuardCmd (.users (.findOneByEmail email))

/-- The commands of the guards and of a plain route. -/
inductive PlainCmd (route : Route) : Cmd → Prop where
  | findUserByEmail (email : String) : PlainCmd route (.users (.findOneByEmail email))
  | findUserById (id : String) : PlainCmd route (.users (.findOneById id))
  | listUsers (search : Option String) (skip take : JsNumber) :
      PlainCmd route (.users (.findAndCount search skip take))
  | findRoleById (id : String) : PlainCmd route (.roles (.findOneById id))
  | listRoles (search : Option String) (skip take : JsNumber) :
      PlainCmd route (.roles (.findAndCount search skip take))
  | insertRole (dto : AccessDto) (h : route = .createRole dto) :
      PlainCmd route (.roles (.insert dto))
  | listPrivileges (search : Option String) (skip take : JsNumber) :
      PlainCmd route (.privileges (.findAndCount search skip take))
  | insertPrivilege (dto : AccessDto) (h : route = .createPrivilege dto) :
      PlainCmd route (.privileges (.insert dto))
  | fleets (c : FleetCmd) : PlainCmd route (.fleets c)
  | vehicles (c : VehicleCmd) : PlainCmd route (.vehicles c)
  | findLatest (vehicleId : String) : PlainCmd route (.telemetry (.findLatest vehicleId))
  | listReadings (vehicleId : String) (from? to? : Option String) (skip take : JsNumber) :
      PlainCmd route (.telemetry (.getManyAndCount vehicleId from? to? skip take))
  | now : PlainCmd route (.process .now)
  | endSession (u : Uuid) (token : String) (h : route = .logout token) :
      PlainCmd route (.redis (.del (refreshKey u token)))

/-- The commands of the routes that write accounts or keys. -/
inductive AccountCmd : Cmd → Prop where
  | findUserByEmail (email : String) : AccountCmd (.users (.findOneByEmail email))
  | findUserById (id : String) : AccountCmd (.users (.findOneById id))
  | insertUser (user : NewUser) : AccountCmd (.users (.insert user))
  | saveUser (user : User) : AccountCmd (.users (.save user))
  | findRoleByName (name : String) : AccountCmd (.roles (.findOneByName name))
  | findRoleById (id : String) : AccountCmd (.roles (.findOneById id))
  | saveRole (role : UserRole) : AccountCmd (.roles (.save role))
  | findPrivilege (id : String) : AccountCmd (.privileges (.findOneById id))
  | now : AccountCmd (.process .now)
  | genSalt : AccountCmd (.process .genSalt)
  | setCurrentUser (session : Nat) (user : User) :
      AccountCmd (.process (.setCurrentUser session user))
  | getRefresh (u : Uuid) (token : String) : AccountCmd (.redis (.get (refreshKey u token)))
  | getReset (userId : String) : AccountCmd (.redis (.get (resetPasswordKey userId)))
  | set (key value : String) : AccountCmd (.redis (.set key value))
  | expire (key : String) (ttl : Nat) : AccountCmd (.redis (.expire key ttl))
  | delReset (userId : String) : AccountCmd (.redis (.del (resetPasswordKey userId)))

/-- The route writes an account or a key of the cache, or reads one. -/
def Route.TouchesAccounts : Route → Prop
  | .validateLoginOtp .. => True
  | .refreshAccessToken _ => True
  | .resetPassword .. => True
  | .assignPrivilege .. => True
  | .registerAdmin _ => True
  | .signUpAsAStaff _ => True
  | _ => False

/-- What the handler of a route may issue. -/
def Route.Commands (route : Route) (c : Cmd) : Prop :=
  PlainCmd route c ∨ (route.TouchesAccounts ∧ AccountCmd c) ∨
    ∃ dto, route = .ingest dto ∧ LiveOp.IngestAwaits dto c

section

variable {P : Platform} {route : Route}

/-! ## The plain routes -/

theorem getRoleById_issues_of {Q : Cmd → Prop} (hrole : ∀ id, Q (.roles (.findOneById id)))
    (id : String) : (AuthService.getRoleById P id).Issues Q := by
  have hfind : (UserRoleRepository.getRoleById id).Issues Q := by
    unfold UserRoleRepository.getRoleById
    by_cases h : id = ""
    · rw [if_pos h]
      trivial
    · rw [if_neg h]
      refine ⟨hrole id, fun r => ?_⟩
      rcases r with e | (_ | role) <;> trivial
  unfold AuthService.getRoleById
  by_cases h : P.isUUID id = true
  · simp only [h, Bool.not_true, Bool.false_eq_true, if_false]
    exact hfind
  · simp only [h, Bool.not_false, if_true]
    trivial

theorem logout_plain (token : String) :
    (AuthService.logout P token).Issues (PlainCmd (.logout token)) := by
  unfold AuthService.logout
  refine .tryCatch (.bind (verify_issues .now _) fun payload => ?_) fun _ => trivial
  refine .bind (getUserByEmail_issues (.findUserByEmail _)) fun user => ?_
  cases user with
  | none => trivial
  | some user => exact .tryCatch (.await (.endSession user.id token rfl)) fun _ => trivial

theorem getVehicleById_plain (id : String) :
    (VehicleService.getVehicleById id).Issues (PlainCmd route) := by
  refine .bind (.await (.vehicles _)) fun vehicle => ?_
  cases vehicle <;> trivial

theorem getFleetById_plain (id : String) :
    (FleetService.getFleetById id).Issues (PlainCmd route) := by
  refine .bind (.await (.fleets _)) fun fleet => ?_
  cases fleet <;> trivial

theorem createFleet_plain (dto : CreateFleetDto) :
    (FleetService.createFleet dto).Issues (PlainCmd route) := by
  refine .bind (.await (.findUserById _)) fun manager => ?_
  cases manager with
  | none => trivial
  | some manager => exact .await (.fleets _)

/-- One query whose answer is paginated; the error is translated. -/
theorem list_plain {α : Type} {c : Cmd} (hc : PlainCmd route c) (page : c.Answer → Except Thrown α)
    (e : Thrown) : (tryCatch (Service.await c >>= fun a => Service.lift (page a))
      fun _ => throw e : Service α).Issues (PlainCmd route) :=
  .tryCatch (.bind (.await hc) fun _ => Prog.issues_ofExcept _) fun _ => trivial

theorem handler_plain (h : ¬route.TouchesAccounts)
    (hingest : ∀ dto, route ≠ .ingest dto) : (route.handler P).Issues (PlainCmd route) := by
  cases route with
  | getAllUsers page perPage search req =>
    exact dropResult_issues (list_plain (.listUsers ..) _ _)
  | getAllRoles page perPage search req =>
    exact dropResult_issues (list_plain (.listRoles ..) _ _)
  | getAllPrivileges page perPage search req =>
    exact dropResult_issues (list_plain (.listPrivileges ..) _ _)
  | getRoleById id =>
    exact dropResult_issues (getRoleById_issues_of (fun id => .findRoleById id) id.text)
  | logout token => exact logout_plain token
  | createRole dto => exact dropResult_issues (.await (.insertRole dto rfl))
  | createPrivilege dto => exact dropResult_issues (.await (.insertPrivilege dto rfl))
  | createVehicle dto => exact dropResult_issues (.await (.vehicles _))
  | getAllVehicles dto => exact dropResult_issues (list_plain (.vehicles _) _ _)
  | getVehicleById id => exact dropResult_issues (getVehicleById_plain id)
  | updateVehicle id dto =>
    exact dropResult_issues (.bind (getVehicleById_plain id) fun _ => .await (.vehicles _))
  | deleteVehicle id => exact .bind (getVehicleById_plain id) fun _ => .await (.vehicles _)
  | createFleet dto => exact dropResult_issues (createFleet_plain dto)
  | getAllFleets dto => exact dropResult_issues (list_plain (.fleets _) _ _)
  | getFleetById id => exact dropResult_issues (getFleetById_plain id)
  | updateFleet id dto =>
    exact dropResult_issues (.bind (getFleetById_plain id) fun _ => .await (.fleets _))
  | deleteFleet id => exact .bind (getFleetById_plain id) fun _ => .await (.fleets _)
  | ingest dto => exact absurd rfl (hingest dto)
  | latest vehicleId => exact dropResult_issues (.await (.findLatest vehicleId))
  | history vehicleId dto req =>
    exact dropResult_issues (.bind (.await (.listReadings ..)) fun _ => Prog.issues_ofExcept _)
  | validateLoginOtp dto session => exact absurd trivial h
  | refreshAccessToken token => exact absurd trivial h
  | resetPassword dto newPassword => exact absurd trivial h
  | assignPrivilege dto answered => exact absurd trivial h
  | registerAdmin dto => exact absurd trivial h
  | signUpAsAStaff dto => exact absurd trivial h

/-! ## The routes of accounts -/

theorem set_account (key value : String) (ttl : Option Nat) :
    (CacheService.set key value ttl).Issues AccountCmd :=
  set_issues (.set key value) fun ttl => .expire key ttl

theorem signIn_issues_of {Q : Cmd → Prop} (huser : ∀ email, Q (.users (.findOneByEmail email)))
    (hnow : Q (.process .now)) (hsession : ∀ n user, Q (.process (.setCurrentUser n user)))
    (hset : ∀ key value, Q (.redis (.set key value)))
    (hexpire : ∀ key ttl, Q (.redis (.expire key ttl))) (dto : AuthCredentialsDto)
    (session : Nat) : (signIn P dto session).Issues Q := by
  have hsign : ∀ payload expiresIn, (AuthService.sign P payload expiresIn).Issues Q :=
    sign_issues hnow
  have hkey : ∀ key value ttl, (CacheService.set key value ttl).Issues Q :=
    fun key value _ => set_issues (hset key value) (hexpire key)
  unfold signIn
  refine .bind (getUserByEmail_issues (huser _)) fun found => ?_
  cases found with
  | none => trivial
  | some user =>
    dsimp only
    split
    · trivial
    · split
      · trivial
      · split
        · trivial
        · refine .bind (hsign _ _) fun accessToken => .bind (hsign _ _) fun refreshToken => ?_
          refine .bind (.await (hsession ..)) fun _ => .bind (hkey ..) fun _ => ?_
          exact .bind (hkey ..) fun _ => trivial

theorem signIn_account (dto : AuthCredentialsDto) (session : Nat) :
    (signIn P dto session).Issues AccountCmd :=
  signIn_issues_of (fun email => .findUserByEmail email) .now
    (fun n user => .setCurrentUser n user) (fun key value => .set key value)
    (fun key ttl => .expire key ttl) dto session

theorem refreshAccessToken_account (token : String) :
    (refreshAccessToken P token).Issues AccountCmd := by
  unfold refreshAccessToken
  refine .bind (.tryCatch (verify_issues .now _) fun _ => trivial) fun payload => ?_
  refine .bind (getUserByEmail_issues (.findUserByEmail _)) fun found => ?_
  cases found with
  | none => trivial
  | some user =>
    refine .bind (.tryCatch (.await (.getRefresh user.id token)) fun _ => trivial) fun stored => ?_
    split
    · trivial
    · refine .bind (sign_issues .now _ _) fun newAccessToken => ?_
      exact .bind (set_account ..) fun _ => trivial

theorem resetPassword_account (dto : ResetPasswordDto) (newPassword : NewPasswordDto) :
    (resetPassword P dto newPassword).Issues AccountCmd := by
  have hdelete : (AccountOp.resetDelete dto).Issues AccountCmd :=
    .bind (.tryCatch (.await (.delReset dto.userId)) fun _ => trivial) fun _ => trivial
  have hfind : (UserRepository.findUserById dto.userId).Issues AccountCmd :=
    .tryCatch (.await (.findUserById _)) fun _ => trivial
  rw [AccountOp.resetPassword_eq]
  refine .bind (.tryCatch (.await (.getReset dto.userId)) fun _ => trivial) fun stored => ?_
  split
  · trivial
  · refine .bind hfind fun found => ?_
    cases found with
    | none => trivial
    | some user =>
      exact .bind (.await .genSalt) fun salt => .bind (.await (.saveUser _)) fun _ => hdelete

theorem inTurn_issues_of {Q : Cmd → Prop} (hrole : ∀ id, Q (.roles (.findOneById id)))
    (hprivilege : ∀ id, Q (.privileges (.findOneById id))) (hsave : ∀ role, Q (.roles (.save role)))
    (dto : AssignPrivilegeDto) (answered : List String) :
    (AssignPrivilege.inTurn dto answered).Issues Q := by
  have hlookups : (AssignPrivilege.lookups answered).Issues Q := by
    refine (lookups_issues answered).mono ?_
    rintro c ⟨id, rfl⟩
    exact hprivilege id
  unfold AssignPrivilege.inTurn
  refine .tryCatch (.bind (.await (hrole _)) fun found => ?_) fun _ => trivial
  cases found with
  | none => trivial
  | some role => exact .bind hlookups fun _ => .bind (.await (hsave _)) fun _ => trivial

theorem inTurn_account (dto : AssignPrivilegeDto) (answered : List String) :
    (AssignPrivilege.inTurn dto answered).Issues AccountCmd :=
  inTurn_issues_of (fun id => .findRoleById id) (fun id => .findPrivilege id)
    (fun role => .saveRole role) dto answered

theorem signUp_account (dto : CreateUserDto) : (signUp P dto).Issues AccountCmd :=
  signUp_issues_of (fun name => .findRoleByName name) .genSalt (fun user _ _ => .insertUser user)
    (fun email => .findUserByEmail email) dto

theorem handler_account (h : route.TouchesAccounts) :
    (route.handler P).Issues AccountCmd := by
  cases route with
  | validateLoginOtp dto session => exact dropResult_issues (signIn_account dto session)
  | refreshAccessToken token => exact dropResult_issues (refreshAccessToken_account token)
  | resetPassword dto newPassword => exact dropResult_issues (resetPassword_account dto newPassword)
  | assignPrivilege dto answered => exact inTurn_account dto answered
  | registerAdmin dto => exact signUp_account _
  | signUpAsAStaff dto => exact signUp_account _
  | _ => exact h.elim

/-! ## The ingestion -/

theorem ingestStore_issues (dto : CreateTelemetryDto) (payload : TelemetryPayload) :
    (LiveOp.ingestStore dto payload).Issues (LiveOp.IngestAwaits dto) :=
  .bind (.tryCatch (.bind (.await .insert) fun _ => trivial) fun _ => trivial) fun _ => trivial

theorem ingestTelemetry_awaits (dto : CreateTelemetryDto) :
    (TelemetryService.ingestTelemetry dto).Issues (LiveOp.IngestAwaits dto) := by
  refine .bind (.await .findOne) fun vehicle => ?_
  cases vehicle with
  | none => trivial
  | some vehicle =>
    refine .bind (.await .now) fun receivedAt => ?_
    dsimp only
    split
    · exact .bind (.tryCatch (.await (.broadcast receivedAt)) fun _ => trivial)
        fun _ => ingestStore_issues dto (LiveOp.reading dto receivedAt)
    · exact ingestStore_issues dto (LiveOp.reading dto receivedAt)

/-! ## Requests -/

theorem handler_commands (route : Route) : (route.handler P).Issues route.Commands := by
  by_cases htouches : route.TouchesAccounts
  · exact (handler_account htouches).mono fun c hc => .inr (.inl ⟨htouches, hc⟩)
  · by_cases hingest : ∃ dto, route = .ingest dto
    · obtain ⟨dto, rfl⟩ := hingest
      exact dropResult_issues ((ingestTelemetry_awaits dto).mono
        fun c hc => .inr (.inr ⟨dto, rfl, hc⟩))
    · refine (handler_plain htouches fun dto he => hingest ⟨dto, he⟩).mono ?_
      exact fun c hc => .inl hc

theorem authGuard_guards (bearer : Option String) : (authGuard P bearer).Issues GuardCmd := by
  unfold authGuard
  cases bearer with
  | none => trivial
  | some token =>
    refine .bind (.tryCatch (verify_issues .now _) fun _ => trivial) fun payload => ?_
    refine .bind (.await (.findUserByEmail _)) fun user => ?_
    split <;> trivial

theorem GuardCmd.plain (c : Cmd) (h : GuardCmd c) : PlainCmd route c := by
  cases h with
  | now => exact .now
  | findUserByEmail email => exact .findUserByEmail email

theorem authGuard_plain (bearer : Option String) :
    (authGuard P bearer).Issues (PlainCmd route) :=
  (authGuard_guards bearer).mono GuardCmd.plain

/-- What the guards and the handler issue, the request issues. -/
theorem prog_issues_of {Q : Cmd → Prop} (request : HttpRequest) (hguard : ∀ c, GuardCmd c → Q c)
    (hhandler : (request.route.handler P).Issues Q) : (request.prog P).Issues Q := by
  have hhandle : (request.handle P).Issues Q := by
    unfold HttpRequest.handle
    cases request.proceeds with
    | false => trivial
    | true => exact hhandler
  have hauthorized : ∀ user, (request.authorized P user).Issues Q := by
    intro user
    unfold HttpRequest.authorized
    cases request.route.guards with
    | unguarded => exact hhandle
    | authGuard => exact hhandle
    | privilegesGuard required => exact .bind (Prog.issues_ofExcept _) fun _ => hhandle
  have hauth : (authGuard P request.bearer).Issues Q :=
    (authGuard_guards request.bearer).mono hguard
  unfold HttpRequest.prog
  cases request.route.guards with
  | unguarded => exact hhandle
  | authGuard => exact .bind hauth hauthorized
  | privilegesGuard required => exact .bind hauth hauthorized

/-- A request issues what its handler may issue. -/
theorem prog_commands (request : HttpRequest) :
    (request.prog P).Issues request.route.Commands :=
  prog_issues_of request (fun c hc => .inl (GuardCmd.plain c hc)) (handler_commands request.route)

end

end VoltFleet
