import VoltFleet.Misc.Unwinding
import VoltFleet.Proofs.Escalation
import VoltFleet.Proofs.RouteCommands
import VoltFleet.Proofs.TablesOnly

/-!
# Requests that others cannot see

Requests for vehicles, fleets and readings, and the lists of accounts, are not seen by
the requests around a session: these run as if they were alone.  A lookup of a row by its
key, and a list of accounts, is not seen by any request at all.
-/

namespace VoltFleet

open Awaiting AuthService

/-! ## The requests of fleets and of sessions -/

/-- The route serves vehicles, fleets or readings, or lists accounts. -/
def Route.ofFleets : Route → Bool
  | .validateLoginOtp .. => false
  | .refreshAccessToken _ => false
  | .logout _ => false
  | .resetPassword .. => false
  | .createRole _ => false
  | .createPrivilege _ => false
  | .assignPrivilege .. => false
  | .registerAdmin _ => false
  | .signUpAsAStaff _ => false
  | _ => true

/-- The route signs in, refreshes, logs out or assigns privileges. -/
def Route.ofSessions : Route → Bool
  | .validateLoginOtp .. => true
  | .refreshAccessToken _ => true
  | .logout _ => true
  | .assignPrivilege .. => true
  | _ => false

/-- A command that writes vehicles, fleets or readings, or nothing. -/
inductive FleetSideCmd : Cmd → Prop where
  | findUserByEmail (email : String) : FleetSideCmd (.users (.findOneByEmail email))
  | findUserById (id : String) : FleetSideCmd (.users (.findOneById id))
  | listUsers (search : Option String) (skip take : JsNumber) :
      FleetSideCmd (.users (.findAndCount search skip take))
  | findRoleById (id : String) : FleetSideCmd (.roles (.findOneById id))
  | listRoles (search : Option String) (skip take : JsNumber) :
      FleetSideCmd (.roles (.findAndCount search skip take))
  | listPrivileges (search : Option String) (skip take : JsNumber) :
      FleetSideCmd (.privileges (.findAndCount search skip take))
  | fleets (c : FleetCmd) : FleetSideCmd (.fleets c)
  | vehicles (c : VehicleCmd) : FleetSideCmd (.vehicles c)
  | telemetry (c : TelemetryCmd) : FleetSideCmd (.telemetry c)
  | now : FleetSideCmd (.process .now)
  | broadcast (fleetId : String) (telemetry : TelemetryPayload) :
      FleetSideCmd (.process (.broadcast fleetId telemetry))

/-- A command on accounts and keys that makes no random choice. -/
inductive SessionSideCmd : Cmd → Prop where
  | findUserByEmail (email : String) : SessionSideCmd (.users (.findOneByEmail email))
  | findRoleById (id : String) : SessionSideCmd (.roles (.findOneById id))
  | saveRole (role : UserRole) : SessionSideCmd (.roles (.save role))
  | findPrivilege (id : String) : SessionSideCmd (.privileges (.findOneById id))
  | redis (c : RedisCmd) : SessionSideCmd (.redis c)
  | now : SessionSideCmd (.process .now)
  | setCurrentUser (session : Nat) (user : User) :
      SessionSideCmd (.process (.setCurrentUser session user))

section

variable {P : Platform} {s s' s'' : Store}

/-- The accounts, the cache, the sessions and the time are the same. -/
structure SameSessions (s s' : Store) : Prop where
  accounts : SameAccounts s s'
  cache : s'.cache = s.cache
  clock : s'.clock = s.clock
  sessions : s'.sessions = s.sessions

theorem SameSessions.refl (s : Store) : SameSessions s s := ⟨.refl s, rfl, rfl, rfl⟩

/-- What only the fleets' side has written is the same for the sessions. -/
theorem fleetSide_exec {c : Cmd} (hc : FleetSideCmd c) (h : SameSessions s s') :
    SameSessions (exec P c s).2 s' := by
  have hsame : SameSessions (exec P c s).2 s := by
    have htables : ∀ {c : Cmd}, OnTables c → LeavesAccounts c → SameSessions (exec P c s).2 s := by
      intro c htable hleaves
      have haccounts := hleaves.exec P s
      exact ⟨⟨haccounts.users.symm, haccounts.roles.symm, haccounts.privileges.symm⟩,
        ((htable.exec P).cache s).symm, ((htable.exec P).clock s).symm,
        ((htable.exec P).sessions s).symm⟩
    cases hc with
    | now => exact .refl s
    | broadcast fleetId telemetry => exact ⟨⟨rfl, rfl, rfl⟩, rfl, rfl, rfl⟩
    | _ => exact htables trivial trivial
  exact ⟨⟨h.accounts.users.trans hsame.accounts.users, h.accounts.roles.trans hsame.accounts.roles,
    h.accounts.privileges.trans hsame.accounts.privileges⟩, h.cache.trans hsame.cache,
    h.clock.trans hsame.clock, h.sessions.trans hsame.sessions⟩

/-- The client of the cache reads the cache and the time. -/
theorem redis_sameSessions (c : RedisCmd) (h : SameSessions s s') :
    (c.exec s).1 = (c.exec s').1 ∧ SameSessions (c.exec s).2 (c.exec s').2 := by
  have hsame : ∀ m, SameSessions { s with cache := m } { s' with cache := m, clock := s.clock } :=
    fun m => ⟨⟨h.accounts.users, h.accounts.roles, h.accounts.privileges⟩, rfl, rfl, h.sessions⟩
  cases c with
  | get key => exact ⟨by simp only [RedisCmd.exec, h.cache, h.clock], h⟩
  | set key value =>
    simp only [RedisCmd.exec, h.cache, h.clock]
    exact ⟨trivial, hsame _⟩
  | expire key ttl =>
    simp only [RedisCmd.exec, h.cache, h.clock]
    exact ⟨trivial, hsame _⟩
  | del key =>
    simp only [RedisCmd.exec, h.cache, h.clock]
    exact ⟨trivial, hsame _⟩
  | lrange key => exact ⟨by simp only [RedisCmd.exec, h.cache, h.clock], h⟩
  | rpush key data =>
    simp only [RedisCmd.exec, h.cache, h.clock]
    split
    · exact ⟨rfl, hsame _⟩
    · exact ⟨rfl, hsame _⟩
    · exact ⟨rfl, h⟩
  | hset key field value =>
    simp only [RedisCmd.exec, h.cache, h.clock]
    split
    · exact ⟨rfl, hsame _⟩
    · exact ⟨rfl, hsame _⟩
    · exact ⟨rfl, h⟩

theorem saveRole_sameSessions (role : UserRole) (h : SameSessions s s') :
    (commit s (saveRole P s role)).1 = (commit s' (saveRole P s' role)).1 ∧
      SameSessions (commit s (saveRole P s role)).2 (commit s' (saveRole P s' role)).2 := by
  unfold saveRole
  rw [h.accounts.roles]
  dsimp only
  split
  · exact ⟨rfl, h⟩
  · cases putRow s.roles role.id role.row with
    | error e => exact ⟨rfl, h⟩
    | ok roles =>
      exact ⟨rfl, ⟨h.accounts.users, rfl, h.accounts.privileges⟩, h.cache, h.clock, h.sessions⟩

/-- The sessions' side reads and writes what the fleets' side leaves alone. -/
theorem sessionSide_exec {c : Cmd} (hc : SessionSideCmd c) (h : SameSessions s s') :
    (exec P c s).1 = (exec P c s').1 ∧ SameSessions (exec P c s).2 (exec P c s').2 := by
  have hrole := role?_congr h.accounts.roles h.accounts.privileges
  have hprivilege : s'.privilege? = s.privilege? := by
    funext id
    unfold Store.privilege?
    rw [h.accounts.privileges]
  cases hc with
  | findUserByEmail email =>
    exact ⟨congrArg Except.ok (h.accounts.userByEmail_eq email).symm, h⟩
  | findRoleById id => exact ⟨by simp only [exec, RoleCmd.exec, hrole], h⟩
  | saveRole role => exact saveRole_sameSessions role h
  | findPrivilege id => exact ⟨by simp only [exec, PrivilegeCmd.exec, hprivilege], h⟩
  | redis c => exact redis_sameSessions c h
  | now => exact ⟨congrArg Except.ok h.clock.symm, h⟩
  | setCurrentUser session user =>
    refine ⟨rfl, ⟨h.accounts.users, h.accounts.roles, h.accounts.privileges⟩, h.cache, h.clock, ?_⟩
    show Function.update s'.sessions session (some user) = _
    rw [h.sessions]
    rfl

theorem unwinds_fleetSide (P : Platform) :
    Unwinds (system P) SessionSideCmd FleetSideCmd SameSessions := by
  refine ⟨⟨?_, ?_, ?_, ?_⟩, ?_⟩
  · intro c s s' hc h
    exact (sessionSide_exec hc h).1
  · intro c s s' hc h
    exact (sessionSide_exec hc h).2
  · intro c _
    rfl
  · intro d s s' h
    refine ⟨⟨h.accounts.users, h.accounts.roles, h.accounts.privileges⟩, h.cache, ?_, h.sessions⟩
    exact congrArg (· + d) h.clock
  · intro c s s' hc h
    exact fleetSide_exec hc h

/-! ## What the requests issue -/

theorem prog_fleetSide (request : HttpRequest) (h : request.route.ofFleets = true) :
    (request.prog P).Issues FleetSideCmd := by
  refine (prog_commands request).mono fun c hc => ?_
  rcases hc with hplain | ⟨htouches, -⟩ | ⟨dto, -, hingest⟩
  · cases hplain with
    | insertRole dto he => simp [he, Route.ofFleets] at h
    | insertPrivilege dto he => simp [he, Route.ofFleets] at h
    | endSession u token he => simp [he, Route.ofFleets] at h
    | findUserByEmail email => exact .findUserByEmail email
    | findUserById id => exact .findUserById id
    | listUsers search skip take => exact .listUsers search skip take
    | findRoleById id => exact .findRoleById id
    | listRoles search skip take => exact .listRoles search skip take
    | listPrivileges search skip take => exact .listPrivileges search skip take
    | fleets c => exact .fleets c
    | vehicles c => exact .vehicles c
    | findLatest vehicleId => exact .telemetry _
    | listReadings vehicleId from? to? skip take => exact .telemetry _
    | now => exact .now
  · cases hroute : request.route <;>
      simp [hroute, Route.ofFleets, Route.TouchesAccounts] at h htouches
  · cases hingest with
    | findOne => exact .vehicles _
    | now => exact .now
    | broadcast => exact .broadcast _ _
    | insert => exact .telemetry _

theorem RefreshCmd.sessionSide (c : Cmd) (h : RefreshCmd c) : SessionSideCmd c := by
  unfold RefreshCmd at h
  split at h
  · exact .findUserByEmail _
  · exact .redis _
  · exact .redis _
  · exact .redis _
  · exact .redis _
  · exact .now
  · exact h.elim

theorem prog_sessionSide (request : HttpRequest) (h : request.route.ofSessions = true) :
    (request.prog P).Issues SessionSideCmd := by
  refine prog_issues_of request (fun c hc => ?_) ?_
  · cases hc with
    | now => exact .now
    | findUserByEmail email => exact .findUserByEmail email
  · cases hroute : request.route with
    | validateLoginOtp dto session =>
      exact dropResult_issues (signIn_issues_of (fun email => .findUserByEmail email) .now
        (fun n user => .setCurrentUser n user) (fun _ _ => .redis _) (fun _ _ => .redis _)
        dto session)
    | refreshAccessToken token =>
      exact dropResult_issues ((refreshAccessToken_issues token).mono RefreshCmd.sessionSide)
    | logout token => exact (logout_issues token).mono RefreshCmd.sessionSide
    | assignPrivilege dto answered =>
      exact inTurn_issues_of (fun id => .findRoleById id) (fun id => .findPrivilege id)
        (fun role => .saveRole role) dto answered
    | _ => simp [hroute, Route.ofSessions] at h

/-! ## Lookups -/

/-- The route looks a role, a vehicle or a fleet up, or lists accounts. -/
def Route.looksUp : Route → Bool
  | .getAllUsers .. => true
  | .getAllRoles .. => true
  | .getAllPrivileges .. => true
  | .getRoleById _ => true
  | .getVehicleById _ => true
  | .getFleetById _ => true
  | _ => false

/-- A command that only reads. -/
def ReadsOnly : Cmd → Prop
  | .users (.findOneByEmail _) => True
  | .users (.findAndCount ..) => True
  | .roles (.findOneById _) => True
  | .roles (.findAndCount ..) => True
  | .privileges (.findAndCount ..) => True
  | .vehicles (.findOne _) => True
  | .fleets (.findOneWithVehicles _) => True
  | .process .now => True
  | _ => False

theorem ReadsOnly.exec {c : Cmd} (h : ReadsOnly c) (P : Platform) (s : Store) :
    (exec P c s).2 = s := by
  unfold ReadsOnly at h
  split at h
  · rfl
  · rfl
  · rfl
  · rfl
  · rfl
  · rfl
  · rfl
  · rfl
  · exact h.elim

theorem unwinds_lookups (P : Platform) :
    Unwinds (system P) (fun _ => True) ReadsOnly (fun s s' => s = s') := by
  refine ⟨.refl (system P) _, ?_⟩
  intro c s s' hc h
  exact (hc.exec P s).trans h

theorem prog_readsOnly (request : HttpRequest) (h : request.route.looksUp = true) :
    (request.prog P).Issues ReadsOnly := by
  have hlist : ∀ {α : Type} {c : Cmd} (page : c.Answer → Except Thrown α) (e : Thrown),
      ReadsOnly c → (tryCatch (Service.await c >>= fun a => Service.lift (page a))
        fun _ => throw e : Service α).Issues ReadsOnly := fun page e hc =>
    .tryCatch (.bind (.await hc) fun _ => Prog.issues_ofExcept _) fun _ => trivial
  refine prog_issues_of request (fun c hc => ?_) ?_
  · cases hc <;> trivial
  · cases hroute : request.route with
    | getAllUsers page perPage search req => exact dropResult_issues (hlist _ _ trivial)
    | getAllRoles page perPage search req => exact dropResult_issues (hlist _ _ trivial)
    | getAllPrivileges page perPage search req => exact dropResult_issues (hlist _ _ trivial)
    | getRoleById id =>
      exact dropResult_issues (getRoleById_issues_of (fun _ => trivial) id.text)
    | getVehicleById id =>
      refine dropResult_issues (.bind (.await trivial) fun vehicle => ?_)
      cases vehicle <;> trivial
    | getFleetById id =>
      refine dropResult_issues (.bind (.await trivial) fun fleet => ?_)
      cases fleet <;> trivial
    | _ => simp [hroute, Route.looksUp] at h

end

namespace HttpRequest

variable {ι : Type} [DecidableEq ι]

/-- Requests on vehicles, fleets and readings run beside sign-ins, refreshes, logouts and
assignments of privileges.  Without their moves the same run leaves every other request at the
same point or with the same outcome, after the same answers, and the accounts, the cache and the
sessions are the same. -/
theorem fleets_unseen_by_sessions (P : Platform) (s₀ : Store) (requests : ι → HttpRequest)
    (h : ∀ i, (requests i).route.ofFleets = true ∨ (requests i).route.ofSessions = true)
    (ms : List (Move ι Nat)) :
    let hidden := fun i => (requests i).route.ofFleets
    Config.AlikeShown hidden SameSessions ((started P s₀ requests).exec (system P) ms)
      ((started P s₀ requests).exec (system P) (ms.filter (Move.shown hidden))) := by
  intro hidden
  refine Config.AlikeShown.exec (unwinds_fleetSide P) ⟨fun _ _ => rfl, rfl, .refl s₀⟩ ?_ ms
  intro i
  cases hi : hidden i with
  | true =>
    simp only [if_true]
    exact prog_fleetSide (requests i) hi
  | false =>
    have hsession : (requests i).route.ofSessions = true :=
      (h i).resolve_left fun he => Bool.false_ne_true (hi.symm.trans he)
    simp only [Bool.false_eq_true, if_false]
    exact prog_sessionSide (requests i) hsession

/-- A vehicle is created while the access token of a sign-in is refreshed. -/
def refreshBesideCreate : Bool → HttpRequest
  | false => ⟨none, .createVehicle ⟨"VIN-1", "Leaf", "Nissan", 2020, .ACTIVE, .ofNat 1⟩, true⟩
  | true => ⟨none, .refreshAccessToken firstSignIn.refreshToken, true⟩

theorem run_firstRefresh :
    ∃ s', ((refreshBesideCreate true).prog .plain).run (exec .plain)
      SessionCall.firstSignInStore = (.ok (), s') := by
  have husers : SessionCall.firstSignInStore.users = verifiedUserStore.users :=
    signedInStore_users ..
  have hclock : SessionCall.firstSignInStore.clock = 0 := signedInStore_clock ..
  have hnames := SessionCall.names_firstSignIn husers (hclock.trans_lt (by decide))
  have hrun := run_refresh_granted hnames SessionCall.active_firstSignIn
  have hdropped := Service.run_dropResult (exec .plain)
    (refreshAccessToken .plain firstSignIn.refreshToken) SessionCall.firstSignInStore
  rw [hrun] at hdropped
  exact ⟨_, hdropped⟩

/-- After the write the refresh returns, as it does alone. -/
theorem fleets_unseen_by_sessions_refresh :
    ∃ n, ((started .plain SessionCall.firstSignInStore refreshBesideCreate).exec (system .plain)
      (.step false :: .replicate n (.step true))).threads true = .ret () := by
  have hside : ∀ i, (refreshBesideCreate i).route.ofFleets = true ∨
      (refreshBesideCreate i).route.ofSessions = true := by decide
  have hstart : (started .plain SessionCall.firstSignInStore refreshBesideCreate).threads true =
      (refreshBesideCreate true).prog .plain := rfl
  obtain ⟨s', hrun⟩ := run_firstRefresh
  obtain ⟨n, -, halone, -⟩ := Config.exec_alone (S := system .plain) hstart hrun
  refine ⟨n, ?_⟩
  have hsame := (fleets_unseen_by_sessions .plain SessionCall.firstSignInStore refreshBesideCreate
    hside (.step false :: .replicate n (.step true))).threads true rfl
  have hshown : (.step false :: .replicate n (.step true) : List (Move Bool Nat)).filter
      (Move.shown fun i => (refreshBesideCreate i).route.ofFleets) =
      .replicate n (.step true) := by
    rw [List.filter_cons_of_neg (by decide), List.filter_eq_self]
    intro m hm
    rw [List.eq_of_mem_replicate hm]
    rfl
  rw [hshown] at hsame
  exact hsame.trans halone

/-- Among any requests, those that look a row up or list accounts are not seen by the others:
without their moves the same run leads to the same store, and leaves every other request at the
same point or with the same outcome, after the same answers. -/
theorem lookups_unseen (P : Platform) (s₀ : Store) (requests : ι → HttpRequest)
    (ms : List (Move ι Nat)) :
    let hidden := fun i => (requests i).route.looksUp
    Config.AlikeShown hidden (fun s s' => s = s') ((started P s₀ requests).exec (system P) ms)
      ((started P s₀ requests).exec (system P) (ms.filter (Move.shown hidden))) := by
  intro hidden
  refine Config.AlikeShown.exec (unwinds_lookups P) ⟨fun _ _ => rfl, rfl, rfl⟩ ?_ ms
  intro i
  cases hi : hidden i with
  | true =>
    simp only [if_true]
    exact prog_readsOnly (requests i) hi
  | false =>
    simp only [Bool.false_eq_true, if_false]
    exact (prog_commands (requests i)).mono fun _ _ => trivial

end HttpRequest

end VoltFleet
