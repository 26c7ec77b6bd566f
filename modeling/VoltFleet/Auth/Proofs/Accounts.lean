import VoltFleet.Auth.JwtStrategy
import VoltFleet.Vehicle.Proofs.Writes

/-!
# Which commands leave the accounts alone

`LeavesAccounts` holds of every command that writes no user, role or privilege.
The calls around a session issue such commands only.
-/

namespace VoltFleet

open Awaiting

/-- The users, roles and privileges are as before. -/
structure SameAccounts (s s' : Store) : Prop where
  users : s'.users = s.users
  roles : s'.roles = s.roles
  privileges : s'.privileges = s.privileges

theorem SameAccounts.refl (s : Store) : SameAccounts s s := ⟨rfl, rfl, rfl⟩

theorem SameAccounts.trans {s s' s'' : Store} (h : SameAccounts s s') (h' : SameAccounts s' s'') :
    SameAccounts s s'' :=
  ⟨h'.users.trans h.users, h'.roles.trans h.roles, h'.privileges.trans h.privileges⟩

theorem roleEntity_congr {s s' : Store} (h : s'.privileges = s.privileges) :
    s'.roleEntity = s.roleEntity := by
  have hprivilege : s'.privilege? = s.privilege? := by
    funext id
    unfold Store.privilege?
    rw [h]
  funext id row
  unfold Store.roleEntity
  rw [hprivilege]

/-- A role as an entity depends on the roles and the privileges only. -/
theorem role?_congr {s s' : Store} (hr : s'.roles = s.roles) (hp : s'.privileges = s.privileges) :
    s'.role? = s.role? := by
  funext id
  unfold Store.role?
  rw [hr, roleEntity_congr hp]

/-- A user is loaded as before. -/
theorem SameAccounts.userEntity_eq {s s' : Store} (h : SameAccounts s s') :
    s'.userEntity = s.userEntity := by
  funext u row
  simp only [Store.userEntity, role?_congr h.roles h.privileges]

theorem SameAccounts.userByEmail_eq {s s' : Store} (h : SameAccounts s s') (email : String) :
    s'.userByEmail email = s.userByEmail email := by
  unfold Store.userByEmail
  rw [h.users, h.userEntity_eq]

/-- The command writes no user, role or privilege. -/
def LeavesAccounts : Cmd → Prop
  | .users (.insert _) => False
  | .users (.save _) => False
  | .roles (.insert _) => False
  | .roles (.save _) => False
  | .privileges (.insert _) => False
  | _ => True

theorem sameAccounts_fleets (P : Platform) (s : Store) (c : FleetCmd) :
    SameAccounts s (c.exec P s).2 := by
  cases c with
  | findOneWithVehicles id => exact .refl s
  | getManyAndCount skip take => exact ⟨rfl, rfl, rfl⟩
  | insert name manager =>
    refine commit_snd (p := SameAccounts s) (.refl s) fun f s' h => ?_
    obtain ⟨-, -, fleets, -, -, rfl⟩ := insertFleet_ok h
    exact ⟨rfl, rfl, rfl⟩
  | save f =>
    refine commit_snd (p := SameAccounts s) (.refl s) fun f' s' h => ?_
    obtain ⟨row, fleets, -, -, rfl⟩ := saveFleet_ok h
    exact ⟨rfl, rfl, rfl⟩
  | remove f =>
    refine commit_snd (p := SameAccounts s) (.refl s) fun u s' h => ?_
    cases removeFleet_ok h
    exact ⟨rfl, rfl, rfl⟩

theorem sameAccounts_vehicles (P : Platform) (s : Store) (c : VehicleCmd) :
    SameAccounts s (c.exec P s).2 := by
  cases c with
  | findOne id => exact .refl s
  | getManyAndCount status fleetId skip take => exact ⟨rfl, rfl, rfl⟩
  | insert dto =>
    refine commit_snd (p := SameAccounts s) (.refl s) fun v s' h => ?_
    obtain ⟨row, vehicles, -, -, -, rfl⟩ := insertVehicle_ok h
    exact ⟨rfl, rfl, rfl⟩
  | save v =>
    refine commit_snd (p := SameAccounts s) (.refl s) fun v' s' h => ?_
    obtain ⟨row, vehicles, -, -, -, rfl⟩ := saveVehicle_ok h
    exact ⟨rfl, rfl, rfl⟩
  | remove v =>
    refine commit_snd (p := SameAccounts s) (.refl s) fun u s' h => ?_
    cases removeVehicle_ok h
    exact ⟨rfl, rfl, rfl⟩

theorem sameAccounts_telemetry (P : Platform) (s : Store) (c : TelemetryCmd) :
    SameAccounts s (c.exec P s).2 := by
  cases c with
  | findLatest vehicleId => exact ⟨rfl, rfl, rfl⟩
  | getManyAndCount vehicleId from? to? skip take => exact ⟨rfl, rfl, rfl⟩
  | insert rec =>
    refine commit_snd (p := SameAccounts s) (.refl s) fun row s' h => ?_
    obtain ⟨-, -, -, telemetry, -, rfl⟩ := insertTelemetry_ok h
    exact ⟨rfl, rfl, rfl⟩

theorem LeavesAccounts.exec {c : Cmd} (h : LeavesAccounts c) (P : Platform) (s : Store) :
    SameAccounts s (exec P c s).2 := by
  cases c with
  | users c =>
    cases c with
    | insert user => exact h.elim
    | save user => exact h.elim
    | _ => exact .refl s
  | roles c =>
    cases c with
    | insert dto => exact h.elim
    | save role => exact h.elim
    | _ => exact .refl s
  | privileges c =>
    cases c with
    | insert dto => exact h.elim
    | _ => exact .refl s
  | fleets c => exact sameAccounts_fleets P s c
  | vehicles c => exact sameAccounts_vehicles P s c
  | telemetry c => exact sameAccounts_telemetry P s c
  | redis c =>
    obtain ⟨cache, hstore⟩ := c.exec_store s
    rw [VoltFleet.exec, hstore]
    exact ⟨rfl, rfl, rfl⟩
  | process c => cases c <;> exact ⟨rfl, rfl, rfl⟩

/-! ## The calls around a session -/

/-- A command of the calls that refresh, log out or authenticate. -/
def RefreshCmd : Cmd → Prop
  | .users (.findOneByEmail _) => True
  | .redis (.get _) => True
  | .redis (.set key _) => ∃ u token, key = AuthService.sessionKey u token
  | .redis (.expire ..) => True
  | .redis (.del _) => True
  | .process .now => True
  | _ => False

/-- A command of these calls or of a sign-in. -/
def SessionCmd : Cmd → Prop
  | .users (.findOneByEmail _) => True
  | .redis (.rpush ..) => False
  | .redis (.hset ..) => False
  | .redis _ => True
  | .process _ => True
  | _ => False

theorem RefreshCmd.sessionCmd (c : Cmd) (h : RefreshCmd c) : SessionCmd c := by
  unfold RefreshCmd at h
  split at h
  all_goals trivial

theorem SessionCmd.leavesAccounts (c : Cmd) (h : SessionCmd c) : LeavesAccounts c := by
  unfold SessionCmd at h
  split at h
  · trivial
  · exact h.elim
  · exact h.elim
  · trivial
  · trivial
  · exact h.elim

section

variable {P : Platform}

theorem set_issues {Q : Cmd → Prop} {key value : String} {ttl : Option Nat}
    (hset : Q (.redis (.set key value))) (hexpire : ∀ ttl, Q (.redis (.expire key ttl))) :
    (CacheService.set key value ttl).Issues Q := by
  unfold CacheService.set
  refine .tryCatch (.bind (.await hset) fun _ => ?_) fun _ => trivial
  split
  · trivial
  · trivial
  · exact .await (hexpire _)

theorem get_issues (key : String) : (CacheService.get key).Issues RefreshCmd :=
  .tryCatch (.await trivial) fun _ => trivial

theorem delete_issues (key : String) : (CacheService.delete key).Issues RefreshCmd :=
  .tryCatch (.await trivial) fun _ => trivial

theorem getUserByEmail_issues {Q : Cmd → Prop} {email : String}
    (h : Q (.users (.findOneByEmail email))) :
    (UserRepository.getUserByEmail P email).Issues Q := by
  unfold UserRepository.getUserByEmail
  split
  · trivial
  · exact .tryCatch (.await h) fun _ => trivial

theorem sign_issues {Q : Cmd → Prop} (h : Q (.process .now)) (payload : JwtPayload)
    (expiresIn : Nat) : (AuthService.sign P payload expiresIn).Issues Q :=
  .bind (.await h) fun _ => trivial

theorem verify_issues {Q : Cmd → Prop} (h : Q (.process .now)) (token : String) :
    (AuthService.verify P token).Issues Q := by
  refine .bind (.await h) fun now => ?_
  split <;> trivial

theorem signIn_issues (dto : AuthCredentialsDto) (session : Nat) :
    (AuthService.signIn P dto session).Issues SessionCmd := by
  have hsign : ∀ payload expiresIn, (AuthService.sign P payload expiresIn).Issues SessionCmd :=
    sign_issues trivial
  unfold AuthService.signIn
  refine .bind (getUserByEmail_issues trivial) fun user => ?_
  cases user with
  | none => trivial
  | some user =>
    dsimp only
    split
    · trivial
    · split
      · trivial
      · split
        · trivial
        · refine .bind (hsign _ _) fun accessToken => .bind (hsign _ _) fun refreshToken => ?_
          refine .bind (.await trivial) fun _ =>
            .bind (set_issues trivial fun _ => trivial) fun _ => ?_
          exact .bind (set_issues trivial fun _ => trivial) fun _ => trivial

theorem refreshAccessToken_issues (token : String) :
    (AuthService.refreshAccessToken P token).Issues RefreshCmd := by
  unfold AuthService.refreshAccessToken
  refine .bind (.tryCatch (verify_issues trivial _) fun _ => trivial) fun payload => ?_
  refine .bind (getUserByEmail_issues trivial) fun user => ?_
  cases user with
  | none => trivial
  | some user =>
    refine .bind (get_issues _) fun isValid => ?_
    split
    · trivial
    · refine .bind (sign_issues trivial _ _) fun accessToken => ?_
      exact .bind (set_issues ⟨_, _, rfl⟩ fun _ => trivial) fun _ => trivial

theorem logout_issues (token : String) : (AuthService.logout P token).Issues RefreshCmd := by
  unfold AuthService.logout
  refine .tryCatch (.bind (verify_issues trivial _) fun payload => ?_) fun _ => trivial
  refine .bind (getUserByEmail_issues trivial) fun user => ?_
  cases user with
  | none => trivial
  | some user => exact delete_issues _

theorem authGuard_issues (bearer : Option String) :
    (authGuard P bearer).Issues RefreshCmd := by
  unfold authGuard
  cases bearer with
  | none => trivial
  | some token =>
    refine .bind (.tryCatch (verify_issues trivial _) fun _ => trivial) fun payload => ?_
    refine .bind (.await trivial) fun user => ?_
    split <;> trivial

end

end VoltFleet
