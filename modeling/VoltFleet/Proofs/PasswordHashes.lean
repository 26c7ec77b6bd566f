import VoltFleet.Auth.Proofs.Refresh
import VoltFleet.Misc.Contract
import VoltFleet.Responses
import VoltFleet.Vehicle.Proofs.Operations

/-!
# Which results carry a password hash

A user is sent without its password by the operations that delete it, and a fleet
is loaded without its manager.  Only `createFleet` sends a user as it was loaded:
the manager of the fleet it has built.
-/

namespace VoltFleet

open Awaiting

/-! ## Values without hashes -/

/-- No hash is anywhere inside the value. -/
def Plain.HashFree (p : Plain) : Prop := ∀ h, ¬ p.Contains h

namespace Plain

@[simp] theorem hashFree_null : Plain.null.HashFree := nofun

@[simp] theorem hashFree_bool (b : Bool) : (Plain.bool b).HashFree := nofun

@[simp] theorem hashFree_number (n : JsNumber) : (Plain.number n).HashFree := nofun

@[simp] theorem hashFree_text (s : String) : (Plain.text s).HashFree := nofun

@[simp] theorem hashFree_array {items : List Plain} :
    (Plain.array items).HashFree ↔ ∀ p ∈ items, p.HashFree := by
  constructor
  · intro hfree p hp h hc
    exact hfree h (.item hp hc)
  · intro hfree h hc
    cases hc with
    | item hp hc => exact hfree _ hp h hc

@[simp] theorem hashFree_object {props : List (String × Plain)} :
    (Plain.object props).HashFree ↔ ∀ e ∈ props, e.2.HashFree := by
  constructor
  · intro hfree e he h hc
    exact hfree h (.property he hc)
  · intro hfree h hc
    cases hc with
    | property hp hc => exact hfree _ hp h hc

@[simp] theorem hashFree_optional {name : String} {p : Option Plain} :
    (∀ e ∈ Plain.optional name p, e.2.HashFree) ↔ ∀ q, p = some q → q.HashFree := by
  cases p <;> simp [Plain.optional]

theorem hashFree_property {α : Type} {name : String} {toPlain : α → Plain}
    (h : ∀ a, (toPlain a).HashFree) (p : Property α) :
    ∀ e ∈ Plain.property name toPlain p, e.2.HashFree := by
  cases p <;> simp [Plain.property, h]

theorem hashFree_nullable {α : Type} {toPlain : α → Plain} (h : ∀ a, (toPlain a).HashFree)
    (a : Option α) : (Plain.nullable toPlain a).HashFree := by
  cases a <;> simp [Plain.nullable, h]

end Plain

open Plain

theorem UserPrivilege.hashFree (p : UserPrivilege) : p.toPlain.HashFree := by
  simp [UserPrivilege.toPlain, hashFree_nullable]

theorem UserRole.hashFree (r : UserRole) : r.toPlain.HashFree := by
  simp [UserRole.toPlain, hashFree_nullable, UserPrivilege.hashFree]

theorem User.properties_hashFree {u : User} (h : u.password = none) :
    ∀ e ∈ u.properties, e.2.HashFree := by
  have hrole := hashFree_nullable UserRole.hashFree u.userRole
  simp [User.properties, h, Plain.optional, hrole]

theorem User.hashFree {u : User} (h : u.password = none) : u.toPlain.HashFree :=
  hashFree_object.mpr (properties_hashFree h)

/-- A user that still has its password is sent with it. -/
theorem User.contains_password {u : User} {hash : PasswordHash} (h : u.password = some hash) :
    u.toPlain.Contains hash := by
  have hmem : ("password", Plain.hash hash) ∈ u.properties := by
    simp [User.properties, h, Plain.optional]
  exact .property hmem .hash

theorem Vehicle.hashFree (v : Vehicle) : v.toPlain.HashFree := by
  have hfleet : ∀ p, (v.fleet.map fun f => Plain.object [("id", .text f.text)]) = some p →
      p.HashFree := by
    intro p hp
    obtain ⟨f, -, rfl⟩ := Option.map_eq_some_iff.mp hp
    simp
  simp only [Vehicle.toPlain, hashFree_object, List.forall_mem_append]
  refine ⟨⟨⟨⟨⟨⟨⟨?_, ?_⟩, ?_⟩, ?_⟩, ?_⟩, ?_⟩, ?_⟩, ?_⟩
  · simp
  · exact hashFree_property hashFree_text v.vin
  · exact hashFree_property hashFree_text v.model
  · exact hashFree_property hashFree_text v.manufacturer
  · exact hashFree_property (fun year => hashFree_number _) v.year
  · exact hashFree_property (fun status => hashFree_text _) v.status
  · exact hashFree_optional.mpr hfleet
  · exact hashFree_property hashFree_text v.fleetId

/-- A fleet without its manager. -/
theorem Fleet.hashFree {f : Fleet} (h : f.manager = none) : f.toPlain.HashFree := by
  have hvehicles : ∀ p, (f.vehicles.map fun vs => Plain.array (vs.map Vehicle.toPlain)) = some p →
      p.HashFree := by
    intro p hp
    obtain ⟨vs, -, rfl⟩ := Option.map_eq_some_iff.mp hp
    simp [Vehicle.hashFree]
  simp only [Fleet.toPlain, h, hashFree_object, List.forall_mem_append]
  refine ⟨⟨⟨⟨?_, ?_⟩, ?_⟩, ?_⟩, ?_⟩
  · simp
  · exact hashFree_property hashFree_text f.name
  · exact hashFree_optional.mpr nofun
  · exact hashFree_optional.mpr hvehicles
  · exact hashFree_property hashFree_text f.managerId

/-- A fleet with its manager is sent with the manager's password. -/
theorem Fleet.contains_password {f : Fleet} {u : User} {hash : PasswordHash}
    (hf : f.manager = some u) (hu : u.password = some hash) : f.toPlain.Contains hash := by
  have hmem : ("manager", u.toPlain) ∈ ([("id", .text f.id.text)] ++
      Plain.property "name" .text f.name ++ Plain.optional "manager" (f.manager.map User.toPlain) ++
      Plain.optional "vehicles" (f.vehicles.map fun vs => .array (vs.map Vehicle.toPlain)) ++
      Plain.property "managerId" .text f.managerId : List (String × Plain)) := by
    simp [hf, Plain.optional]
  exact .property hmem (User.contains_password hu)

theorem Pagination.hashFree (p : Pagination) : p.toPlain.HashFree := by
  simp [Pagination.toPlain, hashFree_nullable]

theorem PaginationResult.hashFree {r : PaginationResult User}
    (h : ∀ u ∈ r.data, u.password = none) : (r.toPlain User.toPlain).HashFree := by
  have hdata : ∀ u ∈ r.data, u.toPlain.HashFree := fun u hu => User.hashFree (h u hu)
  simpa [PaginationResult.toPlain, Pagination.hashFree] using hdata

theorem SignInResult.hashFree {r : SignInResult} (h : r.user.password = none) :
    r.toPlain.HashFree := by
  have hprops := User.properties_hashFree h
  simp only [SignInResult.toPlain, hashFree_object, List.mem_append]
  rintro e (he | he)
  · simp only [List.mem_cons, List.not_mem_nil, or_false] at he
    rcases he with rfl | rfl <;> exact hashFree_text _
  · exact hprops e he

/-! ## What the operations return -/

/-- A fleet is loaded without its manager, and a save returns what it was given. -/
def unmanagedFleets : Contract Cmd Cmd.Answer Thrown where
  allows _ := True
  answers
    | .fleets (.findOneWithVehicles _), .ok (some f) => f.manager = none
    | .fleets (.save f), .ok f' => f' = f
    | _, _ => True

theorem unmanagedFleets_read {id : String} {r : Except Thrown (Option Fleet)}
    (h : ∀ f, r = .ok (some f) → f.manager = none) :
    unmanagedFleets.answers (.fleets (.findOneWithVehicles id)) r := by
  cases r with
  | error e => trivial
  | ok found =>
    cases found with
    | none => trivial
    | some f => exact h f rfl

theorem unmanagedFleets_save {f : Fleet} {r : Except Thrown Fleet}
    (h : ∀ f', r = .ok f' → f' = f) : unmanagedFleets.answers (.fleets (.save f)) r := by
  cases r with
  | error e => trivial
  | ok f' => exact h f' rfl

theorem unmanagedFleets_honoured (P : Platform) :
    unmanagedFleets.Honoured (system P) fun _ => True where
  step _ _ _ _ := trivial
  env _ _ _ := trivial
  fault c e _ := by
    simp only [unmanagedFleets]
  answer c s _ := by
    cases c with
    | fleets c =>
      cases c with
      | findOneWithVehicles id =>
        refine unmanagedFleets_read fun f hf => ?_
        have hread : ((FleetCmd.findOneWithVehicles id).exec P s).1 = .ok (some f) := hf
        obtain ⟨u, -, hfound⟩ := findOneWithVehicles_ok hread
        obtain ⟨row, -, rfl⟩ := Option.map_eq_some_iff.mp hfound.symm
        rfl
      | save f =>
        refine unmanagedFleets_save fun f' hf' => ?_
        obtain ⟨s', h, -⟩ := commit_fst_eq_ok hf'
        obtain ⟨row, -, h⟩ := bind_eq_ok.mp h
        obtain ⟨_, -, h⟩ := bind_eq_ok.mp h
        obtain ⟨fleets, -, h⟩ := bind_eq_ok.mp h
        cases h
        rfl
      | getManyAndCount | insert | remove => trivial
    | users | roles | privileges | vehicles | telemetry | redis | process => trivial

section

variable {P : Platform}

/-- Every command is allowed. -/
theorem any_meets {α : Type} (p : Service α) : p.Meets unmanagedFleets fun _ => True :=
  Prog.meets_of_allows (fun _ => trivial) p

theorem signIn_meets (dto : AuthCredentialsDto) (session : Nat) :
    (AuthService.signIn P dto session).Meets unmanagedFleets fun r => r.user.password = none := by
  unfold AuthService.signIn
  refine .bind (any_meets _) fun user _ => ?_
  cases user with
  | none => trivial
  | some user =>
    dsimp only
    split
    · trivial
    · split
      · trivial
      · split
        · trivial
        · refine .bind (any_meets _) fun accessToken _ =>
            .bind (any_meets _) fun refreshToken _ => ?_
          refine .bind (any_meets _) fun _ _ => .bind (any_meets _) fun _ _ => ?_
          refine .bind (any_meets _) fun _ _ => ?_
          rfl

theorem getAllUsers_meets (page perPage search : Option String) (req : Option Request) :
    (AuthService.getAllUsers P page perPage search req).Meets unmanagedFleets
      fun r => ∀ u ∈ r.data, u.password = none := by
  refine .tryCatch (.bind (any_meets _) fun found _ => .ofExcept fun r hr => ?_) fun _ => trivial
  intro u hu
  rw [generatePagination_data hr] at hu
  obtain ⟨stored, -, rfl⟩ := List.mem_map.mp hu
  rfl

theorem getFleetById_meets (id : String) :
    (FleetService.getFleetById id).Meets unmanagedFleets fun f => f.manager = none := by
  have hread : (Service.await (.fleets (.findOneWithVehicles id))).Meets unmanagedFleets
      fun found => ∀ f, found = some f → f.manager = none := by
    refine .await trivial fun found hfound f hf => ?_
    subst hf
    exact hfound
  refine .bind hread fun found hfound => ?_
  cases found with
  | none => trivial
  | some f => exact hfound f rfl

theorem updateFleet_meets (id : String) (dto : UpdateFleetDto) :
    (FleetService.updateFleet id dto).Meets unmanagedFleets fun f => f.manager = none := by
  refine .bind (getFleetById_meets id) fun f hf => .await trivial fun saved hsaved => ?_
  have hsame : saved = f.assign dto := hsaved
  rw [hsame]
  exact hf

end

namespace SentCall

/-- Whatever is answered to a call other than `createFleet`, no hash is returned. -/
theorem prog_meets (P : Platform) {call : SentCall} (h : ∀ dto, call ≠ .createFleet dto) :
    (call.prog P).Meets unmanagedFleets Plain.HashFree := by
  cases call with
  | signIn dto session => exact .map (signIn_meets dto session) fun r hr => SignInResult.hashFree hr
  | getAllUsers page perPage search req =>
    exact .map (getAllUsers_meets page perPage search req) fun r hr => PaginationResult.hashFree hr
  | refreshAccessToken token => exact .map (any_meets _) fun _ _ => by simp
  | resetPassword dto newPassword => exact .map (any_meets _) fun _ _ => by simp
  | createFleet dto => exact absurd rfl (h dto)
  | getFleetById id => exact .map (getFleetById_meets id) fun f hf => Fleet.hashFree hf
  | updateFleet id dto => exact .map (updateFleet_meets id dto) fun f hf => Fleet.hashFree hf
  | createVehicle dto => exact .map (any_meets _) fun v _ => v.hashFree
  | updateVehicle id dto => exact .map (any_meets _) fun v _ => v.hashFree
  | getVehicleById id => exact .map (any_meets _) fun v _ => v.hashFree

/-- The only user a call can put into a session has no password. -/
theorem filled_hashFree {P : Platform} {s s' : Store} {call : SentCall} {result : Plain}
    (h : (call.prog P).run (exec P) s = (.ok result, s')) {u : User}
    (hu : call.filled s' = some u) : u.toPlain.HashFree := by
  cases call with
  | signIn dto session =>
    rw [prog, Prog.run_map] at h
    rcases AuthService.run_signIn_cases P s dto session with ⟨e, hrun⟩ | ⟨user, -, -, hrun⟩ <;>
      rw [hrun] at h
    · cases h
    · cases h
      have hs : (AuthService.signedInStore P s (P.toLowerCase dto.email) user
          session).sessions session = some { user with password := none } :=
        Function.update_self ..
      rw [filled, hs] at hu
      cases hu
      exact User.hashFree rfl
  | _ => cases hu

end SentCall

/-! ## The manager of a new fleet -/

/-- The manager is stored, and the row of the fleet can be inserted. -/
structure FleetInsertable (P : Platform) (s : Store) (dto : CreateFleetDto) : Prop where
  manager : ∃ row, s.users.find? dto.managerId = some row
  text : P.takesText dto.name = true
  key : s.fleets.find? (P.uuid s.draws) = none
  name : s.fleets.findBy? dto.name = none

theorem run_createFleet (P : Platform) (s : Store) (dto : CreateFleetDto) :
    (FleetService.createFleet dto).run (exec P) s =
      match s.users.find? dto.managerId with
      | none => (.error (.notFound "Manager not found."), s)
      | some row => commit s (insertFleet P s dto.name (s.userEntity dto.managerId row)) := by
  have hread : exec P (.users (.findOneById dto.managerId.text)) s =
      (.ok ((s.users.find? dto.managerId).map (s.userEntity dto.managerId)), s) := by
    show ((do
      let id ← uuidParam dto.managerId.text
      return (s.users.find? id).map (s.userEntity id)), s) = _
    rw [uuidParam_text]
    rfl
  rw [FleetService.createFleet, Prog.run_bind, Service.await, Prog.run_await, hread]
  cases s.users.find? dto.managerId with
  | none => rfl
  | some row => exact Prog.run_await ..

theorem insertFleet_manager {P : Platform} {s : Store} {name : String} {manager : User}
    {r : Fleet × Store} (h : insertFleet P s name manager = .ok r) :
    r.1.manager = some manager := by
  obtain ⟨-, -, fleets, -, hfleet, -⟩ := insertFleet_ok h
  rw [hfleet]

/-- With a stored manager, a fleet is inserted exactly when the database takes its name and its key
and its name are new. -/
theorem exists_insertFleet {P : Platform} {s : Store} {name : String} {manager : User}
    {row : UserRow} (hmanager : s.users.find? manager.id = some row) :
    (∃ r, insertFleet P s name manager = .ok r) ↔
      P.takesText name = true ∧ s.fleets.find? (P.uuid s.draws) = none ∧
        s.fleets.findBy? name = none := by
  have href : checkReference s.users (some manager.id) = .ok () := by
    refine checkReference_eq_ok.mpr fun id hid => ⟨row, ?_⟩
    cases hid
    exact hmanager
  have hinsert : (∃ fleets, insertRow s.fleets (P.uuid s.draws)
      (⟨name, some manager.id, s.clock⟩ : FleetRow) = .ok fleets) ↔ _ := exists_insertRow
  rw [← hinsert]
  constructor
  · rintro ⟨⟨f, s'⟩, h⟩
    obtain ⟨htext, -, fleets, h, -⟩ := insertFleet_ok h
    exact ⟨htext, fleets, h⟩
  · rintro ⟨htext, fleets, h⟩
    have hsent : sendTexts P [name] = .ok () := sendTexts_eq_ok.mpr (by simpa using htext)
    exact ⟨_, bind_eq_ok.mpr ⟨(), hsent, bind_eq_ok.mpr ⟨(), href,
      bind_eq_ok.mpr ⟨fleets, h, rfl⟩⟩⟩⟩

/-- A call that creates a fleet hands out the hash of the manager. -/
theorem createFleet_contains {P : Platform} {s : Store} {dto : CreateFleetDto}
    (h : FleetInsertable P s dto) :
    ∃ row f s', s.users.find? dto.managerId = some row ∧
      (FleetService.createFleet dto).run (exec P) s = (.ok f, s') ∧
      f.toPlain.Contains row.password := by
  obtain ⟨row, hrow⟩ := h.manager
  have hid : s.users.find? (s.userEntity dto.managerId row).id = some row := hrow
  obtain ⟨r, hr⟩ := (exists_insertFleet hid).mpr ⟨h.text, h.key, h.name⟩
  refine ⟨row, r.1, r.2, hrow, ?_, Fleet.contains_password (insertFleet_manager hr) rfl⟩
  rw [run_createFleet, hrow]
  show commit s (insertFleet P s dto.name _) = _
  rw [hr]
  rfl

/-- A call that returns a fleet had one to insert. -/
theorem insertable_of_createFleet {P : Platform} {s s' : Store} {dto : CreateFleetDto} {f : Fleet}
    (h : (FleetService.createFleet dto).run (exec P) s = (.ok f, s')) :
    FleetInsertable P s dto := by
  rw [run_createFleet] at h
  cases hrow : s.users.find? dto.managerId with
  | none =>
    rw [hrow] at h
    cases h
  | some row =>
    rw [hrow] at h
    have hid : s.users.find? (s.userEntity dto.managerId row).id = some row := hrow
    obtain ⟨s'', hinsert, -⟩ := commit_fst_eq_ok (congrArg Prod.fst h)
    obtain ⟨htext, hkey, hname⟩ := (exists_insertFleet hid).mp ⟨_, hinsert⟩
    exact ⟨⟨row, hrow⟩, htext, hkey, hname⟩

/-! ## No call hands out a stored hash, but for `createFleet` -/

/-- A call that is served in `s` hands out no hash that is stored before or after it. -/
def HandsOutNoHash (P : Platform) (s : Store) (call : SentCall) : Prop :=
  ∀ result s', (call.prog P).run (exec P) s = (.ok result, s') →
    ∀ u row, s.users.find? u = some row ∨ s'.users.find? u = some row →
      ∀ p ∈ call.handedOut s' result, ¬ p.Contains row.password

theorem handsOutNoHash_of_ne {P : Platform} {s : Store} {call : SentCall}
    (h : ∀ dto, call ≠ .createFleet dto) : HandsOutNoHash P s call := by
  intro result s' hrun u row _ p hp
  have hresult : result.HashFree := by
    have hmeets := (call.prog_meets P h).run (unmanagedFleets_honoured P) (s := s) trivial
    exact hmeets.2 result (congrArg Prod.fst hrun)
  rw [SentCall.handedOut, List.mem_cons, Option.mem_toList] at hp
  rcases hp with rfl | hp
  · exact hresult _
  · obtain ⟨filled, hfilled, rfl⟩ := Option.map_eq_some_iff.mp hp
    exact SentCall.filled_hashFree hrun hfilled _

theorem not_handsOutNoHash {P : Platform} {s : Store} {dto : CreateFleetDto}
    (h : FleetInsertable P s dto) : ¬ HandsOutNoHash P s (.createFleet dto) := by
  intro hsafe
  obtain ⟨row, f, s', hrow, hrun, hcontains⟩ := createFleet_contains h
  have hprog : ((SentCall.createFleet dto).prog P).run (exec P) s = (.ok f.toPlain, s') := by
    rw [SentCall.prog, Prog.run_map, hrun]
    rfl
  exact hsafe _ _ hprog dto.managerId row (.inl hrow) f.toPlain List.mem_cons_self hcontains

/-- A call hands out no stored password hash unless it creates a fleet, and a call
that creates a fleet always hands out one. -/
theorem SentCall.handsOutNoHash_iff (P : Platform) (s : Store) (call : SentCall) :
    HandsOutNoHash P s call ↔ ∀ dto, call = .createFleet dto → ¬ FleetInsertable P s dto := by
  constructor
  · rintro hsafe dto rfl hinsert
    exact not_handsOutNoHash hinsert hsafe
  · intro h
    by_cases hcreate : ∃ dto, call = .createFleet dto
    · obtain ⟨dto, rfl⟩ := hcreate
      intro result s' hrun
      rw [prog, Prog.run_map] at hrun
      cases hr : (FleetService.createFleet dto).run (exec P) s with
      | mk r s'' =>
        rw [hr] at hrun
        cases r with
        | error e => cases hrun
        | ok f => exact absurd (insertable_of_createFleet hr) (h dto rfl)
    · exact handsOutNoHash_of_ne fun dto hdto => hcreate ⟨dto, hdto⟩

/-- The first fleet is sent with the password hash of the user named as its manager. -/
theorem manager_sent_with_password :
    ¬ HandsOutNoHash .plain verifiedUserStore (.createFleet ⟨"North", .ofNat 1⟩) :=
  not_handsOutNoHash ⟨⟨verifiedUser, by decide⟩, by decide, by decide, by decide⟩

end VoltFleet
