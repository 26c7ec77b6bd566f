import VoltFleet.Misc.Contract
import VoltFleet.Proofs.Escalation
import VoltFleet.Proofs.RouteCommands
import VoltFleet.Proofs.Schema

/-!
# Where the values of vehicles and fleets come from

A request writes the row that it has loaded some time before, with the values of its
body, and a row that has been deleted meanwhile comes back.  Still every value of a
vehicle or of a fleet has been there at the start or has been asked for.  No request
moves a vehicle into a fleet.
-/

namespace VoltFleet

open Awaiting

/-! ## The columns of a vehicle -/

/-- The columns that the entity declares, the fleet apart. -/
inductive VehicleField where
  | vin
  | model
  | manufacturer
  | year
  | status

namespace VehicleField

/-- What a column holds. -/
abbrev Value : VehicleField → Type
  | vin => String
  | model => String
  | manufacturer => String
  | year => Int
  | status => VehicleStatus

/-- The value in a stored row. -/
def ofRow (row : VehicleRow) : (column : VehicleField) → column.Value
  | vin => row.vin
  | model => row.model
  | manufacturer => row.manufacturer
  | year => row.year
  | status => row.status

/-- The value in a loaded or updated object. -/
def ofVehicle (v : Vehicle) : (column : VehicleField) → Property column.Value
  | vin => v.vin
  | model => v.model
  | manufacturer => v.manufacturer
  | year => v.year
  | status => v.status

/-- The value a body creates the vehicle with. -/
def ofCreate (dto : CreateVehicleDto) : (column : VehicleField) → column.Value
  | vin => dto.vin
  | model => dto.model
  | manufacturer => dto.manufacturer
  | year => dto.year
  | status => dto.status

/-- The value a body sets, if it sets one. -/
def ofUpdate (dto : UpdateVehicleDto) : (column : VehicleField) → Property column.Value
  | vin => dto.vin
  | model => dto.model
  | manufacturer => dto.manufacturer
  | year => dto.year
  | status => dto.status

variable (column : VehicleField)

theorem ofVehicle_entity (u : Uuid) (row : VehicleRow) :
    ofVehicle (Store.vehicleEntity u row) column = .value (ofRow row column) := by
  cases column <;> rfl

theorem ofVehicle_assign (v : Vehicle) (dto : UpdateVehicleDto) :
    ofVehicle (v.assign dto) column = (ofVehicle v column).assign (ofUpdate dto column) := by
  cases column <;> rfl

theorem ofVehicle_saved {s : Store} {v : Vehicle} {row : VehicleRow} (h : v.savedRow s = .ok row)
    (hset : ofVehicle v column ≠ .undefined) :
    ofVehicle v column = .value (ofRow row column) := by
  have hwritten := savedRow_writtenTo h
  cases column with
  | vin => exact hwritten.vin hset
  | model => exact hwritten.model hset
  | manufacturer => exact hwritten.manufacturer hset
  | year => exact hwritten.year hset
  | status => exact hwritten.status hset

end VehicleField

/-! ## What has been asked for -/

section

variable {ι : Type} (s₀ : Store) (requests : ι → HttpRequest)

/-- The value of the vehicle `u` is that of the start or of a request. -/
inductive VehicleValue (u : Uuid) (column : VehicleField) : column.Value → Prop where
  | stored {row : VehicleRow} (h : s₀.vehicles.find? u = some row) :
      VehicleValue u column (column.ofRow row)
  | created (i : ι) {dto : CreateVehicleDto} (h : (requests i).route = .createVehicle dto) :
      VehicleValue u column (column.ofCreate dto)
  | updated (i : ι) {id : String} {dto : UpdateVehicleDto} {a : column.Value}
      (h : (requests i).route = .updateVehicle id dto) (hid : Uuid.ofString? id = some u)
      (ha : column.ofUpdate dto = .value a) : VehicleValue u column a

/-- The vehicle has been in the fleet at the start. -/
def WasIn (u : Uuid) (f : Uuid) : Prop :=
  ∃ row, s₀.vehicles.find? u = some row ∧ row.fleetId = some f

/-- The name of the fleet `u` is that of the start or of a request. -/
inductive FleetName (u : Uuid) : String → Prop where
  | stored {row : FleetRow} (h : s₀.fleets.find? u = some row) : FleetName u row.name
  | created (i : ι) {dto : CreateFleetDto} (h : (requests i).route = .createFleet dto) :
      FleetName u dto.name
  | updated (i : ι) {id : String} {dto : UpdateFleetDto} {name : String}
      (h : (requests i).route = .updateFleet id dto) (hid : Uuid.ofString? id = some u)
      (ha : dto.name = .value name) : FleetName u name

/-- The manager of the fleet `u` is that of the start or of a request. -/
inductive FleetManager (u : Uuid) : Uuid → Prop where
  | stored {row : FleetRow} {m : Uuid} (h : s₀.fleets.find? u = some row)
      (hm : row.managerId = some m) : FleetManager u m
  | created (i : ι) {dto : CreateFleetDto} (h : (requests i).route = .createFleet dto) :
      FleetManager u dto.managerId

/-- Every value has been there or has been asked for, and no vehicle has joined a fleet. -/
structure Asked (s : Store) : Prop where
  vehicles : ∀ u row column, s.vehicles.find? u = some row →
    VehicleValue s₀ requests u column (column.ofRow row)
  joined : ∀ u row f, s.vehicles.find? u = some row → row.fleetId = some f → WasIn s₀ u f
  names : ∀ u row, s.fleets.find? u = some row → FleetName s₀ requests u row.name
  managers : ∀ u row m, s.fleets.find? u = some row → row.managerId = some m →
    FleetManager s₀ requests u m

theorem asked_start : Asked s₀ requests s₀ :=
  ⟨fun _ _ _ h => .stored h, fun _ row _ h hf => ⟨row, h, hf⟩, fun _ _ h => .stored h,
    fun _ _ _ h hm => .stored h hm⟩

/-- A vehicle that may be saved: its values are set and asked for, and it has no fleet. -/
structure SavableVehicle (v : Vehicle) : Prop where
  set : ∀ column : VehicleField, column.ofVehicle v ≠ .undefined
  asked : ∀ (column : VehicleField) a, column.ofVehicle v = .value a →
    VehicleValue s₀ requests v.id column a
  fleet : v.fleet = none

/-- A fleet that may be saved: its name is asked for, and its vehicles have been in it. -/
structure SavableFleet (f : Fleet) : Prop where
  name : f.name ≠ .undefined
  asked : ∀ a, f.name = .value a → FleetName s₀ requests f.id a
  manager : f.manager = none
  vehicles : ∀ vs, f.vehicles = some vs → ∀ v ∈ vs, WasIn s₀ v.id f.id

/-- What may be written, and what the answers tell of it. -/
def askedContract : Contract Cmd Cmd.Answer Thrown where
  allows
    | .vehicles (.insert dto) => ∃ i, (requests i).route = .createVehicle dto
    | .vehicles (.save v) => SavableVehicle s₀ requests v
    | .fleets (.insert name manager) =>
        ∃ i dto, (requests i).route = .createFleet dto ∧ dto.name = name ∧
          dto.managerId = manager.id
    | .fleets (.save f) => SavableFleet s₀ requests f
    | _ => True
  answers
    | .vehicles (.findOne id), .ok (some v) =>
        SavableVehicle s₀ requests v ∧ Uuid.ofString? id = some v.id
    | .fleets (.findOneWithVehicles id), .ok (some f) =>
        SavableFleet s₀ requests f ∧ Uuid.ofString? id = some f.id
    | .users (.findOneById id), .ok (some user) => Uuid.ofString? id = some user.id
    | _, _ => True

end

section

variable {ι : Type} {P : Platform} {s₀ s : Store} {requests : ι → HttpRequest}

/-! ## What the answers tell -/

theorem Asked.savableVehicle (h : Asked s₀ requests s) {u : Uuid} {row : VehicleRow}
    (hrow : s.vehicles.find? u = some row) :
    SavableVehicle s₀ requests (Store.vehicleEntity u row) := by
  refine ⟨fun column => ?_, fun column a ha => ?_, rfl⟩
  · rw [VehicleField.ofVehicle_entity]
    simp
  · rw [VehicleField.ofVehicle_entity] at ha
    cases ha
    exact h.vehicles u row column hrow

theorem Asked.savableFleet (h : Asked s₀ requests s) {u : Uuid} {row : FleetRow}
    (hrow : s.fleets.find? u = some row) : SavableFleet s₀ requests (s.fleetEntity u row) := by
  refine ⟨by simp [Store.fleetEntity], fun a ha => ?_, rfl, fun vs hvs v hv => ?_⟩
  · cases ha
    exact h.names u row hrow
  · cases hvs
    obtain ⟨e, he, rfl⟩ := List.mem_map.mp hv
    obtain ⟨hmem, hin⟩ := List.mem_filter.mp he
    exact h.joined e.1 e.2 u (Keyed.Table.mem_toList.mp hmem) (of_decide_eq_true hin)

/-! ## What the writes keep -/

theorem find?_of_erase {R U : Type} {c : R → U} {t : Keyed.Table Uuid R c} {k u : Uuid} {row : R}
    (h : (t.erase k).find? u = some row) : t.find? u = some row := by
  rw [Keyed.Table.find?_erase] at h
  split at h
  · cases h
  · exact h

theorem Asked.insertVehicle (h : Asked s₀ requests s) {dto : CreateVehicleDto} {i : ι}
    (hi : (requests i).route = .createVehicle dto) :
    Asked s₀ requests (commit s (insertVehicle P s dto)).2 := by
  refine commit_snd h fun v s' hinsert => ?_
  obtain ⟨_, vehicles, rfl, hput, -, rfl⟩ := insertVehicle_ok hinsert
  have hfind := Keyed.Table.find?_put (insertRow_eq_ok.mp hput).2
  refine ⟨fun u row column hrow => ?_, fun u row f hrow hf => ?_, h.names, h.managers⟩
  · rw [hfind] at hrow
    split at hrow
    · cases hrow
      exact .created i hi
    · exact h.vehicles u row column hrow
  · rw [hfind] at hrow
    split at hrow
    · cases hrow
      cases hf
    · exact h.joined u row f hrow hf

/-- A vehicle without a fleet keeps the fleet of its row. -/
theorem savedRow_fleetId {v : Vehicle} {row : VehicleRow} (h : v.savedRow s = .ok row)
    (hfleet : v.fleet = none) {f : Uuid} (hf : row.fleetId = some f) :
    ∃ old, s.vehicles.find? v.id = some old ∧ old.fleetId = some f := by
  unfold Vehicle.savedRow at h
  split at h
  next old hold =>
    obtain ⟨-, -, -, -, -, hrow, -⟩ := updated_eq_ok h
    rw [hrow, hfleet, Option.none_or] at hf
    exact ⟨old, hold, hf⟩
  next hnone =>
    obtain ⟨-, -, -, -, -, hrow⟩ := inserted_eq_ok h
    rw [hrow, hfleet] at hf
    cases hf

theorem Asked.saveVehicle (h : Asked s₀ requests s) {v : Vehicle}
    (hv : SavableVehicle s₀ requests v) :
    Asked s₀ requests (commit s (saveVehicle P s v)).2 := by
  refine commit_snd h fun v' s' hsave => ?_
  obtain ⟨saved, vehicles, hsaved, -, hput, rfl⟩ := saveVehicle_ok hsave
  have hfind := Keyed.Table.find?_put hput
  refine ⟨fun u row column hrow => ?_, fun u row f hrow hf => ?_, h.names, h.managers⟩
  · rw [hfind] at hrow
    split at hrow
    next hu =>
      subst hu
      cases hrow
      exact hv.asked column _ (column.ofVehicle_saved hsaved (hv.set column))
    next => exact h.vehicles u row column hrow
  · rw [hfind] at hrow
    split at hrow
    next hu =>
      subst hu
      cases hrow
      obtain ⟨old, hold, hin⟩ := savedRow_fleetId hsaved hv.fleet hf
      exact h.joined _ old f hold hin
    next => exact h.joined u row f hrow hf

theorem Asked.removeVehicle (h : Asked s₀ requests s) (v : Vehicle) :
    Asked s₀ requests (commit s (removeVehicle s v)).2 := by
  refine commit_snd h fun _ s' hremove => ?_
  cases removeVehicle_ok hremove
  refine ⟨fun u row column hrow => ?_, fun u row f hrow hf => ?_, h.names, h.managers⟩
  · exact h.vehicles u row column (find?_of_erase hrow)
  · exact h.joined u row f (find?_of_erase hrow) hf

theorem Asked.insertFleet (h : Asked s₀ requests s) {dto : CreateFleetDto} {manager : User} {i : ι}
    (hi : (requests i).route = .createFleet dto) (hmanager : dto.managerId = manager.id) :
    Asked s₀ requests (commit s (insertFleet P s dto.name manager)).2 := by
  refine commit_snd h fun f s' hinsert => ?_
  obtain ⟨-, -, fleets, hput, -, rfl⟩ := insertFleet_ok hinsert
  have hfind := Keyed.Table.find?_put (insertRow_eq_ok.mp hput).2
  refine ⟨h.vehicles, h.joined, fun u row hrow => ?_, fun u row m hrow hm => ?_⟩
  · rw [hfind] at hrow
    split at hrow
    · cases hrow
      exact .created i hi
    · exact h.names u row hrow
  · rw [hfind] at hrow
    split at hrow
    · cases hrow
      cases hm
      rw [← hmanager]
      exact .created i hi
    · exact h.managers u row m hrow hm

/-- A fleet without a manager keeps the manager of its row. -/
theorem savedRow_managerId {f : Fleet} {row : FleetRow} (h : f.savedRow s = .ok row)
    (hmanager : f.manager = none) {m : Uuid} (hm : row.managerId = some m) :
    ∃ old, s.fleets.find? f.id = some old ∧ old.managerId = some m := by
  unfold Fleet.savedRow at h
  split at h
  next old hold =>
    obtain ⟨name, -, h⟩ := bind_eq_ok.mp h
    cases h
    rw [hmanager, Option.map_none, Option.none_or] at hm
    exact ⟨old, hold, hm⟩
  next hnone =>
    obtain ⟨name, -, h⟩ := bind_eq_ok.mp h
    cases h
    rw [hmanager] at hm
    cases hm

theorem savedRow_name {f : Fleet} {row : FleetRow} (h : f.savedRow s = .ok row)
    (hname : f.name ≠ .undefined) : f.name = .value row.name := by
  unfold Fleet.savedRow at h
  split at h
  · obtain ⟨name, hset, h⟩ := bind_eq_ok.mp h
    cases h
    exact Property.eq_value_of_toColumn hset hname
  · obtain ⟨name, hset, h⟩ := bind_eq_ok.mp h
    cases h
    exact Property.eq_value_of_required hset

/-- A vehicle after the save of a fleet has the values of its row, and a fleet that it has been
in. -/
theorem Asked.saveMembers (h : Asked s₀ requests s) {f : Fleet}
    (hf : SavableFleet s₀ requests f) {u : Uuid} {row : VehicleRow}
    (hrow : (saveMembers s f).find? u = some row) :
    (∀ column : VehicleField, VehicleValue s₀ requests u column (column.ofRow row)) ∧
      ∀ g, row.fleetId = some g → WasIn s₀ u g := by
  rw [find?_saveMembers] at hrow
  cases hvs : f.vehicles with
  | none =>
    simp only [hvs] at hrow
    exact ⟨fun column => h.vehicles u row column hrow, fun g => h.joined u row g hrow⟩
  | some vs =>
    simp only [hvs, Option.map_eq_some_iff] at hrow
    obtain ⟨old, hold, rfl⟩ := hrow
    unfold setMembers
    split
    case isTrue hmember =>
      refine ⟨fun column => ?_, fun g hg => ?_⟩
      · have hcolumn := h.vehicles u old column hold
        cases column <;> exact hcolumn
      · cases hg
        obtain ⟨v, hv, rfl⟩ := List.mem_map.mp hmember
        exact hf.vehicles vs hvs v hv
    case isFalse =>
      split
      · refine ⟨fun column => ?_, fun g hg => by cases hg⟩
        have hcolumn := h.vehicles u old column hold
        cases column <;> exact hcolumn
      · exact ⟨fun column => h.vehicles u old column hold, fun g => h.joined u old g hold⟩

theorem Asked.saveFleet (h : Asked s₀ requests s) {f : Fleet}
    (hf : SavableFleet s₀ requests f) : Asked s₀ requests (commit s (saveFleet P s f)).2 := by
  refine commit_snd h fun f' s' hsave => ?_
  obtain ⟨saved, fleets, hsaved, hput, rfl⟩ := saveFleet_ok hsave
  have hfind := Keyed.Table.find?_put hput
  refine ⟨fun u row column hrow => (h.saveMembers hf hrow).1 column,
    fun u row g hrow => (h.saveMembers hf hrow).2 g, fun u row hrow => ?_,
    fun u row m hrow hm => ?_⟩
  · rw [hfind] at hrow
    split at hrow
    next hu =>
      subst hu
      cases hrow
      exact hf.asked _ (savedRow_name hsaved hf.name)
    next => exact h.names u row hrow
  · rw [hfind] at hrow
    split at hrow
    next hu =>
      subst hu
      cases hrow
      obtain ⟨old, hold, hmanager⟩ := savedRow_managerId hsaved hf.manager hm
      exact h.managers _ old m hold hmanager
    next => exact h.managers u row m hrow hm

theorem Asked.removeFleet (h : Asked s₀ requests s) (f : Fleet) :
    Asked s₀ requests (commit s (removeFleet s f)).2 := by
  refine commit_snd h fun _ s' hremove => ?_
  cases removeFleet_ok hremove
  refine ⟨h.vehicles, h.joined, fun u row hrow => ?_, fun u row m hrow hm => ?_⟩
  · exact h.names u row (find?_of_erase hrow)
  · exact h.managers u row m (find?_of_erase hrow) hm

/-- A store with the same vehicles and fleets. -/
theorem Asked.of_same (h : Asked s₀ requests s) {s' : Store} (hvehicles : s'.vehicles = s.vehicles)
    (hfleets : s'.fleets = s.fleets) : Asked s₀ requests s' := by
  refine ⟨?_, ?_, ?_, ?_⟩
  · rw [hvehicles]
    exact h.vehicles
  · rw [hvehicles]
    exact h.joined
  · rw [hfleets]
    exact h.names
  · rw [hfleets]
    exact h.managers

/-! ## The contract -/

/-- A row that is found by a key is that of the key. -/
theorem lookup_eq_ok {α : Type} {find : Uuid → Option α} {id : String} {a : α}
    (h : (do return find (← uuidParam id)) = (.ok (some a) : Except Thrown (Option α))) :
    ∃ u, Uuid.ofString? id = some u ∧ find u = some a := by
  obtain ⟨u, hu, h⟩ := bind_eq_ok.mp h
  exact ⟨u, uuidParam_eq_ok.mp hu, Except.ok.inj h⟩

theorem answer_findOne (h : Asked s₀ requests s) (id : String) :
    (askedContract s₀ requests).answers (.vehicles (.findOne id))
      (exec P (.vehicles (.findOne id)) s).1 := by
  cases hr : (exec P (.vehicles (.findOne id)) s).1 with
  | error e => trivial
  | ok found =>
    cases found with
    | none => trivial
    | some v =>
      obtain ⟨u, hu, hfind⟩ := lookup_eq_ok hr
      obtain ⟨row, hrow, rfl⟩ := Option.map_eq_some_iff.mp hfind
      exact ⟨h.savableVehicle hrow, hu⟩

theorem answer_findOneWithVehicles (h : Asked s₀ requests s) (id : String) :
    (askedContract s₀ requests).answers (.fleets (.findOneWithVehicles id))
      (exec P (.fleets (.findOneWithVehicles id)) s).1 := by
  cases hr : (exec P (.fleets (.findOneWithVehicles id)) s).1 with
  | error e => trivial
  | ok found =>
    cases found with
    | none => trivial
    | some f =>
      obtain ⟨u, hu, hfind⟩ := lookup_eq_ok hr
      obtain ⟨row, hrow, rfl⟩ := Option.map_eq_some_iff.mp hfind
      exact ⟨h.savableFleet hrow, hu⟩

theorem answer_findOneById (s : Store) (id : String) :
    (askedContract s₀ requests).answers (.users (.findOneById id))
      (exec P (.users (.findOneById id)) s).1 := by
  cases hr : (exec P (.users (.findOneById id)) s).1 with
  | error e => trivial
  | ok found =>
    cases found with
    | none => trivial
    | some user =>
      obtain ⟨u, hu, hfind⟩ := lookup_eq_ok hr
      obtain ⟨row, -, rfl⟩ := Option.map_eq_some_iff.mp hfind
      exact hu

theorem asked_answer (h : Asked s₀ requests s) (c : Cmd) :
    (askedContract s₀ requests).answers c (exec P c s).1 := by
  cases c with
  | vehicles c =>
    cases c with
    | findOne id => exact answer_findOne h id
    | _ => generalize (exec P _ s).1 = r; trivial
  | fleets c =>
    cases c with
    | findOneWithVehicles id => exact answer_findOneWithVehicles h id
    | _ => generalize (exec P _ s).1 = r; trivial
  | users c =>
    cases c with
    | findOneById id => exact answer_findOneById s id
    | _ => generalize (exec P _ s).1 = r; trivial
  | _ => generalize (exec P _ s).1 = r; trivial

theorem asked_step (h : Asked s₀ requests s) {c : Cmd}
    (hc : (askedContract s₀ requests).allows c) : Asked s₀ requests (exec P c s).2 := by
  cases c with
  | vehicles c =>
    cases c with
    | insert dto =>
      obtain ⟨i, hi⟩ := hc
      exact h.insertVehicle hi
    | save v => exact h.saveVehicle hc
    | remove v => exact h.removeVehicle v
    | findOne id => exact h
    | getManyAndCount status fleetId skip take => exact h.of_same rfl rfl
  | fleets c =>
    cases c with
    | insert name manager =>
      obtain ⟨i, dto, hi, rfl, hmanager⟩ := hc
      exact h.insertFleet hi hmanager
    | save f => exact h.saveFleet hc
    | remove f => exact h.removeFleet f
    | findOneWithVehicles id => exact h
    | getManyAndCount skip take => exact h.of_same rfl rfl
  | users c => exact h.of_same (users_sameFleets c).vehicles (users_sameFleets c).fleets
  | roles c => exact h.of_same (roles_sameFleets c).vehicles (roles_sameFleets c).fleets
  | privileges c =>
    exact h.of_same (privileges_sameFleets c).vehicles (privileges_sameFleets c).fleets
  | telemetry c =>
    cases c with
    | insert rec =>
      refine commit_snd h fun row s' hinsert => ?_
      obtain ⟨-, -, -, telemetry, -, rfl⟩ := insertTelemetry_ok hinsert
      exact h.of_same rfl rfl
    | _ => exact h.of_same rfl rfl
  | redis c =>
    obtain ⟨cache, hstore⟩ : ∃ cache, (exec P (.redis c) s).2 = { s with cache := cache } :=
      c.exec_store s
    rw [hstore]
    exact h.of_same rfl rfl
  | process c => cases c <;> exact h.of_same rfl rfl

theorem askedContract_honoured (P : Platform) (s₀ : Store) (requests : ι → HttpRequest) :
    (askedContract s₀ requests).Honoured (system P) (Asked s₀ requests) := by
  refine ⟨fun c s hc h => asked_step h hc, fun c s h => asked_answer h c, ?_,
    fun d s h => h.of_same rfl rfl⟩
  intro c e _
  unfold askedContract
  dsimp only
  split <;> trivial

/-! ## The requests -/

/-- `Object.assign` sets what the body holds. -/
theorem SavableVehicle.assign {v : Vehicle} (h : SavableVehicle s₀ requests v) {i : ι}
    {id : String} {dto : UpdateVehicleDto} (hroute : (requests i).route = .updateVehicle id dto)
    (hid : Uuid.ofString? id = some v.id) : SavableVehicle s₀ requests (v.assign dto) := by
  refine ⟨fun column => ?_, fun column a ha => ?_, h.fleet⟩
  · rw [VehicleField.ofVehicle_assign]
    cases column.ofUpdate dto with
    | undefined => exact h.set column
    | null => simp
    | value a => simp
  · rw [VehicleField.ofVehicle_assign] at ha
    cases hset : column.ofUpdate dto with
    | undefined =>
      rw [hset] at ha
      exact h.asked column a ha
    | null =>
      rw [hset] at ha
      cases ha
    | value b =>
      rw [hset] at ha
      cases ha
      exact .updated i hroute hid hset

theorem SavableFleet.assign {f : Fleet} (h : SavableFleet s₀ requests f) {i : ι}
    {id : String} {dto : UpdateFleetDto} (hroute : (requests i).route = .updateFleet id dto)
    (hid : Uuid.ofString? id = some f.id) : SavableFleet s₀ requests (f.assign dto) := by
  refine ⟨?_, fun a ha => ?_, h.manager, h.vehicles⟩
  · cases hset : dto.name with
    | undefined => simpa [Fleet.assign, hset] using h.name
    | null => simp [Fleet.assign, hset]
    | value a => simp [Fleet.assign, hset]
  · cases hset : dto.name with
    | undefined => exact h.asked a (by simpa [Fleet.assign, hset] using ha)
    | null => simp [Fleet.assign, hset] at ha
    | value b =>
      simp only [Fleet.assign, hset, Property.assign_value, Property.value.injEq] at ha
      subst ha
      exact .updated i hroute hid hset

theorem getVehicleById_asked (id : String) :
    (VehicleService.getVehicleById id).Meets (askedContract s₀ requests) fun v =>
      SavableVehicle s₀ requests v ∧ Uuid.ofString? id = some v.id := by
  refine .bind (Q := fun found => ∀ v, found = some v →
    SavableVehicle s₀ requests v ∧ Uuid.ofString? id = some v.id) (.await trivial ?_) ?_
  · intro found hfound v hv
    subst hv
    exact hfound
  · intro found hfound
    cases found with
    | none => trivial
    | some v => exact hfound v rfl

theorem getFleetById_asked (id : String) :
    (FleetService.getFleetById id).Meets (askedContract s₀ requests) fun f =>
      SavableFleet s₀ requests f ∧ Uuid.ofString? id = some f.id := by
  refine .bind (Q := fun found => ∀ f, found = some f →
    SavableFleet s₀ requests f ∧ Uuid.ofString? id = some f.id) (.await trivial ?_) ?_
  · intro found hfound f hf
    subst hf
    exact hfound
  · intro found hfound
    cases found with
    | none => trivial
    | some f => exact hfound f rfl

theorem createFleet_asked {i : ι} {dto : CreateFleetDto}
    (hroute : (requests i).route = .createFleet dto) :
    (FleetService.createFleet dto).Meets (askedContract s₀ requests) fun _ => True := by
  refine .bind (Q := fun found => ∀ user, found = some user → dto.managerId = user.id)
    (.await trivial ?_) ?_
  · intro found hfound user huser
    subst huser
    have hid : Uuid.ofString? dto.managerId.text = some user.id := hfound
    rw [Uuid.ofString?_text] at hid
    exact Option.some.inj hid
  · intro found hfound
    cases found with
    | none => trivial
    | some user => exact .await ⟨i, dto, hroute, rfl, hfound user rfl⟩ fun _ _ => trivial

/-- A list that is read. -/
theorem list_asked {α : Type} {c : Cmd} (hc : (askedContract s₀ requests).allows c)
    (page : c.Answer → Except Thrown α) (e : Thrown) :
    (Service.dropResult (tryCatch (Service.await c >>= fun a => Service.lift (page a))
      fun _ => throw e : Service α)).Meets (askedContract s₀ requests) fun _ => True := by
  refine .bind (Q := fun _ => True) (.tryCatch ?_ fun _ => trivial) fun _ _ => trivial
  exact .bind (.await hc fun _ _ => trivial) fun _ _ => .ofExcept fun _ _ => trivial

/-- What a handler writes has been asked for. -/
theorem handler_asked (i : ι) :
    ((requests i).route.handler P).Meets (askedContract s₀ requests) fun _ => True := by
  have hallowed : ∀ {p : Service Unit}, p.Issues (askedContract s₀ requests).allows →
      p.Meets (askedContract s₀ requests) fun _ => True := fun hp => hp.meets fun _ hc => hc
  have haccounts : ∀ {route : Route}, route.TouchesAccounts →
      (route.handler P).Meets (askedContract s₀ requests) fun _ => True := by
    intro route h
    refine hallowed ((handler_account h).mono fun c hc => ?_)
    cases hc <;> trivial
  cases hroute : (requests i).route with
  | getAllUsers page perPage search req => exact list_asked (by trivial) _ _
  | getAllRoles page perPage search req => exact list_asked (by trivial) _ _
  | getAllPrivileges page perPage search req => exact list_asked (by trivial) _ _
  | getAllVehicles dto => exact list_asked (by trivial) _ _
  | getAllFleets dto => exact list_asked (by trivial) _ _
  | getRoleById id =>
    exact hallowed (dropResult_issues (getRoleById_issues_of (fun _ => trivial) id.text))
  | logout token =>
    refine hallowed ((logout_issues token).mono fun c hc => ?_)
    unfold RefreshCmd at hc
    split at hc <;> trivial
  | createRole dto => exact hallowed (dropResult_issues (.await trivial))
  | createPrivilege dto => exact hallowed (dropResult_issues (.await trivial))
  | createVehicle dto => exact hallowed (dropResult_issues (.await ⟨i, hroute⟩))
  | getVehicleById id =>
    exact .bind (getVehicleById_asked id) fun _ _ => trivial
  | updateVehicle id dto =>
    refine .bind (Q := fun _ => True) (.bind (getVehicleById_asked id) ?_) fun _ _ => trivial
    exact fun v hv => .await (hv.1.assign hroute hv.2) fun _ _ => trivial
  | deleteVehicle id =>
    exact .bind (getVehicleById_asked id) fun v _ => .await trivial fun _ _ => trivial
  | createFleet dto =>
    exact .bind (createFleet_asked hroute) fun _ _ => trivial
  | getFleetById id =>
    exact .bind (getFleetById_asked id) fun _ _ => trivial
  | updateFleet id dto =>
    refine .bind (Q := fun _ => True) (.bind (getFleetById_asked id) ?_) fun _ _ => trivial
    exact fun f hf => .await (hf.1.assign hroute hf.2) fun _ _ => trivial
  | deleteFleet id =>
    exact .bind (getFleetById_asked id) fun f _ => .await trivial fun _ _ => trivial
  | ingest dto =>
    refine hallowed (dropResult_issues ((ingestTelemetry_awaits dto).mono fun c hc => ?_))
    cases hc <;> trivial
  | latest vehicleId => exact hallowed (dropResult_issues (.await trivial))
  | history vehicleId dto req =>
    exact hallowed (dropResult_issues (.bind (.await trivial) fun _ => Prog.issues_ofExcept _))
  | validateLoginOtp dto session => exact haccounts trivial
  | refreshAccessToken token => exact haccounts trivial
  | resetPassword dto newPassword => exact haccounts trivial
  | assignPrivilege dto answered => exact haccounts trivial
  | registerAdmin dto => exact haccounts trivial
  | signUpAsAStaff dto => exact haccounts trivial

/-- What the guards do, and what the handler meets. -/
theorem prog_meets_of {K : Contract Cmd Cmd.Answer Thrown} (request : HttpRequest)
    (hguard : ∀ c, GuardCmd c → K.allows c)
    (hhandler : (request.route.handler P).Meets K fun _ => True) :
    (request.prog P).Meets K fun _ => True := by
  have hhandle : (request.handle P).Meets K fun _ => True := by
    unfold HttpRequest.handle
    cases request.proceeds with
    | false => trivial
    | true => exact hhandler
  have hauthorized : ∀ user, (request.authorized P user).Meets K fun _ => True := by
    intro user
    unfold HttpRequest.authorized
    cases request.route.guards with
    | unguarded => exact hhandle
    | authGuard => exact hhandle
    | privilegesGuard required => exact .bind (.ofExcept fun _ _ => trivial) fun _ _ => hhandle
  have hauth : (authGuard P request.bearer).Meets K fun _ => True :=
    (authGuard_guards request.bearer).meets hguard
  unfold HttpRequest.prog
  cases request.route.guards with
  | unguarded => exact hhandle
  | authGuard => exact .bind hauth fun user _ => hauthorized user
  | privilegesGuard required => exact .bind hauth fun user _ => hauthorized user

end

namespace HttpRequest

/-- In every run of requests every value of a vehicle and of a fleet is that of the start or one
that a request has asked for, and every vehicle is in the fleet that it has been in at the start,
or in none. -/
theorem values_asked_for {ι : Type} [DecidableEq ι] (P : Platform) (s₀ : Store)
    (requests : ι → HttpRequest) (ms : List (Move ι Nat)) :
    Asked s₀ requests ((started P s₀ requests).exec (system P) ms).store := by
  have hstart : (started P s₀ requests).Fulfils (askedContract s₀ requests)
      (Asked s₀ requests) fun _ _ => True := by
    refine ⟨fun i => prog_meets_of (requests i) (fun c hc => ?_) (handler_asked i),
      asked_start s₀ requests⟩
    cases hc <;> trivial
  exact (hstart.exec (askedContract_honoured P s₀ requests) ms).store

end HttpRequest

end VoltFleet
