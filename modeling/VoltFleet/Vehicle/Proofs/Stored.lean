import VoltFleet.Vehicle.Proofs.Membership

/-!
# What a save keeps of a body

The properties of a body are matched with the columns and relations of the entity
by name.  `fleetId` and `managerId` are neither, so that what a body carries under
these names is on the returned object and not in the row.
-/

namespace VoltFleet

open Awaiting

/-- The column holds what was sent, and what it held before if nothing was. -/
def Property.StoredIn {α : Type} (p : Property α) (old new : α) : Prop :=
  match p with
  | .undefined => new = old
  | .null => False
  | .value a => new = a

/-- The reference is the one that was sent, if one was. -/
def Property.Names (p : Property String) (ref : Option Uuid) : Prop :=
  match p with
  | .undefined => True
  | .null => ref = none
  | .value id => ∃ u, Uuid.ofString? id = some u ∧ ref = some u

/-- `Object.assign` over a loaded column, and the save. -/
theorem Property.storedIn_of_assigned {α : Type} {p : Property α} {old new : α}
    (h : ((Property.value old).assign p).toColumn old = .ok new) : p.StoredIn old new := by
  cases p with
  | undefined => exact (Except.ok.inj h).symm
  | null => cases h
  | value a => exact (Except.ok.inj h).symm

/-- The operations whose body is stored. -/
inductive StoringCall where
  | createVehicle (dto : CreateVehicleDto)
  | updateVehicle (id : String) (dto : UpdateVehicleDto)
  | updateFleet (id : String) (dto : UpdateFleetDto)

namespace StoringCall

/-- The call, with the key of what it returns. -/
def prog : StoringCall → Service Uuid
  | .createVehicle dto => Vehicle.id <$> VehicleService.createVehicle dto
  | .updateVehicle id dto => Vehicle.id <$> VehicleService.updateVehicle id dto
  | .updateFleet id dto => Fleet.id <$> FleetService.updateFleet id dto

/-- The stored row gives every field of the body, and for an update of a vehicle what the row
held elsewhere. -/
def Stores (s s' : Store) (u : Uuid) : StoringCall → Prop
  | .createVehicle dto => ∃ row, s'.vehicles.find? u = some row ∧ row.vin = dto.vin ∧
      row.model = dto.model ∧ row.manufacturer = dto.manufacturer ∧ row.year = dto.year ∧
      row.status = dto.status ∧ row.fleetId = some dto.fleetId
  | .updateVehicle _ dto => ∃ old row, s.vehicles.find? u = some old ∧
      s'.vehicles.find? u = some row ∧ dto.vin.StoredIn old.vin row.vin ∧
      dto.model.StoredIn old.model row.model ∧
      dto.manufacturer.StoredIn old.manufacturer row.manufacturer ∧
      dto.year.StoredIn old.year row.year ∧ dto.status.StoredIn old.status row.status ∧
      dto.fleetId.Names row.fleetId ∧ (dto.fleetId = .undefined → row.fleetId = old.fleetId) ∧
      row.createdAt = old.createdAt
  | .updateFleet _ dto => ∃ row, s'.fleets.find? u = some row ∧
      (∀ name, dto.name = .value name → row.name = name) ∧ dto.managerId.Names row.managerId

/-- The body names the fleet or the manager that the row has already, or none. -/
def KeepsReference (s : Store) : StoringCall → Prop
  | .createVehicle _ => False
  | .updateVehicle id dto => ∀ u old, Uuid.ofString? id = some u →
      s.vehicles.find? u = some old → dto.fleetId.Names old.fleetId
  | .updateFleet id dto => ∀ u old, Uuid.ofString? id = some u →
      s.fleets.find? u = some old → dto.managerId.Names old.managerId

end StoringCall

/-! ## The calls by themselves -/

section

variable {P : Platform} {s s' : Store}

theorem commit_eq_ok {β : Type} {r : Except Thrown (β × Store)} {b : β}
    (h : commit s r = (.ok b, s')) : r = .ok (b, s') := by
  cases r with
  | error e => cases h
  | ok r =>
    obtain ⟨b', t⟩ := r
    cases h
    rfl

theorem createVehicle_returns {dto : CreateVehicleDto} {v : Vehicle}
    (h : (VehicleService.createVehicle dto).run (exec P) s = (.ok v, s')) :
    insertVehicle P s dto = .ok (v, s') := by
  rw [VehicleService.createVehicle, Service.await, Prog.run_await] at h
  exact commit_eq_ok h

theorem getVehicleById_returns {id : String} {v : Vehicle}
    (h : (VehicleService.getVehicleById id).run (exec P) s = (.ok v, s')) :
    s' = s ∧ ∃ u old, Uuid.ofString? id = some u ∧ s.vehicles.find? u = some old ∧
      v = Store.vehicleEntity u old := by
  rw [VehicleService.getVehicleById, Service.await, Prog.await_bind, Prog.run_call] at h
  rcases findOne_cases P id s with ⟨e, hfind⟩ | hfind | ⟨u, old, hid, hold, hfind⟩ <;>
    rw [hfind] at h <;> cases h
  exact ⟨rfl, u, old, hid, hold, rfl⟩

theorem getFleetById_returns {id : String} {f : Fleet}
    (h : (FleetService.getFleetById id).run (exec P) s = (.ok f, s')) :
    s' = s ∧ ∃ u old, Uuid.ofString? id = some u ∧ s.fleets.find? u = some old ∧
      f = s.fleetEntity u old := by
  rw [FleetService.getFleetById, Service.await, Prog.await_bind, Prog.run_call] at h
  rcases findOneWithVehicles_cases P id s with ⟨e, hfind⟩ | hfind | ⟨u, old, hid, hold, hfind⟩ <;>
    rw [hfind] at h <;> cases h
  exact ⟨rfl, u, old, hid, hold, rfl⟩

/-- An update that returns has saved the row it has read with the body assigned to it. -/
theorem updateVehicle_returns {id : String} {dto : UpdateVehicleDto} {v : Vehicle}
    (h : (VehicleService.updateVehicle id dto).run (exec P) s = (.ok v, s')) :
    ∃ u old, Uuid.ofString? id = some u ∧ s.vehicles.find? u = some old ∧
      saveVehicle P s ((Store.vehicleEntity u old).assign dto) = .ok (v, s') := by
  obtain ⟨vehicle, t, hget, hsave⟩ := (Prog.run_bind_returns _).mp h
  obtain ⟨rfl, u, old, hid, hold, rfl⟩ := getVehicleById_returns hget
  rw [Service.await, Prog.run_await] at hsave
  exact ⟨u, old, hid, hold, commit_eq_ok hsave⟩

theorem updateFleet_returns {id : String} {dto : UpdateFleetDto} {f : Fleet}
    (h : (FleetService.updateFleet id dto).run (exec P) s = (.ok f, s')) :
    ∃ u old, Uuid.ofString? id = some u ∧ s.fleets.find? u = some old ∧
      saveFleet P s ((s.fleetEntity u old).assign dto) = .ok (f, s') := by
  obtain ⟨fleet, t, hget, hsave⟩ := (Prog.run_bind_returns _).mp h
  obtain ⟨rfl, u, old, hid, hold, rfl⟩ := getFleetById_returns hget
  rw [Service.await, Prog.run_await] at hsave
  exact ⟨u, old, hid, hold, commit_eq_ok hsave⟩

/-! ## What the saves write -/

theorem insertVehicle_fleetId {dto : CreateVehicleDto} {v : Vehicle} {row : VehicleRow}
    (h : insertVehicle P s dto = .ok (v, s')) (hrow : s'.vehicles.find? v.id = some row) :
    row.fleetId = none := by
  obtain ⟨_, vehicles, rfl, hinsert, rfl, rfl⟩ := insertVehicle_ok h
  have hself : vehicles.find? (P.uuid s.draws) = some _ :=
    Keyed.Table.find?_put_self (insertRow_eq_ok.mp hinsert).2
  have hrow' : vehicles.find? (P.uuid s.draws) = some row := hrow
  rw [hself] at hrow'
  cases hrow'
  rfl

/-- The save of a vehicle that has been read takes every column from the body and leaves the
fleet. -/
theorem saveVehicle_assigned {u : Uuid} {old : VehicleRow} {dto : UpdateVehicleDto} {v : Vehicle}
    (hold : s.vehicles.find? u = some old)
    (h : saveVehicle P s ((Store.vehicleEntity u old).assign dto) = .ok (v, s')) :
    v.id = u ∧ ∃ row, s'.vehicles.find? u = some row ∧ dto.vin.StoredIn old.vin row.vin ∧
      dto.model.StoredIn old.model row.model ∧
      dto.manufacturer.StoredIn old.manufacturer row.manufacturer ∧
      dto.year.StoredIn old.year row.year ∧ dto.status.StoredIn old.status row.status ∧
      row.fleetId = old.fleetId ∧ row.createdAt = old.createdAt := by
  have hreturned : v = (Store.vehicleEntity u old).assign dto := by
    obtain ⟨row, -, h⟩ := bind_eq_ok.mp h
    obtain ⟨_, -, h⟩ := bind_eq_ok.mp h
    obtain ⟨_, -, h⟩ := bind_eq_ok.mp h
    obtain ⟨vehicles, -, h⟩ := bind_eq_ok.mp h
    exact (congrArg Prod.fst (Except.ok.inj h)).symm
  obtain ⟨row, vehicles, hsaved, -, hput, rfl⟩ := saveVehicle_ok h
  rw [Vehicle.savedRow, show ((Store.vehicleEntity u old).assign dto).id = u from rfl, hold]
    at hsaved
  obtain ⟨hvin, hmodel, hmanufacturer, hyear, hstatus, hfleet, hcreatedAt⟩ :=
    updated_eq_ok hsaved
  refine ⟨by rw [hreturned]; rfl, row, Keyed.Table.find?_put_self hput, ?_, ?_, ?_, ?_, ?_, hfleet,
    hcreatedAt⟩
  · exact Property.storedIn_of_assigned hvin
  · exact Property.storedIn_of_assigned hmodel
  · exact Property.storedIn_of_assigned hmanufacturer
  · exact Property.storedIn_of_assigned hyear
  · exact Property.storedIn_of_assigned hstatus

/-- The save of a fleet that has been read takes the name from the body and leaves the manager. -/
theorem saveFleet_assigned {u : Uuid} {old : FleetRow} {dto : UpdateFleetDto} {f : Fleet}
    (hold : s.fleets.find? u = some old)
    (h : saveFleet P s ((s.fleetEntity u old).assign dto) = .ok (f, s')) :
    f.id = u ∧ ∃ row, s'.fleets.find? u = some row ∧ dto.name.StoredIn old.name row.name ∧
      row.managerId = old.managerId := by
  have hreturned : f = (s.fleetEntity u old).assign dto := by
    obtain ⟨row, -, h⟩ := bind_eq_ok.mp h
    obtain ⟨_, -, h⟩ := bind_eq_ok.mp h
    obtain ⟨fleets, -, h⟩ := bind_eq_ok.mp h
    exact (congrArg Prod.fst (Except.ok.inj h)).symm
  obtain ⟨row, fleets, hsaved, hput, rfl⟩ := saveFleet_ok h
  rw [Fleet.savedRow, show ((s.fleetEntity u old).assign dto).id = u from rfl, hold] at hsaved
  obtain ⟨name, hname, hrow⟩ := bind_eq_ok.mp hsaved
  cases hrow
  exact ⟨by rw [hreturned]; rfl, _, Keyed.Table.find?_put_self hput,
    Property.storedIn_of_assigned hname, rfl⟩

end

namespace StoringCall

theorem createVehicle_not_stores {P : Platform} {s s' : Store} {dto : CreateVehicleDto} {u : Uuid}
    (h : (createVehicle dto).prog.run (exec P) s = (.ok u, s')) :
    ¬(createVehicle dto).Stores s s' u := by
  obtain ⟨v, hrun, rfl⟩ := (Prog.run_map_returns _).mp h
  rintro ⟨row, hrow, -, -, -, -, -, hfleet⟩
  rw [insertVehicle_fleetId (createVehicle_returns hrun) hrow] at hfleet
  cases hfleet

/-- What a call that returns has stored is all of its body exactly if the body names no other
fleet and no other manager than the row has. -/
theorem stores_iff {P : Platform} {s s' : Store} {call : StoringCall} {u : Uuid}
    (h : call.prog.run (exec P) s = (.ok u, s')) :
    call.Stores s s' u ↔ call.KeepsReference s := by
  cases call with
  | createVehicle dto =>
    exact iff_of_false (createVehicle_not_stores h) id
  | updateVehicle id dto =>
    obtain ⟨v, hrun, rfl⟩ := (Prog.run_map_returns _).mp h
    obtain ⟨u, old, hid, hold, hsave⟩ := updateVehicle_returns hrun
    obtain ⟨hv, row, hrow, hvin, hmodel, hmanufacturer, hyear, hstatus, hfleet, hcreatedAt⟩ :=
      saveVehicle_assigned hold hsave
    rw [hv]
    constructor
    · rintro ⟨old', row', -, hrow', -, -, -, -, -, hnames, -⟩ u' old'' hid' hold'
      rw [hid] at hid'
      cases hid'
      rw [hold] at hold'
      cases hold'
      rw [hrow] at hrow'
      cases hrow'
      rwa [hfleet] at hnames
    · intro hkeeps
      refine ⟨old, row, hold, hrow, hvin, hmodel, hmanufacturer, hyear, hstatus, ?_,
        fun _ => hfleet, hcreatedAt⟩
      rw [hfleet]
      exact hkeeps u old hid hold
  | updateFleet id dto =>
    obtain ⟨f, hrun, rfl⟩ := (Prog.run_map_returns _).mp h
    obtain ⟨u, old, hid, hold, hsave⟩ := updateFleet_returns hrun
    obtain ⟨hf, row, hrow, hname, hmanager⟩ := saveFleet_assigned hold hsave
    rw [hf]
    constructor
    · rintro ⟨row', hrow', -, hnames⟩ u' old' hid' hold'
      rw [hid] at hid'
      cases hid'
      rw [hold] at hold'
      cases hold'
      rw [hrow] at hrow'
      cases hrow'
      rwa [hmanager] at hnames
    · intro hkeeps
      refine ⟨row, hrow, ?_, ?_⟩
      · intro name hsent
        rw [hsent] at hname
        exact hname
      · rw [hmanager]
        exact hkeeps u old hid hold

/-- An update of the model of a vehicle. -/
def newModel : StoringCall :=
  .updateVehicle (Uuid.ofNat 1).text
    ⟨.undefined, .value "Ariya", .undefined, .undefined, .undefined, .undefined⟩

theorem stores_newModel :
    newModel.Stores FleetOp.vehicleAndFleet
        (newModel.prog.run (exec .plain) FleetOp.vehicleAndFleet).2 (.ofNat 1) ↔
      newModel.KeepsReference FleetOp.vehicleAndFleet :=
  stores_iff (P := .plain) (Prod.ext rfl rfl)

/-- A vehicle created in the stored fleet. -/
def newVehicle : StoringCall :=
  .createVehicle ⟨"VIN-2", "Leaf", "Nissan", 2024, .ACTIVE, .ofNat 2⟩

/-- The call returns, and the vehicle is in no fleet. -/
theorem newVehicle_not_stored :
    ∃ u s', newVehicle.prog.run (exec .plain) FleetOp.vehicleAndFleet = (.ok u, s') ∧
      ¬newVehicle.Stores FleetOp.vehicleAndFleet s' u := by
  have hrun : newVehicle.prog.run (exec .plain) FleetOp.vehicleAndFleet =
      (.ok (.ofNat 0), (newVehicle.prog.run (exec .plain) FleetOp.vehicleAndFleet).2) :=
    Prod.ext rfl rfl
  exact ⟨_, _, hrun, createVehicle_not_stores hrun⟩

end StoringCall

end VoltFleet
