import VoltFleet.Repository.Fleets

/-!
# What the writes of fleets and vehicles do

One lemma for each write: a successful save or remove, in terms of the tables,
and what every write leaves alone.
-/

namespace VoltFleet

theorem insertVehicle_ok {P : Platform} {s s' : Store} {dto : CreateVehicleDto} {v : Vehicle}
    (h : insertVehicle P s dto = .ok (v, s')) :
    ∃ row vehicles, row = (⟨dto.vin, dto.model, dto.manufacturer, dto.year, dto.status, none,
        s.clock⟩ : VehicleRow) ∧
      insertRow s.vehicles (P.uuid s.draws) row = .ok vehicles ∧
      v = Store.vehicleEntity (P.uuid s.draws) row ∧
      s' = { s with vehicles := vehicles, draws := s.draws + 1 } := by
  obtain ⟨_, -, h⟩ := bind_eq_ok.mp h
  obtain ⟨_, -, h⟩ := bind_eq_ok.mp h
  obtain ⟨vehicles, hinsert, h⟩ := bind_eq_ok.mp h
  cases h
  exact ⟨_, vehicles, rfl, hinsert, rfl, rfl⟩

theorem insertFleet_ok {P : Platform} {s s' : Store} {name : String} {manager : User} {f : Fleet}
    (h : insertFleet P s name manager = .ok (f, s')) :
    P.takesText name = true ∧ checkReference s.users (some manager.id) = .ok () ∧
      ∃ fleets, insertRow s.fleets (P.uuid s.draws) ⟨name, some manager.id, s.clock⟩ =
          .ok fleets ∧
        f = ⟨P.uuid s.draws, .value name, some manager, none, .undefined⟩ ∧
        s' = { s with fleets := fleets, draws := s.draws + 1 } := by
  obtain ⟨_, htext, h⟩ := bind_eq_ok.mp h
  obtain ⟨_, href, h⟩ := bind_eq_ok.mp h
  obtain ⟨fleets, hinsert, h⟩ := bind_eq_ok.mp h
  cases h
  exact ⟨sendTexts_eq_ok.mp htext _ List.mem_cons_self, href, fleets, hinsert, rfl, rfl⟩

theorem saveVehicle_ok {P : Platform} {s s' : Store} {v v' : Vehicle}
    (h : saveVehicle P s v = .ok (v', s')) :
    ∃ row vehicles, v.savedRow s = .ok row ∧ checkReference s.fleets row.fleetId = .ok () ∧
      s.vehicles.put v.id row = some vehicles ∧ s' = { s with vehicles := vehicles } := by
  obtain ⟨row, hrow, h⟩ := bind_eq_ok.mp h
  obtain ⟨_, -, h⟩ := bind_eq_ok.mp h
  obtain ⟨_, href, h⟩ := bind_eq_ok.mp h
  obtain ⟨vehicles, hput, h⟩ := bind_eq_ok.mp h
  cases h
  exact ⟨row, vehicles, hrow, href, putRow_eq_ok.mp hput, rfl⟩

theorem removeVehicle_ok {s : Store} {v : Vehicle} {r : Unit × Store}
    (h : removeVehicle s v = .ok r) : r = ((), { s with vehicles := s.vehicles.erase v.id }) := by
  unfold removeVehicle at h
  split at h
  · cases h
  · cases h
    rfl

theorem saveFleet_ok {P : Platform} {s s' : Store} {f f' : Fleet}
    (h : saveFleet P s f = .ok (f', s')) :
    ∃ row fleets, f.savedRow s = .ok row ∧ s.fleets.put f.id row = some fleets ∧
      s' = { s with fleets := fleets, vehicles := saveMembers s f } := by
  obtain ⟨row, hrow, h⟩ := bind_eq_ok.mp h
  obtain ⟨_, -, h⟩ := bind_eq_ok.mp h
  obtain ⟨fleets, hput, h⟩ := bind_eq_ok.mp h
  cases h
  exact ⟨row, fleets, hrow, putRow_eq_ok.mp hput, rfl⟩

theorem removeFleet_ok {s : Store} {f : Fleet} {r : Unit × Store}
    (h : removeFleet s f = .ok r) : r = ((), { s with fleets := s.fleets.erase f.id }) := by
  unfold removeFleet at h
  split at h
  · cases h
  · cases h
    rfl

theorem find?_saveMembers (s : Store) (f : Fleet) (id : Uuid) :
    (saveMembers s f).find? id =
      match f.vehicles with
      | none => s.vehicles.find? id
      | some vs => (s.vehicles.find? id).map (setMembers f.id (vs.map Vehicle.id) id) := by
  cases h : f.vehicles with
  | none => simp [saveMembers, h]
  | some vs => simp [saveMembers, h]

theorem updated_eq_ok {v : Vehicle} {old row : VehicleRow} (h : v.updated old = .ok row) :
    v.vin.toColumn old.vin = .ok row.vin ∧ v.model.toColumn old.model = .ok row.model ∧
      v.manufacturer.toColumn old.manufacturer = .ok row.manufacturer ∧
      v.year.toColumn old.year = .ok row.year ∧ v.status.toColumn old.status = .ok row.status ∧
      row.fleetId = v.fleet.or old.fleetId ∧ row.createdAt = old.createdAt := by
  obtain ⟨vin, hvin, h⟩ := bind_eq_ok.mp h
  obtain ⟨model, hmodel, h⟩ := bind_eq_ok.mp h
  obtain ⟨manufacturer, hmanufacturer, h⟩ := bind_eq_ok.mp h
  obtain ⟨year, hyear, h⟩ := bind_eq_ok.mp h
  obtain ⟨status, hstatus, h⟩ := bind_eq_ok.mp h
  cases h
  exact ⟨hvin, hmodel, hmanufacturer, hyear, hstatus, rfl, rfl⟩

theorem inserted_eq_ok {v : Vehicle} {now : Nat} {row : VehicleRow}
    (h : v.inserted now = .ok row) :
    v.vin.required = .ok row.vin ∧ v.model.required = .ok row.model ∧
      v.manufacturer.required = .ok row.manufacturer ∧ v.year.required = .ok row.year ∧
      v.status.toColumn .ACTIVE = .ok row.status ∧ row.fleetId = v.fleet := by
  obtain ⟨vin, hvin, h⟩ := bind_eq_ok.mp h
  obtain ⟨model, hmodel, h⟩ := bind_eq_ok.mp h
  obtain ⟨manufacturer, hmanufacturer, h⟩ := bind_eq_ok.mp h
  obtain ⟨year, hyear, h⟩ := bind_eq_ok.mp h
  obtain ⟨status, hstatus, h⟩ := bind_eq_ok.mp h
  cases h
  exact ⟨hvin, hmodel, hmanufacturer, hyear, hstatus, rfl⟩

/-- The row holds every column that is set on the entity. -/
structure Vehicle.WrittenTo (v : Vehicle) (row : VehicleRow) : Prop where
  vin : v.vin ≠ .undefined → v.vin = .value row.vin
  model : v.model ≠ .undefined → v.model = .value row.model
  manufacturer : v.manufacturer ≠ .undefined → v.manufacturer = .value row.manufacturer
  year : v.year ≠ .undefined → v.year = .value row.year
  status : v.status ≠ .undefined → v.status = .value row.status
  fleetId : v.fleet ≠ none → v.fleet = row.fleetId

theorem Property.eq_value_of_toColumn {α : Type} {old a : α} {p : Property α}
    (h : p.toColumn old = .ok a) (hp : p ≠ .undefined) : p = .value a := by
  cases p with
  | undefined => exact absurd rfl hp
  | null => cases h
  | value b =>
    cases h
    rfl

theorem Property.eq_value_of_required {α : Type} {a : α} {p : Property α}
    (h : p.required = .ok a) : p = .value a := by
  cases p with
  | undefined => cases h
  | null => cases h
  | value b =>
    cases h
    rfl

/-- A save writes every column that is set on the entity. -/
theorem savedRow_writtenTo {s : Store} {v : Vehicle} {row : VehicleRow}
    (h : v.savedRow s = .ok row) : v.WrittenTo row := by
  unfold Vehicle.savedRow at h
  split at h
  · obtain ⟨hvin, hmodel, hmanufacturer, hyear, hstatus, hfleet, -⟩ := updated_eq_ok h
    refine ⟨Property.eq_value_of_toColumn hvin, Property.eq_value_of_toColumn hmodel,
      Property.eq_value_of_toColumn hmanufacturer, Property.eq_value_of_toColumn hyear,
      Property.eq_value_of_toColumn hstatus, fun hf => ?_⟩
    rw [hfleet]
    cases hv : v.fleet with
    | none => exact absurd hv hf
    | some f => rfl
  · obtain ⟨hvin, hmodel, hmanufacturer, hyear, hstatus, hfleet⟩ := inserted_eq_ok h
    exact ⟨fun _ => Property.eq_value_of_required hvin,
      fun _ => Property.eq_value_of_required hmodel,
      fun _ => Property.eq_value_of_required hmanufacturer,
      fun _ => Property.eq_value_of_required hyear,
      Property.eq_value_of_toColumn hstatus, fun _ => hfleet.symm⟩

/-! ## Rows that are not there -/

/-- A save writes no row but that of its entity. -/
theorem saveVehicle_find?_ne {P : Platform} {s s' : Store} {v v' : Vehicle}
    (h : saveVehicle P s v = .ok (v', s')) {id : Uuid} (hne : id ≠ v.id) :
    s'.vehicles.find? id = s.vehicles.find? id := by
  obtain ⟨row, vehicles, -, -, hput, rfl⟩ := saveVehicle_ok h
  exact Keyed.Table.find?_put_ne hput hne

theorem saveFleet_find?_ne {P : Platform} {s s' : Store} {f f' : Fleet}
    (h : saveFleet P s f = .ok (f', s')) {id : Uuid} (hne : id ≠ f.id) :
    s'.fleets.find? id = s.fleets.find? id := by
  obtain ⟨row, fleets, -, hput, rfl⟩ := saveFleet_ok h
  exact Keyed.Table.find?_put_ne hput hne

/-- Saving a fleet rewrites vehicles and adds none. -/
theorem saveFleet_vehicles_none {P : Platform} {s s' : Store} {f f' : Fleet}
    (h : saveFleet P s f = .ok (f', s')) {id : Uuid} (hid : s.vehicles.find? id = none) :
    s'.vehicles.find? id = none := by
  obtain ⟨row, fleets, -, -, rfl⟩ := saveFleet_ok h
  show (saveMembers s f).find? id = none
  rw [find?_saveMembers]
  cases f.vehicles with
  | none => exact hid
  | some vs => simp [hid]

end VoltFleet
