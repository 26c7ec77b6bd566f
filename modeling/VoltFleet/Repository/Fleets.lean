import VoltFleet.Repository.Rows

/-!
# The `fleets` and `vehicles` repositories

`save` compares an entity with the row as it is at that moment and writes every
mapped column that is set on the entity; where no row has the entity's key it
inserts one.  Saving a fleet whose `vehicles` are loaded makes the stored
membership equal to that list.  Saving a vehicle writes its fleet if the entity
has one.  `remove` deletes the one row, unless another table refers to it.
-/

namespace VoltFleet

/-- The body of a new vehicle. -/
structure CreateVehicleDto where
  vin : String
  model : String
  manufacturer : String
  year : Int
  status : VehicleStatus
  fleetId : Uuid
  deriving DecidableEq

/-- The calls of the fleet repository. -/
inductive FleetCmd where
  | findOneWithVehicles (id : String)
  | getManyAndCount (skip take : JsNumber)
  | insert (name : String) (manager : User)
  | save (fleet : Fleet)
  | remove (fleet : Fleet)

/-- What a call returns. -/
abbrev FleetCmd.Answer : FleetCmd → Type
  | .findOneWithVehicles _ => Option Fleet
  | .getManyAndCount .. => List Fleet × Nat
  | .insert .. => Fleet
  | .save _ => Fleet
  | .remove _ => Unit

/-- The calls of the vehicle repository. -/
inductive VehicleCmd where
  | findOne (id : String)
  | getManyAndCount (status : Option VehicleStatus) (fleetId : Option String)
      (skip take : JsNumber)
  | insert (dto : CreateVehicleDto)
  | save (vehicle : Vehicle)
  | remove (vehicle : Vehicle)

/-- What a call returns. -/
abbrev VehicleCmd.Answer : VehicleCmd → Type
  | .findOne _ => Option Vehicle
  | .getManyAndCount .. => List Vehicle × Nat
  | .insert _ => Vehicle
  | .save _ => Vehicle
  | .remove _ => Unit

/-! ## Vehicles -/

/-- Insert a new vehicle, which is in no fleet. -/
def insertVehicle (P : Platform) (s : Store) (dto : CreateVehicleDto) :
    Except Thrown (Vehicle × Store) := do
  sendTexts P [dto.vin, dto.model, dto.manufacturer]
  sendInteger P (some dto.year)
  let id := P.uuid s.draws
  -- `fleetId` is no property of the entity: `create` drops it
  let row : VehicleRow :=
    ⟨dto.vin, dto.model, dto.manufacturer, dto.year, dto.status, none, s.clock⟩
  let vehicles ← insertRow s.vehicles id row
  return (Store.vehicleEntity id row, { s with vehicles := vehicles, draws := s.draws + 1 })

/-- A column of an insert that has no default. -/
def Property.required {α : Type} : Property α → Except Thrown α
  | .value a => .ok a
  | _ => .error .notNull

/-- The row a saved vehicle has, given the stored one. -/
def Vehicle.updated (v : Vehicle) (old : VehicleRow) : Except Thrown VehicleRow := do
  return {
    vin := ← v.vin.toColumn old.vin
    model := ← v.model.toColumn old.model
    manufacturer := ← v.manufacturer.toColumn old.manufacturer
    year := ← v.year.toColumn old.year
    status := ← v.status.toColumn old.status
    fleetId := v.fleet.or old.fleetId
    createdAt := old.createdAt }

/-- The row a saved vehicle is inserted with when its key has none. -/
def Vehicle.inserted (v : Vehicle) (now : Nat) : Except Thrown VehicleRow := do
  return {
    vin := ← v.vin.required
    model := ← v.model.required
    manufacturer := ← v.manufacturer.required
    year := ← v.year.required
    status := ← v.status.toColumn .ACTIVE
    fleetId := v.fleet
    createdAt := now }

/-- The row a save writes: an update where the key is stored, an insert elsewhere. -/
def Vehicle.savedRow (s : Store) (v : Vehicle) : Except Thrown VehicleRow :=
  match s.vehicles.find? v.id with
  | some old => v.updated old
  | none => v.inserted s.clock

/-- The texts of a row that its columns are given. -/
def VehicleRow.texts (row : VehicleRow) : List String := [row.vin, row.model, row.manufacturer]

/-- The columns a save writes: the ones in which the row differs from the stored one. -/
def sendVehicle (P : Platform) (stored : Option VehicleRow) (row : VehicleRow) :
    Except Thrown Unit := do
  sendTexts P (row.texts.filter (· ∉ (stored.map VehicleRow.texts).getD []))
  sendInteger P ((some row.year).filter (some · ≠ stored.map VehicleRow.year))

/-- `save`. -/
def saveVehicle (P : Platform) (s : Store) (v : Vehicle) : Except Thrown (Vehicle × Store) := do
  let row ← v.savedRow s
  sendVehicle P (s.vehicles.find? v.id) row
  checkReference s.fleets row.fleetId
  let vehicles ← putRow s.vehicles v.id row
  return (v, { s with vehicles := vehicles })

/-- `remove`; the readings of the vehicle refer to it. -/
def removeVehicle (s : Store) (v : Vehicle) : Except Thrown (Unit × Store) :=
  if s.telemetry.rows.any (·.vehicleId = v.id) then .error .foreignKey
  else .ok ((), { s with vehicles := s.vehicles.erase v.id })

/-- What a call does to the store.  `getManyAndCount` answers here as it is written: it orders by
`createdAt`, which `select: false` keeps out of the query TypeORM takes the page from, so that
PostgreSQL refuses that query with 42703. -/
def VehicleCmd.exec (P : Platform) (s : Store) :
    (c : VehicleCmd) → Except Thrown c.Answer × Store
  | .findOne id =>
      (do
        let id ← uuidParam id
        return (s.vehicles.find? id).map (Store.vehicleEntity id), s)
  | .getManyAndCount status fleetId skip take =>
      (do
        let fleet ← fleetId.mapM uuidParam
        let rows := (P.scan s.draws s.vehicles.toList).filter fun e =>
          (status.all (· = e.2.status)) ∧ (fleet.all (some · = e.2.fleetId))
        let sorted := rows.mergeSort fun a b => b.2.createdAt ≤ a.2.createdAt
        findAndCount P skip take (sorted.map fun e =>
          { Store.vehicleEntity e.1 e.2 with fleet := e.2.fleetId }),
        { s with draws := s.draws + 1 })
  | .insert dto => commit s (insertVehicle P s dto)
  | .save v => commit s (saveVehicle P s v)
  | .remove v => commit s (removeVehicle s v)

/-! ## Fleets -/

/-- Make the vehicles of fleet `id` those with a key in `members`. -/
def setMembers (id : Uuid) (members : List Uuid) (key : Uuid) (row : VehicleRow) : VehicleRow :=
  if key ∈ members then { row with fleetId := some id }
  else if row.fleetId = some id then { row with fleetId := none }
  else row

theorem setMembers_vin (id : Uuid) (members : List Uuid) (key : Uuid) (row : VehicleRow) :
    (setMembers id members key row).vin = row.vin := by
  unfold setMembers
  split
  · rfl
  · split <;> rfl

/-- The vehicles after the save of a fleet. -/
def saveMembers (s : Store) (f : Fleet) : Keyed.Table Uuid VehicleRow VehicleRow.vin :=
  match f.vehicles with
  | none => s.vehicles
  | some vs => s.vehicles.map (setMembers f.id (vs.map Vehicle.id)) (setMembers_vin _ _)

/-- Insert a new fleet of a stored manager. -/
def insertFleet (P : Platform) (s : Store) (name : String) (manager : User) :
    Except Thrown (Fleet × Store) := do
  sendTexts P [name]
  let id := P.uuid s.draws
  checkReference s.users (some manager.id)
  let fleets ← insertRow s.fleets id ⟨name, some manager.id, s.clock⟩
  return (⟨id, .value name, some manager, none, .undefined⟩,
    { s with fleets := fleets, draws := s.draws + 1 })

/-- The row a save writes: an update where the key is stored, an insert elsewhere. -/
def Fleet.savedRow (s : Store) (f : Fleet) : Except Thrown FleetRow :=
  match s.fleets.find? f.id with
  | some old => do
      let name ← f.name.toColumn old.name
      return ⟨name, (f.manager.map User.id).or old.managerId, old.createdAt⟩
  | none => do
      let name ← f.name.required
      return ⟨name, f.manager.map User.id, s.clock⟩

/-- `save`. -/
def saveFleet (P : Platform) (s : Store) (f : Fleet) : Except Thrown (Fleet × Store) := do
  let row ← f.savedRow s
  sendTexts P ([row.name].filter (some · ≠ (s.fleets.find? f.id).map FleetRow.name))
  let fleets ← putRow s.fleets f.id row
  return (f, { s with fleets := fleets, vehicles := saveMembers s f })

/-- `remove`; the vehicles of the fleet refer to it. -/
def removeFleet (s : Store) (f : Fleet) : Except Thrown (Unit × Store) :=
  if s.vehicles.toList.any (·.2.fleetId = some f.id) then .error .foreignKey
  else .ok ((), { s with fleets := s.fleets.erase f.id })

/-- What a call does to the store, with the list as for vehicles. -/
def FleetCmd.exec (P : Platform) (s : Store) : (c : FleetCmd) → Except Thrown c.Answer × Store
  | .findOneWithVehicles id =>
      (do
        let id ← uuidParam id
        return (s.fleets.find? id).map (s.fleetEntity id), s)
  | .getManyAndCount skip take =>
      (findAndCount P skip take
        (((P.scan s.draws s.fleets.toList).mergeSort fun a b =>
          b.2.createdAt ≤ a.2.createdAt).map fun e => s.fleetEntity e.1 e.2),
        { s with draws := s.draws + 1 })
  | .insert name manager => commit s (insertFleet P s name manager)
  | .save f => commit s (saveFleet P s f)
  | .remove f => commit s (removeFleet s f)

end VoltFleet
