import VoltFleet.PlainPlatform
import VoltFleet.Vehicle.Proofs.Commands
import VoltFleet.Vehicle.Proofs.Reads
import VoltFleet.Vehicle.Proofs.Writes

/-!
# References between rows

A reading refers to its vehicle and a vehicle to its fleet.  Every write keeps each
reference to a stored row: a save checks the reference it writes, and a row is
removed only if nothing refers to it.  So a delete is refused by the database where
earlier operations have attached something to its row.
-/

namespace VoltFleet

open Awaiting

namespace Store

/-- A reading of the vehicle is stored. -/
def HasReadings (s : Store) (u : Uuid) : Prop := ∃ r ∈ s.telemetry.rows, r.vehicleId = u

/-- A vehicle of the fleet is stored. -/
def HasVehicles (s : Store) (f : Uuid) : Prop :=
  ∃ u row, s.vehicles.find? u = some row ∧ row.fleetId = some f

/-- Every reference is one to a stored row. -/
structure Linked (s : Store) : Prop where
  readings : ∀ u, s.HasReadings u → s.vehicles.find? u ≠ none
  vehicles : ∀ f, s.HasVehicles f → s.fleets.find? f ≠ none

theorem linked_empty : empty.Linked := by
  constructor
  · rintro u ⟨r, hr, -⟩
    cases hr
  · rintro f ⟨u, row, hrow, -⟩
    cases hrow

theorem any_readings_iff {s : Store} {u : Uuid} :
    s.telemetry.rows.any (·.vehicleId = u) = true ↔ s.HasReadings u := by
  simp [HasReadings]

theorem any_vehicles_iff {s : Store} {f : Uuid} :
    s.vehicles.toList.any (·.2.fleetId = some f) = true ↔ s.HasVehicles f := by
  rw [List.any_eq_true]
  constructor
  · rintro ⟨⟨u, row⟩, hmem, hfleet⟩
    exact ⟨u, row, Keyed.Table.mem_toList.mp hmem, of_decide_eq_true hfleet⟩
  · rintro ⟨u, row, hrow, hfleet⟩
    exact ⟨(u, row), Keyed.Table.mem_toList.mpr hrow, decide_eq_true hfleet⟩

end Store

/-! ## The writes -/

section

variable {s s' : Store}

/-- A vehicle that is written has a reference that is checked. -/
theorem Store.Linked.putVehicle {u : Uuid} {row : VehicleRow}
    {vehicles : Keyed.Table Uuid VehicleRow VehicleRow.vin} {draws : Nat} (h : s.Linked)
    (href : checkReference s.fleets row.fleetId = .ok ())
    (hput : s.vehicles.put u row = some vehicles) :
    Store.Linked { s with vehicles := vehicles, draws := draws } := by
  constructor
  · intro v hv
    show vehicles.find? v ≠ none
    rw [Keyed.Table.find?_put hput]
    split
    · exact Option.some_ne_none row
    · exact h.readings v hv
  · rintro f ⟨v, row', hrow', hfleet⟩
    change vehicles.find? v = some row' at hrow'
    rw [Keyed.Table.find?_put hput] at hrow'
    split at hrow'
    · cases hrow'
      obtain ⟨fleet, hfound⟩ := checkReference_eq_ok.mp href f hfleet
      show s.fleets.find? f ≠ none
      rw [hfound]
      exact Option.some_ne_none fleet
    · exact h.vehicles f ⟨v, row', hrow', hfleet⟩

theorem linked_insertVehicle (P : Platform) (h : s.Linked) (dto : CreateVehicleDto) :
    (commit s (insertVehicle P s dto)).2.Linked := by
  refine commit_snd h ?_
  intro v s' hinsert
  obtain ⟨row, vehicles, rfl, hrow, -, rfl⟩ := insertVehicle_ok hinsert
  exact h.putVehicle rfl (insertRow_eq_ok.mp hrow).2

theorem linked_saveVehicle (P : Platform) (h : s.Linked) (v : Vehicle) :
    (commit s (saveVehicle P s v)).2.Linked := by
  refine commit_snd h ?_
  intro v' s' hsave
  obtain ⟨row, vehicles, -, href, hput, rfl⟩ := saveVehicle_ok hsave
  exact h.putVehicle href hput

theorem linked_removeVehicle (h : s.Linked) (v : Vehicle) :
    (commit s (removeVehicle s v)).2.Linked := by
  unfold removeVehicle
  split
  next => exact h
  next hfree =>
    rw [Store.any_readings_iff] at hfree
    constructor
    · intro u hu
      have hne : u ≠ v.id := by
        rintro rfl
        exact hfree hu
      show (s.vehicles.erase v.id).find? u ≠ none
      rw [Keyed.Table.find?_erase, if_neg hne]
      exact h.readings u hu
    · rintro f ⟨u, row, hrow, hfleet⟩
      change (s.vehicles.erase v.id).find? u = some row at hrow
      rw [Keyed.Table.find?_erase] at hrow
      split at hrow
      · cases hrow
      · exact h.vehicles f ⟨u, row, hrow, hfleet⟩

theorem linked_insertFleet (P : Platform) (h : s.Linked) (name : String) (manager : User) :
    (commit s (insertFleet P s name manager)).2.Linked := by
  refine commit_snd h ?_
  intro f s' hinsert
  obtain ⟨-, -, fleets, hrow, -, rfl⟩ := insertFleet_ok hinsert
  refine ⟨h.readings, ?_⟩
  intro g hg
  show fleets.find? g ≠ none
  rw [Keyed.Table.find?_put (insertRow_eq_ok.mp hrow).2]
  split
  · exact Option.some_ne_none _
  · exact h.vehicles g hg

/-- A fleet that is saved is the fleet of the vehicles it is saved with. -/
theorem linked_saveFleet (P : Platform) (h : s.Linked) (f : Fleet) :
    (commit s (saveFleet P s f)).2.Linked := by
  refine commit_snd h ?_
  intro f' s' hsave
  obtain ⟨row, fleets, -, hput, rfl⟩ := saveFleet_ok hsave
  have hfleets : ∀ g, g = f.id ∨ s.fleets.find? g ≠ none → fleets.find? g ≠ none := by
    intro g hg
    rw [Keyed.Table.find?_put hput]
    split
    · exact Option.some_ne_none row
    next hne => exact hg.resolve_left hne
  constructor
  · intro u hu hnone
    change (saveMembers s f).find? u = none at hnone
    rw [find?_saveMembers] at hnone
    cases hvs : f.vehicles with
    | none =>
      rw [hvs] at hnone
      exact h.readings u hu hnone
    | some vs =>
      rw [hvs] at hnone
      exact h.readings u hu (Option.map_eq_none_iff.mp hnone)
  · rintro g ⟨u, row', hrow', hfleet⟩
    change (saveMembers s f).find? u = some row' at hrow'
    rw [find?_saveMembers] at hrow'
    apply hfleets
    cases hvs : f.vehicles with
    | none =>
      rw [hvs] at hrow'
      exact .inr (h.vehicles g ⟨u, row', hrow', hfleet⟩)
    | some vs =>
      rw [hvs] at hrow'
      obtain ⟨old, hold, rfl⟩ := Option.map_eq_some_iff.mp hrow'
      unfold setMembers at hfleet
      split at hfleet
      · exact .inl (Option.some.inj hfleet).symm
      · split at hfleet
        · cases hfleet
        · exact .inr (h.vehicles g ⟨u, old, hold, hfleet⟩)

theorem linked_removeFleet (h : s.Linked) (f : Fleet) :
    (commit s (removeFleet s f)).2.Linked := by
  unfold removeFleet
  split
  next => exact h
  next hfree =>
    rw [Store.any_vehicles_iff] at hfree
    refine ⟨h.readings, ?_⟩
    intro g hg
    have hne : g ≠ f.id := by
      rintro rfl
      exact hfree hg
    show (s.fleets.erase f.id).find? g ≠ none
    rw [Keyed.Table.find?_erase, if_neg hne]
    exact h.vehicles g hg

theorem linked_insertTelemetry (P : Platform) (h : s.Linked) (rec : NewTelemetry) :
    (commit s (insertTelemetry P s rec)).2.Linked := by
  refine commit_snd h ?_
  intro row s' hinsert
  have href : ∃ vehicle, s.vehicles.find? row.vehicleId = some vehicle := by
    obtain ⟨_, -, hrest⟩ := bind_eq_ok.mp hinsert
    obtain ⟨u, hu, hrest⟩ := bind_eq_ok.mp hrest
    obtain ⟨_, href, -⟩ := bind_eq_ok.mp hrest
    have hid := (insertTelemetry_ok hinsert).1
    rw [uuidParam_eq_ok.mp hu] at hid
    exact checkReference_eq_ok.mp href _ hid
  obtain ⟨-, -, -, telemetry, hrows, rfl⟩ := insertTelemetry_ok hinsert
  refine ⟨?_, h.vehicles⟩
  rintro u ⟨r, hr, hu⟩
  change r ∈ telemetry.rows at hr
  rw [hrows] at hr
  rcases List.mem_cons.mp hr with rfl | hold
  · obtain ⟨vehicle, hfound⟩ := href
    show s.vehicles.find? u ≠ none
    rw [← hu, hfound]
    exact Option.some_ne_none vehicle
  · exact h.readings u ⟨r, hold, hu⟩

end

/-! ## Runs -/

theorem FleetCmds.linked {c : Cmd} (hc : FleetCmds c) (P : Platform) {s : Store} (h : s.Linked) :
    (exec P c s).2.Linked := by
  cases c with
  | users c =>
    cases c with
    | findOneById id => exact h
    | _ => exact hc.elim
  | fleets c =>
    cases c with
    | findOneWithVehicles id => exact h
    | getManyAndCount skip take => exact ⟨h.readings, h.vehicles⟩
    | insert name manager => exact linked_insertFleet P h name manager
    | save f => exact linked_saveFleet P h f
    | remove f => exact linked_removeFleet h f
  | vehicles c =>
    cases c with
    | findOne id => exact h
    | getManyAndCount status fleetId skip take => exact ⟨h.readings, h.vehicles⟩
    | insert dto => exact linked_insertVehicle P h dto
    | save v => exact linked_saveVehicle P h v
    | remove v => exact linked_removeVehicle h v
  | telemetry c =>
    cases c with
    | findLatest id => exact ⟨h.readings, h.vehicles⟩
    | getManyAndCount id from? to? skip take => exact ⟨h.readings, h.vehicles⟩
    | insert rec => exact linked_insertTelemetry P h rec
  | process c => cases c <;> exact ⟨h.readings, h.vehicles⟩
  | _ => exact hc.elim

/-- The requests that write vehicles, fleets and readings. -/
inductive FleetRequest where
  | createVehicle (dto : CreateVehicleDto)
  | createFleet (dto : CreateFleetDto)
  | assignVehicleToFleet (fleetId vehicleId : String)
  | ingestTelemetry (dto : CreateTelemetryDto)
  | updateVehicle (id : String) (dto : UpdateVehicleDto)
  | updateFleet (id : String) (dto : UpdateFleetDto)
  | deleteVehicle (id : String)
  | deleteFleet (id : String)

namespace FleetRequest

/-- A request as a thread. -/
def prog : FleetRequest → Service Unit
  | .createVehicle dto => (VehicleService.createVehicle dto).dropResult
  | .createFleet dto => (FleetService.createFleet dto).dropResult
  | .assignVehicleToFleet fleetId vehicleId =>
      (FleetService.assignVehicleToFleet fleetId vehicleId).dropResult
  | .ingestTelemetry dto => (TelemetryService.ingestTelemetry dto).dropResult
  | .updateVehicle id dto => (VehicleService.updateVehicle id dto).dropResult
  | .updateFleet id dto => (FleetService.updateFleet id dto).dropResult
  | .deleteVehicle id => VehicleService.deleteVehicle id
  | .deleteFleet id => FleetService.deleteFleet id

theorem prog_issues (op : FleetRequest) : op.prog.Issues FleetCmds := by
  cases op with
  | createVehicle dto => exact dropResult_issues (.await trivial)
  | createFleet dto => exact dropResult_issues (createFleet_issues dto)
  | assignVehicleToFleet fleetId vehicleId =>
    exact dropResult_issues (assignVehicleToFleet_issues fleetId vehicleId)
  | ingestTelemetry dto => exact dropResult_issues (ingestTelemetry_issues dto)
  | updateVehicle id dto => exact dropResult_issues (updateVehicle_issues id dto)
  | updateFleet id dto => exact dropResult_issues (updateFleet_issues id dto)
  | deleteVehicle id => exact deleteVehicle_issues id
  | deleteFleet id => exact deleteFleet_issues id

/-- The requests are about to be served. -/
def started {ι : Type} (s : Store) (ops : ι → FleetRequest) : Serving ι Unit :=
  .start s fun i => (ops i).prog

/-- References stay intact in every run of the requests. -/
theorem linked_exec {ι : Type} [DecidableEq ι] (P : Platform) {s : Store} (h : s.Linked)
    (ops : ι → FleetRequest) (ms : List (Move ι Nat)) :
    ((started s ops).exec (system P) ms).store.Linked := by
  have hissuing : (started s ops).Issuing FleetCmds := fun i => (ops i).prog_issues
  refine (hissuing.exec (S := system P) (Q := Store.Linked) h ?_ ?_ ms).2
  · intro c s' hc hs
    exact hc.linked P hs
  · intro d s' hs
    exact ⟨hs.readings, hs.vehicles⟩

end FleetRequest

/-! ## Deletes -/

section

variable {P : Platform} {s : Store} {id : String} {u : Uuid}

theorem removeVehicle_eq (s : Store) (v : Vehicle) :
    (s.HasReadings v.id → removeVehicle s v = .error .foreignKey) ∧
      (¬s.HasReadings v.id →
        removeVehicle s v = .ok ((), { s with vehicles := s.vehicles.erase v.id })) := by
  rw [← Store.any_readings_iff]
  exact ⟨fun h => if_pos h, fun h => if_neg h⟩

theorem removeFleet_eq (s : Store) (f : Fleet) :
    (s.HasVehicles f.id → removeFleet s f = .error .foreignKey) ∧
      (¬s.HasVehicles f.id →
        removeFleet s f = .ok ((), { s with fleets := s.fleets.erase f.id })) := by
  rw [← Store.any_vehicles_iff]
  exact ⟨fun h => if_pos h, fun h => if_neg h⟩

/-- The delete of a stored vehicle removes it. -/
theorem run_deleteVehicle (hid : Uuid.ofString? id = some u) {row : VehicleRow}
    (hrow : s.vehicles.find? u = some row) : (VehicleService.deleteVehicle id).run (exec P) s =
      commit s (removeVehicle s (Store.vehicleEntity u row)) := by
  unfold VehicleService.deleteVehicle
  rw [Prog.run_bind, run_getVehicleById, vehicleAt_of_uuid hid, hrow]
  exact Prog.run_await (exec P) (.vehicles (.remove (Store.vehicleEntity u row))) s

theorem run_deleteFleet (hid : Uuid.ofString? id = some u) {row : FleetRow}
    (hrow : s.fleets.find? u = some row) : (FleetService.deleteFleet id).run (exec P) s =
      commit s (removeFleet s (s.fleetEntity u row)) := by
  unfold FleetService.deleteFleet
  rw [Prog.run_bind, run_getFleetById, fleetAt_of_uuid hid, hrow]
  exact Prog.run_await (exec P) (.fleets (.remove (s.fleetEntity u row))) s

/-- `deleteVehicle` returns, nothing but the row of the vehicle has changed, the row is gone, and
nothing that is left refers to it. -/
def DeletesVehicle (P : Platform) (s : Store) (id : String) (u : Uuid) : Prop :=
  ∃ vehicles, (VehicleService.deleteVehicle id).run (exec P) s =
      (.ok (), { s with vehicles := vehicles }) ∧
    vehicles.find? u = none ∧ (∀ v, v ≠ u → vehicles.find? v = s.vehicles.find? v) ∧
    ¬{ s with vehicles := vehicles }.HasReadings u

/-- `deleteFleet` returns, nothing but the row of the fleet has changed, the row is gone, and
nothing that is left refers to it. -/
def DeletesFleet (P : Platform) (s : Store) (id : String) (u : Uuid) : Prop :=
  ∃ fleets, (FleetService.deleteFleet id).run (exec P) s =
      (.ok (), { s with fleets := fleets }) ∧
    fleets.find? u = none ∧ (∀ f, f ≠ u → fleets.find? f = s.fleets.find? f) ∧
    ¬{ s with fleets := fleets }.HasVehicles u

theorem deletesVehicle_of_free (hid : Uuid.ofString? id = some u) {row : VehicleRow}
    (hrow : s.vehicles.find? u = some row) (hfree : ¬s.HasReadings u) :
    DeletesVehicle P s id u := by
  refine ⟨s.vehicles.erase u, ?_, ?_, ?_, hfree⟩
  · rw [run_deleteVehicle hid hrow, (removeVehicle_eq s (Store.vehicleEntity u row)).2 hfree]
    rfl
  · rw [Keyed.Table.find?_erase, if_pos rfl]
  · intro v hv
    rw [Keyed.Table.find?_erase, if_neg hv]

theorem deletesFleet_of_free (hid : Uuid.ofString? id = some u) {row : FleetRow}
    (hrow : s.fleets.find? u = some row) (hfree : ¬s.HasVehicles u) : DeletesFleet P s id u := by
  refine ⟨s.fleets.erase u, ?_, ?_, ?_, hfree⟩
  · rw [run_deleteFleet hid hrow, (removeFleet_eq s (s.fleetEntity u row)).2 hfree]
    rfl
  · rw [Keyed.Table.find?_erase, if_pos rfl]
  · intro f hf
    rw [Keyed.Table.find?_erase, if_neg hf]

end

/-- In every state that a run of the requests reaches, every reference is one to a stored row;
a stored vehicle is deleted if no reading refers to it and a stored fleet if no vehicle does,
and otherwise the database refuses and nothing changes. -/
theorem deletes_in_every_state {ι : Type} [DecidableEq ι] (P : Platform) (s₀ : Store)
    (h₀ : s₀.Linked) (ops : ι → FleetRequest) (ms : List (Move ι Nat)) (s : Store)
    (hs : ((FleetRequest.started s₀ ops).exec (system P) ms).store = s) :
    s.Linked ∧
      (∀ id u, Uuid.ofString? id = some u → s.vehicles.find? u ≠ none →
        (¬s.HasReadings u → DeletesVehicle P s id u) ∧
        (s.HasReadings u →
          (VehicleService.deleteVehicle id).run (exec P) s = (.error .foreignKey, s))) ∧
      ∀ id f, Uuid.ofString? id = some f → s.fleets.find? f ≠ none →
        (¬s.HasVehicles f → DeletesFleet P s id f) ∧
        (s.HasVehicles f →
          (FleetService.deleteFleet id).run (exec P) s = (.error .foreignKey, s)) := by
  refine ⟨?_, ?_, ?_⟩
  · rw [← hs]
    exact FleetRequest.linked_exec P h₀ ops ms
  · intro id u hid hstored
    obtain ⟨row, hrow⟩ := Option.ne_none_iff_exists'.mp hstored
    refine ⟨deletesVehicle_of_free hid hrow, ?_⟩
    intro href
    rw [run_deleteVehicle hid hrow, (removeVehicle_eq s (Store.vehicleEntity u row)).1 href]
    rfl
  · intro id f hid hstored
    obtain ⟨row, hrow⟩ := Option.ne_none_iff_exists'.mp hstored
    refine ⟨deletesFleet_of_free hid hrow, ?_⟩
    intro href
    rw [run_deleteFleet hid hrow, (removeFleet_eq s (s.fleetEntity f row)).1 href]
    rfl

/-- A vehicle is created, and then a reading of it comes in. -/
def createAndIngest (ingests : Bool) : FleetRequest :=
  if ingests then .ingestTelemetry ⟨(Uuid.ofNat 0).text, 0, 0, 0, 0, 0, none⟩
  else .createVehicle ⟨"VIN-1", "Leaf", "Nissan", 2020, .ACTIVE, .ofNat 7⟩

/-- The store when the vehicle has been created. -/
def oneCreated : Store :=
  ((FleetRequest.started .empty createAndIngest).exec (system .plain) [.step false]).store

theorem deletes_oneCreated :
    DeletesVehicle .plain oneCreated (Uuid.ofNat 0).text (Uuid.ofNat 0) := by
  refine ((deletes_in_every_state .plain .empty Store.linked_empty createAndIngest [.step false]
    oneCreated rfl).2.1 (Uuid.ofNat 0).text (Uuid.ofNat 0) (by decide +kernel)
    (by decide +kernel)).1 ?_
  rintro ⟨r, hr, -⟩
  cases hr

/-- The vehicle is stored and its delete is refused once the reading is stored. -/
theorem delete_refused_after_reading :
    ((FleetRequest.started .empty createAndIngest).exec (system .plain)
        [.step false, .step true, .step true, .step true, .step true]).store.vehicles.find?
      (.ofNat 0) ≠ none ∧
    ((VehicleService.deleteVehicle (Uuid.ofNat 0).text).run (exec .plain)
      ((FleetRequest.started .empty createAndIngest).exec (system .plain)
        [.step false, .step true, .step true, .step true, .step true]).store).1 ≠ .ok () := by
  decide +kernel

end VoltFleet
