import VoltFleet.PlainPlatform
import VoltFleet.Vehicle.Proofs.Operations

/-!
# Deleted rows

`save` inserts an entity whose key has no row.  Where a save runs after the row
it was loaded from has been removed, the row is back; in a run in which every
save finds its row stored, what a delete has removed stays removed.
-/

namespace VoltFleet

open Awaiting

namespace FleetOp

/-- The row of a delete is not stored. -/
def Deleted : FleetOp → Store → Prop
  | .deleteVehicle id, s => ∀ u, Uuid.ofString? id = some u → s.vehicles.find? u = none
  | .deleteFleet id, s => ∀ u, Uuid.ofString? id = some u → s.fleets.find? u = none
  | _, _ => True

/-- A save finds the row of its entity stored. -/
def updatesStored (s : Store) : Cmd → Bool
  | .vehicles (.save v) => (s.vehicles.find? v.id).isSome
  | .fleets (.save f) => (s.fleets.find? f.id).isSome
  | _ => true

/-- The move is no save, or one whose row is still stored. -/
def savesStored {ι : Type} (cfg : Serving ι Unit) : Move ι Nat → Bool
  | .step i =>
      match cfg.threads i with
      | .call c _ => updatesStored cfg.store c
      | _ => true
  | _ => true

/-- Keys without a row in the old store have none in the new one. -/
structure NoNewRows (s s' : Store) : Prop where
  vehicles : ∀ {id}, s.vehicles.find? id = none → s'.vehicles.find? id = none
  fleets : ∀ {id}, s.fleets.find? id = none → s'.fleets.find? id = none

theorem NoNewRows.refl (s : Store) : NoNewRows s s := ⟨id, id⟩

theorem NoNewRows.deleted {s s' : Store} (h : NoNewRows s s') {op : FleetOp}
    (hd : op.Deleted s) : op.Deleted s' := by
  cases op with
  | deleteVehicle id => exact fun u hu => h.vehicles (hd u hu)
  | deleteFleet id => exact fun u hu => h.fleets (hd u hu)
  | updateVehicle id dto => trivial
  | assignVehicleToFleet fleetId vehicleId => trivial
  | updateFleet id dto => trivial

theorem noNewRows_saveVehicle {s : Store} {v : Vehicle}
    (hv : (s.vehicles.find? v.id).isSome = true) :
    NoNewRows s (commit s (saveVehicle P s v)).2 := by
  refine commit_snd (.refl s) fun v' s' h => ⟨fun {id} hid => ?_, fun {id} hid => ?_⟩
  · have hne : id ≠ v.id := by
      rintro rfl
      rw [hid] at hv
      cases hv
    rw [saveVehicle_find?_ne h hne]
    exact hid
  · obtain ⟨row, vehicles, -, -, -, rfl⟩ := saveVehicle_ok h
    exact hid

theorem noNewRows_saveFleet {s : Store} {f : Fleet} (hf : (s.fleets.find? f.id).isSome = true) :
    NoNewRows s (commit s (saveFleet P s f)).2 := by
  refine commit_snd (.refl s) fun f' s' h => ⟨fun hid => saveFleet_vehicles_none h hid, ?_⟩
  intro id hid
  have hne : id ≠ f.id := by
    rintro rfl
    rw [hid] at hf
    cases hf
  rw [saveFleet_find?_ne h hne]
  exact hid

theorem noNewRows_removeVehicle (s : Store) (v : Vehicle) :
    NoNewRows s (commit s (removeVehicle s v)).2 := by
  refine commit_snd (.refl s) fun u s' h => ?_
  cases removeVehicle_ok h
  refine ⟨fun {id} hid => ?_, id⟩
  rw [Keyed.Table.find?_erase, hid]
  exact ite_self none

theorem noNewRows_removeFleet (s : Store) (f : Fleet) :
    NoNewRows s (commit s (removeFleet s f)).2 := by
  refine commit_snd (.refl s) fun u s' h => ?_
  cases removeFleet_ok h
  refine ⟨id, fun {id} hid => ?_⟩
  rw [Keyed.Table.find?_erase, hid]
  exact ite_self none

/-- A command of an operation adds no row if a save among them finds its row stored. -/
theorem Awaits.noNewRows {op : FleetOp} {c : Cmd} (h : Awaits op c) (P : Platform) {s : Store}
    (hs : updatesStored s c = true) : NoNewRows s (exec P c s).2 := by
  cases h with
  | findVehicle id => exact .refl s
  | findFleet id => exact .refl s
  | write hw =>
    cases hw with
    | updateVehicle v hv hf => exact noNewRows_saveVehicle hs
    | deleteVehicle v hv => exact noNewRows_removeVehicle s v
    | assignVehicleToFleet f v hf hv => exact noNewRows_saveVehicle hs
    | updateFleet f hf => exact noNewRows_saveFleet hs
    | deleteFleet f hf => exact noNewRows_removeFleet s f

/-- A delete that returns has removed its row. -/
theorem At.deleted {op : FleetOp} {c : Cmd} {k : Except Thrown c.Answer → Service Unit}
    (h : At op (.call c k)) (P : Platform) {s : Store}
    (hret : k (exec P c s).1 = .ret ()) : op.Deleted (exec P c s).2 := by
  obtain ⟨hw, a, ha⟩ := h.returning hret
  cases hw with
  | updateVehicle v hv hf => trivial
  | assignVehicleToFleet f v hf hv => trivial
  | updateFleet f hf => trivial
  | deleteVehicle v hv =>
    intro u hu
    cases hv.symm.trans hu
    change (commit s (removeVehicle s v)).1 = .ok a at ha
    show (commit s (removeVehicle s v)).2.vehicles.find? v.id = none
    obtain ⟨s', hr, hs'⟩ := commit_fst_eq_ok ha
    cases removeVehicle_ok hr
    rw [hs', Keyed.Table.find?_erase, if_pos rfl]
  | deleteFleet f hf =>
    intro u hu
    cases hf.symm.trans hu
    change (commit s (removeFleet s f)).1 = .ok a at ha
    show (commit s (removeFleet s f)).2.fleets.find? f.id = none
    obtain ⟨s', hr, hs'⟩ := commit_fst_eq_ok ha
    cases removeFleet_ok hr
    rw [hs', Keyed.Table.find?_erase, if_pos rfl]

section

variable {ι : Type} [DecidableEq ι] {P : Platform} {ops : ι → FleetOp}

/-- Every operation is at one of its points, and the row of a delete that has
returned is not stored. -/
def DeletedStay (ops : ι → FleetOp) (cfg : Serving ι Unit) : Prop :=
  Running ops cfg ∧ ∀ i, cfg.threads i = .ret () → (ops i).Deleted cfg.store

theorem deletedStay_move {cfg : Serving ι Unit} (h : DeletedStay ops cfg) (m : Move ι Nat)
    (hm : savesStored cfg m = true) : DeletedStay ops (cfg.move (system P) m) := by
  refine ⟨running_move h.1 m, ?_⟩
  refine Config.move_cases
    (motive := fun cfg => ∀ i, cfg.threads i = .ret () → (ops i).Deleted cfg.store)
    cfg m h.2 ?stepped ?faulted ?outside
  case stepped =>
    rintro i c k rfl hc
    have hat : At (ops i) (.call c k) := hc ▸ h.1 i
    rw [savesStored, hc] at hm
    exact Config.threads_deliver
      (T := fun j p => p = .ret () → (ops j).Deleted (exec P c cfg.store).2)
      (hat.deleted P) fun j _ hj => (hat.awaits.noNewRows P hm).deleted (h.2 j hj)
  case faulted =>
    rintro i c k e rfl hc -
    have hat : At (ops i) (.call c k) := hc ▸ h.1 i
    refine Config.threads_deliver (T := fun j p => p = .ret () → (ops j).Deleted cfg.store) ?_
      fun j _ => h.2 j
    rw [hat.fault]
    exact nofun
  case outside =>
    rintro x rfl j hj
    exact (⟨id, id⟩ : NoNewRows cfg.store (elapse x cfg.store)).deleted (h.2 j hj)

theorem deletedStay_exec {cfg : Serving ι Unit} (h : DeletedStay ops cfg) {ms : List (Move ι Nat)}
    (hms : Config.Along (system P) (fun cfg m => savesStored cfg m = true) cfg ms) :
    DeletedStay ops (cfg.exec (system P) ms) := by
  have step : ∀ cfg m, DeletedStay ops cfg → savesStored cfg m = true →
      DeletedStay ops (cfg.move (system P) m) := fun _ m h hm => deletedStay_move h m hm
  exact Config.exec_inv step h hms

omit [DecidableEq ι] in
theorem deletedStay_started (s : Store) (ops : ι → FleetOp) : DeletedStay ops (started s ops) :=
  ⟨running_started s ops, fun i hi => absurd hi (prog_ne_ret (ops i))⟩

/-- In a run in which every save finds its row stored, the row of a delete that
has returned is not stored at any later point. -/
theorem deleted_stays_deleted (P : Platform) (s : Store) (ops : ι → FleetOp)
    (ms ns : List (Move ι Nat))
    (hstored : Config.Along (system P) (fun cfg m => savesStored cfg m = true) (started s ops)
      (ms ++ ns))
    (i : ι) (hret : ((started s ops).exec (system P) ms).threads i = .ret ()) :
    (ops i).Deleted ((started s ops).exec (system P) (ms ++ ns)).store := by
  have hinv := deletedStay_exec (deletedStay_started s ops) hstored
  apply hinv.2 i
  rw [Config.exec_append]
  exact Config.exec_returned hret ns

end

/-- Two vehicles. -/
def twoVehicles : Store :=
  { Store.empty with
    vehicles := (((∅ : Keyed.Table Uuid VehicleRow VehicleRow.vin).put (.ofNat 1)
      ⟨"VIN-1", "Leaf", "Nissan", 2020, .ACTIVE, none, 0⟩).getD ∅ |>.put (.ofNat 2)
      ⟨"VIN-2", "Zoe", "Renault", 2021, .ACTIVE, none, 0⟩).getD ∅ }

/-- `deleteVehicle` of the first vehicle beside `updateVehicle` of the second. -/
def deleteAndUpdateOther (deletes : Bool) : FleetOp :=
  if deletes then .deleteVehicle (Uuid.ofNat 1).text
  else .updateVehicle (Uuid.ofNat 2).text
    ⟨.undefined, .value "Zoe 2", .undefined, .undefined, .undefined, .undefined⟩

/-- The other vehicle is saved after the delete. -/
theorem deleted_stays_deleted_after_update :
    (deleteAndUpdateOther true).Deleted
      ((started twoVehicles deleteAndUpdateOther).exec (system .plain)
        ([.step false, .step true, .step true] ++ [.step false, .env 1])).store :=
  deleted_stays_deleted .plain twoVehicles deleteAndUpdateOther
    [.step false, .step true, .step true] [.step false, .env 1] (by decide +kernel) true (by rfl)

/-! ## A vehicle that comes back -/

/-- One vehicle. -/
def oneVehicle : Store :=
  { Store.empty with
    vehicles := ((∅ : Keyed.Table Uuid VehicleRow VehicleRow.vin).put (.ofNat 1)
      ⟨"VIN-1", "Leaf", "Nissan", 2020, .ACTIVE, none, 0⟩).getD ∅ }

/-- `updateVehicle` with a new model, and `deleteVehicle`, on the same vehicle. -/
def updateAndDelete (deletes : Bool) : FleetOp :=
  if deletes then .deleteVehicle (Uuid.ofNat 1).text
  else .updateVehicle (Uuid.ofNat 1).text
    ⟨.undefined, .value "Leaf 2", .undefined, .undefined, .undefined, .undefined⟩

/-- The update reads the vehicle before the delete and saves it after: the vehicle is stored
although `deleteVehicle` has returned. -/
theorem deleted_vehicle_comes_back :
    ((started oneVehicle updateAndDelete).exec (system .plain)
        [.step false, .step true, .step true]).threads true = .ret () ∧
      ¬ (updateAndDelete true).Deleted
        ((started oneVehicle updateAndDelete).exec (system .plain)
          ([.step false, .step true, .step true] ++ [.step false])).store := by
  refine ⟨by rfl, fun h => ?_⟩
  have hnone := h (.ofNat 1) (by decide +kernel)
  revert hnone
  decide +kernel

end FleetOp

end VoltFleet
