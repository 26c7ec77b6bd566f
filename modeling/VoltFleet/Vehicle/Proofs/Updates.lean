import VoltFleet.PlainPlatform
import VoltFleet.Vehicle.Proofs.Operations

/-!
# Updates of one vehicle side by side

A save writes every column its entity has set, the ones the operation has not
changed included.  It reverts none of them if they still hold what the
operation has read; in a run in which that is so at every save of a vehicle,
what an operation has written stays.
-/

namespace VoltFleet

open Awaiting

/-- The columns an update of a vehicle can set. -/
inductive VehicleColumn where
  | vin | model | manufacturer | year | status | fleetId
  deriving DecidableEq

namespace VehicleColumn

/-- Every column. -/
def all : List VehicleColumn := [.vin, .model, .manufacturer, .year, .status, .fleetId]

theorem mem_all (col : VehicleColumn) : col ∈ all := by cases col <;> decide

/-- Two rows hold the same in a column. -/
def Same : VehicleColumn → VehicleRow → VehicleRow → Prop
  | .vin, a, b => a.vin = b.vin
  | .model, a, b => a.model = b.model
  | .manufacturer, a, b => a.manufacturer = b.manufacturer
  | .year, a, b => a.year = b.year
  | .status, a, b => a.status = b.status
  | .fleetId, a, b => a.fleetId = b.fleetId

/-- Saving the entity writes nothing to the column that is not there already. -/
def keptBy (v : Vehicle) (row : VehicleRow) : VehicleColumn → Bool
  | .vin => v.vin ∈ [.undefined, .value row.vin]
  | .model => v.model ∈ [.undefined, .value row.model]
  | .manufacturer => v.manufacturer ∈ [.undefined, .value row.manufacturer]
  | .year => v.year ∈ [.undefined, .value row.year]
  | .status => v.status ∈ [.undefined, .value row.status]
  | .fleetId => v.fleet ∈ [none, row.fleetId]

end VehicleColumn

namespace FleetOp

/-- The columns an operation sets. -/
def sets : FleetOp → VehicleColumn → Bool
  | .updateVehicle _ dto, .vin => dto.vin ≠ .undefined
  | .updateVehicle _ dto, .model => dto.model ≠ .undefined
  | .updateVehicle _ dto, .manufacturer => dto.manufacturer ≠ .undefined
  | .updateVehicle _ dto, .year => dto.year ≠ .undefined
  | .updateVehicle _ dto, .status => dto.status ≠ .undefined
  | .assignVehicleToFleet .., .fleetId => true
  | _, _ => false

/-- The row holds what an operation sets in a column. -/
def Carried : FleetOp → VehicleRow → VehicleColumn → Prop
  | .updateVehicle _ dto, row, .vin => dto.vin = .value row.vin
  | .updateVehicle _ dto, row, .model => dto.model = .value row.model
  | .updateVehicle _ dto, row, .manufacturer => dto.manufacturer = .value row.manufacturer
  | .updateVehicle _ dto, row, .year => dto.year = .value row.year
  | .updateVehicle _ dto, row, .status => dto.status = .value row.status
  | .assignVehicleToFleet fleetId _, row, .fleetId => Uuid.ofString? fleetId = row.fleetId
  | _, _, _ => True

/-- The vehicle an operation updates. -/
def vehicle? : FleetOp → Option Uuid
  | .updateVehicle id _ => Uuid.ofString? id
  | .assignVehicleToFleet _ vehicleId => Uuid.ofString? vehicleId
  | _ => none

/-- What an operation has set is there after a write that keeps the column. -/
theorem Carried.of_same {op : FleetOp} {row row' : VehicleRow} {col : VehicleColumn}
    (h : op.Carried row col) (hs : col.Same row' row) : op.Carried row' col := by
  cases op <;> cases col <;> simp_all [Carried, VehicleColumn.Same]

end FleetOp

/-! ## The row a save writes -/

/-- A column that the entity keeps is not changed by its save. -/
theorem updated_same {v : Vehicle} {old row : VehicleRow} (h : v.updated old = .ok row)
    {col : VehicleColumn} (hk : col.keptBy v old = true) : col.Same row old := by
  have kept : ∀ {α : Type} {p : Property α} {x a : α}, p = .undefined ∨ p = .value x →
      p.toColumn x = .ok a → a = x := by
    rintro α p x a (rfl | rfl) h <;> cases h <;> rfl
  obtain ⟨hvin, hmodel, hmanufacturer, hyear, hstatus, hfleet, -⟩ := updated_eq_ok h
  cases col with
  | vin => exact kept (by simpa [VehicleColumn.keptBy] using hk) hvin
  | model => exact kept (by simpa [VehicleColumn.keptBy] using hk) hmodel
  | manufacturer => exact kept (by simpa [VehicleColumn.keptBy] using hk) hmanufacturer
  | year => exact kept (by simpa [VehicleColumn.keptBy] using hk) hyear
  | status => exact kept (by simpa [VehicleColumn.keptBy] using hk) hstatus
  | fleetId =>
    have hf : v.fleet = none ∨ v.fleet = old.fleetId := by
      simpa [VehicleColumn.keptBy] using hk
    show row.fleetId = old.fleetId
    rcases hf with hf | hf
    · rw [hfleet, hf, Option.none_or]
    · rw [hfleet, hf, Option.or_self]

namespace FleetOp

/-- The row of a save carries what its operation sets. -/
theorem Writes.carried {op : FleetOp} {v : Vehicle} (h : Writes op (.vehicles (.save v)))
    {row : VehicleRow} (hrow : v.WrittenTo row) {col : VehicleColumn}
    (hc : op.sets col = true) : op.Carried row col := by
  have set : ∀ {α : Type} {p q : Property α} {a : α}, q ≠ .undefined →
      (p.assign q ≠ .undefined → p.assign q = .value a) → q = .value a := by
    rintro α p q a hq h
    cases q with
    | undefined => exact absurd rfl hq
    | null => cases h nofun
    | value b => exact h nofun
  cases h with
  | updateVehicle v₀ hv hf =>
    cases col with
    | vin => exact set (of_decide_eq_true hc) hrow.vin
    | model => exact set (of_decide_eq_true hc) hrow.model
    | manufacturer => exact set (of_decide_eq_true hc) hrow.manufacturer
    | year => exact set (of_decide_eq_true hc) hrow.year
    | status => exact set (of_decide_eq_true hc) hrow.status
    | fleetId => cases hc
  | assignVehicleToFleet f v₀ hf hv =>
    cases col with
    | fleetId =>
      show Uuid.ofString? _ = row.fleetId
      rw [hf]
      exact hrow.fleetId nofun
    | _ => cases hc

/-- The vehicle of an operation is stored and carries what the operation sets. -/
def CarriedIn (op : FleetOp) (s : Store) : Prop :=
  ∃ u row, op.vehicle? = some u ∧ s.vehicles.find? u = some row ∧
    ∀ col, op.sets col = true → op.Carried row col

/-- `updateVehicle` or `assignVehicleToFleet`. -/
def updatesVehicle : FleetOp → Bool
  | .updateVehicle .. => true
  | .assignVehicleToFleet .. => true
  | _ => false

/-- The saves of these operations are saves of their vehicle. -/
theorem Writes.vehicle {op : FleetOp} {c : Cmd} (h : Writes op c)
    (hop : op.updatesVehicle = true) :
    ∃ v, c = .vehicles (.save v) ∧ op.vehicle? = some v.id := by
  cases h with
  | updateVehicle v hv hf => exact ⟨_, rfl, hv⟩
  | assignVehicleToFleet f v hf hv => exact ⟨_, rfl, hv⟩
  | deleteVehicle v hv => cases hop
  | updateFleet f hf => cases hop
  | deleteFleet f hf => cases hop

/-- An operation that returns is carried by the row it has saved. -/
theorem At.carriedIn {op : FleetOp} {c : Cmd} {k : Except Thrown c.Answer → Service Unit}
    (h : At op (.call c k)) (hop : op.updatesVehicle = true) {P : Platform} {s : Store}
    (hret : k (exec P c s).1 = .ret ()) : CarriedIn op (exec P c s).2 := by
  obtain ⟨hw, a, ha⟩ := h.returning hret
  obtain ⟨v, rfl, hv⟩ := hw.vehicle hop
  obtain ⟨s', hs, hs'⟩ := commit_fst_eq_ok (s := s) (r := saveVehicle P s v) ha
  obtain ⟨row, vehicles, hrow, -, hput, rfl⟩ := saveVehicle_ok hs
  refine ⟨v.id, row, hv, ?_, fun col hc => hw.carried (savedRow_writtenTo hrow) hc⟩
  show (commit s (saveVehicle P s v)).2.vehicles.find? v.id = some row
  rw [hs']
  exact Keyed.Table.find?_put_self hput

/-- The columns an operation does not set hold what its entity holds. -/
def keepsOthers (op : FleetOp) (v : Vehicle) (s : Store) : Bool :=
  match s.vehicles.find? v.id with
  | none => true
  | some row => VehicleColumn.all.all fun col => op.sets col || col.keptBy v row

/-- A save that keeps the other columns leaves carried what another operation has set. -/
theorem CarriedIn.saveVehicle {op op' : FleetOp} {s s' : Store} {v v' : Vehicle}
    (h : CarriedIn op s) (hsave : saveVehicle P s v = .ok (v', s'))
    (hkeep : keepsOthers op' v s = true)
    (hdisj : op.vehicle? = some v.id → ∀ col, op.sets col = true → op'.sets col = false) :
    CarriedIn op s' := by
  obtain ⟨u, row, hu, hrow, hcarried⟩ := h
  obtain ⟨row', vehicles, hrow', -, hput, rfl⟩ := saveVehicle_ok hsave
  by_cases hv : u = v.id
  · subst hv
    refine ⟨v.id, row', hu, Keyed.Table.find?_put_self hput, fun col hc => ?_⟩
    rw [keepsOthers, hrow] at hkeep
    rw [Vehicle.savedRow, hrow] at hrow'
    have hkept : col.keptBy v row = true := by
      have hor := List.all_eq_true.mp hkeep col (VehicleColumn.mem_all col)
      rwa [hdisj hu col hc, Bool.false_or] at hor
    exact (hcarried col hc).of_same (updated_same hrow' hkept)
  · exact ⟨u, row, hu, (Keyed.Table.find?_put_ne hput hv).trans hrow, hcarried⟩

/-- One completed command of an update leaves carried what another operation has set. -/
theorem Awaits.carriedIn {op op' : FleetOp} {c : Cmd} (h : Awaits op' c)
    (hop' : op'.updatesVehicle = true) {P : Platform} {s : Store} (hc : CarriedIn op s)
    (hkeep : ∀ v, c = .vehicles (.save v) → keepsOthers op' v s = true)
    (hdisj : op.vehicle? = op'.vehicle? → ∀ col, op.sets col = true → op'.sets col = false) :
    CarriedIn op (exec P c s).2 := by
  cases h with
  | findVehicle id => exact hc
  | findFleet id => exact hc
  | write hw =>
    obtain ⟨v, rfl, hv⟩ := hw.vehicle hop'
    refine commit_snd (p := CarriedIn op) hc fun v' s' hsave => ?_
    exact hc.saveVehicle hsave (hkeep v rfl) fun hu => hdisj (hu.trans hv.symm)

section

variable {ι : Type} [DecidableEq ι] {P : Platform} {ops : ι → FleetOp}

/-- The move is no save of a vehicle, or one that finds in the columns its operation
does not set what the entity holds. -/
def savesKeepOthers {ι : Type} (ops : ι → FleetOp) (cfg : Serving ι Unit) : Move ι Nat → Bool
  | .step i =>
      match cfg.threads i with
      | .call (.vehicles (.save v)) _ => keepsOthers (ops i) v cfg.store
      | _ => true
  | _ => true

/-- What the operations that have returned have set is there. -/
def AllCarried (ops : ι → FleetOp) (cfg : Serving ι Unit) : Prop :=
  Running ops cfg ∧ ∀ i, cfg.threads i = .ret () → CarriedIn (ops i) cfg.store

theorem allCarried_move (hops : ∀ i, (ops i).updatesVehicle = true)
    (hdisj : ∀ i j, i ≠ j → (ops i).vehicle? = (ops j).vehicle? →
      ∀ col, (ops i).sets col = true → (ops j).sets col = false)
    {cfg : Serving ι Unit} (h : AllCarried ops cfg) (m : Move ι Nat)
    (hm : savesKeepOthers ops cfg m = true) : AllCarried ops (cfg.move (system P) m) := by
  refine ⟨running_move h.1 m, ?_⟩
  refine Config.move_cases
    (motive := fun cfg => ∀ i, cfg.threads i = .ret () → CarriedIn (ops i) cfg.store)
    cfg m h.2 ?stepped ?faulted ?outside
  case stepped =>
    rintro i c k rfl hc
    have hat : At (ops i) (.call c k) := hc ▸ h.1 i
    have hkeep : ∀ v, c = .vehicles (.save v) → keepsOthers (ops i) v cfg.store = true := by
      rintro v rfl
      rw [savesKeepOthers, hc] at hm
      exact hm
    exact Config.threads_deliver
      (T := fun j p => p = .ret () → CarriedIn (ops j) (exec P c cfg.store).2)
      (hat.carriedIn (hops i)) fun j hij hj =>
        hat.awaits.carriedIn (hops i) (h.2 j hj) hkeep (hdisj j i hij)
  case faulted =>
    rintro i c k e - hc -
    have hat : At (ops i) (.call c k) := hc ▸ h.1 i
    refine Config.threads_deliver (T := fun j p => p = .ret () → CarriedIn (ops j) cfg.store) ?_
      fun j _ => h.2 j
    rw [hat.fault]
    exact nofun
  case outside =>
    rintro x rfl j hj
    exact h.2 j hj

/-- In a run of updates of which no two on the same vehicle set the same column, and in
which no save reverts a column, an operation that has returned is carried by its row. -/
theorem carriedIn_exec (hops : ∀ i, (ops i).updatesVehicle = true)
    (hdisj : ∀ i j, i ≠ j → (ops i).vehicle? = (ops j).vehicle? →
      ∀ col, (ops i).sets col = true → (ops j).sets col = false)
    (s : Store) (ms : List (Move ι Nat))
    (hkeep : Config.Along (system P) (fun cfg m => savesKeepOthers ops cfg m = true)
      (started s ops) ms)
    {i : ι} (hret : ((started s ops).exec (system P) ms).threads i = .ret ()) :
    CarriedIn (ops i) ((started s ops).exec (system P) ms).store := by
  have step : ∀ cfg m, AllCarried ops cfg → savesKeepOthers ops cfg m = true →
      AllCarried ops (cfg.move (system P) m) := fun _ m h hm => allCarried_move hops hdisj h m hm
  have init : AllCarried ops (started s ops) :=
    ⟨running_started s ops, fun i hi => absurd hi (prog_ne_ret (ops i))⟩
  exact (Config.exec_inv step init hkeep).2 i hret

end

end FleetOp

end VoltFleet
