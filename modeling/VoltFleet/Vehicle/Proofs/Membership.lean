import VoltFleet.PlainPlatform
import VoltFleet.Vehicle.Proofs.Operations

/-!
# Fleet membership under `updateFleet`

`updateFleet` saves back the vehicles it has loaded with the fleet.  The save
leaves every membership as it is exactly if the vehicles stored for the fleet
are still the loaded ones; in a run in which that is so at every save of a
fleet, the fleet of a vehicle is the one of the last assignment.
-/

namespace VoltFleet

open Awaiting

/-- The fleet of a vehicle; `none` where the vehicle has no row. -/
def Store.fleetOf (s : Store) (vehicle : Uuid) : Option (Option Uuid) :=
  (s.vehicles.find? vehicle).map VehicleRow.fleetId

/-- The vehicles stored for a fleet are those its entity was loaded with. -/
def membersLoaded (s : Store) (f : Fleet) : Bool :=
  match f.vehicles with
  | none => true
  | some vs =>
      s.vehicles.toList.all fun e => e.1 ∈ vs.map Vehicle.id ↔ e.2.fleetId = some f.id

theorem membersLoaded_iff {s : Store} {f : Fleet} :
    membersLoaded s f = true ↔ ∀ vs, f.vehicles = some vs → ∀ id row,
      s.vehicles.find? id = some row → (id ∈ vs.map Vehicle.id ↔ row.fleetId = some f.id) := by
  unfold membersLoaded
  cases f.vehicles with
  | none => simp
  | some vs =>
    simp only [List.all_eq_true, decide_eq_true_eq, Prod.forall, Keyed.Table.mem_toList,
      Option.some.injEq, forall_eq']

/-- Setting the members changes a row's fleet unless the row is a member already
or neither is nor becomes one. -/
theorem setMembers_fleetId_eq {id : Uuid} {members : List Uuid} {key : Uuid} {row : VehicleRow} :
    (setMembers id members key row).fleetId = row.fleetId ↔
      (key ∈ members ↔ row.fleetId = some id) := by
  unfold setMembers
  by_cases hm : key ∈ members
  · rw [if_pos hm]
    constructor
    · intro h
      exact ⟨fun _ => h.symm, fun _ => hm⟩
    · intro h
      exact (h.mp hm).symm
  · rw [if_neg hm]
    by_cases hf : row.fleetId = some id
    · rw [if_pos hf, hf]
      simp [hm]
    · rw [if_neg hf]
      simp [hm, hf]

/-- The save of a fleet moves no vehicle exactly if its members are the loaded ones. -/
theorem saveFleet_fleetOf_iff {P : Platform} {s s' : Store} {f f' : Fleet}
    (h : saveFleet P s f = .ok (f', s')) :
    (∀ u, s'.fleetOf u = s.fleetOf u) ↔ membersLoaded s f = true := by
  obtain ⟨row, fleets, -, -, rfl⟩ := saveFleet_ok h
  rw [membersLoaded_iff]
  show (∀ u, ((saveMembers s f).find? u).map VehicleRow.fleetId = s.fleetOf u) ↔ _
  simp only [find?_saveMembers, Store.fleetOf]
  cases f.vehicles with
  | none => simp
  | some vs =>
    have one : ∀ u, (((s.vehicles.find? u).map (setMembers f.id (vs.map Vehicle.id) u)).map
        VehicleRow.fleetId = (s.vehicles.find? u).map VehicleRow.fleetId ↔
        ∀ row, s.vehicles.find? u = some row →
          (u ∈ vs.map Vehicle.id ↔ row.fleetId = some f.id)) := by
      intro u
      cases s.vehicles.find? u with
      | none => simp
      | some row =>
        rw [Option.map_some, Option.map_some, Option.map_some, Option.some.injEq,
          setMembers_fleetId_eq]
        simp
    simp only [one, Option.some.injEq, forall_eq']

/-- The save of a vehicle with a fleet puts that vehicle into it and moves no other. -/
theorem saveVehicle_fleetOf {P : Platform} {s s' : Store} {v v' : Vehicle} {f : Uuid}
    (hf : v.fleet = some f) (h : saveVehicle P s v = .ok (v', s')) (u : Uuid) :
    s'.fleetOf u = if v.id = u then some (some f) else s.fleetOf u := by
  have hfleet : ∀ row, v.savedRow s = .ok row → row.fleetId = some f := by
    intro row hrow
    rw [← (savedRow_writtenTo hrow).fleetId (by rw [hf]; exact Option.some_ne_none f), hf]
  obtain ⟨row, vehicles, hrow, -, hput, rfl⟩ := saveVehicle_ok h
  show (vehicles.find? u).map VehicleRow.fleetId = _
  by_cases hu : v.id = u
  · subst hu
    rw [Keyed.Table.find?_put_self hput, if_pos rfl, Option.map_some, hfleet row hrow]
  · rw [Keyed.Table.find?_put_ne hput (Ne.symm hu), if_neg hu]
    rfl

namespace FleetOp

/-- `updateFleet` or `assignVehicleToFleet`. -/
def concernsFleet : FleetOp → Bool
  | .updateFleet .. => true
  | .assignVehicleToFleet .. => true
  | _ => false

section

variable {ι : Type}

/-- The vehicle and the fleet of a save that `assignVehicleToFleet` has made. -/
def assigned (ops : ι → FleetOp) : Event ι Cmd Cmd.Answer Thrown → Option (Uuid × Uuid)
  | ⟨i, .vehicles (.save v), .ok _⟩ =>
      match ops i with
      | .assignVehicleToFleet .. => v.fleet.map fun f => (v.id, f)
      | _ => none
  | _ => none

/-- The fleet a vehicle was last assigned to, or else the one it had. -/
def lastFleet (ops : ι → FleetOp) (vehicle : Uuid) (original : Option (Option Uuid)) :
    List (Event ι Cmd Cmd.Answer Thrown) → Option (Option Uuid)
  | [] => original
  | e :: trace =>
      match assigned ops e with
      | some (v, f) =>
          if v = vehicle then some (some f) else lastFleet ops vehicle original trace
      | none => lastFleet ops vehicle original trace

/-- The move is no save of a fleet, or one whose members are the loaded ones. -/
def savesLoadedMembers (cfg : Serving ι Unit) : Move ι Nat → Bool
  | .step i =>
      match cfg.threads i with
      | .call (.fleets (.save f)) _ => membersLoaded cfg.store f
      | _ => true
  | _ => true

/-- Every vehicle is in the fleet it was last assigned to. -/
def Placed (ops : ι → FleetOp) (s : Store) (cfg : Serving ι Unit) : Prop :=
  Running ops cfg ∧ ∀ u, cfg.store.fleetOf u = lastFleet ops u (s.fleetOf u) cfg.trace

/-- A completed command that is no assignment leaves the last fleets as they are. -/
theorem lastFleet_cons_none {ops : ι → FleetOp} {e : Event ι Cmd Cmd.Answer Thrown}
    (he : assigned ops e = none) (u : Uuid) (original : Option (Option Uuid))
    (trace : List (Event ι Cmd Cmd.Answer Thrown)) :
    lastFleet ops u original (e :: trace) = lastFleet ops u original trace := by
  rw [lastFleet, he]

/-- One completed command of `updateFleet` or `assignVehicleToFleet`: the fleets of the
vehicles follow the assignments. -/
theorem Awaits.fleetOf {op : FleetOp} {c : Cmd} (h : Awaits op c) (hop : op.concernsFleet = true)
    {P : Platform} {s : Store} (hs : ∀ f, c = .fleets (.save f) → membersLoaded s f = true)
    {ops : ι → FleetOp} {i : ι} (hi : ops i = op) (u : Uuid) (original : Option (Option Uuid))
    (trace : List (Event ι Cmd Cmd.Answer Thrown))
    (ht : s.fleetOf u = lastFleet ops u original trace) :
    (exec P c s).2.fleetOf u = lastFleet ops u original (⟨i, c, (exec P c s).1⟩ :: trace) := by
  cases h with
  | findVehicle id =>
    rw [lastFleet_cons_none rfl]
    exact ht
  | findFleet id =>
    rw [lastFleet_cons_none rfl]
    exact ht
  | write hw =>
    cases hw with
    | updateVehicle v hv hf => cases hop
    | deleteVehicle v hv => cases hop
    | deleteFleet f hf => cases hop
    | @updateFleet id dto f hf =>
      rw [lastFleet_cons_none rfl, ← ht]
      refine commit_snd (p := fun s' => s'.fleetOf u = s.fleetOf u) rfl fun f' s' h => ?_
      exact (saveFleet_fleetOf_iff h).mpr (hs _ rfl) u
    | @assignVehicleToFleet fleetId vehicleId f v hf hv =>
      cases hr : saveVehicle P s { v with fleet := some f } with
      | error e =>
        have he : exec P (.vehicles (.save { v with fleet := some f })) s = (.error e, s) := by
          show commit s (saveVehicle P s _) = _
          rw [hr]
          rfl
        rw [he, lastFleet_cons_none rfl]
        exact ht
      | ok r =>
        obtain ⟨v', s'⟩ := r
        have he : exec P (.vehicles (.save { v with fleet := some f })) s = (.ok v', s') := by
          show commit s (saveVehicle P s _) = _
          rw [hr]
          rfl
        have ha : assigned ops ⟨i, .vehicles (.save { v with fleet := some f }), .ok v'⟩ =
            some (v.id, f) := by
          simp only [assigned, hi, Option.map_some]
        rw [he, lastFleet, ha, saveVehicle_fleetOf rfl hr, ht]

theorem placed_move [DecidableEq ι] {P : Platform} {s : Store} {ops : ι → FleetOp}
    (hops : ∀ i, (ops i).concernsFleet = true) {cfg : Serving ι Unit} (h : Placed ops s cfg)
    (m : Move ι Nat) (hm : savesLoadedMembers cfg m = true) :
    Placed ops s (cfg.move (system P) m) := by
  refine ⟨running_move h.1 m, ?_⟩
  refine Config.move_cases
    (motive := fun cfg => ∀ u, cfg.store.fleetOf u = lastFleet ops u (s.fleetOf u) cfg.trace)
    cfg m h.2 ?stepped ?faulted ?outside
  case stepped =>
    rintro i c k rfl hc u
    have hat : At (ops i) (.call c k) := hc ▸ h.1 i
    have hload : ∀ f, c = .fleets (.save f) → membersLoaded cfg.store f = true := by
      rintro f rfl
      rw [savesLoadedMembers, hc] at hm
      exact hm
    exact hat.awaits.fleetOf (hops i) hload rfl u _ _ (h.2 u)
  case faulted =>
    rintro i c k e - hc - u
    have hnone : assigned ops ⟨i, c, .error e⟩ = none := by
      unfold assigned
      split
      · rename_i heq
        cases heq
      · rfl
    rw [Config.deliver_store, Config.deliver_trace, lastFleet_cons_none hnone]
    exact h.2 u
  case outside =>
    rintro x - u
    exact h.2 u

/-- In a run of `updateFleet` and `assignVehicleToFleet` calls in which every save of a
fleet finds its members to be the loaded ones, a vehicle is always in the fleet it was
last assigned to, or else in the one it had. -/
theorem last_assignment_stays [DecidableEq ι] (P : Platform) (s : Store) (ops : ι → FleetOp)
    (hops : ∀ i, (ops i).concernsFleet = true) (ms : List (Move ι Nat))
    (hloaded : Config.Along (system P) (fun cfg m => savesLoadedMembers cfg m = true)
      (started s ops) ms) (u : Uuid) :
    ((started s ops).exec (system P) ms).store.fleetOf u =
      lastFleet ops u (s.fleetOf u) ((started s ops).exec (system P) ms).trace := by
  have step : ∀ cfg m, Placed ops s cfg → savesLoadedMembers cfg m = true →
      Placed ops s (cfg.move (system P) m) := fun _ m h hm => placed_move hops h m hm
  have init : Placed ops s (started s ops) := ⟨running_started s ops, fun _ => rfl⟩
  exact (Config.exec_inv step init hloaded).2 u

end

/-! ## An assignment that is lost -/

/-- A vehicle without a fleet, and a fleet. -/
def vehicleAndFleet : Store :=
  { Store.empty with
    fleets := ((∅ : Keyed.Table Uuid FleetRow FleetRow.name).put (.ofNat 2)
      ⟨"North", none, 0⟩).getD ∅
    vehicles := ((∅ : Keyed.Table Uuid VehicleRow VehicleRow.vin).put (.ofNat 1)
      ⟨"VIN-1", "Leaf", "Nissan", 2020, .ACTIVE, none, 0⟩).getD ∅ }

/-- `updateFleet` with a new name, and `assignVehicleToFleet`, on the same fleet. -/
def renameAndAssign (assigns : Bool) : FleetOp :=
  if assigns then .assignVehicleToFleet (Uuid.ofNat 2).text (Uuid.ofNat 1).text
  else .updateFleet (Uuid.ofNat 2).text ⟨.value "South", .undefined⟩

theorem last_assignment_stays_after_rename :
    ((started vehicleAndFleet renameAndAssign).exec (system .plain)
        [.step true, .step true, .step true, .step false, .step false]).store.fleetOf (.ofNat 1) =
      lastFleet renameAndAssign (.ofNat 1) (vehicleAndFleet.fleetOf (.ofNat 1))
        ((started vehicleAndFleet renameAndAssign).exec (system .plain)
          [.step true, .step true, .step true, .step false, .step false]).trace :=
  last_assignment_stays .plain vehicleAndFleet renameAndAssign (by decide +kernel)
    [.step true, .step true, .step true, .step false, .step false] (by decide +kernel) (.ofNat 1)

/-- The rename loads the fleet before the assignment and saves it after: both calls have
returned, and the vehicle is not in the fleet it was last assigned to. -/
theorem assignment_lost_to_rename :
    (∀ i, ((started vehicleAndFleet renameAndAssign).exec (system .plain)
        [.step false, .step true, .step true, .step true, .step false]).threads i = .ret ()) ∧
      ((started vehicleAndFleet renameAndAssign).exec (system .plain)
        [.step false, .step true, .step true, .step true, .step false]).store.fleetOf (.ofNat 1) ≠
      lastFleet renameAndAssign (.ofNat 1) (vehicleAndFleet.fleetOf (.ofNat 1))
        ((started vehicleAndFleet renameAndAssign).exec (system .plain)
          [.step false, .step true, .step true, .step true, .step false]).trace := by
  refine ⟨fun i => ?_, by decide +kernel⟩
  cases i <;> rfl

end FleetOp

end VoltFleet
