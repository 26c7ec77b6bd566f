import VoltFleet.PlainPlatform
import VoltFleet.Vehicle.Proofs.Reads
import VoltFleet.Vehicle.Proofs.Writes

/-!
# Summaries of fleets

`getFleetSummary` counts the vehicles of a fleet, which are found through the
references the vehicles hold.  `assignVehicleToFleet` rewrites one reference, so
that one vehicle moves from the counts of its former fleet to those of the new one.
-/

namespace VoltFleet

open Awaiting

/-- What `getFleetSummary` answers. -/
def summaryOf (P : Platform) (s : Store) (id : String) : Except Thrown FleetSummary :=
  ((FleetService.getFleetSummary id).run (exec P) s).1

/-- The summary of a fleet with one more vehicle. -/
def FleetSummary.gain (active : Bool) (a : FleetSummary) : FleetSummary :=
  { a with
    totalVehicles := a.totalVehicles + 1
    activeVehicles := a.activeVehicles + if active then 1 else 0
    inactiveVehicles := a.inactiveVehicles + if active then 0 else 1 }

/-! ## The counts -/

/-- The vehicles among these that are of fleet `f`. -/
def vehicleCount (f : Uuid) (rows : List (Uuid × VehicleRow)) : Nat :=
  rows.countP fun e => e.2.fleetId = some f

/-- The active ones among them. -/
def activeCount (f : Uuid) (rows : List (Uuid × VehicleRow)) : Nat :=
  rows.countP fun e => e.2.fleetId = some f ∧ e.2.status = .ACTIVE

theorem activeCount_le (f : Uuid) (rows : List (Uuid × VehicleRow)) :
    activeCount f rows ≤ vehicleCount f rows := by
  refine List.countP_mono_left ?_
  intro e _ he
  exact decide_eq_true (of_decide_eq_true he).1

/-- The summary of a fleet of these vehicles. -/
def summaryFrom (id : String) (f : Uuid) (rows : List (Uuid × VehicleRow)) : FleetSummary :=
  ⟨id, vehicleCount f rows, activeCount f rows, vehicleCount f rows - activeCount f rows⟩

theorem summaryFrom_congr {id : String} {f : Uuid} {rows rows' : List (Uuid × VehicleRow)}
    (h : rows.Perm rows') : summaryFrom id f rows = summaryFrom id f rows' := by
  have htotal : vehicleCount f rows = vehicleCount f rows' := h.countP_eq _
  have hactive : activeCount f rows = activeCount f rows' := h.countP_eq _
  rw [summaryFrom, htotal, hactive, summaryFrom]

/-- A vehicle of the fleet counts. -/
theorem summaryFrom_cons_self {id : String} {f u : Uuid} {row : VehicleRow}
    {rows : List (Uuid × VehicleRow)} (h : row.fleetId = some f) :
    summaryFrom id f ((u, row) :: rows) =
      (summaryFrom id f rows).gain (decide (row.status = .ACTIVE)) := by
  have hle := activeCount_le f rows
  have htotal : vehicleCount f ((u, row) :: rows) = vehicleCount f rows + 1 :=
    List.countP_cons_of_pos (decide_eq_true h)
  by_cases hactive : row.status = .ACTIVE
  · have hcount : activeCount f ((u, row) :: rows) = activeCount f rows + 1 :=
      List.countP_cons_of_pos (decide_eq_true ⟨h, hactive⟩)
    simp only [summaryFrom, FleetSummary.gain, htotal, hcount, hactive, decide_true, if_true,
      FleetSummary.mk.injEq, true_and]
    omega
  · have hcount : activeCount f ((u, row) :: rows) = activeCount f rows :=
      List.countP_cons_of_neg (by simp [hactive])
    simp only [summaryFrom, FleetSummary.gain, htotal, hcount, hactive, decide_false,
      Bool.false_eq_true, if_false, FleetSummary.mk.injEq, true_and]
    omega

/-- A vehicle of another fleet does not. -/
theorem summaryFrom_cons_of_ne {id : String} {f u : Uuid} {row : VehicleRow}
    {rows : List (Uuid × VehicleRow)} (h : row.fleetId ≠ some f) :
    summaryFrom id f ((u, row) :: rows) = summaryFrom id f rows := by
  have htotal : vehicleCount f ((u, row) :: rows) = vehicleCount f rows :=
    List.countP_cons_of_neg (by simp [h])
  have hcount : activeCount f ((u, row) :: rows) = activeCount f rows :=
    List.countP_cons_of_neg (by simp [h])
  rw [summaryFrom, htotal, hcount, summaryFrom]

section

variable {P : Platform} {s : Store} {id : String} {f : Uuid}

theorem run_getFleetSummary : summaryOf P s id =
    (foundOr ("Fleet with ID " ++ id ++ " not found") (fleetAt id s)).map fun fleet =>
      let vehicles := fleet.vehicles.getD []
      let active := (vehicles.filter fun v => v.status = .value .ACTIVE).length
      ⟨id, vehicles.length, active, vehicles.length - active⟩ := by
  unfold summaryOf FleetService.getFleetSummary
  rw [Prog.run_bind, run_getFleetById]
  cases foundOr ("Fleet with ID " ++ id ++ " not found") (fleetAt id s) <;> rfl

/-- The summary of a stored fleet counts the rows that refer to it. -/
theorem summaryOf_stored (hid : Uuid.ofString? id = some f) {fleet : FleetRow}
    (hfleet : s.fleets.find? f = some fleet) :
    summaryOf P s id = .ok (summaryFrom id f s.vehicles.toList) := by
  have htotal : (s.vehiclesOf f).length = vehicleCount f s.vehicles.toList := by
    rw [Store.vehiclesOf, List.length_map, vehicleCount,
      List.countP_eq_length_filter]
  have hactive : ((s.vehiclesOf f).filter fun v => v.status = .value .ACTIVE).length =
      activeCount f s.vehicles.toList := by
    rw [Store.vehiclesOf, List.filter_map, List.length_map, List.filter_filter, activeCount,
      List.countP_eq_length_filter]
    refine congrArg List.length (List.filter_congr ?_)
    intro e _
    simp [Store.vehicleEntity, and_comm]
  rw [run_getFleetSummary, fleetAt_of_uuid hid, hfleet]
  show Except.ok (⟨id, (s.vehiclesOf f).length,
    ((s.vehiclesOf f).filter fun v => v.status = .value .ACTIVE).length,
    (s.vehiclesOf f).length -
      ((s.vehiclesOf f).filter fun v => v.status = .value .ACTIVE).length⟩ : FleetSummary) = _
  rw [htotal, hactive]
  rfl

/-- A summary depends on the fleets and the vehicles only. -/
theorem summaryOf_missing (hmissing : ∀ g, Uuid.ofString? id = some g → s.fleets.find? g = none)
    {s' : Store} (hfleets : s'.fleets = s.fleets) : summaryOf P s' id = summaryOf P s id := by
  rw [run_getFleetSummary, run_getFleetSummary]
  have hsame : foundOr ("Fleet with ID " ++ id ++ " not found") (fleetAt id s') =
      foundOr ("Fleet with ID " ++ id ++ " not found") (fleetAt id s) := by
    cases hid : Uuid.ofString? id with
    | none => rw [fleetAt_of_none hid, fleetAt_of_none hid]
    | some g =>
      rw [fleetAt_of_uuid hid, fleetAt_of_uuid hid, hfleets, hmissing g hid]
      rfl
  rw [hsame]

end

/-! ## Moving a vehicle -/

/-- The summaries after a vehicle with this row has been moved to fleet `f`. -/
structure SummariesMoved (P : Platform) (s s' : Store) (row : VehicleRow) (f : Uuid) : Prop where
  stayed : row.fleetId = some f → ∀ id, summaryOf P s' id = summaryOf P s id
  joined : row.fleetId ≠ some f → ∀ id, Uuid.ofString? id = some f →
    summaryOf P s' id = (summaryOf P s id).map (.gain (decide (row.status = .ACTIVE)))
  left : row.fleetId ≠ some f → ∀ id g, Uuid.ofString? id = some g → row.fleetId = some g →
    summaryOf P s id = (summaryOf P s' id).map (.gain (decide (row.status = .ACTIVE)))
  others : ∀ id, (∀ g, Uuid.ofString? id = some g → g ≠ f ∧ row.fleetId ≠ some g) →
    summaryOf P s' id = summaryOf P s id

/-- The summary of a fleet before and after: an error both times, or the counts of the rows, with
the one of the vehicle in front of the others. -/
theorem summaryOf_moved {P : Platform} {s : Store} {f v g : Uuid} {row : VehicleRow} {id : String}
    {vehicles : Keyed.Table Uuid VehicleRow VehicleRow.vin}
    (hrow : s.vehicles.find? v = some row)
    (hput : s.vehicles.put v { row with fleetId := some f } = some vehicles)
    (hid : Uuid.ofString? id = some g) :
    (∃ e, summaryOf P s id = .error e ∧
        summaryOf P { s with vehicles := vehicles } id = .error e) ∨
      summaryOf P s id = .ok (summaryFrom id g ((v, row) :: (s.vehicles.erase v).toList)) ∧
        summaryOf P { s with vehicles := vehicles } id = .ok (summaryFrom id g
          ((v, { row with fleetId := some f }) :: (s.vehicles.erase v).toList)) := by
  have hbefore := Keyed.Table.toList_perm_erase hrow
  have hafter := Keyed.Table.toList_put_perm hput
  cases hfleet : s.fleets.find? g with
  | none =>
    have hmissing : ∀ g', Uuid.ofString? id = some g' → s.fleets.find? g' = none := by
      intro g' hid'
      cases hid.symm.trans hid'
      exact hfleet
    have hsame : summaryOf P { s with vehicles := vehicles } id = summaryOf P s id :=
      summaryOf_missing hmissing rfl
    have herror : ∃ e, summaryOf P s id = .error e := by
      rw [run_getFleetSummary, fleetAt_of_uuid hid, hfleet]
      exact ⟨_, rfl⟩
    obtain ⟨e, he⟩ := herror
    exact .inl ⟨e, he, hsame.trans he⟩
  | some fleet =>
    right
    rw [summaryOf_stored hid hfleet,
      summaryOf_stored (s := { s with vehicles := vehicles }) hid hfleet,
      summaryFrom_congr hbefore, summaryFrom_congr hafter]
    exact ⟨rfl, rfl⟩

/-- An id that is no UUID is refused before and after. -/
theorem summaryOf_of_none {P : Platform} {s s' : Store} {id : String}
    (hid : Uuid.ofString? id = none) (hfleets : s'.fleets = s.fleets) :
    summaryOf P s' id = summaryOf P s id :=
  summaryOf_missing (by simp [hid]) hfleets

theorem summariesMoved {P : Platform} {s : Store} {f v : Uuid} {row : VehicleRow}
    {vehicles : Keyed.Table Uuid VehicleRow VehicleRow.vin}
    (hrow : s.vehicles.find? v = some row)
    (hput : s.vehicles.put v { row with fleetId := some f } = some vehicles) :
    SummariesMoved P s { s with vehicles := vehicles } row f := by
  refine ⟨?stayed, ?joined, ?left, ?others⟩
  case stayed =>
    intro hstays id
    have hsame : ({ row with fleetId := some f } : VehicleRow) = row := by rw [← hstays]
    cases hid : Uuid.ofString? id with
    | none => exact summaryOf_of_none hid rfl
    | some g =>
      rcases summaryOf_moved (P := P) hrow hput hid with ⟨e, he, he'⟩ | ⟨hs, hs'⟩
      · rw [he, he']
      · rw [hs, hs', hsame]
  case joined =>
    intro hmoves id hid
    rcases summaryOf_moved (P := P) hrow hput hid with ⟨e, he, he'⟩ | ⟨hs, hs'⟩
    · rw [he, he']
      rfl
    · rw [hs, hs', summaryFrom_cons_self rfl, summaryFrom_cons_of_ne hmoves]
      rfl
  case left =>
    intro hmoves id g hid hleft
    have hne : ({ row with fleetId := some f } : VehicleRow).fleetId ≠ some g := by
      intro h
      exact hmoves (hleft.trans h.symm)
    rcases summaryOf_moved (P := P) hrow hput hid with ⟨e, he, he'⟩ | ⟨hs, hs'⟩
    · rw [he, he']
      rfl
    · rw [hs, hs', summaryFrom_cons_self hleft, summaryFrom_cons_of_ne hne]
      rfl
  case others =>
    intro id hothers
    cases hid : Uuid.ofString? id with
    | none => exact summaryOf_of_none hid rfl
    | some g =>
      obtain ⟨hf, hg⟩ := hothers g hid
      have hne : ({ row with fleetId := some f } : VehicleRow).fleetId ≠ some g := by
        intro h
        exact hf (Option.some.inj h).symm
      rcases summaryOf_moved (P := P) hrow hput hid with ⟨e, he, he'⟩ | ⟨hs, hs'⟩
      · rw [he, he']
      · rw [hs, hs', summaryFrom_cons_of_ne hne, summaryFrom_cons_of_ne hg]

/-! ## `assignVehicleToFleet` -/

section

variable {P : Platform} {s : Store} {fleetId vehicleId : String} {f v : Uuid}

/-- What is done once the fleet has been found. -/
theorem run_assign_found (hf : Uuid.ofString? fleetId = some f) {fleet : FleetRow}
    (hfleet : s.fleets.find? f = some fleet) :
    (FleetService.assignVehicleToFleet fleetId vehicleId).run (exec P) s =
      ((Service.lift (foundOr ("Vehicle with ID " ++ vehicleId ++ " not found")
          (vehicleAt vehicleId s)) : Service Vehicle) >>= fun vehicle =>
        Service.await (.vehicles (.save { vehicle with fleet := some f }))).run (exec P) s := by
  unfold FleetService.assignVehicleToFleet
  rw [Prog.run_bind, run_getFleetById, fleetAt_of_uuid hf, hfleet]
  show Prog.run (exec P) (Prog.await (.vehicles (.findOne vehicleId)) >>= _) s = _
  rw [Prog.run_bind, Prog.run_await, exec_findOne]
  rcases vehicleAt vehicleId s with e | (_ | vehicle) <;> rfl

/-- A save that keeps the texts and the year sends none of them. -/
theorem sendVehicle_of_same {old row : VehicleRow} (htexts : row.texts = old.texts)
    (hyear : row.year = old.year) : sendVehicle P (some old) row = .ok () := by
  have hnone : row.texts.filter (· ∉ ((some old).map VehicleRow.texts).getD []) = [] := by
    rw [htexts, List.filter_eq_nil_iff]
    intro text htext
    simpa using htext
  have hkept : (some row.year).filter (some · ≠ (some old).map VehicleRow.year) = none := by
    rw [hyear]
    simp
  rw [sendVehicle, hnone, hkept]
  rfl

/-- A stored vehicle is saved in a stored fleet. -/
theorem saveVehicle_assigned_fleet {fleet : FleetRow} (hfleet : s.fleets.find? f = some fleet)
    {row : VehicleRow} (hrow : s.vehicles.find? v = some row) :
    ∃ vehicles, s.vehicles.put v { row with fleetId := some f } = some vehicles ∧
      saveVehicle P s { Store.vehicleEntity v row with fleet := some f } =
        .ok ({ Store.vehicleEntity v row with fleet := some f },
          { s with vehicles := vehicles }) := by
  obtain ⟨vehicles, hput⟩ :
      ∃ t, s.vehicles.put v { row with fleetId := some f } = some t :=
    Keyed.Table.put_isSome hrow rfl
  refine ⟨vehicles, hput, ?_⟩
  have hsaved : ({ Store.vehicleEntity v row with fleet := some f } : Vehicle).savedRow s =
      .ok { row with fleetId := some f } := by
    have hfind : s.vehicles.find?
        ({ Store.vehicleEntity v row with fleet := some f } : Vehicle).id = some row := hrow
    rw [Vehicle.savedRow, hfind]
    rfl
  have href : checkReference s.fleets (some f) = .ok () := by
    rw [checkReference_eq_ok]
    rintro g hg
    cases hg
    exact ⟨fleet, hfleet⟩
  have hsent : sendVehicle P (s.vehicles.find? v) { row with fleetId := some f } = .ok () := by
    rw [hrow]
    exact sendVehicle_of_same rfl rfl
  exact bind_eq_ok.mpr ⟨_, hsaved, bind_eq_ok.mpr ⟨(), hsent, bind_eq_ok.mpr ⟨(), href,
    bind_eq_ok.mpr ⟨vehicles, putRow_eq_ok.mpr hput, rfl⟩⟩⟩⟩

/-- The assignment is refused, and nothing changes, where one of the rows is not there. -/
theorem run_assign_missing
    (hmissing : (∀ f, Uuid.ofString? fleetId = some f → s.fleets.find? f = none) ∨
      ∀ v, Uuid.ofString? vehicleId = some v → s.vehicles.find? v = none) :
    ∃ e, (FleetService.assignVehicleToFleet fleetId vehicleId).run (exec P) s = (.error e, s) ∧
      (e = .notFound ("Fleet with ID " ++ fleetId ++ " not found") ∨
        e = .notFound ("Vehicle with ID " ++ vehicleId ++ " not found") ∨
        ((Uuid.ofString? fleetId = none ∨ Uuid.ofString? vehicleId = none) ∧
          e = .invalidText)) := by
  have fleetThrows : ∀ e, fleetAt fleetId s = .error e ∨ (fleetAt fleetId s = .ok none ∧
      e = .notFound ("Fleet with ID " ++ fleetId ++ " not found")) →
      (FleetService.assignVehicleToFleet fleetId vehicleId).run (exec P) s = (.error e, s) := by
    intro e he
    unfold FleetService.assignVehicleToFleet
    rw [Prog.run_bind, run_getFleetById]
    rcases he with he | ⟨he, rfl⟩ <;> rw [he] <;> rfl
  cases hf : Uuid.ofString? fleetId with
  | none =>
    exact ⟨.invalidText, fleetThrows _ (.inl (fleetAt_of_none hf)), .inr (.inr ⟨.inl rfl, rfl⟩)⟩
  | some f =>
    cases hfleet : s.fleets.find? f with
    | none =>
      refine ⟨_, fleetThrows _ (.inr ⟨?_, rfl⟩), .inl rfl⟩
      rw [fleetAt_of_uuid hf, hfleet]
      rfl
    | some fleet =>
      have hvehicle : ∀ v, Uuid.ofString? vehicleId = some v → s.vehicles.find? v = none := by
        refine hmissing.resolve_left ?_
        intro hnone
        rw [hnone f hf] at hfleet
        cases hfleet
      rw [run_assign_found hf hfleet]
      cases hv : Uuid.ofString? vehicleId with
      | none =>
        rw [vehicleAt_of_none hv]
        exact ⟨_, rfl, .inr (.inr ⟨.inr rfl, rfl⟩)⟩
      | some v =>
        rw [vehicleAt_of_uuid hv, hvehicle v hv]
        exact ⟨_, rfl, .inr (.inl rfl)⟩

end

/-- An assignment moves one vehicle from the counts of its former fleet to those of the new one;
where the fleet or the vehicle is not there it throws, and no summary changes. -/
theorem assignment_moves_counts (P : Platform) (s : Store) (fleetId vehicleId : String) :
    (∀ f v fleet row, Uuid.ofString? fleetId = some f → Uuid.ofString? vehicleId = some v →
      s.fleets.find? f = some fleet → s.vehicles.find? v = some row →
      ∃ vehicle s', (FleetService.assignVehicleToFleet fleetId vehicleId).run (exec P) s =
        (.ok vehicle, s') ∧ SummariesMoved P s s' row f) ∧
    ((∀ f, Uuid.ofString? fleetId = some f → s.fleets.find? f = none) ∨
        (∀ v, Uuid.ofString? vehicleId = some v → s.vehicles.find? v = none) →
      ∃ e, (FleetService.assignVehicleToFleet fleetId vehicleId).run (exec P) s = (.error e, s) ∧
        (e = .notFound ("Fleet with ID " ++ fleetId ++ " not found") ∨
          e = .notFound ("Vehicle with ID " ++ vehicleId ++ " not found") ∨
          ((Uuid.ofString? fleetId = none ∨ Uuid.ofString? vehicleId = none) ∧
            e = .invalidText))) := by
  refine ⟨?_, run_assign_missing⟩
  intro f v fleet row hf hv hfleet hrow
  obtain ⟨vehicles, hput, hsave⟩ := saveVehicle_assigned_fleet hfleet hrow
  refine ⟨{ Store.vehicleEntity v row with fleet := some f }, { s with vehicles := vehicles }, ?_,
    summariesMoved hrow hput⟩
  rw [run_assign_found hf hfleet, vehicleAt_of_uuid hv, hrow]
  show Prog.run (exec P) (Prog.await
    (.vehicles (.save { Store.vehicleEntity v row with fleet := some f }))) s = _
  rw [Prog.run_await]
  show commit s (saveVehicle P s { Store.vehicleEntity v row with fleet := some f }) = _
  rw [hsave]
  rfl

/-- Two fleets, and a vehicle of the first. -/
def twoFleets : Store :=
  { Store.empty with
    fleets := (((∅ : Keyed.Table Uuid FleetRow FleetRow.name).put (.ofNat 1)
      ⟨"North", none, 0⟩).bind fun t => t.put (.ofNat 2) ⟨"South", none, 0⟩).getD ∅
    vehicles := ((∅ : Keyed.Table Uuid VehicleRow VehicleRow.vin).put (.ofNat 3)
      ⟨"VIN-1", "Leaf", "Nissan", 2020, .ACTIVE, some (.ofNat 1), 0⟩).getD ∅ }

/-- The vehicle moves from the first fleet to the second. -/
theorem assignment_moves_counts_twoFleets :
    ∃ vehicle s', (FleetService.assignVehicleToFleet (Uuid.ofNat 2).text (Uuid.ofNat 3).text).run
        (exec .plain) twoFleets = (.ok vehicle, s') ∧
      SummariesMoved .plain twoFleets s'
        ⟨"VIN-1", "Leaf", "Nissan", 2020, .ACTIVE, some (.ofNat 1), 0⟩ (.ofNat 2) :=
  (assignment_moves_counts .plain twoFleets (Uuid.ofNat 2).text (Uuid.ofNat 3).text).1
    (.ofNat 2) (.ofNat 3) ⟨"South", none, 0⟩ _ (by decide +kernel) (by decide +kernel)
    (by decide +kernel) (by decide +kernel)

/-- There is no fleet with an id that is no UUID, but what is thrown is not `NotFoundException`. -/
theorem assignment_to_no_uuid :
    ((FleetService.assignVehicleToFleet "north" (Uuid.ofNat 3).text).run (exec .plain)
      twoFleets).1.map (fun _ => ()) = .error .invalidText ∧
      ∀ message, Thrown.invalidText ≠ .notFound message := by
  refine ⟨by decide +kernel, fun message h => ?_⟩
  cases h

end VoltFleet
