import VoltFleet.Proofs.AccountRuns
import VoltFleet.Vehicle.Proofs.References
import VoltFleet.Vehicle.Proofs.Summaries
import Mathlib

/-!
# The schema over whole runs

No run of requests leaves a reference dangling, neither between accounts, roles and
privileges nor between readings, vehicles and fleets.  As every vehicle is then of a
stored fleet or of none, the summaries of all fleets account for every vehicle.
-/

namespace VoltFleet

open Awaiting

section

variable {P : Platform} {s : Store}

/-- The rows of vehicles, fleets and readings are the same. -/
structure SameFleets (s s' : Store) : Prop where
  vehicles : s'.vehicles = s.vehicles
  fleets : s'.fleets = s.fleets
  telemetry : s'.telemetry = s.telemetry

theorem SameFleets.linked {s' : Store} (h : SameFleets s s') (hs : s.Linked) : s'.Linked := by
  constructor
  · unfold Store.HasReadings
    rw [h.telemetry, h.vehicles]
    exact hs.readings
  · unfold Store.HasVehicles
    rw [h.vehicles, h.fleets]
    exact hs.vehicles

theorem users_sameFleets (c : UserCmd) : SameFleets s (c.exec P s).2 := by
  cases c with
  | insert user =>
    refine commit_snd (r := insertUser P s user) (p := SameFleets s) ⟨rfl, rfl, rfl⟩
      fun v s' h => ?_
    obtain ⟨_, _, -, -, -, -, rfl⟩ := insertUser_ok h
    exact ⟨rfl, rfl, rfl⟩
  | save user =>
    refine commit_snd (r := saveUser s user) (p := SameFleets s) ⟨rfl, rfl, rfl⟩ fun v s' h => ?_
    obtain ⟨_, _, -, -, -, rfl⟩ := saveUser_ok h
    exact ⟨rfl, rfl, rfl⟩
  | _ => exact ⟨rfl, rfl, rfl⟩

theorem roles_sameFleets (c : RoleCmd) : SameFleets s (c.exec P s).2 := by
  cases c with
  | insert dto =>
    refine commit_snd (r := insertRole P s dto) (p := SameFleets s) ⟨rfl, rfl, rfl⟩ fun v s' h => ?_
    obtain ⟨-, _, -, -, rfl⟩ := insertRole_ok h
    exact ⟨rfl, rfl, rfl⟩
  | save role =>
    refine commit_snd (r := saveRole P s role) (p := SameFleets s) ⟨rfl, rfl, rfl⟩ fun v s' h => ?_
    obtain ⟨_, -, rfl⟩ := saveRole_ok h
    exact ⟨rfl, rfl, rfl⟩
  | _ => exact ⟨rfl, rfl, rfl⟩

theorem privileges_sameFleets (c : PrivilegeCmd) : SameFleets s (c.exec P s).2 := by
  cases c with
  | insert dto =>
    refine commit_snd (r := insertPrivilege P s dto) (p := SameFleets s) ⟨rfl, rfl, rfl⟩
      fun v s' h => ?_
    obtain ⟨-, _, -, -, rfl⟩ := insertPrivilege_ok h
    exact ⟨rfl, rfl, rfl⟩
  | _ => exact ⟨rfl, rfl, rfl⟩

/-- Distinct keys divide the elements that have one of them. -/
theorem sum_countP_key {α K : Type} [DecidableEq K] (key : α → K) {ks : List K} (h : ks.Nodup)
    (l : List α) : (ks.map fun k => l.countP (key · = k)).sum = l.countP (key · ∈ ks) := by
  induction ks with
  | nil => simp
  | cons k ks ih =>
    obtain ⟨hk, hks⟩ := List.nodup_cons.mp h
    rw [List.map_cons, List.sum_cons, ih hks]
    clear ih h hks
    induction l with
    | nil => rfl
    | cons a l ihl =>
      simp only [List.countP_cons, List.mem_cons]
      by_cases ha : key a = k
      · have hnot : key a ∉ ks := ha ▸ hk
        simp only [ha, decide_true, if_true, true_or, hk, decide_false, Bool.false_eq_true,
          if_false]
        simp only [List.mem_cons] at ihl
        omega
      · simp only [ha, decide_false, Bool.false_eq_true, if_false, false_or]
        simp only [List.mem_cons] at ihl
        omega

/-- The summaries of all fleets and the vehicles without a fleet account for every vehicle, and for
every active one. -/
structure Accounted (P : Platform) (s : Store) (summaries : List FleetSummary) : Prop where
  answers : s.fleets.toList.map (fun e => summaryOf P s e.1.text) = summaries.map .ok
  total : (summaries.map FleetSummary.totalVehicles).sum +
    s.vehicles.toList.countP (·.2.fleetId = none) = s.vehicles.toList.length
  active : (summaries.map FleetSummary.activeVehicles).sum +
    s.vehicles.toList.countP (fun e => e.2.fleetId = none ∧ e.2.status = .ACTIVE) =
      s.vehicles.toList.countP (·.2.status = .ACTIVE)
  split : ∀ summary ∈ summaries,
    summary.activeVehicles + summary.inactiveVehicles = summary.totalVehicles

/-- The keys of a table are distinct. -/
theorem keys_nodup {R U : Type} {u : R → U} (t : Keyed.Table Uuid R u) :
    (t.toList.map Prod.fst).Nodup := by
  refine List.Nodup.map_on ?_ t.toList_nodup
  intro ⟨k, r⟩ h ⟨k', r'⟩ h' hk
  obtain rfl : k = k' := hk
  rw [Keyed.Table.mem_toList] at h h'
  rw [h] at h'
  cases h'
  rfl

/-- Elements each of which refers to one of the keys or to none. -/
theorem sum_countP_add_none {α : Type} (key : α → Option Uuid) {fs : List Uuid} (h : fs.Nodup)
    (rows : List α) (hrows : ∀ a ∈ rows, ∀ f, key a = some f → f ∈ fs) :
    (fs.map fun f => rows.countP (key · = some f)).sum + rows.countP (key · = none) =
      rows.length := by
  have hsum := sum_countP_key key (h.map (Option.some_injective _)) rows
  rw [List.map_map] at hsum
  have hpart : (fs.map fun f => rows.countP (key · = some f)).sum =
      rows.countP fun a => ¬decide (key a = none) = true := by
    refine hsum.trans (List.countP_congr fun a ha => ?_)
    cases hkey : key a with
    | none => simp
    | some f => simp [hrows a ha f hkey]
  rw [hpart, List.length_eq_countP_add_countP (fun a => decide (key a = none)), Nat.add_comm]

theorem accounted (h : s.Linked) : Accounted P s
    (s.fleets.toList.map fun e => summaryFrom e.1.text e.1 s.vehicles.toList) := by
  have hkeys := keys_nodup s.fleets
  have hrows : ∀ e ∈ s.vehicles.toList, ∀ f, e.2.fleetId = some f →
      f ∈ s.fleets.toList.map Prod.fst := by
    intro ⟨u, row⟩ hmem f hf
    obtain ⟨fleet, hfleet⟩ := Option.ne_none_iff_exists'.mp
      (h.vehicles f ⟨u, row, Keyed.Table.mem_toList.mp hmem, hf⟩)
    exact List.mem_map.mpr ⟨(f, fleet), Keyed.Table.mem_toList.mpr hfleet, rfl⟩
  constructor
  case answers =>
    rw [List.map_map]
    refine List.map_congr_left fun ⟨f, fleet⟩ hmem => ?_
    exact summaryOf_stored (Uuid.ofString?_text f) (Keyed.Table.mem_toList.mp hmem)
  case total =>
    have hsum := sum_countP_add_none (fun e : Uuid × VehicleRow => e.2.fleetId) hkeys
      s.vehicles.toList hrows
    rw [List.map_map] at hsum
    rw [List.map_map]
    exact hsum
  case active =>
    have hsum := sum_countP_add_none (fun e : Uuid × VehicleRow => e.2.fleetId) hkeys
      (s.vehicles.toList.filter (·.2.status = .ACTIVE))
      fun e he => hrows e (List.mem_filter.mp he).1
    rw [List.map_map, ← List.countP_eq_length_filter] at hsum
    simp only [List.countP_filter] at hsum
    rw [List.map_map]
    simpa [summaryFrom, activeCount, Function.comp_def] using hsum
  case split =>
    intro summary hmem
    obtain ⟨⟨f, fleet⟩, -, rfl⟩ := List.mem_map.mp hmem
    exact Nat.add_sub_cancel' (activeCount_le f s.vehicles.toList)

end

namespace HttpRequest

end HttpRequest

end VoltFleet
