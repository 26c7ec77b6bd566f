import VoltFleet.Proofs.Escalation
import VoltFleet.Telemetry.Proofs.History
import Mathlib.Data.List.MinMax

/-!
# The latest reading

`getLatest` answers with a reading whose time is the greatest stored for the
vehicle.  Readings are never removed, so that what it has answered once bounds
what it answers later, whoever asks and whatever is stored in between.
-/

namespace VoltFleet

open Awaiting

/-- The time of the latest reading of a vehicle; `⊥` where there is none. -/
def newest (s : Store) (vehicle : Uuid) : WithBot Nat :=
  ((readingsOf s vehicle).map TelemetryRow.createdAt).maximum

/-- The time that an answer of `findLatest` shows. -/
def shownTime (latest : Option TelemetryRow) : WithBot Nat := latest.map TelemetryRow.createdAt

/-- What a completed command has shown of a vehicle's latest reading. -/
def shown (vehicle : Uuid) : (c : Cmd) → Except Thrown c.Answer → Option (WithBot Nat)
  | .telemetry (.findLatest id), .ok latest =>
      if Uuid.ofString? id = some vehicle then some (shownTime latest) else none
  | _, _ => none

/-- The time at which a completed command has stored a reading of a vehicle. -/
def storedAt (vehicle : Uuid) : (c : Cmd) → Except Thrown c.Answer → Option (WithBot Nat)
  | .telemetry (.insert _), .ok row =>
      if row.vehicleId = vehicle then some (row.createdAt : WithBot Nat) else none
  | _, _ => none

section

variable {P : Platform} {s : Store} {vehicle : Uuid}

/-- The first reading of the sorted history has the greatest time. -/
theorem shownTime_history :
    shownTime (history P s vehicle fun _ => true).head? = newest s vehicle := by
  have hperm : ((history P s vehicle fun _ => true).map TelemetryRow.createdAt).Perm
      ((readingsOf s vehicle).map TelemetryRow.createdAt) := history_perm.map _
  have hsorted : Pages.Descending TelemetryRow.createdAt (history P s vehicle fun _ => true) :=
    history_descending
  unfold newest
  rw [← hperm.maximum_eq]
  cases hhistory : history P s vehicle fun _ => true with
  | nil => rfl
  | cons row rows =>
    rw [hhistory] at hsorted
    refine (List.maximum_eq_coe_iff.mpr ⟨List.mem_cons_self, fun t ht => ?_⟩).symm
    rcases List.mem_cons.mp ht with rfl | ht
    · exact le_rfl
    · obtain ⟨r, hr, rfl⟩ := List.mem_map.mp ht
      exact List.rel_of_pairwise_cons hsorted hr

theorem findLatest_answer {id : String} {latest : Option TelemetryRow}
    (h : (exec P (.telemetry (.findLatest id)) s).1 = .ok latest) :
    ∃ v, Uuid.ofString? id = some v ∧ latest = (history P s v fun _ => true).head? := by
  obtain ⟨v, hv, h⟩ := bind_eq_ok.mp h
  exact ⟨v, uuidParam_eq_ok.mp hv, (Except.ok.inj h).symm⟩

/-- What is shown is the newest of what is stored. -/
theorem shown_exec {c : Cmd} {t : WithBot Nat} (h : shown vehicle c (exec P c s).1 = some t) :
    t = newest s vehicle := by
  cases c with
  | telemetry c =>
    cases c with
    | findLatest id =>
      cases hanswer : (exec P (.telemetry (.findLatest id)) s).1 with
      | error e =>
        rw [hanswer] at h
        cases h
      | ok latest =>
        obtain ⟨v, hv, rfl⟩ := findLatest_answer hanswer
        rw [hanswer, shown, hv] at h
        split at h
        · next he =>
          cases he
          cases h
          exact shownTime_history
        · cases h
    | _ => cases h
  | _ => cases h

/-! ## The rows stay -/

/-- The readings that were there are there. -/
theorem rows_exec (c : Cmd) : s.telemetry.rows ⊆ (exec P c s).2.telemetry.rows := by
  have same : (exec P c s).2.telemetry = s.telemetry →
      s.telemetry.rows ⊆ (exec P c s).2.telemetry.rows := fun h => by rw [h]; exact fun _ hr => hr
  cases c with
  | users c => exact same (exec_users_telemetry c)
  | roles c => exact same (exec_roles_telemetry c)
  | privileges c => exact same (exec_privileges_telemetry c)
  | fleets c => exact same (exec_fleets_telemetry c)
  | vehicles c => exact same (exec_vehicles_telemetry c)
  | telemetry c =>
    cases c with
    | insert rec =>
      refine commit_snd (r := insertTelemetry P s rec)
        (p := fun s' => s.telemetry.rows ⊆ s'.telemetry.rows) (fun _ hr => hr) fun row s' h => ?_
      obtain ⟨-, -, -, telemetry, hrows, rfl⟩ := insertTelemetry_ok h
      show s.telemetry.rows ⊆ telemetry.rows
      rw [hrows]
      exact List.subset_cons_self _ _
    | _ => exact same rfl
  | redis c =>
    obtain ⟨cache, hstore⟩ : ∃ cache, (exec P (.redis c) s).2 = { s with cache := cache } :=
      c.exec_store s
    exact same (by rw [hstore])
  | process c => cases c <;> exact same rfl

theorem newest_mono {s' : Store} (h : s.telemetry.rows ⊆ s'.telemetry.rows) (vehicle : Uuid) :
    newest s vehicle ≤ newest s' vehicle := by
  apply List.maximum_mono
  apply List.map_subset
  intro r hr
  obtain ⟨hmem, hvehicle⟩ := List.mem_filter.mp hr
  exact List.mem_filter.mpr ⟨h hmem, hvehicle⟩

/-- A stored reading is not newer than the newest. -/
theorem storedAt_exec {c : Cmd} {t : WithBot Nat}
    (h : storedAt vehicle c (exec P c s).1 = some t) : t ≤ newest (exec P c s).2 vehicle := by
  cases c with
  | telemetry c =>
    cases c with
    | insert rec =>
      change storedAt vehicle (.telemetry (.insert rec)) (commit s (insertTelemetry P s rec)).1 =
        some t at h
      show t ≤ newest (commit s (insertTelemetry P s rec)).2 vehicle
      cases hinsert : insertTelemetry P s rec with
      | error e =>
        rw [hinsert] at h
        cases h
      | ok stored =>
        obtain ⟨row, s'⟩ := stored
        rw [hinsert, commit_ok, storedAt] at h
        obtain ⟨-, -, -, telemetry, hrows, rfl⟩ := insertTelemetry_ok hinsert
        split at h
        · next hvehicle =>
          cases h
          refine List.le_maximum_of_mem' (List.mem_map_of_mem (List.mem_filter.mpr ⟨?_, ?_⟩))
          · show row ∈ telemetry.rows
            rw [hrows]
            exact List.mem_cons_self
          · exact decide_eq_true hvehicle
        · cases h
    | _ => cases h
  | _ => cases h

end

/-! ## Runs -/

section

variable {ι : Type} [DecidableEq ι] {P : Platform} {s₀ : Store}

/-- What is shown is at least what has been shown and stored before, and the newest reading is
at least as new as all of it. -/
structure NeverBack (vehicle : Uuid) (cfg : Serving ι Unit) : Prop where
  /-- The trace lists the latest command first. -/
  answers : cfg.trace.Pairwise fun later earlier => ∀ t t',
    shown vehicle later.cmd later.answer = some t →
    (shown vehicle earlier.cmd earlier.answer = some t' ∨
      storedAt vehicle earlier.cmd earlier.answer = some t') → t' ≤ t
  bound : ∀ e ∈ cfg.trace, ∀ t, (shown vehicle e.cmd e.answer = some t ∨
    storedAt vehicle e.cmd e.answer = some t) → t ≤ newest cfg.store vehicle

theorem neverBack_deliver {vehicle : Uuid} {cfg : Serving ι Unit} (h : NeverBack vehicle cfg)
    (i : ι) {c : Cmd} (k : Except Thrown c.Answer → Service Unit) {r : Except Thrown c.Answer}
    {s : Store} (hrows : cfg.store.telemetry.rows ⊆ s.telemetry.rows)
    (hshown : ∀ t, shown vehicle c r = some t → t = newest cfg.store vehicle)
    (hstored : ∀ t, storedAt vehicle c r = some t → t ≤ newest s vehicle) :
    NeverBack vehicle (cfg.deliver i c k r s) := by
  have hmono : newest cfg.store vehicle ≤ newest s vehicle := newest_mono hrows vehicle
  refine ⟨List.pairwise_cons.mpr ⟨fun e he t t' ht ht' => ?_, h.answers⟩, ?_⟩
  · rw [hshown t ht]
    exact h.bound e he t' ht'
  · refine List.forall_mem_cons.mpr ⟨fun t ht => ?_, fun e he t ht => ?_⟩
    · rcases ht with ht | ht
      · rw [hshown t ht]
        exact hmono
      · exact hstored t ht
    · exact (h.bound e he t ht).trans hmono

theorem neverBack_exec (vehicle : Uuid) (requests : ι → HttpRequest) (ms : List (Move ι Nat)) :
    NeverBack vehicle ((HttpRequest.started P s₀ requests).exec (system P) ms) := by
  have hstart : NeverBack vehicle (HttpRequest.started P s₀ requests) :=
    ⟨.nil, fun e he => absurd he List.not_mem_nil⟩
  refine Config.exec_inv_all (fun cfg m h => ?_) hstart ms
  refine Config.move_cases (motive := NeverBack vehicle) cfg m h ?stepped ?faulted
    fun _ _ => ⟨h.answers, h.bound⟩
  case stepped =>
    intro i c k _ _
    exact neverBack_deliver h i k (rows_exec c) (fun t ht => shown_exec ht)
      fun t ht => storedAt_exec ht
  case faulted =>
    intro i c k e _ _ _
    refine neverBack_deliver h i k (fun _ hr => hr) (fun t ht => ?_) fun t ht => ?_
    · cases c with
      | telemetry c => cases c <;> cases ht
      | _ => cases ht
    · cases c with
      | telemetry c => cases c <;> cases ht
      | _ => cases ht

end

/-- In every run of requests, `getLatest` of a vehicle never answers with a reading that is older
than one it has answered with before, for whichever request, or than one that has been stored;
and it never answers that there is none afterwards. -/
theorem HttpRequest.latest_never_goes_back {ι : Type} [DecidableEq ι] (P : Platform) (s₀ : Store)
    (requests : ι → HttpRequest) (ms : List (Move ι Nat)) (vehicle : Uuid) :
    ((started P s₀ requests).exec (system P) ms).trace.Pairwise fun later earlier => ∀ t t',
      shown vehicle later.cmd later.answer = some t →
      (shown vehicle earlier.cmd earlier.answer = some t' ∨
        storedAt vehicle earlier.cmd earlier.answer = some t') → t' ≤ t :=
  (neverBack_exec vehicle requests ms).answers

end VoltFleet
