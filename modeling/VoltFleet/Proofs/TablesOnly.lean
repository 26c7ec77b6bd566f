import VoltFleet.Auth.Proofs.Users
import VoltFleet.Vehicle.Proofs.Writes

/-!
# The repositories work on the tables

What a repository answers and writes does not depend on the cache, the sessions
and the websocket server, and it changes neither these nor the clock.
-/

namespace VoltFleet

open Awaiting

/-- The tables of `s`, with what the process and the cache hold in `t`. -/
def Store.besides (s t : Store) : Store :=
  { s with cache := t.cache, sessions := t.sessions, gateway := t.gateway }

/-- A command that neither reads nor writes the cache, the sessions and the server, and leaves
the clock. -/
structure TablesOnly {β : Type} (f : Store → Except Thrown β × Store) : Prop where
  besides : ∀ s t, f (s.besides t) = ((f s).1, (f s).2.besides t)
  clock : ∀ s, (f s).2.clock = s.clock

namespace TablesOnly

variable {β : Type} {P : Platform}

/-- A query. -/
theorem reads {f : Store → Except Thrown β} (h : ∀ s t, f (s.besides t) = f s) :
    TablesOnly fun s => (f s, s) :=
  ⟨fun s t => by rw [h], fun _ => rfl⟩

/-- A query that makes a random choice. -/
theorem scans {f : Store → Except Thrown β} (h : ∀ s t, f (s.besides t) = f s) :
    TablesOnly fun s => (f s, { s with draws := s.draws + 1 }) :=
  ⟨fun s t => by rw [h]; rfl, fun _ => rfl⟩

/-- A write. -/
theorem writes {f : Store → Except Thrown (β × Store)}
    (h : ∀ s t, f (s.besides t) = (f s).map fun r => (r.1, r.2.besides t))
    (hclock : ∀ s b s', f s = .ok (b, s') → s'.clock = s.clock) :
    TablesOnly fun s => commit s (f s) := by
  constructor
  · intro s t
    rw [h]
    cases f s <;> rfl
  · intro s
    exact commit_snd (p := fun s' => s'.clock = s.clock) rfl fun b s' hs => hclock s b s' hs

theorem cache {f : Store → Except Thrown β × Store} (h : TablesOnly f) (s : Store) :
    (f s).2.cache = s.cache := by
  have hs : f s = ((f s).1, (f s).2.besides s) := h.besides s s
  rw [hs]
  rfl

theorem sessions {f : Store → Except Thrown β × Store} (h : TablesOnly f) (s : Store) :
    (f s).2.sessions = s.sessions := by
  have hs : f s = ((f s).1, (f s).2.besides s) := h.besides s s
  rw [hs]
  rfl

theorem gateway {f : Store → Except Thrown β × Store} (h : TablesOnly f) (s : Store) :
    (f s).2.gateway = s.gateway := by
  have hs : f s = ((f s).1, (f s).2.besides s) := h.besides s s
  rw [hs]
  rfl

theorem map_bind {α γ : Type} (x : Except Thrown α) (f : α → Except Thrown β) (g : β → γ) :
    (x >>= f).map g = x >>= fun a => (f a).map g := by
  cases x <;> rfl

theorem users (c : UserCmd) : TablesOnly fun s => c.exec P s := by
  cases c with
  | findOneByEmail email => exact reads fun _ _ => rfl
  | findOneById id => exact reads fun _ _ => rfl
  | findAndCount search skip take => exact reads fun _ _ => rfl
  | insert user =>
    apply writes
    · intro s t
      simp only [insertUser, map_bind]
      rfl
    · intro s v s' h
      obtain ⟨_, _, -, -, -, -, rfl⟩ := insertUser_ok h
      rfl
  | save user =>
    apply writes
    · intro s t
      simp only [saveUser, map_bind]
      rfl
    · intro s v s' h
      obtain ⟨_, _, -, -, -, rfl⟩ := saveUser_ok h
      rfl

theorem roles (c : RoleCmd) : TablesOnly fun s => c.exec P s := by
  cases c with
  | findOneByName name => exact reads fun _ _ => rfl
  | findOneById id => exact reads fun _ _ => rfl
  | findAndCount search skip take => exact reads fun _ _ => rfl
  | insert dto =>
    apply writes
    · intro s t
      simp only [insertRole, map_bind]
      rfl
    · intro s v s' h
      obtain ⟨-, _, -, -, rfl⟩ := insertRole_ok h
      rfl
  | save role =>
    apply writes
    · intro s t
      simp only [saveRole, apply_ite (Except.map _), map_bind]
      rfl
    · intro s v s' h
      obtain ⟨_, -, rfl⟩ := saveRole_ok h
      rfl

theorem privileges (c : PrivilegeCmd) : TablesOnly fun s => c.exec P s := by
  cases c with
  | findOneById id => exact reads fun _ _ => rfl
  | findAndCount search skip take => exact reads fun _ _ => rfl
  | insert dto =>
    apply writes
    · intro s t
      simp only [insertPrivilege, map_bind]
      rfl
    · intro s v s' h
      obtain ⟨-, _, -, -, rfl⟩ := insertPrivilege_ok h
      rfl

theorem fleets (c : FleetCmd) : TablesOnly fun s => c.exec P s := by
  cases c with
  | findOneWithVehicles id => exact reads fun _ _ => rfl
  | getManyAndCount skip take => exact scans fun _ _ => rfl
  | insert name manager =>
    apply writes
    · intro s t
      simp only [insertFleet, map_bind]
      rfl
    · intro s v s' h
      obtain ⟨-, -, _, -, -, rfl⟩ := insertFleet_ok h
      rfl
  | save fleet =>
    apply writes
    · intro s t
      simp only [saveFleet, map_bind]
      rfl
    · intro s v s' h
      obtain ⟨_, _, -, -, rfl⟩ := saveFleet_ok h
      rfl
  | remove fleet =>
    apply writes
    · intro s t
      show (if _ then _ else _) = Except.map _ (if _ then _ else _)
      rw [apply_ite (Except.map _)]
      rfl
    · intro s v s' h
      cases removeFleet_ok h
      rfl

theorem vehicles (c : VehicleCmd) : TablesOnly fun s => c.exec P s := by
  cases c with
  | findOne id => exact reads fun _ _ => rfl
  | getManyAndCount status fleetId skip take => exact scans fun _ _ => rfl
  | insert dto =>
    apply writes
    · intro s t
      simp only [insertVehicle, map_bind]
      rfl
    · intro s v s' h
      obtain ⟨_, _, -, -, -, rfl⟩ := insertVehicle_ok h
      rfl
  | save vehicle =>
    apply writes
    · intro s t
      simp only [saveVehicle, map_bind]
      rfl
    · intro s v s' h
      obtain ⟨_, _, -, -, -, rfl⟩ := saveVehicle_ok h
      rfl
  | remove vehicle =>
    apply writes
    · intro s t
      show (if _ then _ else _) = Except.map _ (if _ then _ else _)
      rw [apply_ite (Except.map _)]
      rfl
    · intro s v s' h
      cases removeVehicle_ok h
      rfl

theorem telemetry (c : TelemetryCmd) : TablesOnly fun s => c.exec P s := by
  cases c with
  | findLatest vehicleId => exact scans fun _ _ => rfl
  | getManyAndCount vehicleId from? to? skip take => exact scans fun _ _ => rfl
  | insert rec =>
    apply writes
    · intro s t
      simp only [insertTelemetry, map_bind]
      apply bind_congr
      intro u
      apply bind_congr
      intro _
      dsimp only [Store.besides]
      split <;> rfl
    · intro s row s' h
      obtain ⟨-, -, -, _, -, rfl⟩ := insertTelemetry_ok h
      rfl

end TablesOnly

/-- A command of one of the repositories. -/
def OnTables : Cmd → Prop
  | .redis _ => False
  | .process _ => False
  | _ => True

theorem OnTables.exec {c : Cmd} (h : OnTables c) (P : Platform) :
    TablesOnly fun s => exec P c s := by
  cases c with
  | users c => exact TablesOnly.users c
  | roles c => exact TablesOnly.roles c
  | privileges c => exact TablesOnly.privileges c
  | fleets c => exact TablesOnly.fleets c
  | vehicles c => exact TablesOnly.vehicles c
  | telemetry c => exact TablesOnly.telemetry c
  | redis c => exact h.elim
  | process c => exact h.elim

end VoltFleet
