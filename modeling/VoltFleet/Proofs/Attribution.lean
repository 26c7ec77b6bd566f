import VoltFleet.Auth.Proofs.Revocation
import VoltFleet.PlainPlatform
import VoltFleet.RequestContext

/-!
# Attribution of writes

A row is to bear the key of the user whose request has written it.  No object that
is saved has the properties `createdBy` and `updatedBy`, whose columns are not
selected, so that the subscriber stamps nothing, whatever the storage holds.
-/

namespace VoltFleet

open Awaiting

namespace Stamped

variable (x x' : Stamped) (t : BaseEntity) (id : Uuid)

/-- The row is new. -/
def Inserts : Prop := x.store.row? t id = none ∧ x'.store.row? t id ≠ none

/-- The row was there and has changed. -/
def Updates : Prop :=
  x.store.row? t id ≠ none ∧ x'.store.row? t id ≠ none ∧ x.store.row? t id ≠ x'.store.row? t id

/-- The stamp a row had: a new one has none. -/
def had : Stamp := ((x.store.row? t id).map fun _ => x.stamps t id).getD .blank

end Stamped

/-- What a command of a request with this user does to the stamps. -/
structure Attributed (user : Option Uuid) (x x' : Stamped) : Prop where
  inserted : ∀ u, user = some u → ∀ t id, x.Inserts x' t id →
    x'.stamps t id = ⟨some u.text, some u.text⟩
  updated : ∀ u, user = some u → ∀ t id, x.Updates x' t id →
    x'.stamps t id = ⟨(x.stamps t id).createdBy, some u.text⟩
  /-- No other key is stamped. -/
  creator : ∀ t id v, x'.store.row? t id ≠ none → (x'.stamps t id).createdBy = some v →
    (x.had t id).createdBy = some v ∨ user.map Uuid.text = some v
  updater : ∀ t id v, x'.store.row? t id ≠ none → (x'.stamps t id).updatedBy = some v →
    (x.had t id).updatedBy = some v ∨ user.map Uuid.text = some v
  unauthenticated : user = none → ∀ t id, x'.store.row? t id ≠ none →
    x'.stamps t id = x.had t id

/-- The command inserts no row, and changes only rows that the user has changed last. -/
def NothingToStamp (user : Option Uuid) (x x' : Stamped) : Prop :=
  ∀ u, user = some u → ∀ t id, ¬x.Inserts x' t id ∧
    (x.Updates x' t id → (x.stamps t id).updatedBy = some u.text)

/-! ## Objects without the properties -/

namespace Properties

/-- The object has neither property. -/
def Unstamped (props : Properties) : Prop := ¬props.Has "createdBy" ∧ ¬props.Has "updatedBy"

variable {props : Properties} {name value : String}

theorem stamp_of_not_has (h : ¬props.Has name) : props.stamp name value = props := if_neg h

theorem lookup_of_not_has (h : ¬props.Has name) : props.lookup name = none := by
  rw [List.lookup_eq_none_iff]
  intro e he
  rw [bne_iff_ne]
  intro hname
  exact h (List.mem_map.mpr ⟨e, he, hname.symm⟩)

theorem column_of_not_has (h : ¬props.Has name) (old : Option String) :
    props.column name old = old := by
  rw [column, lookup_of_not_has h]

/-- Every property is one of these. -/
def Within (names : List String) (props : Properties) : Prop :=
  ∀ name, props.Has name → name ∈ names

variable {names : List String}

@[simp] theorem within_nil : Within names [] := by
  intro name hname
  cases hname

@[simp] theorem within_cons {value : Plain} :
    Within names ((name, value) :: props) ↔ name ∈ names ∧ props.Within names := by
  simp only [Within, Has, List.map_cons, List.forall_mem_cons]

@[simp] theorem within_append {props' : Properties} :
    Within names (props ++ props') ↔ props.Within names ∧ Within names props' := by
  simp only [Within, Has, List.map_append, List.forall_mem_append]

@[simp] theorem within_optional {p : Option Plain} (h : name ∈ names) :
    Within names (Plain.optional name p) := by
  cases p with
  | none => exact within_nil
  | some p => exact within_cons.mpr ⟨h, within_nil⟩

@[simp] theorem within_property {α : Type} {toPlain : α → Plain} {p : Property α}
    (h : name ∈ names) : Within names (Plain.property name toPlain p) := by
  cases p with
  | undefined => exact within_nil
  | null => exact within_cons.mpr ⟨h, within_nil⟩
  | value a => exact within_cons.mpr ⟨h, within_nil⟩

end Properties

/-- The properties that an object can have when it is saved to a row of the class. -/
def BaseEntity.names : BaseEntity → List String
  | .user => ["id", "firstName", "lastName", "email", "password", "accountStatus",
      "isEmailVerified", "userRole"]
  | .userRole => ["id", "name", "comment", "userPrivileges"]
  | .userPrivilege => ["name", "comment"]
  | .fleet => ["id", "name", "manager", "vehicles", "managerId"]
  | .vehicle => ["id", "vin", "model", "manufacturer", "year", "status", "fleet", "fleetId"]
  | .telemetry => ["vehicleId", "latitude", "longitude", "speed", "soc", "temperature", "fleetId"]

section

open Properties

theorem saved_within {c : Cmd} {t : BaseEntity} {props : Properties}
    (h : c.saved t = some props) : props.Within t.names := by
  unfold Cmd.saved at h
  split at h <;> cases h
  · simp [NewUser.properties, BaseEntity.names]
  · simp [User.properties, BaseEntity.names]
  · simp [AccessDto.properties, BaseEntity.names]
  · simp [UserRole.toPlain, Plain.props, BaseEntity.names]
  · simp [AccessDto.properties, BaseEntity.names]
  · simp [BaseEntity.names]
  · simp [Fleet.toPlain, Plain.props, BaseEntity.names]
  · simp [CreateVehicleDto.properties, BaseEntity.names]
  · simp [Vehicle.toPlain, Plain.props, BaseEntity.names]
  · simp [NewTelemetry.properties, BaseEntity.names]

/-- What is saved has neither of the properties that the subscriber stamps. -/
theorem saved_unstamped (c : Cmd) (t : BaseEntity) : ∀ props ∈ c.saved t, Unstamped props := by
  have hnames : "createdBy" ∉ t.names ∧ "updatedBy" ∉ t.names := by
    cases t <;> decide
  intro props h
  exact ⟨fun hhas => hnames.1 (saved_within h _ hhas), fun hhas => hnames.2 (saved_within h _ hhas)⟩

end

/-! ## One command -/

section

open Properties BaseEntitySubscriber

variable {userId : Option String} {props : Properties} {entity : Option Properties}

theorem beforeInsert_unstamped (h : props.Unstamped) : beforeInsert userId props = props := by
  unfold beforeInsert
  split
  · rfl
  · split
    · rfl
    · rw [stamp_of_not_has h.1, stamp_of_not_has h.2]

theorem beforeUpdate_unstamped (h : ∀ props ∈ entity, Unstamped props) :
    beforeUpdate userId entity = entity := by
  unfold beforeUpdate
  split
  next props =>
    split
    · rfl
    · rw [stamp_of_not_has (h props rfl).2]
  · rfl

theorem write_unstamped (h : props.Unstamped) (st : Stamp) : st.write props = st := by
  rw [Stamp.write, column_of_not_has h.1, column_of_not_has h.2]

/-- A row that is left behind has the stamp that it had. -/
theorem stampRow_unstamped {R : Type} [DecidableEq R] {old new : Option R} {st : Stamp}
    (h : ∀ props ∈ entity, Unstamped props) (hnew : new ≠ none) :
    stampRow userId entity old new st = (old.map fun _ => st).getD .blank := by
  unfold stampRow
  cases old with
  | none =>
    cases new with
    | none => exact absurd rfl hnew
    | some row =>
      have hempty : Unstamped (entity.getD []) := by
        cases entity with
        | none => exact ⟨List.not_mem_nil, List.not_mem_nil⟩
        | some props => exact h props rfl
      exact (congrArg _ (beforeInsert_unstamped hempty)).trans (write_unstamped hempty _)
  | some old =>
    cases new with
    | none => exact absurd rfl hnew
    | some row =>
      dsimp only
      split
      · rfl
      · rw [beforeUpdate_unstamped h]
        cases entity with
        | none => rfl
        | some props => exact write_unstamped (h props rfl) st

end

section

variable {P : Platform} {c : Handling × Cmd} {x : Stamped} {t : BaseEntity} {id : Uuid}

/-- No command changes the stamp of a row, and an inserted one has none. -/
theorem stamps_exec (h : (stampedExec P c x).2.store.row? t id ≠ none) :
    (stampedExec P c x).2.stamps t id = x.had t id :=
  stampRow_unstamped (saved_unstamped c.2 t) h

theorem had_of_inserts {x' : Stamped} (h : x.Inserts x' t id) : x.had t id = .blank := by
  rw [Stamped.had, h.1]
  rfl

theorem had_of_updates {x' : Stamped} (h : x.Updates x' t id) : x.had t id = x.stamps t id := by
  obtain ⟨row, hrow⟩ := Option.ne_none_iff_exists'.mp h.1
  rw [Stamped.had, hrow]
  rfl

/-- A command is attributed to its request exactly if there is nothing to stamp. -/
theorem attributed_exec_iff (P : Platform) (c : Handling × Cmd) (x : Stamped) :
    Attributed c.1.user x (stampedExec P c x).2 ↔
      NothingToStamp c.1.user x (stampedExec P c x).2 := by
  constructor
  · intro h u hu t id
    refine ⟨fun hinserts => ?_, fun hupdates => ?_⟩
    · have hstamp := h.inserted u hu t id hinserts
      rw [stamps_exec hinserts.2, had_of_inserts hinserts] at hstamp
      cases hstamp
    · have hstamp := h.updated u hu t id hupdates
      rw [stamps_exec hupdates.2.1, had_of_updates hupdates] at hstamp
      exact congrArg Stamp.updatedBy hstamp
  · intro h
    refine ⟨?inserted, ?updated, ?creator, ?updater, ?unauthenticated⟩
    case inserted =>
      intro u hu t id hinserts
      exact absurd hinserts (h u hu t id).1
    case updated =>
      intro u hu t id hupdates
      rw [stamps_exec hupdates.2.1, had_of_updates hupdates, ← (h u hu t id).2 hupdates]
    case creator =>
      intro t id v hrow hv
      rw [stamps_exec hrow] at hv
      exact .inl hv
    case updater =>
      intro t id v hrow hv
      rw [stamps_exec hrow] at hv
      exact .inl hv
    case unauthenticated =>
      intro _ t id hrow
      exact stamps_exec hrow

end

/-! ## All runs -/

/-- The requests before the first of them is handled. -/
def Application.started {ι : Type} (A : Application) (P : Platform) (x : Stamped)
    (requests : ι → HttpRequest) :
    Config ι (Handling × Cmd) (fun c => c.2.Answer) Thrown Unit Stamped :=
  .start x fun i => A.prog P (requests i)

section

variable {ι : Type} [DecidableEq ι]

/-- What holds of the stores before and after the command that a move completes. -/
def Completing (P : Platform) (R : Option Uuid → Stamped → Stamped → Prop)
    (cfg : Config ι (Handling × Cmd) (fun c => c.2.Answer) Thrown Unit Stamped)
    (m : Move ι Nat) : Prop :=
  ∀ i c k, m = .step i → cfg.threads i = .call c k →
    R c.1.user cfg.store (stampedExec P c cfg.store).2

/-- Every write of a run is attributed exactly if no authenticated request inserts a row, and
none changes a row that its user has not changed last. -/
theorem writes_attributed_iff (A : Application) (P : Platform) (x : Stamped)
    (requests : ι → HttpRequest) (ms : List (Move ι Nat)) :
    Config.Along (stampedSystem P) (Completing P Attributed) (A.started P x requests) ms ↔
      Config.Along (stampedSystem P) (Completing P NothingToStamp) (A.started P x requests) ms := by
  refine iff_of_eq (congrArg (fun ok =>
    Config.Along (stampedSystem P) ok (A.started P x requests) ms) ?_)
  funext cfg m
  exact propext (forall₅_congr fun i c k _ _ => attributed_exec_iff P c cfg.store)

end

/-! ## The application of `main.ts` -/

theorem RefreshCmd.row?_exec {c : Cmd} (h : RefreshCmd c) (P : Platform) (s : Store) :
    (exec P c s).2.row? = s.row? := by
  unfold RefreshCmd at h
  split at h
  · rfl
  · rfl
  · rfl
  · rfl
  · rfl
  · rfl
  · exact h.elim

/-- No request comes past the interceptor, so that nothing is written at all. -/
theorem main_writes_nothing {ι : Type} [DecidableEq ι] (P : Platform) (x : Stamped)
    (requests : ι → HttpRequest) (ms : List (Move ι Nat)) :
    ((Application.main.started P x requests).exec (stampedSystem P) ms).store.store.row? =
      x.store.row? := by
  have hissues : (Application.main.started P x requests).Issuing fun c => RefreshCmd c.2 := by
    intro i
    show (Application.main.prog P (requests i)).Issues _
    unfold Application.prog
    split
    · trivial
    · refine .bind (((authGuard_issues _).placed _).mono fun c hc => hc.2) fun user => ?_
      unfold Application.authorized
      split
      · exact .bind (Prog.issues_ofExcept _) fun _ => trivial
      · trivial
  have hstep : ∀ (c : Handling × Cmd) (y : Stamped), RefreshCmd c.2 →
      y.store.row? = x.store.row? → (stampedExec P c y).2.store.row? = x.store.row? := by
    intro c y hc hy
    exact (hc.row?_exec P y.store).trans hy
  have helapse : ∀ (d : Nat) (y : Stamped), y.store.row? = x.store.row? →
      (elapse d y.store).row? = x.store.row? := fun _ _ hy => hy
  exact (Config.Issuing.exec (S := stampedSystem P) (Q := fun y => y.store.row? = x.store.row?)
    hissues rfl hstep helapse ms).2

/-! ## A role that is created -/

namespace NewRole

/-- An account that can create roles. -/
def adminStore : Store :=
  { Store.empty with
    privileges := .single (.ofNat 9) ⟨"CAN_CREATE_ROLE", none⟩
    roles := .single (.ofNat 7) ⟨"ADMIN", none, [.ofNat 9]⟩
    users := .single (.ofNat 8)
      ⟨"Ada", "Byron", "ada@example.com", ⟨"#secret"⟩, .ACTIVE, true, some (.ofNat 7)⟩ }

/-- The administrator as loaded. -/
def admin : User :=
  ⟨.ofNat 8, "Ada", "Byron", "ada@example.com", some ⟨"#secret"⟩, .ACTIVE, true,
    some ⟨.ofNat 7, "ADMIN", none, [⟨.ofNat 9, "CAN_CREATE_ROLE", none⟩]⟩⟩

/-- A request of the administrator to create a role. -/
def request : HttpRequest :=
  { bearer := some (Platform.plain.jwt.sign ⟨⟨"ada@example.com", none⟩, 0, 36000⟩)
    route := .createRole ⟨"DRIVER", none⟩
    proceeds := true }

/-- The store with rows that have no stamps. -/
def unstamped : Stamped := ⟨adminStore, fun _ _ => .blank⟩

theorem run_authGuard :
    (VoltFleet.authGuard .plain request.bearer).run (exec .plain) adminStore =
      (.ok admin, adminStore) :=
  run_authGuard_granted ⟨_, _, rfl, JwtService.verify_eq_some.mpr ⟨rfl, by decide⟩, by rfl⟩

/-- Whatever the storage of the handler holds, the new role is not stamped. -/
theorem not_attributed {A : Application} {context : Option RequestContext}
    (h : A.intercept (some admin.id.text) = .ok context) :
    ∃ ms, ¬Config.Along (stampedSystem .plain) (Completing .plain Attributed)
      (A.started .plain unstamped fun _ : Unit => request) ms := by
  have hstep : ∀ (c : Cmd) (x : Stamped),
      (stampedExec .plain (⟨none, none⟩, c) x).1 = (exec .plain c x.store).1 ∧
        (stampedExec .plain (⟨none, none⟩, c) x).2.store = (exec .plain c x.store).2 :=
    fun _ _ => ⟨rfl, rfl⟩
  have hguard := Prog.run_placed hstep (VoltFleet.authGuard .plain request.bearer) unstamped
  rw [show unstamped.store = adminStore from rfl, run_authGuard] at hguard
  have hthread : (A.started .plain unstamped fun _ : Unit => request).threads () =
      (VoltFleet.authGuard .plain request.bearer).placed ⟨none, none⟩ >>=
        A.authorized .plain request := rfl
  rcases hrun : ((VoltFleet.authGuard .plain request.bearer).placed ⟨none, none⟩).run
    (stampedExec .plain) unstamped with ⟨r, y⟩
  rw [hrun] at hguard
  obtain ⟨rfl, hy⟩ := hguard
  obtain ⟨n, hstore, hnext, -⟩ := Config.exec_alone_bind (S := stampedSystem .plain) hthread hrun
  have hcall : ∃ k, A.authorized .plain request admin =
      .call (⟨some admin.id, context⟩, .roles (.insert ⟨"DRIVER", none⟩)) k := by
    have hrole : A.authorized .plain request admin = A.handle .plain request (some admin) := rfl
    rw [hrole, Application.handle, Option.map_some, h]
    exact ⟨_, rfl⟩
  obtain ⟨k, hcall⟩ := hcall
  refine ⟨.replicate n (.step ()) ++ [.step ()], fun halong => ?_⟩
  have hlast := (Config.along_append.mp halong).2.1 () _ _ rfl (hnext.trans hcall)
  rw [attributed_exec_iff, hstore] at hlast
  refine (hlast _ rfl .userRole (.ofNat 0)).1 ⟨?_, ?_⟩
  · rw [hy]
    decide +kernel
  · show (exec .plain (.roles (.insert ⟨"DRIVER", none⟩)) _).2.row? _ _ ≠ none
    rw [hy]
    decide +kernel

/-- A role that is created in the tests' application, or with the interceptor that is commented
out. -/
theorem not_attributed_testing :
    (∃ ms, ¬Config.Along (stampedSystem .plain) (Completing .plain Attributed)
      (Application.testing.started .plain unstamped fun _ : Unit => request) ms) ∧
    ∃ ms, ¬Config.Along (stampedSystem .plain) (Completing .plain Attributed)
      (Application.intended.started .plain unstamped fun _ : Unit => request) ms :=
  ⟨not_attributed rfl, not_attributed rfl⟩

end NewRole

end VoltFleet
