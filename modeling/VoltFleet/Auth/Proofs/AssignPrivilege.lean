import VoltFleet.Auth.AssignPrivilege
import VoltFleet.PlainPlatform

/-!
# What `assignPrivilege` assigns

The save writes the privileges whose lookups were answered before it.  So the
outcome is the one asked for exactly if those are all the lookups that find
something, and no new privilege is found twice where the join table refuses
that.
-/

namespace VoltFleet

open Awaiting

/-- The privilege a text is the key of. -/
def Store.privilegeByText (s : Store) (id : String) : Option UserPrivilege :=
  (Uuid.ofString? id).bind s.privilege?

theorem privilege?_id {s : Store} {u : Uuid} {p : UserPrivilege} (h : s.privilege? u = some p) :
    p.id = u := by
  obtain ⟨row, -, rfl⟩ := Option.map_eq_some_iff.mp h
  rfl

/-- An entity of the store is found under its own key. -/
theorem privilege?_of_privilegeByText {s : Store} {id : String} {p : UserPrivilege}
    (h : s.privilegeByText id = some p) : s.privilege? p.id = some p := by
  obtain ⟨u, -, hp⟩ := Option.bind_eq_some_iff.mp h
  rw [privilege?_id hp]
  exact hp

/-! ## Which lookups count -/

theorem answeredFirst_subset {pending : List String} {ms : List AssignMove} :
    answeredFirst pending ms ⊆ pending := by
  induction ms generalizing pending with
  | nil => exact List.nil_subset _
  | cons m ms ih =>
    cases m with
    | resume => exact List.nil_subset _
    | lookup i =>
      unfold answeredFirst
      cases hi : pending[i]? with
      | none => exact ih
      | some id =>
        refine List.cons_subset.mpr ⟨List.mem_of_getElem? hi, ?_⟩
        exact fun x hx => List.mem_of_mem_eraseIdx (ih hx)

theorem answeredBeforeSave_subset {ids : List String} {ms : List AssignMove} :
    answeredBeforeSave ids ms ⊆ ids := by
  induction ms with
  | nil => exact List.nil_subset _
  | cons m ms ih =>
    cases m with
    | resume => exact answeredFirst_subset
    | lookup i => exact ih

namespace AssignPrivilege

variable {P : Platform} {dto : AssignPrivilegeDto} {call : AssignPrivilege}

@[simp] theorem run_nil : call.run P dto [] = call := rfl

@[simp] theorem run_cons (m : AssignMove) (ms : List AssignMove) :
    call.run P dto (m :: ms) = (call.move P dto m).run P dto ms := rfl

theorem lookup_eq (id : String) :
    call.lookup P id = { call with
      availablePrivs := call.availablePrivs ++ (call.store.privilegeByText id).toList } := by
  have hexec : (exec P (.privileges (.findOneById id)) call.store).1 =
      (do return call.store.privilege? (← uuidParam id)) := rfl
  unfold lookup Store.privilegeByText
  rw [hexec, uuidParam]
  cases Uuid.ofString? id with
  | none => simp [bind, Except.bind]
  | some u => cases hp : call.store.privilege? u <;> simp [bind, Except.bind, pure, Except.pure, hp]

/-- Nothing that happens after the call has resolved changes the store. -/
theorem run_resolved {ms : List AssignMove} (h : call.phase = .resolved) :
    (call.run P dto ms).store = call.store := by
  induction ms generalizing call with
  | nil => rfl
  | cons m ms ih =>
    have hmove : (call.move P dto m).phase = .resolved ∧
        (call.move P dto m).store = call.store := by
      cases m with
      | resume => simp [move, resume, h]
      | lookup i => cases hi : call.pending[i]? <;> simp [move, hi, lookup_eq, h]
    exact (ih hmove.1).trans hmove.2

/-- The role a call saves whose lookups have found these privileges. -/
def savedRole (role : UserRole) (privileges : List UserPrivilege) : UserRole :=
  { role with userPrivileges := privileges }

/-- A call that has loaded its role saves what the lookups answered before the save find. -/
theorem run_save {role : UserRole} {ms : List AssignMove} (h : call.phase = .save role)
    (hres : (call.run P dto ms).phase = .resolved) :
    (call.run P dto ms).store = (exec P (.roles (.save (savedRole role (call.availablePrivs ++
      (answeredFirst call.pending ms).filterMap call.store.privilegeByText)))) call.store).2 := by
  induction ms generalizing call with
  | nil =>
    rw [run_nil, h] at hres
    cases hres
  | cons m ms ih =>
    cases m with
    | resume =>
      have hmove : call.move P dto .resume = { call with
          store := (exec P (.roles (.save (savedRole role call.availablePrivs))) call.store).2
          phase := .resolved } := by
        simp only [move, resume, h]
        rfl
      rw [run_cons, run_resolved (by rw [hmove]), hmove, answeredFirst, List.filterMap_nil,
        List.append_nil]
    | lookup i =>
      rw [run_cons] at hres ⊢
      cases hi : call.pending[i]? with
      | none =>
        have hmove : call.move P dto (.lookup i) = call := by simp [move, hi]
        rw [hmove] at hres ⊢
        rw [ih h hres, answeredFirst, hi]
      | some id =>
        have hmove : call.move P dto (.lookup i) = { call with
            pending := call.pending.eraseIdx i
            availablePrivs := call.availablePrivs ++ (call.store.privilegeByText id).toList } := by
          simp [move, hi, lookup_eq]
        rw [hmove] at hres ⊢
        refine (ih ?_ hres).trans ?_
        · exact h
        · have hfound : call.availablePrivs ++ (call.store.privilegeByText id).toList ++
              (answeredFirst (call.pending.eraseIdx i) ms).filterMap call.store.privilegeByText =
              call.availablePrivs ++ (id :: answeredFirst (call.pending.eraseIdx i) ms).filterMap
                call.store.privilegeByText := by
            cases hp : call.store.privilegeByText id <;> simp [hp]
          rw [answeredFirst, hi]
          dsimp only
          rw [hfound]

/-- What a call leaves: nothing changes where no role is found, and elsewhere the role is
saved with what the lookups answered in time have found. -/
theorem run_start {s : Store} {ms : List AssignMove}
    (hres : ((start s).run P dto ms).phase = .resolved) :
    ((start s).run P dto ms).store =
      match (exec P (.roles (.findOneById dto.roleId)) s).1 with
      | .ok (some role) => (exec P (.roles (.save (savedRole role
          ((answeredBeforeSave dto.privilegeIds ms).filterMap s.privilegeByText)))) s).2
      | _ => s := by
  induction ms with
  | nil => cases hres
  | cons m ms ih =>
    cases m with
    | lookup i =>
      have hmove : (start s).move P dto (.lookup i) = start s := rfl
      have hanswered : answeredBeforeSave dto.privilegeIds (.lookup i :: ms) =
          answeredBeforeSave dto.privilegeIds ms := rfl
      rw [run_cons, hmove] at hres ⊢
      rw [hanswered]
      exact ih hres
    | resume =>
      rw [run_cons] at hres ⊢
      have hmove : (start s).move P dto .resume = (start s).resume P dto := rfl
      rw [hmove] at hres ⊢
      unfold resume start at hres ⊢
      dsimp only at hres ⊢
      split at hres
      · rename_i e hrole
        rw [hrole]
        exact run_resolved rfl
      · rename_i hrole
        rw [hrole]
        exact run_resolved rfl
      · rename_i role hrole
        rw [hrole]
        exact run_save rfl hres

/-! ## The program of a schedule -/

theorem run_lookups (P : Platform) (s : Store) (ids : List String) :
    (lookups ids).run (exec P) s = (.ok (ids.filterMap s.privilegeByText), s) := by
  induction ids with
  | nil => rfl
  | cons id ids ih =>
    have hfind : Prog.run (exec P) (do
        try Service.await (.privileges (.findOneById id))
        catch _ => pure none : Service (Option UserPrivilege)) s =
        (.ok (s.privilegeByText id), s) := by
      have hexec : exec P (.privileges (.findOneById id)) s =
          ((do return s.privilege? (← uuidParam id)), s) := rfl
      rw [Prog.run_tryCatch, Service.await, Prog.run_await, hexec, uuidParam]
      unfold Store.privilegeByText
      cases Uuid.ofString? id <;> rfl
    rw [lookups, Prog.run_bind, hfind]
    dsimp only
    rw [Prog.run_bind, ih]
    cases hp : s.privilegeByText id <;> simp [hp]

/-- In every schedule the call leaves what the program of that schedule leaves. -/
theorem run_eq_inTurn {s : Store} {ms : List AssignMove}
    (hres : ((start s).run P dto ms).phase = .resolved) :
    ((start s).run P dto ms).store =
      ((inTurn dto (answeredBeforeSave dto.privilegeIds ms)).run (exec P) s).2 := by
  have hexec : exec P (.roles (.findOneById dto.roleId)) s =
      ((exec P (.roles (.findOneById dto.roleId)) s).1, s) := rfl
  rw [run_start hres, inTurn, Prog.run_tryCatch, Prog.run_bind, Service.await, Prog.run_await,
    hexec]
  cases (exec P (.roles (.findOneById dto.roleId)) s).1 with
  | error e => rfl
  | ok role =>
    cases role with
    | none => rfl
    | some role =>
      dsimp only
      rw [Prog.run_bind, run_lookups]
      dsimp only
      rw [Prog.run_bind, Service.await, Prog.run_await]
      unfold savedRole
      rcases exec P (.roles (.save { role with userPrivileges :=
        (answeredBeforeSave dto.privilegeIds ms).filterMap s.privilegeByText })) s with ⟨r, s'⟩
      cases r <;> rfl

end AssignPrivilege

/-! ## What a save of looked-up privileges leaves -/

section

variable {P : Platform} {s : Store} {r : Uuid} {row : RoleRow} {found : List UserPrivilege}

/-- The privileges the role does not hold yet. -/
def newPrivileges (row : RoleRow) (found : List UserPrivilege) : List UserPrivilege :=
  found.filter (·.id ∉ row.privilegeIds)

theorem newJoins_nodup_iff (hfound : ∀ p ∈ found, s.privilege? p.id = some p) :
    (newJoins row.privilegeIds (AssignPrivilege.savedRole (s.roleEntity r row) found)).Nodup ↔
      (newPrivileges row found).Nodup := by
  have hjoins : newJoins row.privilegeIds (AssignPrivilege.savedRole (s.roleEntity r row) found) =
      (newPrivileges row found).map UserPrivilege.id := by
    unfold newJoins newPrivileges
    rw [List.filter_map]
    rfl
  rw [hjoins]
  constructor
  · exact List.Nodup.of_map _
  · intro h
    refine h.map_on fun p hp q hq he => ?_
    have hp' := hfound p (List.mem_of_mem_filter hp)
    have hq' := hfound q (List.mem_of_mem_filter hq)
    rw [he, hq'] at hp'
    exact (Option.some.inj hp').symm

/-- A refused save. -/
theorem saveRole_refused (hrow : s.roles.find? r = some row)
    (hfound : ∀ p ∈ found, s.privilege? p.id = some p)
    (h : P.rejectsRepeats = true ∧ ¬ (newPrivileges row found).Nodup) :
    (exec P (.roles (.save (AssignPrivilege.savedRole (s.roleEntity r row) found))) s).2 = s := by
  have hsave : saveRole P s (AssignPrivilege.savedRole (s.roleEntity r row) found) =
      .error .duplicateKey := by
    have hstored : (s.roles.find? (AssignPrivilege.savedRole (s.roleEntity r row) found).id) =
        some row := hrow
    unfold saveRole
    rw [hstored]
    exact if_pos ⟨h.1, fun hn => h.2 ((newJoins_nodup_iff hfound).mp hn)⟩
  show (commit s (saveRole P s _)).2 = s
  rw [hsave]
  rfl

/-- An accepted save. -/
theorem saveRole_accepted (hrow : s.roles.find? r = some row)
    (hfound : ∀ p ∈ found, s.privilege? p.id = some p)
    (h : P.rejectsRepeats = true → (newPrivileges row found).Nodup) :
    ∃ roles, s.roles.put r { row with privilegeIds := (found.map UserPrivilege.id).dedup } =
        some roles ∧
      (exec P (.roles (.save (AssignPrivilege.savedRole (s.roleEntity r row) found))) s).2 =
        { s with roles := roles } := by
  obtain ⟨roles, hput⟩ : ∃ roles, s.roles.put r
      { row with privilegeIds := (found.map UserPrivilege.id).dedup } = some roles :=
    Keyed.Table.put_isSome hrow rfl
  refine ⟨roles, hput, ?_⟩
  have hsave : saveRole P s (AssignPrivilege.savedRole (s.roleEntity r row) found) =
      .ok (AssignPrivilege.savedRole (s.roleEntity r row) found, { s with roles := roles }) := by
    have hstored : (s.roles.find? (AssignPrivilege.savedRole (s.roleEntity r row) found).id) =
        some row := hrow
    unfold saveRole
    rw [hstored]
    refine (if_neg fun hc => hc.2 ((newJoins_nodup_iff hfound).mpr (h hc.1))).trans ?_
    have hputRow : putRow s.roles r
        { row with privilegeIds := (found.map UserPrivilege.id).dedup } = .ok roles :=
      putRow_eq_ok.mpr hput
    show (do
      let roles ← putRow s.roles r { row with privilegeIds := (found.map UserPrivilege.id).dedup }
      return (_, { s with roles := roles })) = _
    rw [hputRow]
    rfl
  show (commit s (saveRole P s _)).2 = _
  rw [hsave]
  rfl

end

/-! ## The outcome -/

/-- The role holds exactly the existing privileges of the list, and every other role is as it
was. -/
def Assigned (s s' : Store) (r : Uuid) (ids : List String) : Prop :=
  (∃ role, s'.role? r = some role ∧
    ∀ p, p ∈ role.userPrivileges ↔ ∃ id ∈ ids, s.privilegeByText id = some p) ∧
  ∀ r', r' ≠ r → s'.role? r' = s.role? r'

section

variable {P : Platform} {s : Store} {r : Uuid} {row : RoleRow} {found : List UserPrivilege}
  {ids : List String}

theorem assigned_iff_of_put {roles : Keyed.Table Uuid RoleRow RoleRow.name}
    (hput : s.roles.put r { row with privilegeIds := (found.map UserPrivilege.id).dedup } =
      some roles) (hfound : ∀ p ∈ found, s.privilege? p.id = some p) :
    Assigned s { s with roles := roles } r ids ↔
      ∀ p, p ∈ found ↔ ∃ id ∈ ids, s.privilegeByText id = some p := by
  have hrole : ({ s with roles := roles } : Store).role? r = some (s.roleEntity r
      { row with privilegeIds := (found.map UserPrivilege.id).dedup }) := by
    show (roles.find? r).map _ = _
    rw [Keyed.Table.find?_put_self hput]
    rfl
  have hmem : ∀ p, p ∈ (s.roleEntity r { row with
      privilegeIds := (found.map UserPrivilege.id).dedup }).userPrivileges ↔ p ∈ found := by
    intro p
    show p ∈ (found.map UserPrivilege.id).dedup.filterMap s.privilege? ↔ _
    rw [List.mem_filterMap]
    constructor
    · rintro ⟨u, hu, hp⟩
      obtain ⟨q, hq, rfl⟩ := List.mem_map.mp (List.mem_dedup.mp hu)
      rw [hfound q hq] at hp
      cases hp
      exact hq
    · intro hp
      exact ⟨p.id, List.mem_dedup.mpr (List.mem_map_of_mem hp), hfound p hp⟩
  constructor
  · rintro ⟨⟨role, hr, hspec⟩, -⟩ p
    rw [hrole] at hr
    cases hr
    exact (hmem p).symm.trans (hspec p)
  · intro hspec
    refine ⟨⟨_, hrole, fun p => (hmem p).trans (hspec p)⟩, fun r' hr' => ?_⟩
    show (roles.find? r').map _ = _
    rw [Keyed.Table.find?_put_ne hput hr']
    rfl

/-- Every listed privilege that exists is found by a lookup answered before the save. -/
def AllAnswered (s : Store) (ids : List String) (ms : List AssignMove) : Prop :=
  ∀ id ∈ ids, ∀ p, s.privilegeByText id = some p →
    ∃ id' ∈ answeredBeforeSave ids ms, s.privilegeByText id' = some p

/-- The lookups answered before the save find no privilege twice that the role does not
hold. -/
def NoneTwice (s : Store) (row : RoleRow) (ids : List String) (ms : List AssignMove) : Prop :=
  (newPrivileges row ((answeredBeforeSave ids ms).filterMap s.privilegeByText)).Nodup

/-- When `assignPrivilege` has resolved, the role holds exactly the existing privileges of the
list and every other role is as it was, if and only if every lookup that finds a privilege
was answered before the save, up to repetitions, and no repetition made the join table
refuse the save. -/
theorem assigned_iff (P : Platform) (s : Store) (dto : AssignPrivilegeDto) {r : Uuid}
    {row : RoleRow} (hid : Uuid.ofString? dto.roleId = some r)
    (hrow : s.roles.find? r = some row) (ms : List AssignMove)
    (hres : ((AssignPrivilege.start s).run P dto ms).phase = .resolved) :
    Assigned s ((AssignPrivilege.start s).run P dto ms).store r dto.privilegeIds ↔
      AllAnswered s dto.privilegeIds ms ∧
        (P.rejectsRepeats = true → NoneTwice s row dto.privilegeIds ms) := by
  have hrole : (exec P (.roles (.findOneById dto.roleId)) s).1 =
      .ok (some (s.roleEntity r row)) := by
    show (do return s.role? (← uuidParam dto.roleId)) = _
    rw [uuidParam_eq_ok.mpr hid]
    show Except.ok (s.role? r) = _
    rw [Store.role?, hrow]
    rfl
  rw [AssignPrivilege.run_start hres, hrole]
  dsimp only
  generalize hanswered : (answeredBeforeSave dto.privilegeIds ms).filterMap s.privilegeByText =
    found
  have hfound : ∀ p ∈ found, s.privilege? p.id = some p := by
    intro p hp
    rw [← hanswered] at hp
    obtain ⟨id, -, hid⟩ := List.mem_filterMap.mp hp
    exact privilege?_of_privilegeByText hid
  have hlisted : ∀ p ∈ found, ∃ id ∈ dto.privilegeIds, s.privilegeByText id = some p := by
    intro p hp
    rw [← hanswered] at hp
    obtain ⟨id, hmem, hid⟩ := List.mem_filterMap.mp hp
    exact ⟨id, answeredBeforeSave_subset hmem, hid⟩
  have htwice : NoneTwice s row dto.privilegeIds ms ↔ (newPrivileges row found).Nodup := by
    rw [NoneTwice, hanswered]
  have hall : AllAnswered s dto.privilegeIds ms ↔
      ∀ p, p ∈ found ↔ ∃ id ∈ dto.privilegeIds, s.privilegeByText id = some p := by
    constructor
    · intro h p
      refine ⟨hlisted p, ?_⟩
      rintro ⟨id, hmem, hid⟩
      rw [← hanswered]
      exact List.mem_filterMap.mpr (h id hmem p hid)
    · intro h id hmem p hid
      have hp := (h p).mpr ⟨id, hmem, hid⟩
      rw [← hanswered] at hp
      exact List.mem_filterMap.mp hp
  rw [hall, htwice]
  by_cases h : P.rejectsRepeats = true → (newPrivileges row found).Nodup
  · obtain ⟨roles, hput, hstore⟩ := saveRole_accepted hrow hfound h
    rw [hstore, assigned_iff_of_put hput hfound]
    exact ⟨fun hspec => ⟨hspec, h⟩, And.left⟩
  · -- the save is refused, and a privilege that was found twice is missing
    have hrefused : P.rejectsRepeats = true ∧ ¬ (newPrivileges row found).Nodup :=
      Classical.not_imp.mp h
    rw [saveRole_refused hrow hfound hrefused]
    refine ⟨fun hassigned => absurd hassigned ?_, fun hc => absurd hc.2 h⟩
    rintro ⟨⟨role, hrole, hspec⟩, -⟩
    have hne : newPrivileges row found ≠ [] := by
      intro he
      rw [he] at hrefused
      exact hrefused.2 List.nodup_nil
    obtain ⟨p, hp⟩ := List.exists_mem_of_ne_nil _ hne
    obtain ⟨hpfound, hpnew⟩ := List.mem_filter.mp hp
    have hheld := (hspec p).mpr (hlisted p hpfound)
    rw [Store.role?, hrow] at hrole
    cases hrole
    obtain ⟨u, hu, hpu⟩ := List.mem_filterMap.mp hheld
    rw [← privilege?_id hpu] at hu
    exact of_decide_eq_true hpnew hu

end

/-! ## A role that loses its privileges -/

/-- A role with one privilege, and another privilege. -/
def oneRoleStore : Store :=
  let privileges := ((∅ : Keyed.Table Uuid PrivilegeRow PrivilegeRow.name).put (.ofNat 2)
    ⟨"CAN_VIEW_USERS", none⟩).getD ∅
  { Store.empty with
    roles := ((∅ : Keyed.Table Uuid RoleRow RoleRow.name).put (.ofNat 1)
      ⟨"ADMIN", none, [.ofNat 2]⟩).getD ∅
    privileges := (privileges.put (.ofNat 3) ⟨"CAN_VIEW_ROLES", none⟩).getD privileges }

/-- Assign both privileges, one of them twice. -/
def assignBoth : AssignPrivilegeDto :=
  ⟨(Uuid.ofNat 1).text, [(Uuid.ofNat 2).text, (Uuid.ofNat 3).text, (Uuid.ofNat 2).text]⟩

/-- Both privileges are assigned where their lookups are answered before the save. -/
theorem both_assigned :
    Assigned oneRoleStore ((AssignPrivilege.start oneRoleStore).run .plain assignBoth
      [.resume, .lookup 2, .lookup 1, .resume, .lookup 0]).store (.ofNat 1)
      assignBoth.privilegeIds := by
  have hrow : oneRoleStore.roles.find? (.ofNat 1) = some ⟨"ADMIN", none, [.ofNat 2]⟩ := by
    decide +kernel
  refine (assigned_iff .plain oneRoleStore assignBoth (by decide +kernel) hrow _
    (by decide +kernel)).mpr ⟨?_, ?_⟩
  · have hanswered : ∀ id ∈ assignBoth.privilegeIds, id ∈ answeredBeforeSave
        assignBoth.privilegeIds [.resume, .lookup 2, .lookup 1, .resume, .lookup 0] := by
      decide +kernel
    exact fun id hid p hp => ⟨id, hanswered id hid, hp⟩
  · intro _
    unfold NoneTwice
    decide +kernel

/-- The save comes first, and the role loses the privilege it held. -/
theorem privileges_lost :
    ¬ Assigned oneRoleStore ((AssignPrivilege.start oneRoleStore).run .plain assignBoth
      [.resume, .resume, .lookup 0, .lookup 0, .lookup 0]).store (.ofNat 1)
      assignBoth.privilegeIds := by
  rintro ⟨⟨role, hrole, hspec⟩, -⟩
  have hempty : (((AssignPrivilege.start oneRoleStore).run .plain assignBoth
      [.resume, .resume, .lookup 0, .lookup 0, .lookup 0]).store.role? (.ofNat 1)).map
      UserRole.userPrivileges = some [] := by decide +kernel
  rw [hrole, Option.map_some] at hempty
  have hmem := (hspec ⟨.ofNat 2, "CAN_VIEW_USERS", none⟩).mpr
    ⟨(Uuid.ofNat 2).text, by decide +kernel, by decide +kernel⟩
  rw [Option.some.inj hempty] at hmem
  cases hmem

end VoltFleet
