import VoltFleet.Commands

/-!
# Reads and saves of users
-/

namespace VoltFleet

open Awaiting

theorem userByEmail_eq_some {s : Store} {email : String} {user : User} :
    s.userByEmail email = some user ↔
      ∃ u row, s.users.find? u = some row ∧ row.email = email ∧ user = s.userEntity u row := by
  unfold Store.userByEmail
  rw [Option.map_eq_some_iff]
  constructor
  · rintro ⟨⟨u, row⟩, he, rfl⟩
    obtain ⟨hrow, hemail⟩ := Keyed.Table.findBy?_eq_some.mp he
    exact ⟨u, row, hrow, hemail, rfl⟩
  · rintro ⟨u, row, hrow, hemail, rfl⟩
    exact ⟨(u, row), Keyed.Table.findBy?_eq_some.mpr ⟨hrow, hemail⟩, rfl⟩

/-- A loaded user has the role its row refers to, where that is stored. -/
theorem userEntity_role_id {s : Store} {row : UserRow}
    (h : ∀ r, row.userRoleId = some r → ∃ role, s.roles.find? r = some role) (u : Uuid) :
    (s.userEntity u row).userRole.map UserRole.id = row.userRoleId := by
  show (row.userRoleId.bind s.role?).map UserRole.id = row.userRoleId
  cases hr : row.userRoleId with
  | none => rfl
  | some r =>
    obtain ⟨role, hrole⟩ := h r hr
    rw [Option.bind_some, Store.role?, hrole]
    rfl

theorem userEntity_role_name {s : Store} {row : UserRow} {r : Uuid} {role : RoleRow}
    (hr : row.userRoleId = some r) (hrole : s.roles.find? r = some role) (u : Uuid) :
    (s.userEntity u row).userRole.map UserRole.name = some role.name := by
  show (row.userRoleId.bind s.role?).map UserRole.name = _
  rw [hr, Option.bind_some, Store.role?, hrole]
  rfl

/-- The two answers to a lookup by email. -/
theorem findOneByEmail_cases (P : Platform) (email : String) (s : Store) :
    (exec P (.users (.findOneByEmail email)) s).1 = .ok none ∨
      ∃ u row, s.users.find? u = some row ∧ row.email = email ∧
        (exec P (.users (.findOneByEmail email)) s).1 = .ok (some (s.userEntity u row)) := by
  show Except.ok (s.userByEmail email) = .ok none ∨ _
  cases hu : s.userByEmail email with
  | none => exact .inl rfl
  | some user =>
    obtain ⟨u, row, hrow, hemail, rfl⟩ := userByEmail_eq_some.mp hu
    exact .inr ⟨u, row, hrow, hemail, congrArg Except.ok hu⟩

theorem findOneById_ok {P : Platform} {s : Store} {id : String} {r : Option User}
    (h : ((UserCmd.findOneById id).exec P s).1 = .ok r) :
    ∃ u, Uuid.ofString? id = some u ∧ r = (s.users.find? u).map (s.userEntity u) := by
  obtain ⟨u, hu, h⟩ := bind_eq_ok.mp h
  cases h
  exact ⟨u, uuidParam_eq_ok.mp hu, rfl⟩

/-- The three answers to a lookup by key. -/
theorem findOneById_cases (P : Platform) (id : String) (s : Store) :
    (∃ e, (exec P (.users (.findOneById id)) s).1 = .error e) ∨
      (exec P (.users (.findOneById id)) s).1 = .ok none ∨
      ∃ u row, Uuid.ofString? id = some u ∧ s.users.find? u = some row ∧
        (exec P (.users (.findOneById id)) s).1 = .ok (some (s.userEntity u row)) := by
  show (∃ e, ((UserCmd.findOneById id).exec P s).1 = .error e) ∨
    ((UserCmd.findOneById id).exec P s).1 = .ok none ∨ _
  cases hr : ((UserCmd.findOneById id).exec P s).1 with
  | error e => exact .inl ⟨e, rfl⟩
  | ok r =>
    obtain ⟨u, hid, rfl⟩ := findOneById_ok hr
    cases hrow : s.users.find? u with
    | none => exact .inr (.inl rfl)
    | some row => exact .inr (.inr ⟨u, row, hid, hrow, hr.trans (by rw [hrow]; rfl)⟩)

theorem exec_saveUser (P : Platform) (user : User) (s : Store) :
    exec P (.users (.save user)) s = commit s (saveUser s user) := rfl

theorem saveUser_ok {s s' : Store} {v v' : User} (h : saveUser s v = .ok (v', s')) :
    ∃ row users, v.savedRow s = .ok row ∧ checkReference s.roles row.userRoleId = .ok () ∧
      s.users.put v.id row = some users ∧ s' = { s with users := users } := by
  obtain ⟨row, hrow, h⟩ := bind_eq_ok.mp h
  obtain ⟨_, href, h⟩ := bind_eq_ok.mp h
  obtain ⟨users, hput, h⟩ := bind_eq_ok.mp h
  cases h
  exact ⟨row, users, hrow, href, putRow_eq_ok.mp hput, rfl⟩

/-- A save whose reference and unique column are accepted. -/
theorem saveUser_of_put {s : Store} {v : User} {row : UserRow}
    {users : Keyed.Table Uuid UserRow UserRow.email} (hrow : v.savedRow s = .ok row)
    (href : checkReference s.roles row.userRoleId = .ok ())
    (hput : s.users.put v.id row = some users) :
    saveUser s v = .ok (v, { s with users := users }) :=
  bind_eq_ok.mpr ⟨row, hrow, bind_eq_ok.mpr ⟨(), href,
    bind_eq_ok.mpr ⟨users, putRow_eq_ok.mpr hput, rfl⟩⟩⟩

/-- Both an update and an insert write the entity's own columns. -/
theorem savedRow_eq_row {s : Store} {v : User} {row : UserRow} (h : v.savedRow s = .ok row) :
    ∃ password, row = v.row password := by
  unfold User.savedRow at h
  split at h
  · cases h
    exact ⟨_, rfl⟩
  · cases h
    exact ⟨_, rfl⟩
  · cases h

/-- The two answers to a lookup of a role by its name. -/
theorem findOneByName_cases (P : Platform) (name : String) (s : Store) :
    (exec P (.roles (.findOneByName name)) s).1 = .ok none ∨
      ∃ r row, s.roles.find? r = some row ∧ row.name = name ∧
        (exec P (.roles (.findOneByName name)) s).1 = .ok (some (s.roleEntity r row)) := by
  show Except.ok ((s.roles.findBy? name).map _) = _ ∨ _
  cases hr : s.roles.findBy? name with
  | none => exact .inl rfl
  | some entry =>
    obtain ⟨hrow, hname⟩ := Keyed.Table.findBy?_eq_some.mp hr
    refine .inr ⟨entry.1, entry.2, hrow, hname, ?_⟩
    show Except.ok ((s.roles.findBy? name).map _) = _
    rw [hr]
    rfl

/-- An insert that is accepted stores one new row. -/
theorem insertUser_ok {P : Platform} {s s' : Store} {user : NewUser} {v : User}
    (h : insertUser P s user = .ok (v, s')) :
    ∃ status users, user.accountStatus.toColumn .INACTIVE = .ok status ∧
      checkReference s.roles (user.row status).userRoleId = .ok () ∧
      s.users.find? (P.uuid s.draws) = none ∧
      s.users.put (P.uuid s.draws) (user.row status) = some users ∧
      s' = { s with users := users, draws := s.draws + 1 } := by
  obtain ⟨_, -, h⟩ := bind_eq_ok.mp h
  obtain ⟨status, hstatus, h⟩ := bind_eq_ok.mp h
  obtain ⟨_, href, h⟩ := bind_eq_ok.mp h
  obtain ⟨users, hinsert, h⟩ := bind_eq_ok.mp h
  cases h
  obtain ⟨hfree, hput⟩ := insertRow_eq_ok.mp hinsert
  exact ⟨status, users, hstatus, href, hfree, hput, rfl⟩

end VoltFleet
