import VoltFleet.Repository.Rows

/-!
# The `user_role` and `user_privilege` repositories

The privileges of a role are a many-to-many relation.  Saving a role writes the
join rows of the entity's `userPrivileges`: the missing ones in one insert, after
which the stored privileges are those of the entity.  (The relation cascades, and
the save also writes back each privilege; no code changes a stored privilege, so
that this changes nothing.)
-/

namespace VoltFleet

/-- `AccessDto`, the body that names a role or a privilege. -/
structure AccessDto where
  name : String
  comment : Option String
  deriving DecidableEq

/-- The calls of the role repository. -/
inductive RoleCmd where
  | findOneByName (name : String)
  | findOneById (id : String)
  | findAndCount (search : Option String) (skip take : JsNumber)
  | insert (role : AccessDto)
  | save (role : UserRole)

/-- What a call returns. -/
abbrev RoleCmd.Answer : RoleCmd → Type
  | .findOneByName _ => Option UserRole
  | .findOneById _ => Option UserRole
  | .findAndCount .. => List UserRole × Nat
  | .insert _ => UserRole
  | .save _ => UserRole

/-- The calls of the privilege repository. -/
inductive PrivilegeCmd where
  | findOneById (id : String)
  | findAndCount (search : Option String) (skip take : JsNumber)
  | insert (privilege : AccessDto)

/-- What a call returns. -/
abbrev PrivilegeCmd.Answer : PrivilegeCmd → Type
  | .findOneById _ => Option UserPrivilege
  | .findAndCount .. => List UserPrivilege × Nat
  | .insert _ => UserPrivilege

namespace Store

/-- The role with this name. -/
def roleByName (s : Store) (name : String) : Option UserRole :=
  (s.roles.findBy? name).map fun e => s.roleEntity e.1 e.2

/-- All roles as entities. -/
def roleList (s : Store) : List UserRole := s.roles.toList.map fun e => s.roleEntity e.1 e.2

/-- All privileges as entities. -/
def privilegeList (s : Store) : List UserPrivilege :=
  s.privileges.toList.map fun e => ⟨e.1, e.2.name, e.2.comment⟩

end Store

/-- Insert a new role, which has no privileges. -/
def insertRole (P : Platform) (s : Store) (dto : AccessDto) :
    Except Thrown (UserRole × Store) := do
  sendTexts P (dto.name :: dto.comment.toList)
  let id := P.uuid s.draws
  let row : RoleRow := ⟨dto.name, dto.comment, []⟩
  let roles ← insertRow s.roles id row
  return (s.roleEntity id row, { s with roles := roles, draws := s.draws + 1 })

/-- Insert a new privilege. -/
def insertPrivilege (P : Platform) (s : Store) (dto : AccessDto) :
    Except Thrown (UserPrivilege × Store) := do
  sendTexts P (dto.name :: dto.comment.toList)
  let id := P.uuid s.draws
  let privileges ← insertRow s.privileges id ⟨dto.name, dto.comment⟩
  return (⟨id, dto.name, dto.comment⟩, { s with privileges := privileges, draws := s.draws + 1 })

/-- The join rows a save inserts: those of the entity that are not stored. -/
def newJoins (stored : List Uuid) (role : UserRole) : List Uuid :=
  (role.userPrivileges.map UserPrivilege.id).filter (· ∉ stored)

/-- The row a saved role has. -/
def UserRole.row (role : UserRole) : RoleRow :=
  ⟨role.name, role.comment, (role.userPrivileges.map UserPrivilege.id).dedup⟩

/-- `save`. -/
def saveRole (P : Platform) (s : Store) (role : UserRole) : Except Thrown (UserRole × Store) := do
  let stored := ((s.roles.find? role.id).map RoleRow.privilegeIds).getD []
  if P.rejectsRepeats ∧ ¬ (newJoins stored role).Nodup then
    throw .duplicateKey
  let roles ← putRow s.roles role.id role.row
  return (role, { s with roles := roles })

/-! ## What the writes do -/

theorem insertRole_ok {P : Platform} {s s' : Store} {dto : AccessDto} {role : UserRole}
    (h : insertRole P s dto = .ok (role, s')) : role.id = P.uuid s.draws ∧ ∃ roles,
      s.roles.find? (P.uuid s.draws) = none ∧
      s.roles.put (P.uuid s.draws) ⟨dto.name, dto.comment, []⟩ = some roles ∧
      s' = { s with roles := roles, draws := s.draws + 1 } := by
  obtain ⟨_, -, h⟩ := bind_eq_ok.mp h
  obtain ⟨roles, hinsert, h⟩ := bind_eq_ok.mp h
  cases h
  obtain ⟨hfree, hput⟩ := insertRow_eq_ok.mp hinsert
  exact ⟨rfl, roles, hfree, hput, rfl⟩

theorem saveRole_ok {P : Platform} {s s' : Store} {role role' : UserRole}
    (h : saveRole P s role = .ok (role', s')) :
    ∃ roles, s.roles.put role.id role.row = some roles ∧ s' = { s with roles := roles } := by
  unfold saveRole at h
  dsimp only at h
  split at h
  · cases h
  · obtain ⟨roles, hput, h⟩ := bind_eq_ok.mp h
    cases h
    exact ⟨roles, putRow_eq_ok.mp hput, rfl⟩

theorem insertPrivilege_ok {P : Platform} {s s' : Store} {dto : AccessDto} {p : UserPrivilege}
    (h : insertPrivilege P s dto = .ok (p, s')) : p.id = P.uuid s.draws ∧ ∃ privileges,
      s.privileges.find? (P.uuid s.draws) = none ∧
      s.privileges.put (P.uuid s.draws) ⟨dto.name, dto.comment⟩ = some privileges ∧
      s' = { s with privileges := privileges, draws := s.draws + 1 } := by
  obtain ⟨_, -, h⟩ := bind_eq_ok.mp h
  obtain ⟨privileges, hinsert, h⟩ := bind_eq_ok.mp h
  cases h
  obtain ⟨hfree, hput⟩ := insertRow_eq_ok.mp hinsert
  exact ⟨rfl, privileges, hfree, hput, rfl⟩

/-- What a call does to the store. -/
def RoleCmd.exec (P : Platform) (s : Store) : (c : RoleCmd) → Except Thrown c.Answer × Store
  | .findOneByName name => (.ok (s.roleByName name), s)
  | .findOneById id => (do return s.role? (← uuidParam id), s)
  | .findAndCount search skip take =>
      (do
        sendSearch P search
        VoltFleet.findAndCount P skip take
          ((searchBy P UserRole.name search s.roleList).mergeSort fun a b =>
            P.collate b.name a.name), s)
  | .insert dto => commit s (insertRole P s dto)
  | .save role => commit s (saveRole P s role)

/-- What a call does to the store. -/
def PrivilegeCmd.exec (P : Platform) (s : Store) :
    (c : PrivilegeCmd) → Except Thrown c.Answer × Store
  | .findOneById id => (do return s.privilege? (← uuidParam id), s)
  | .findAndCount search skip take =>
      (do
        sendSearch P search
        VoltFleet.findAndCount P skip take
          ((searchBy P UserPrivilege.name search s.privilegeList).mergeSort fun a b =>
            P.collate b.name a.name), s)
  | .insert dto => commit s (insertPrivilege P s dto)

end VoltFleet
