import VoltFleet.Repository.Rows

/-!
# The `users` repository

`find*` loads the row together with the role and the role's privileges, which
are eager relations, and `save` writes every column and relation of the entity.
The email of a lookup has passed `isEmail`, and the texts of a saved user are the
ones that were read.
-/

namespace VoltFleet

/-- What `create` keeps of a sign-up: the mapped columns and the relation. -/
structure NewUser where
  firstName : String
  lastName : String
  email : String
  password : PasswordHash
  accountStatus : Property AccountStatus
  userRole : Option UserRole
  deriving DecidableEq

/-- The calls of the repository. -/
inductive UserCmd where
  | findOneByEmail (email : String)
  | findOneById (id : String)
  | findAndCount (search : Option String) (skip take : JsNumber)
  | insert (user : NewUser)
  | save (user : User)

/-- What a call returns. -/
abbrev UserCmd.Answer : UserCmd → Type
  | .findOneByEmail _ => Option User
  | .findOneById _ => Option User
  | .findAndCount .. => List User × Nat
  | .insert _ => User
  | .save _ => User

namespace Store

/-- The user with this email. -/
def userByEmail (s : Store) (email : String) : Option User :=
  (s.users.findBy? email).map fun e => s.userEntity e.1 e.2

/-- All users as entities. -/
def userList (s : Store) : List User := s.users.toList.map fun e => s.userEntity e.1 e.2

end Store

/-- The row a user is inserted with. -/
def NewUser.row (u : NewUser) (status : AccountStatus) : UserRow where
  firstName := u.firstName
  lastName := u.lastName
  email := u.email
  password := u.password
  accountStatus := status
  isEmailVerified := false
  userRoleId := u.userRole.map UserRole.id

/-- The row a saved user has: a column the entity lacks keeps its value. -/
def User.row (u : User) (password : PasswordHash) : UserRow where
  firstName := u.firstName
  lastName := u.lastName
  email := u.email
  password := u.password.getD password
  accountStatus := u.accountStatus
  isEmailVerified := u.isEmailVerified
  userRoleId := u.userRole.map UserRole.id

/-- Insert a new user under a generated key. -/
def insertUser (P : Platform) (s : Store) (u : NewUser) : Except Thrown (User × Store) := do
  sendTexts P [u.firstName, u.lastName, u.email]
  let status ← u.accountStatus.toColumn .INACTIVE
  let id := P.uuid s.draws
  let row := u.row status
  checkReference s.roles row.userRoleId
  let users ← insertRow s.users id row
  return ({ s.userEntity id row with userRole := u.userRole },
    { s with users := users, draws := s.draws + 1 })

/-- The row a save writes: an update where the key is stored, an insert elsewhere. -/
def User.savedRow (s : Store) (u : User) : Except Thrown UserRow :=
  match s.users.find? u.id, u.password with
  | some old, _ => .ok (u.row old.password)
  | none, some password => .ok (u.row password)
  | none, none => .error .notNull

/-- `save`. -/
def saveUser (s : Store) (u : User) : Except Thrown (User × Store) := do
  let row ← u.savedRow s
  checkReference s.roles row.userRoleId
  let users ← putRow s.users u.id row
  return (u, { s with users := users })

/-- What a call does to the store. -/
def UserCmd.exec (P : Platform) (s : Store) : (c : UserCmd) → Except Thrown c.Answer × Store
  | .findOneByEmail email => (.ok (s.userByEmail email), s)
  | .findOneById id =>
      (do
        let id ← uuidParam id
        return (s.users.find? id).map (s.userEntity id), s)
  | .findAndCount search skip take =>
      (do
        sendSearch P search
        VoltFleet.findAndCount P skip take
          ((searchBy P User.email search s.userList).mergeSort fun a b =>
            P.collate a.email b.email), s)
  | .insert u => commit s (insertUser P s u)
  | .save u => commit s (saveUser s u)

end VoltFleet
