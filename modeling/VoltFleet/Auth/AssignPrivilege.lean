import VoltFleet.Commands

/-!
# `assignPrivilege`

The lookups of the privileges are started by a `forEach` whose callback is
`async`: each of them pushes what it has found when its query is answered, and
nothing awaits them.  So the call is not one program but a machine: `resume` is
the answer to what the call itself awaits, the role and then the save, and
`lookup i` is the answer to the `i`-th of the queries that are still pending.
The save reads the array as it is when the save executes.
-/

namespace VoltFleet

/-- The body of `assignPrivilege`. -/
structure AssignPrivilegeDto where
  roleId : String
  privilegeIds : List String
  deriving DecidableEq

/-- What the call awaits. -/
inductive AssignPhase where
  | role
  | save (role : UserRole)
  | resolved
  deriving DecidableEq

/-- A call of `assignPrivilege`.  (`unAvailablePrivs` is left out: nothing reads it.) -/
structure AssignPrivilege where
  store : Store
  phase : AssignPhase
  /-- The lookups that have been started and not been answered. -/
  pending : List String
  availablePrivs : List UserPrivilege

/-- The request goes on, or one of its lookups is answered. -/
inductive AssignMove where
  | resume
  | lookup (i : Nat)
  deriving DecidableEq

namespace AssignPrivilege

/-- The call is about to start. -/
def start (s : Store) : AssignPrivilege := ⟨s, .role, [], []⟩

/-- The call goes on with the answer it has awaited.  What is thrown is caught. -/
def resume (P : Platform) (dto : AssignPrivilegeDto) (call : AssignPrivilege) : AssignPrivilege :=
  match call.phase with
  | .role =>
      match (exec P (.roles (.findOneById dto.roleId)) call.store).1 with
      | .error _ => { call with phase := .resolved }
      | .ok none => { call with phase := .resolved, pending := dto.privilegeIds }
      | .ok (some role) => { call with phase := .save role, pending := dto.privilegeIds }
  | .save role =>
      let role := { role with userPrivileges := call.availablePrivs }
      { call with store := (exec P (.roles (.save role)) call.store).2, phase := .resolved }
  | .resolved => call

/-- A lookup pushes the privilege it has found. -/
def lookup (P : Platform) (id : String) (call : AssignPrivilege) : AssignPrivilege :=
  match (exec P (.privileges (.findOneById id)) call.store).1 with
  | .ok (some privilege) => { call with availablePrivs := call.availablePrivs ++ [privilege] }
  | _ => call

/-- One move of the request; a lookup that has been answered is not answered again. -/
def move (P : Platform) (dto : AssignPrivilegeDto) (call : AssignPrivilege) :
    AssignMove → AssignPrivilege
  | .resume => call.resume P dto
  | .lookup i =>
      match call.pending[i]? with
      | none => call
      | some id => { call with pending := call.pending.eraseIdx i }.lookup P id

/-- The call after a list of moves. -/
def run (P : Platform) (dto : AssignPrivilegeDto) (call : AssignPrivilege)
    (ms : List AssignMove) : AssignPrivilege :=
  ms.foldl (move P dto) call

end AssignPrivilege

/-! ## Schedules -/

/-- The lookups a list of moves answers before the next `resume`, in that order. -/
def answeredFirst : List String → List AssignMove → List String
  | _, [] => []
  | _, .resume :: _ => []
  | pending, .lookup i :: ms =>
      match pending[i]? with
      | none => answeredFirst pending ms
      | some id => id :: answeredFirst (pending.eraseIdx i) ms

/-- The lookups answered between the answer to the role and the save. -/
def answeredBeforeSave (ids : List String) : List AssignMove → List String
  | [] => []
  | .resume :: ms => answeredFirst ids ms
  | .lookup _ :: ms => answeredBeforeSave ids ms

/-! ## One schedule as a program -/

namespace AssignPrivilege

/-- The lookups of these ids, one after the other.  A lookup that throws rejects a promise of
its own, and finds nothing. -/
def lookups : List String → Service (List UserPrivilege)
  | [] => return []
  | id :: ids => do
      let privilege ←
        try Service.await (.privileges (.findOneById id))
        catch _ => pure none
      let found ← lookups ids
      return privilege.toList ++ found

/-- The call in a schedule that answers these lookups before the save.  Those that are answered
later are left out: they read `user_privilege`, and what they find is dropped. -/
def inTurn (dto : AssignPrivilegeDto) (answered : List String) : Service Unit := do
  try
    match ← Service.await (.roles (.findOneById dto.roleId)) with
    | none => pure ()
    | some role =>
        let availablePrivs ← lookups answered
        let _ ← Service.await (.roles (.save { role with userPrivileges := availablePrivs }))
  catch _ => pure ()

end AssignPrivilege

end VoltFleet
