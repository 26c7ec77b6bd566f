import VoltFleet.Auth.Proofs.Revocation
import VoltFleet.Controllers

/-!
# What a guarded handler decides by

A token carries a copy of its user's role, which grows stale.  The strategy reads
only the email of the token, and the guard only what the strategy has loaded, so
that a request is judged by the stored accounts, roles and privileges.
-/

namespace VoltFleet

open Awaiting AuthService

/-- `AuthGuard()` and then `PrivilegesGuard`, in front of a handler. -/
def authorise (P : Platform) (required : List String) (bearer : Option String) : Service User := do
  let user ← authGuard P bearer
  Service.lift (PrivilegesGuard.canActivate required (some user))
  return user

/-- The guarded routes run these guards, and the handler if they admit the request. -/
theorem HttpRequest.prog_eq_authorise {P : Platform} {request : HttpRequest}
    {required : List AllPrivileges} (h : request.route.guards = .privilegesGuard required) :
    request.prog P = (do
      let _ ← authorise P (required.map AllPrivileges.text) request.bearer
      request.handle P) := by
  unfold HttpRequest.prog HttpRequest.authorized authorise
  simp only [h, bind_assoc, pure_bind]

/-- The privileges stored for the role of an account include this one. -/
def Store.Grants (s : Store) (row : UserRow) (name : String) : Prop :=
  ∃ r role p privilege, row.userRoleId = some r ∧ s.roles.find? r = some role ∧
    p ∈ role.privilegeIds ∧ s.privileges.find? p = some privilege ∧ privilege.name = name

theorem mem_privilegeNames {s : Store} {u : Uuid} {row : UserRow} {name : String} :
    name ∈ (s.userEntity u row).privilegeNames ↔ s.Grants row name := by
  have hrole : (s.userEntity u row).userRole = row.userRoleId.bind s.role? := rfl
  rw [User.privilegeNames, hrole, Store.Grants]
  cases hr : row.userRoleId with
  | none => simp
  | some r =>
    cases hrow : s.roles.find? r with
    | none => simp [Store.role?, hrow]
    | some role =>
      simp only [Option.bind_some, Store.role?, hrow, Option.map_some, Store.roleEntity,
        List.mem_map, List.mem_filterMap, Store.privilege?, Option.map_eq_some_iff]
      constructor
      · rintro ⟨_, ⟨p, hp, privilege, hprivilege, rfl⟩, rfl⟩
        exact ⟨r, role, p, privilege, rfl, hrow, hp, hprivilege, rfl⟩
      · rintro ⟨r', role', p, privilege, hr', hrow', hp, hprivilege, rfl⟩
        cases hr'
        rw [hrow] at hrow'
        cases hrow'
        exact ⟨_, ⟨p, hp, privilege, hprivilege, rfl⟩, rfl⟩

/-- The guard compares the whole list; an empty one is admitted by itself. -/
theorem canActivate_eq_ok {required : List String} {user : User} :
    PrivilegesGuard.canActivate required (some user) = .ok () ↔
      ∀ name ∈ required, name ∈ user.privilegeNames := by
  unfold PrivilegesGuard.canActivate
  by_cases hempty : required = []
  · subst hempty
    simp
  · rw [if_neg hempty]
    simp

/-- What the guards decide on a token with this email. -/
def admission (s : Store) (required : List String) (email : String) : Except Thrown User :=
  match s.userByEmail email with
  | none => .error (.unauthorized "Unauthorized")
  | some user => (PrivilegesGuard.canActivate required (some user)).map fun _ => user

theorem run_authorise {P : Platform} {s : Store} {token : String} {claims : JwtClaims}
    (hv : P.jwt.verify s.clock token = some claims) (required : List String) :
    (authorise P required (some token)).run (exec P) s =
      (admission s required claims.payload.email, s) := by
  have hguard : (authGuard P (some token)).run (exec P) s =
      (JwtStrategy.validate claims.payload).run (exec P) s := by
    unfold authGuard
    simp only [Prog.run_bind, Prog.run_tryCatch, run_verify, hv]
  rw [authorise, Prog.run_bind, hguard, run_validate, admission]
  cases s.userByEmail claims.payload.email with
  | none => rfl
  | some user =>
    dsimp only
    cases PrivilegesGuard.canActivate required (some user) <;> rfl

theorem admission_ok_iff {s : Store} {required : List String} {email : String} :
    (∃ user, admission s required email = .ok user) ↔
      ∃ u row, s.users.find? u = some row ∧ row.email = email ∧
        ∀ name ∈ required, s.Grants row name := by
  unfold admission
  cases hu : s.userByEmail email with
  | none =>
    refine iff_of_false (by simp) ?_
    rintro ⟨u, row, hrow, he, -⟩
    rw [userByEmail_eq_some.mpr ⟨u, row, hrow, he, rfl⟩] at hu
    cases hu
  | some user =>
    obtain ⟨u, row, hrow, he, rfl⟩ := userByEmail_eq_some.mp hu
    have hgrants : PrivilegesGuard.canActivate required (some (s.userEntity u row)) = .ok () ↔
        ∀ name ∈ required, s.Grants row name := by
      rw [canActivate_eq_ok]
      exact forall₂_congr fun name _ => mem_privilegeNames
    dsimp only
    constructor
    · rintro ⟨user, h⟩
      refine ⟨u, row, hrow, he, hgrants.mp ?_⟩
      cases hc : PrivilegesGuard.canActivate required (some (s.userEntity u row)) with
      | error e =>
        rw [hc] at h
        cases h
      | ok v => rfl
    · rintro ⟨u', row', hrow', he', hall⟩
      obtain rfl : u' = u := Keyed.Table.find?_inj hrow' hrow (he'.trans he.symm)
      rw [hrow] at hrow'
      cases hrow'
      exact ⟨_, by rw [hgrants.mpr hall]; rfl⟩

/-- Two accepted tokens with one email are given the same decision, and it admits the request
if and only if an account with that email is stored whose role is stored with every required
privilege. -/
theorem authorised_by_store (P : Platform) (s : Store) (required : List String)
    {token token' : String} {claims claims' : JwtClaims}
    (hv : P.jwt.verify s.clock token = some claims)
    (hv' : P.jwt.verify s.clock token' = some claims')
    (hemail : claims.payload.email = claims'.payload.email) :
    (authorise P required (some token)).run (exec P) s =
        (authorise P required (some token')).run (exec P) s ∧
      ((∃ user, ((authorise P required (some token)).run (exec P) s).1 = .ok user) ↔
        ∃ u row, s.users.find? u = some row ∧ row.email = claims.payload.email ∧
          ∀ name ∈ required, s.Grants row name) := by
  rw [run_authorise hv, run_authorise hv', hemail]
  exact ⟨rfl, admission_ok_iff⟩

/-- Claims with a copy of a role that has a privilege, and claims without one. -/
def staleClaims : JwtClaims :=
  ⟨⟨"ada@example.com", some ⟨.ofNat 7, "STAFF", none, [⟨.ofNat 9, "CAN_VIEW_USERS", none⟩]⟩⟩,
    0, 36000⟩

/-- The claims of a token that a refresh has just signed. -/
def freshClaims : JwtClaims := ⟨⟨"ada@example.com", none⟩, 0, 900⟩

/-- A token that still claims an old role is judged as a new one is. -/
theorem stale_role_is_not_read :
    (authorise .plain ["CAN_VIEW_USERS"] (some (Platform.plain.jwt.sign staleClaims))).run
        (exec .plain) verifiedUserStore =
      (authorise .plain ["CAN_VIEW_USERS"] (some (Platform.plain.jwt.sign freshClaims))).run
        (exec .plain) verifiedUserStore := by
  have hstale : Platform.plain.jwt.verify verifiedUserStore.clock
      (Platform.plain.jwt.sign staleClaims) = some staleClaims :=
    JwtService.verify_eq_some.mpr ⟨rfl, by decide⟩
  have hfresh : Platform.plain.jwt.verify verifiedUserStore.clock
      (Platform.plain.jwt.sign freshClaims) = some freshClaims :=
    JwtService.verify_eq_some.mpr ⟨rfl, by decide⟩
  exact (authorised_by_store .plain verifiedUserStore ["CAN_VIEW_USERS"] hstale hfresh rfl).1

end VoltFleet
