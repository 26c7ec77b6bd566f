import VoltFleet.Auth.Proofs.Logout
import VoltFleet.Auth.Proofs.SignUp

/-!
# From sign-up to token

A sign-up stores the lower-cased email, a sign-in looks the lower-cased email up
and signs it, and a refresh and the strategy look up the email that is signed.
`confirmAccount` alone looks up the email it is given, so that an account can be
confirmed under the email it was registered with only if that is in lower case.
-/

namespace VoltFleet

open Awaiting AuthService

/-! ## One sign-up, and one confirmation -/

section

variable {P : Platform} {s s' : Store} {dto : CreateUserDto}

/-- A sign-up that returns has stored the account it asks for. -/
theorem run_signUp_ok (h : (signUp P dto).run (exec P) s = (.ok (), s')) :
    s.userByEmail dto.email = none ∧ ∃ u row users, s.users.find? u = none ∧
      SignUp.Created P s dto row ∧ s.users.put u row = some users ∧
      s' = { s with users := users, draws := s.draws + 2 } := by
  have hemail : exec P (.users (.findOneByEmail dto.email)) s =
      (.ok (s.userByEmail dto.email), s) :=
    rfl
  rw [SignUp.signUp_eq, Prog.run_call, hemail] at h
  cases hu : s.userByEmail dto.email with
  | some user =>
    rw [hu] at h
    cases h
  | none =>
    rw [hu] at h
    refine ⟨rfl, ?_⟩
    have hlook : (SignUp.lookRoleUp P dto).run (exec P) s = (.ok (), s') := h
    unfold SignUp.lookRoleUp at hlook
    cases hname : dto.role with
    | undefined =>
      rw [hname] at hlook
      cases hlook
    | null =>
      rw [hname] at hlook
      cases hlook
    | value name =>
      rw [hname] at hlook
      have hnamed : (SignUp.named P dto (exec P (.roles (.findOneByName name.text)) s).1).run
          (exec P) s = (.ok (), s') := hlook
      rcases findOneByName_cases P name.text s with hr | ⟨r, row, hrow, htext, hr⟩ <;>
        rw [hr] at hnamed
      · cases hnamed
      · have hrole : SignUp.RoleFor s dto (s.roleEntity r row) := ⟨name, row, hname, hrow, htext⟩
        have hinsert : (SignUp.inserted (commit { s with draws := s.draws + 1 } (insertUser P
            { s with draws := s.draws + 1 }
            (SignUp.newUser P dto (s.roleEntity r row) s.draws))).1).run (exec P)
              (commit { s with draws := s.draws + 1 } (insertUser P { s with draws := s.draws + 1 }
                (SignUp.newUser P dto (s.roleEntity r row) s.draws))).2 = (.ok (), s') := hnamed
        cases hi : insertUser P { s with draws := s.draws + 1 }
            (SignUp.newUser P dto (s.roleEntity r row) s.draws) with
        | error e =>
          rw [hi] at hinsert
          cases hinsert
        | ok answer =>
          obtain ⟨user, s₁⟩ := answer
          rw [hi] at hinsert
          obtain ⟨status, users, hstatus, -, hfree, hput, rfl⟩ := insertUser_ok hi
          cases hinsert
          exact ⟨_, _, users, hfree, SignUp.created_newUser hrole hstatus, hput, rfl⟩

theorem run_confirmAccount_unknown {email : String} (h : s.userByEmail email = none) :
    (UserRepository.confirmAccount email).run (exec P) s =
      (.error (.notFound "User not found"), s) := by
  have hlook : exec P (.users (.findOneByEmail email)) s = (.ok (s.userByEmail email), s) := rfl
  unfold UserRepository.confirmAccount
  rw [Prog.run_bind, Service.await, Prog.run_await, hlook, h]
  rfl

/-- The row of a confirmed account. -/
def UserRow.confirmed (row : UserRow) : UserRow :=
  { row with isEmailVerified := true, accountStatus := .ACTIVE }

/-- A stored account whose role is stored is confirmed under its email. -/
theorem run_confirmAccount_found {u : Uuid} {row : UserRow} (hrow : s.users.find? u = some row)
    (hrole : ∀ r, row.userRoleId = some r → ∃ role, s.roles.find? r = some role) :
    ∃ users, s.users.put u row.confirmed = some users ∧
      (UserRepository.confirmAccount row.email).run (exec P) s =
        (.ok (AccountOp.confirmedUser (s.userEntity u row)), { s with users := users }) := by
  have hemail : row.confirmed.email = row.email := rfl
  obtain ⟨users, hput⟩ := Keyed.Table.put_isSome hrow hemail
  refine ⟨users, hput, ?_⟩
  have hid := userEntity_role_id hrole u
  have hsaved : (AccountOp.confirmedUser (s.userEntity u row)).savedRow s = .ok row.confirmed := by
    have hfind : s.users.find? (AccountOp.confirmedUser (s.userEntity u row)).id = some row := hrow
    rw [User.savedRow, hfind]
    refine congrArg Except.ok ?_
    show UserRow.mk row.firstName row.lastName row.email row.password .ACTIVE true
      ((s.userEntity u row).userRole.map UserRole.id) = row.confirmed
    rw [hid]
    rfl
  have href : checkReference s.roles row.confirmed.userRoleId = .ok () :=
    checkReference_eq_ok.mpr hrole
  have hsave := saveUser_of_put hsaved href hput
  have hexec : exec P (.users (.save (AccountOp.confirmedUser (s.userEntity u row)))) s =
      (.ok (AccountOp.confirmedUser (s.userEntity u row)), { s with users := users }) := by
    rw [exec_saveUser, hsave]
    rfl
  have hfound : s.userByEmail row.email = some (s.userEntity u row) :=
    userByEmail_eq_some.mpr ⟨u, row, hrow, rfl, rfl⟩
  have hlook : exec P (.users (.findOneByEmail row.email)) s =
      (.ok (s.userByEmail row.email), s) := rfl
  unfold UserRepository.confirmAccount
  rw [Prog.run_bind, Service.await, Prog.run_await, hlook, hfound]
  show (Service.await (.users (.save (AccountOp.confirmedUser (s.userEntity u row)))) >>=
    fun _ => pure (AccountOp.confirmedUser (s.userEntity u row))).run (exec P) s = _
  rw [Prog.run_bind, Service.await, Prog.run_await, hexec]
  rfl

end

/-! ## Accepted tokens, refreshes and sign-ins of an account -/

/-- The bearer token is accepted as the account's. -/
def AcceptedAs (P : Platform) (s : Store) (u : Uuid) (token : String) : Prop :=
  ∃ user, (authGuard P (some token)).run (exec P) s = (.ok user, s) ∧ user.id = u

/-- The refresh token is exchanged for an access token of the account. -/
def RefreshesAs (P : Platform) (s : Store) (u : Uuid) (token : String) : Prop :=
  ∃ accessToken s', (refreshAccessToken P token).run (exec P) s = (.ok accessToken, s') ∧
    s'.users = s.users ∧ ∀ d < accessLifetime, AcceptedAs P (elapse d s') u accessToken

/-- Under every spelling of the email, and with the password, a sign-in returns tokens of the
account. -/
def SignsInAs (P : Platform) (s : Store) (u : Uuid) (dto : CreateUserDto) : Prop :=
  ∀ credentials session, P.toLowerCase credentials.email = P.toLowerCase dto.email →
    credentials.password = dto.password →
    ∃ result s', (signIn P credentials session).run (exec P) s = (.ok result, s') ∧
      s'.users = s.users ∧
      (∀ d < P.expiresIn, AcceptedAs P (elapse d s') u result.accessToken) ∧
      ∀ d < refreshTtl, AcceptedAs P (elapse d s') u result.refreshToken ∧
        RefreshesAs P (elapse d s') u result.refreshToken

/-- The account is confirmed under the email of the body, no other account changes, and from
then on it signs in. -/
def LivesOn (P : Platform) (s : Store) (u : Uuid) (dto : CreateUserDto) : Prop :=
  ∃ user s' row, (UserRepository.confirmAccount dto.email).run (exec P) s = (.ok user, s') ∧
    user.id = u ∧ s.users.find? u = some row ∧ s'.users.find? u = some row.confirmed ∧
    (∀ v, v ≠ u → s'.users.find? v = s.users.find? v) ∧ ∀ d, SignsInAs P (elapse d s') u dto

section

variable {P : Platform} {s : Store} {u : Uuid} {row : UserRow}

theorem acceptedAs_sign {claims : JwtClaims} (hrow : s.users.find? u = some row)
    (hemail : row.email = claims.payload.email) (hexp : s.clock < claims.exp) :
    AcceptedAs P s u (P.jwt.sign claims) := by
  refine ⟨s.userEntity u row, run_authGuard_granted ⟨_, claims, rfl, ?_, ?_⟩, rfl⟩
  · exact JwtService.verify_eq_some.mpr ⟨rfl, hexp⟩
  · exact userByEmail_eq_some.mpr ⟨u, row, hrow, hemail, rfl⟩

theorem acceptedAs_sign_later {claims : JwtClaims} (hrow : s.users.find? u = some row)
    (hemail : row.email = claims.payload.email) {d : Nat} (hexp : s.clock + d < claims.exp) :
    AcceptedAs P (elapse d s) u (P.jwt.sign claims) := by
  have hlater : (elapse d s).users.find? u = some row := hrow
  exact acceptedAs_sign hlater hemail hexp

theorem refreshesAs_sign {claims : JwtClaims} (hrow : s.users.find? u = some row)
    (hemail : row.email = claims.payload.email) (hvalid : P.isEmail claims.payload.email = true)
    (hexp : s.clock < claims.exp)
    (hactive : s.cache.get s.clock (refreshKey u (P.jwt.sign claims)) = some (.str "active")) :
    RefreshesAs P s u (P.jwt.sign claims) := by
  have hnames : Names P s (P.jwt.sign claims) (s.userEntity u row) :=
    ⟨claims, JwtService.verify_eq_some.mpr ⟨rfl, hexp⟩, hvalid,
      userByEmail_eq_some.mpr ⟨u, row, hrow, hemail, rfl⟩⟩
  refine ⟨_, _, run_refresh_granted hnames hactive, rfl, fun d hd => ?_⟩
  refine acceptedAs_sign_later ?_ rfl (Nat.add_lt_add_left hd s.clock)
  exact hrow

/-- A confirmed account with its password and no admin role signs in. -/
theorem signsInAs_of_confirmed (hcompare : ∀ salt password,
      P.bcryptCompare password (P.bcryptHash salt password) = true) {dto : CreateUserDto}
    (hvalid : P.isEmail (P.toLowerCase dto.email) = true) (hrow : s.users.find? u = some row)
    (hemail : row.email = P.toLowerCase dto.email)
    (hpassword : ∃ salt, row.password = P.bcryptHash salt dto.password)
    (hverified : row.isEmailVerified = true) {r : Uuid} {role : RoleRow}
    (hr : row.userRoleId = some r) (hrole : s.roles.find? r = some role)
    (hadmin : role.name ≠ RolesConstant.ADMIN.text)
    (hsuper : role.name ≠ RolesConstant.SUPER_ADMIN.text) : SignsInAs P s u dto := by
  intro credentials session hspelling hsame
  have hfound : s.userByEmail (P.toLowerCase credentials.email) = some (s.userEntity u row) := by
    rw [hspelling]
    exact userByEmail_eq_some.mpr ⟨u, row, hrow, hemail, rfl⟩
  have hmay : MaySignIn P s credentials (s.userEntity u row) := by
    refine ⟨by rw [hspelling]; exact hvalid, hfound, ?_, hverified, ?_⟩
    · rw [userEntity_role_name hr hrole u, Option.some.injEq, Option.some.injEq]
      rintro (h | h)
      · exact hadmin h
      · exact hsuper h
    · obtain ⟨salt, hhash⟩ := hpassword
      show P.bcryptCompare credentials.password row.password = true
      rw [hhash, hsame]
      exact hcompare salt dto.password
  have hstored : (signedInStore P s (P.toLowerCase credentials.email) (s.userEntity u row)
      session).users.find? u = some row := by
    rw [signedInStore_users]
    exact hrow
  have hnamed : row.email = P.toLowerCase credentials.email := hemail.trans hspelling.symm
  refine ⟨_, _, run_signIn_granted hmay session, rfl, fun d hd => ?_, fun d hd => ⟨?_, ?_⟩⟩
  · exact acceptedAs_sign_later hstored hnamed (Nat.add_lt_add_left hd s.clock)
  · exact acceptedAs_sign_later hstored hnamed (Nat.add_lt_add_left hd s.clock)
  · have hlater : (elapse d (signedInStore P s (P.toLowerCase credentials.email)
        (s.userEntity u row) session)).users.find? u = some row := hstored
    refine refreshesAs_sign hlater hnamed (by rw [hspelling]; exact hvalid)
      (Nat.add_lt_add_left hd s.clock) ?_
    refine Expiring.Cache.get_eq_some.mpr ⟨_, signedInStore_entry_self .., ?_, rfl⟩
    rw [Expiring.Entry.live_until, decide_eq_true_eq]
    exact Nat.add_lt_add_left hd s.clock

end

/-- Whatever a sign-up with a valid email and no admin role has stored: the account lives on
under the email of the body exactly if that is in lower case. -/
theorem lives_on_iff (P : Platform) (hcompare : ∀ salt password,
      P.bcryptCompare password (P.bcryptHash salt password) = true) {s s' : Store}
    {dto : CreateUserDto} {role : RolesConstant} (hrole : dto.role = .value role)
    (hadmin : role ≠ .ADMIN) (hsuper : role ≠ .SUPER_ADMIN) (hvalid : P.isEmail dto.email = true)
    (hrun : (signUp P dto).run (exec P) s = (.ok (), s')) :
    ∃ u row, s.users.find? u = none ∧ s'.users.find? u = some row ∧ SignUp.Created P s dto row ∧
      (∀ v, v ≠ u → s'.users.find? v = s.users.find? v) ∧
      ∀ d, LivesOn P (elapse d s') u dto ↔ P.toLowerCase dto.email = dto.email := by
  obtain ⟨hnew, u, row, users, hfree, hcreated, hput, rfl⟩ := run_signUp_ok hrun
  refine ⟨u, row, hfree, Keyed.Table.find?_put_self hput, hcreated,
    fun v hv => Keyed.Table.find?_put_ne hput hv, fun d => ?_⟩
  constructor
  · rintro ⟨user, s'', row', hconfirm, -⟩
    by_contra hspelling
    -- neither the new account nor one that was there has the email as it was typed
    have hunknown : (elapse d { s with users := users, draws := s.draws + 2 }).userByEmail
        dto.email = none := by
      rw [Option.eq_none_iff_forall_ne_some]
      intro user huser
      obtain ⟨v, found, hfound, hemail, -⟩ := userByEmail_eq_some.mp huser
      have hfound' : users.find? v = some found := hfound
      rw [Keyed.Table.find?_put hput] at hfound'
      split at hfound'
      · cases hfound'
        exact hspelling (hcreated.email.symm.trans hemail)
      · rw [userByEmail_eq_some.mpr ⟨v, found, hfound', hemail, rfl⟩] at hnew
        cases hnew
    rw [run_confirmAccount_unknown hunknown] at hconfirm
    cases hconfirm
  · intro hspelling
    obtain ⟨name, r, roleRow, hname, hr, hfound, htext⟩ := hcreated.role
    rw [hrole] at hname
    cases hname
    have hstored : (elapse d { s with users := users, draws := s.draws + 2 }).users.find? u =
        some row := Keyed.Table.find?_put_self hput
    have hroles : ∀ r', row.userRoleId = some r' → ∃ role',
        (elapse d { s with users := users, draws := s.draws + 2 }).roles.find? r' = some role' := by
      intro r' hr'
      rw [hr] at hr'
      cases hr'
      exact ⟨roleRow, hfound⟩
    obtain ⟨users', hput', hconfirm⟩ := run_confirmAccount_found (P := P) hstored hroles
    rw [hcreated.email, hspelling] at hconfirm
    refine ⟨_, _, row, hconfirm, rfl, hstored, Keyed.Table.find?_put_self hput',
      fun v hv => Keyed.Table.find?_put_ne hput' hv, fun d' => ?_⟩
    have hconfirmed : (elapse d' { elapse d { s with users := users, draws := s.draws + 2 } with
        users := users' }).users.find? u = some row.confirmed := Keyed.Table.find?_put_self hput'
    refine signsInAs_of_confirmed hcompare ?_ hconfirmed hcreated.email hcreated.password rfl hr
      hfound ?_ ?_
    · rw [hspelling]
      exact hvalid
    · rw [htext]
      exact fun h => hadmin (RolesConstant.text_inj h)
    · rw [htext]
      exact fun h => hsuper (RolesConstant.text_inj h)

/-! ## Two spellings of an email -/

/-- A member of the staff who registers. -/
def staffDto (email : String) : CreateUserDto :=
  ⟨"Eve", "Doe", email, .undefined, .value .OTHER_STAFF, "P@ssw0rd"⟩

/-- What the sign-up leaves. -/
def registered (email : String) : Except Thrown Unit × Store :=
  (signUp .plain (staffDto email)).run (exec .plain) SignUp.staffRoleStore

/-- Registered in lower case, the account lives on. -/
theorem lower_case_lives_on :
    ∃ u, LivesOn .plain (elapse 60 (registered "eve@example.com").2) u
      (staffDto "eve@example.com") := by
  have hrun : (signUp .plain (staffDto "eve@example.com")).run (exec .plain) SignUp.staffRoleStore =
      (.ok (), (registered "eve@example.com").2) := Prod.ext (by rfl) rfl
  have hrole : (staffDto "eve@example.com").role = .value .OTHER_STAFF := rfl
  obtain ⟨u, row, -, -, -, -, hlives⟩ := lives_on_iff .plain Platform.plain_bcryptCompare hrole
    (by decide) (by decide) (by decide) hrun
  exact ⟨u, (hlives 60).mpr (by decide)⟩

/-- Registered with a capital letter, the account is not found. -/
theorem capital_letter_not_confirmed :
    (registered "Eve@example.com").1 = .ok () ∧
      ∀ u, ¬LivesOn .plain (registered "Eve@example.com").2 u (staffDto "Eve@example.com") := by
  refine ⟨by rfl, ?_⟩
  rintro u ⟨user, s, row, hconfirm, -⟩
  have hrefused : ((UserRepository.confirmAccount "Eve@example.com").run (exec .plain)
      (registered "Eve@example.com").2).1 = .error (.notFound "User not found") := by rfl
  have hconfirmed := congrArg Prod.fst hconfirm
  rw [staffDto, hrefused] at hconfirmed
  cases hconfirmed

end VoltFleet
