import VoltFleet.Auth.Proofs.Keys
import VoltFleet.Auth.Proofs.Operations

/-!
# What one call does to users and cache

For each operation around the tokens of a user: what it returns when it runs by
itself with no command failing, and what it leaves in the cache.
-/

namespace VoltFleet

open Awaiting

namespace CacheService

variable (P : Platform) (key value : String) (s : Store)

/-- What `get` returns in this store: a key with another kind of value reads as a missing one. -/
def cached (s : Store) (key : String) : Option String :=
  match s.cache.get s.clock key with
  | some (.str value) => some value
  | _ => none

@[simp] theorem run_get : (get key).run (exec P) s = (.ok (cached s key), s) := by
  unfold get cached
  simp only [Service.await, Prog.run_tryCatch, Prog.run_await, exec, RedisCmd.exec]
  cases s.cache.get s.clock key with
  | none => rfl
  | some v => cases v <;> rfl

/-- A text is read exactly where one is stored and has not expired. -/
theorem cached_eq_some {s : Store} {key value : String} :
    cached s key = some value ↔ s.cache.get s.clock key = some (.str value) := by
  unfold cached
  split <;> simp_all

@[simp] theorem run_delete :
    (delete key).run (exec P) s = (.ok (), { s with cache := s.cache.del key }) := rfl

end CacheService

namespace AuthService

variable (P : Platform) (s : Store)

/-- `verify` after it has read the clock. -/
def verified (P : Platform) (token : String) (now : Nat) : Service JwtPayload :=
  match P.jwt.verify now token with
  | none => throw (.error "invalid token")
  | some claims => return claims.payload

theorem verify_eq (P : Platform) (token : String) :
    verify P token = Service.await (.process .now) >>= verified P token := rfl

theorem run_verify (token : String) :
    (verify P token).run (exec P) s =
      (match P.jwt.verify s.clock token with
        | none => .error (.error "invalid token")
        | some claims => .ok claims.payload, s) := by
  have hnow : exec P (.process .now) s = (.ok s.clock, s) := rfl
  rw [verify_eq, Prog.run_bind, Service.await, Prog.run_await, hnow]
  dsimp only
  rw [verified]
  cases P.jwt.verify s.clock token <;> rfl

end AuthService

theorem run_getUserByEmail (P : Platform) (s : Store) (email : String) :
    (UserRepository.getUserByEmail P email).run (exec P) s =
      (if P.isEmail email = true then .ok (s.userByEmail email)
        else .error (.badRequest "This is not a valid email."), s) := by
  unfold UserRepository.getUserByEmail
  cases P.isEmail email <;> rfl

theorem run_findUserById_cases (P : Platform) (s : Store) (id : String) :
    (∃ e, (UserRepository.findUserById id).run (exec P) s = (.error e, s)) ∨
      (UserRepository.findUserById id).run (exec P) s = (.ok none, s) ∨
      ∃ u row, s.users.find? u = some row ∧
        (UserRepository.findUserById id).run (exec P) s = (.ok (some (s.userEntity u row)), s) := by
  have hstore : (exec P (.users (.findOneById id)) s).2 = s := rfl
  have hpair : exec P (.users (.findOneById id)) s =
      ((exec P (.users (.findOneById id)) s).1, s) := Prod.ext rfl hstore
  unfold UserRepository.findUserById
  rw [Prog.run_tryCatch, Service.await, Prog.run_await, hpair]
  rcases findOneById_cases P id s with ⟨e, h⟩ | h | ⟨u, row, -, hrow, h⟩ <;> rw [h]
  · exact .inl ⟨_, rfl⟩
  · exact .inr (.inl rfl)
  · exact .inr (.inr ⟨u, row, hrow, rfl⟩)

/-- Write `"active"` under a key that is to live for `ttl` seconds. -/
def Store.activate (s : Store) (key : String) (ttl : Nat) : Store :=
  { s with cache := (s.cache.set key (.str "active")).expire s.clock key ttl }

@[simp] theorem Store.activate_users (s : Store) (key : String) (ttl : Nat) :
    (s.activate key ttl).users = s.users := rfl

@[simp] theorem Store.activate_clock (s : Store) (key : String) (ttl : Nat) :
    (s.activate key ttl).clock = s.clock := rfl

namespace AuthService

variable {P : Platform} {s : Store}

/-! ## Refreshing and logging out -/

/-- The token is signed, has not expired, and names a stored user. -/
def Names (P : Platform) (s : Store) (token : String) (user : User) : Prop :=
  ∃ claims, P.jwt.verify s.clock token = some claims ∧
    P.isEmail claims.payload.email = true ∧ s.userByEmail claims.payload.email = some user

theorem names_unique {token : String} {user user' : User} (h : Names P s token user)
    (h' : Names P s token user') : user = user' := by
  obtain ⟨claims, hv, -, hu⟩ := h
  obtain ⟨claims', hv', -, hu'⟩ := h'
  obtain rfl : claims = claims' := Option.some.inj (hv.symm.trans hv')
  exact Option.some.inj (hu.symm.trans hu')

/-- The refresh key of a token is active. -/
def Active (s : Store) (user : User) (token : String) : Prop :=
  s.cache.get s.clock (refreshKey user.id token) = some (.str "active")

/-- The access token a refresh signs. -/
def refreshedToken (P : Platform) (s : Store) (user : User) : String :=
  P.jwt.sign ⟨⟨user.email, user.userRole⟩, s.clock, s.clock + accessLifetime⟩

theorem run_refresh_granted {token : String} {user : User} (h : Names P s token user)
    (hactive : Active s user token) :
    (refreshAccessToken P token).run (exec P) s =
      (.ok (refreshedToken P s user),
        s.activate (sessionKey user.id (refreshedToken P s user)) sessionTtl) := by
  obtain ⟨claims, hv, hemail, hu⟩ := h
  have hget : CacheService.cached s (refreshKey user.id token) = some "active" :=
    CacheService.cached_eq_some.mpr hactive
  unfold refreshAccessToken
  simp only [Prog.run_bind, Prog.run_tryCatch, run_verify, hv, run_getUserByEmail, hemail, hu,
    if_true, CacheService.run_get, hget]
  rfl

/-- A refresh is refused whatever answers its commands, if no named user's key reads as active. -/
theorem run_refresh_refused_of {σ : Type} {H : Handler Cmd Cmd.Answer Thrown σ} {x x' : σ}
    {token : String} {read : String → Option String}
    (hverify : (verify P token).run H x =
      (match P.jwt.verify s.clock token with
        | none => .error (.error "invalid token")
        | some claims => .ok claims.payload, x))
    (huser : ∀ email, (UserRepository.getUserByEmail P email).run H x =
      (if P.isEmail email = true then .ok (s.userByEmail email)
        else .error (.badRequest "This is not a valid email."), x))
    (hget : ∀ key, (CacheService.get key).run H x = (.ok (read key), x'))
    (h : ∀ user, Names P s token user → read (refreshKey user.id token) ≠ some "active") :
    ∃ e, (refreshAccessToken P token).run H x = (.error e, x) ∨
      (refreshAccessToken P token).run H x = (.error e, x') := by
  unfold refreshAccessToken
  simp only [Prog.run_bind, Prog.run_tryCatch, hverify]
  cases hv : P.jwt.verify s.clock token with
  | none => exact ⟨_, .inl rfl⟩
  | some claims =>
    simp only [huser]
    by_cases hemail : P.isEmail claims.payload.email = true
    · rw [if_pos hemail]
      cases hu : s.userByEmail claims.payload.email with
      | none => exact ⟨_, .inl rfl⟩
      | some user =>
        have hinactive := h user ⟨claims, hv, hemail, hu⟩
        simp only [Prog.run_bind, hget, if_pos hinactive]
        exact ⟨_, .inr rfl⟩
    · rw [if_neg hemail]
      exact ⟨_, .inl rfl⟩

theorem run_refresh_refused {token : String}
    (h : ∀ user, Names P s token user → ¬ Active s user token) :
    ∃ e, (refreshAccessToken P token).run (exec P) s = (.error e, s) := by
  have hinactive : ∀ user, Names P s token user →
      CacheService.cached s (refreshKey user.id token) ≠ some "active" := by
    intro user hnames hget
    exact h user hnames (CacheService.cached_eq_some.mp hget)
  obtain ⟨e, hrun⟩ := run_refresh_refused_of (run_verify P s token) (run_getUserByEmail P s)
    (fun key => CacheService.run_get P key s) hinactive
  exact ⟨e, hrun.elim id id⟩

theorem run_logout_named {token : String} {user : User} (h : Names P s token user) :
    (logout P token).run (exec P) s =
      (.ok (), { s with cache := s.cache.del (refreshKey user.id token) }) := by
  obtain ⟨claims, hv, hemail, hu⟩ := h
  unfold logout
  simp only [Prog.run_bind, Prog.run_tryCatch, run_verify, hv, run_getUserByEmail, hemail, hu,
    if_true, CacheService.run_delete]

theorem run_logout_unnamed {token : String} (h : ∀ user, ¬ Names P s token user) :
    (logout P token).run (exec P) s = (.ok (), s) := by
  unfold logout
  simp only [Prog.run_bind, Prog.run_tryCatch, run_verify]
  cases hv : P.jwt.verify s.clock token with
  | none => rfl
  | some claims =>
    simp only [run_getUserByEmail]
    by_cases hemail : P.isEmail claims.payload.email = true
    · rw [if_pos hemail]
      cases hu : s.userByEmail claims.payload.email with
      | none => rfl
      | some user => exact absurd ⟨claims, hv, hemail, hu⟩ (h user)
    · rw [if_neg hemail]
      rfl

/-! ## Signing in -/

/-- A token for a user, signed now. -/
def issuedToken (P : Platform) (s : Store) (email : String) (user : User) (expiresIn : Nat) :
    String :=
  P.jwt.sign ⟨⟨email, user.userRole⟩, s.clock, s.clock + expiresIn⟩

/-- The store after a user has signed in. -/
def signedInStore (P : Platform) (s : Store) (email : String) (user : User) (session : Nat) :
    Store :=
  let s' := { s with
    sessions := Function.update s.sessions session (some { user with password := none }) }
  (s'.activate (sessionKey user.id (issuedToken P s email user P.expiresIn)) sessionTtl).activate
    (refreshKey user.id (issuedToken P s email user refreshTtl)) refreshTtl

@[simp] theorem signedInStore_users (email : String) (user : User) (session : Nat) :
    (signedInStore P s email user session).users = s.users := by
  simp only [signedInStore, Store.activate_users]

@[simp] theorem signedInStore_clock (email : String) (user : User) (session : Nat) :
    (signedInStore P s email user session).clock = s.clock := by
  simp only [signedInStore, Store.activate_clock]

/-- The checks of a sign-in. -/
structure MaySignIn (P : Platform) (s : Store) (dto : AuthCredentialsDto) (user : User) :
    Prop where
  email : P.isEmail (P.toLowerCase dto.email) = true
  found : s.userByEmail (P.toLowerCase dto.email) = some user
  role : ¬(user.userRole.map UserRole.name = some RolesConstant.ADMIN.text ∨
    user.userRole.map UserRole.name = some RolesConstant.SUPER_ADMIN.text)
  verified : user.isEmailVerified = true
  password : user.password.any (P.bcryptCompare dto.password) = true

theorem run_signIn_granted {dto : AuthCredentialsDto} {user : User} (h : MaySignIn P s dto user)
    (session : Nat) :
    (signIn P dto session).run (exec P) s =
      (.ok ⟨issuedToken P s (P.toLowerCase dto.email) user P.expiresIn,
          issuedToken P s (P.toLowerCase dto.email) user refreshTtl,
          { user with password := none }⟩,
        signedInStore P s (P.toLowerCase dto.email) user session) := by
  unfold signIn
  simp only [Prog.run_bind, run_getUserByEmail, h.email, if_true, h.found, if_neg h.role,
    h.verified, h.password]
  rfl

/-- A sign-in is refused whatever answers its commands, if no user passes the checks. -/
theorem run_signIn_refused_of {σ : Type} {H : Handler Cmd Cmd.Answer Thrown σ} {x : σ}
    {dto : AuthCredentialsDto}
    (huser : ∀ email, (UserRepository.getUserByEmail P email).run H x =
      (if P.isEmail email = true then .ok (s.userByEmail email)
        else .error (.badRequest "This is not a valid email."), x))
    (h : ∀ user, ¬MaySignIn P s dto user) (session : Nat) :
    ∃ e, (signIn P dto session).run H x = (.error e, x) := by
  unfold signIn
  simp only [Prog.run_bind, huser]
  by_cases hemail : P.isEmail (P.toLowerCase dto.email) = true
  · rw [if_pos hemail]
    cases hu : s.userByEmail (P.toLowerCase dto.email) with
    | none => exact ⟨_, rfl⟩
    | some user =>
      by_cases hadmin : user.userRole.map UserRole.name = some RolesConstant.ADMIN.text ∨
          user.userRole.map UserRole.name = some RolesConstant.SUPER_ADMIN.text
      · exact ⟨_, by simp only [if_pos hadmin]; rfl⟩
      · cases hverified : user.isEmailVerified with
        | false =>
          refine ⟨.forbidden
            "This account is yet to be confirmed. Request a confirmation email.", ?_⟩
          simp only [if_neg hadmin, hverified]
          rfl
        | true =>
          cases hpassword : user.password.any (P.bcryptCompare dto.password) with
          | false =>
            refine ⟨.unauthorized
              "Wrong email/password. Please check your login credentials", ?_⟩
            simp only [if_neg hadmin, hverified, hpassword]
            rfl
          | true => exact absurd ⟨hemail, hu, hadmin, hverified, hpassword⟩ (h user)
  · rw [if_neg hemail]
    exact ⟨_, rfl⟩

theorem run_signIn_refused {dto : AuthCredentialsDto} (h : ∀ user, ¬MaySignIn P s dto user)
    (session : Nat) : ∃ e, (signIn P dto session).run (exec P) s = (.error e, s) :=
  run_signIn_refused_of (run_getUserByEmail P s) h session

/-- A sign-in is refused without a trace, or it records the tokens of a stored user. -/
theorem run_signIn_cases (P : Platform) (s : Store) (dto : AuthCredentialsDto) (session : Nat) :
    (∃ e, (signIn P dto session).run (exec P) s = (.error e, s)) ∨
      ∃ user, P.isEmail (P.toLowerCase dto.email) = true ∧
        s.userByEmail (P.toLowerCase dto.email) = some user ∧
        (signIn P dto session).run (exec P) s =
          (.ok ⟨issuedToken P s (P.toLowerCase dto.email) user P.expiresIn,
              issuedToken P s (P.toLowerCase dto.email) user refreshTtl,
              { user with password := none }⟩,
            signedInStore P s (P.toLowerCase dto.email) user session) := by
  by_cases h : ∃ user, MaySignIn P s dto user
  · obtain ⟨user, h⟩ := h
    exact .inr ⟨user, h.email, h.found, run_signIn_granted h session⟩
  · exact .inl (run_signIn_refused (fun user hu => h ⟨user, hu⟩) session)

/-! ## The other operations -/

/-- The clock, the refresh keys and the stored emails are as before. -/
structure KeepsSessions (s s' : Store) : Prop where
  clock : s'.clock = s.clock
  refresh : ∀ u t, s'.cache.entry (refreshKey u t) = s.cache.entry (refreshKey u t)
  emails : ∀ {u row}, s.users.find? u = some row →
    ∃ row', s'.users.find? u = some row' ∧ row'.email = row.email

theorem KeepsSessions.refl (s : Store) : KeepsSessions s s :=
  ⟨rfl, fun _ _ => rfl, fun h => ⟨_, h, rfl⟩⟩

theorem KeepsSessions.trans {s s' s'' : Store} (h : KeepsSessions s s')
    (h' : KeepsSessions s' s'') : KeepsSessions s s'' := by
  refine ⟨h'.clock.trans h.clock, fun u t => (h'.refresh u t).trans (h.refresh u t), ?_⟩
  intro u row hrow
  obtain ⟨row', hrow', he⟩ := h.emails hrow
  obtain ⟨row'', hrow'', he'⟩ := h'.emails hrow'
  exact ⟨row'', hrow'', he'.trans he⟩

/-- A key that is not a refresh key is activated. -/
theorem keepsSessions_activate {key : String} (hkey : ∀ u t, refreshKey u t ≠ key) (ttl : Nat) :
    KeepsSessions s (s.activate key ttl) := by
  refine ⟨rfl, fun u t => ?_, fun h => ⟨_, h, rfl⟩⟩
  show ((s.cache.set key (.str "active")).expire s.clock key ttl).entry (refreshKey u t) = _
  rw [Expiring.Cache.entry_expire_ne _ _ (hkey u t), Expiring.Cache.entry_set_ne _ (hkey u t)]

/-- After a sign-in the refresh key of its token is active for a week. -/
theorem signedInStore_entry_self (email : String) (user : User) (session : Nat) :
    (signedInStore P s email user session).cache.entry
        (refreshKey user.id (issuedToken P s email user refreshTtl)) =
      some ⟨.str "active", some (s.clock + refreshTtl)⟩ :=
  Expiring.Cache.entry_expire_set ..

/-- A sign-in leaves every other refresh key. -/
theorem signedInStore_entry_ne {email : String} {user : User} {session : Nat} {u : Uuid}
    {token : String}
    (h : refreshKey u token ≠ refreshKey user.id (issuedToken P s email user refreshTtl)) :
    (signedInStore P s email user session).cache.entry (refreshKey u token) =
      s.cache.entry (refreshKey u token) := by
  have hsession := (keepsSessions_activate (s := s) (fun u t => refreshKey_ne_sessionKey u user.id t
    (issuedToken P s email user P.expiresIn)) sessionTtl).refresh u token
  refine Eq.trans ?_ hsession
  exact (Expiring.Cache.entry_expire_ne _ _ h _).trans (Expiring.Cache.entry_set_ne _ h _)

theorem keepsSessions_saveUser {user : User} {row : UserRow}
    (hrow : s.users.find? user.id = some row) (hemail : user.email = row.email) :
    KeepsSessions s (commit s (saveUser s user)).2 := by
  refine commit_snd (p := KeepsSessions s) (.refl s) fun user' s' h => ?_
  obtain ⟨row', users, hrow', -, hput, rfl⟩ := saveUser_ok h
  obtain ⟨password, rfl⟩ := savedRow_eq_row hrow'
  refine ⟨rfl, fun _ _ => rfl, ?_⟩
  intro u old hold
  by_cases hu : u = user.id
  · subst hu
    refine ⟨_, Keyed.Table.find?_put_self hput, ?_⟩
    rw [hrow] at hold
    cases hold
    exact hemail
  · exact ⟨old, (Keyed.Table.find?_put_ne hput hu).trans hold, rfl⟩

theorem keepsSessions_insertUser {user : NewUser} :
    KeepsSessions s (commit s (insertUser P s user)).2 := by
  refine commit_snd (p := KeepsSessions s) (.refl s) fun user' s' h => ?_
  obtain ⟨status, users, -, -, hfree, hput, rfl⟩ := insertUser_ok h
  refine ⟨rfl, fun _ _ => rfl, ?_⟩
  intro u row hrow
  have hu : u ≠ P.uuid s.draws := by
    rintro rfl
    rw [hfree] at hrow
    cases hrow
  exact ⟨row, (Keyed.Table.find?_put_ne hput hu).trans hrow, rfl⟩

/-- The commands of a sign-up. -/
def SignUpCmd : Cmd → Prop
  | .users (.findOneByEmail _) => True
  | .users (.insert _) => True
  | .roles (.findOneByName _) => True
  | .process .genSalt => True
  | _ => False

section

variable {Q : Cmd → Prop} (hname : ∀ name, Q (.roles (.findOneByName name)))

include hname in
theorem getRoleByName_issues (name : Option String) :
    (UserRoleRepository.getRoleByName name).Issues Q := by
  unfold UserRoleRepository.getRoleByName
  cases name with
  | none => trivial
  | some name =>
    by_cases hempty : name = ""
    · simp only [if_pos hempty]
      trivial
    · simp only [if_neg hempty]
      refine .bind (.await (hname name)) fun r => ?_
      cases r <;> trivial

variable (hsalt : Q (.process .genSalt))
  (hinsert : ∀ user role, user.userRole = some role → Q (.users (.insert user)))

include hsalt hinsert in
theorem registerAccount_issues (dto : CreateUserDto) (role : UserRole) :
    (UserRepository.registerAccount P dto (some role)).Issues Q := by
  unfold UserRepository.registerAccount
  refine .bind (.await hsalt) fun salt => .tryCatch (.await ?_) fun e => ?_
  · exact hinsert _ role rfl
  · split <;> trivial

include hname hsalt hinsert in
/-- A sign-up looks an email and a role up, and inserts a user with that role. -/
theorem signUp_issues_of (hemail : ∀ email, Q (.users (.findOneByEmail email)))
    (dto : CreateUserDto) : (signUp P dto).Issues Q := by
  unfold signUp
  refine .tryCatch (.bind (.await (hemail _)) fun user => ?_) fun e => trivial
  cases user with
  | some user => trivial
  | none =>
    refine .bind (getRoleByName_issues hname _) fun role => ?_
    exact .bind (registerAccount_issues hsalt hinsert dto role) fun _ => trivial

end

theorem signUp_issues (dto : CreateUserDto) : (signUp P dto).Issues SignUpCmd :=
  signUp_issues_of (fun _ => trivial) trivial (fun _ _ _ => trivial) (fun _ => trivial) dto

theorem run_signUp_keeps (P : Platform) (s : Store) (dto : CreateUserDto) :
    KeepsSessions s ((signUp P dto).run (exec P) s).2 := by
  refine Prog.Issues.run (exec P) (signUp_issues dto) .refl .trans ?_ s
  intro c s hc
  unfold SignUpCmd at hc
  split at hc
  · exact .refl s
  · exact keepsSessions_insertUser
  · exact .refl s
  · exact ⟨rfl, fun _ _ => rfl, fun h => ⟨_, h, rfl⟩⟩
  · exact hc.elim

theorem keepsSessions_del {key : String} (hkey : ∀ u t, refreshKey u t ≠ key) :
    KeepsSessions s { s with cache := s.cache.del key } :=
  ⟨rfl, fun u t => Expiring.Cache.entry_del_ne _ (hkey u t), fun h => ⟨_, h, rfl⟩⟩

theorem run_resetSave_keeps (dto : ResetPasswordDto) {user : User} {row : UserRow}
    (hrow : s.users.find? user.id = some row) (hemail : user.email = row.email) :
    KeepsSessions s ((AccountOp.resetSave dto user).run (exec P) s).2 := by
  have hsave := keepsSessions_saveUser hrow hemail
  have hrun : (AccountOp.resetSave dto user).run (exec P) s =
      match commit s (saveUser s user) with
      | (.ok _, s') => (.ok "Password has been reset successfully",
          { s' with cache := s'.cache.del (resetPasswordKey dto.userId) })
      | (.error e, s') => (.error e, s') := by
    cases hs : saveUser s user with
    | error e =>
      have he : exec P (.users (.save user)) s = (.error e, s) := by
        rw [exec_saveUser, hs]
        rfl
      simp only [AccountOp.resetSave, Service.await, Prog.run_bind, Prog.run_await, he]
      rfl
    | ok r =>
      have he : exec P (.users (.save user)) s = (.ok r.1, r.2) := by
        rw [exec_saveUser, hs]
        rfl
      simp only [AccountOp.resetSave, Service.await, Prog.run_bind, Prog.run_await, he]
      rfl
  rw [hrun]
  cases hs : commit s (saveUser s user) with
  | mk r s' =>
    rw [hs] at hsave
    cases r with
    | error e => exact hsave
    | ok user' => exact hsave.trans (keepsSessions_del (refreshKey_ne_resetPasswordKey · · _))

theorem run_resetPassword_keeps (P : Platform) (s : Store) (dto : ResetPasswordDto)
    (newPassword : NewPasswordDto) :
    KeepsSessions s ((resetPassword P dto newPassword).run (exec P) s).2 := by
  rw [AccountOp.resetPassword_eq, Prog.run_bind, CacheService.run_get]
  dsimp only
  generalize CacheService.cached s (resetPasswordKey dto.userId) = stored
  by_cases hcheck : stored.getD "" = "" ∨ stored ≠ some dto.token
  · rw [if_pos hcheck]
    exact .refl s
  · rw [if_neg hcheck, AccountOp.resetLoad, Prog.run_bind]
    rcases run_findUserById_cases P s dto.userId with ⟨e, h⟩ | h | ⟨u, row, hrow, h⟩ <;> rw [h]
    · exact .refl s
    · exact .refl s
    · have hsalt : KeepsSessions s { s with draws := s.draws + 1 } :=
        ⟨rfl, fun _ _ => rfl, fun h => ⟨_, h, rfl⟩⟩
      refine hsalt.trans ?_
      have hrow' : ({ s with draws := s.draws + 1 } : Store).users.find?
          (AccountOp.resetUser P newPassword (s.userEntity u row) s.draws).id = some row := hrow
      exact run_resetSave_keeps dto hrow' rfl

end AuthService

end VoltFleet
