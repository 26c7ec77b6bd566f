import VoltFleet.Auth.Proofs.Accounts
import VoltFleet.Auth.Proofs.Refresh

/-!
# The calls around a session as threads

A request with an access token depends on the stored accounts and the clock only.
A refresh needs the refresh key of its token, which a logout deletes: `LogoutAt`
and `RefreshAt` list the points of the two calls, with what is known of the key
at each of them.
-/

namespace VoltFleet

open Awaiting AuthService

/-- The calls that issue or delete a token, and a request that shows one. -/
inductive SessionCall where
  | signIn (dto : AuthCredentialsDto) (session : Nat)
  | refreshAccessToken (token : String)
  | logout (token : String)
  | request (bearer : Option String)

/-- What such a call returns. -/
inductive Outcome where
  | signedIn (result : SignInResult)
  | refreshed (accessToken : String)
  | loggedOut
  | authenticated (user : User)

namespace SessionCall

/-- A call as a thread. -/
def prog (P : Platform) : SessionCall → Service Outcome
  | .signIn dto session => .signedIn <$> AuthService.signIn P dto session
  | .refreshAccessToken token => .refreshed <$> AuthService.refreshAccessToken P token
  | .logout token => (fun _ => .loggedOut) <$> AuthService.logout P token
  | .request bearer => .authenticated <$> authGuard P bearer

/-- The calls are about to start. -/
def started {ι : Type} (P : Platform) (s : Store) (calls : ι → SessionCall) :
    Serving ι Outcome :=
  .start s fun i => (calls i).prog P

variable {P : Platform}

/-- The call is a sign-in. -/
def IsSignIn : SessionCall → Prop
  | .signIn .. => True
  | _ => False

theorem prog_issues_of_not_signIn {call : SessionCall} (h : ¬ call.IsSignIn) :
    (call.prog P).Issues RefreshCmd := by
  cases call with
  | signIn dto session => exact absurd trivial h
  | refreshAccessToken token => exact .bind (refreshAccessToken_issues token) fun _ => trivial
  | logout token => exact .bind (logout_issues token) fun _ => trivial
  | request bearer => exact .bind (authGuard_issues bearer) fun _ => trivial

theorem prog_issues (call : SessionCall) : (call.prog P).Issues SessionCmd := by
  by_cases h : call.IsSignIn
  · cases call with
    | signIn dto session => exact .bind (signIn_issues dto session) fun _ => trivial
    | refreshAccessToken token => exact h.elim
    | logout token => exact h.elim
    | request bearer => exact h.elim
  · exact (prog_issues_of_not_signIn h).mono RefreshCmd.sessionCmd

theorem started_issuing {ι : Type} (s : Store) (calls : ι → SessionCall) :
    (started P s calls).Issuing SessionCmd := fun i => prog_issues (calls i)

end SessionCall

/-- What a command of these calls does to the store: the users and the clock stay, and only
a write of a key brings the key about. -/
theorem SessionCmd.exec_spec {c : Cmd} (h : SessionCmd c) (P : Platform) (s : Store) :
    (exec P c s).2.users = s.users ∧ (exec P c s).2.clock = s.clock ∧
      ∀ key, (∀ value, c ≠ .redis (.set key value)) → s.cache.entry key = none →
        (exec P c s).2.cache.entry key = none := by
  unfold SessionCmd at h
  split at h
  · exact ⟨rfl, rfl, fun _ _ hk => hk⟩
  · exact h.elim
  · exact h.elim
  · rename_i c hrpush hhset
    cases c with
    | get key => exact ⟨rfl, rfl, fun _ _ hk => hk⟩
    | lrange key => exact ⟨rfl, rfl, fun _ _ hk => hk⟩
    | rpush key data => exact (hrpush key data rfl).elim
    | hset key field value => exact (hhset key field value rfl).elim
    | set key value =>
      refine ⟨rfl, rfl, fun key' hne hk => ?_⟩
      have hkey : key' ≠ key := fun he => hne value (by rw [he])
      exact (Expiring.Cache.entry_set_ne _ hkey _).trans hk
    | expire key ttl =>
      refine ⟨rfl, rfl, fun key' _ hk => ?_⟩
      exact Expiring.Cache.entry_expire_of_none hk
    | del key =>
      refine ⟨rfl, rfl, fun key' _ hk => ?_⟩
      by_cases hkey : key' = key
      · subst hkey
        exact Expiring.Cache.entry_del_self ..
      · exact (Expiring.Cache.entry_del_ne _ hkey).trans hk
  · rename_i c
    cases c <;> exact ⟨rfl, rfl, fun _ _ hk => hk⟩
  · exact h.elim

/-! ## Access tokens -/

section

variable {ι : Type} [DecidableEq ι] {P : Platform}

/-- No run of these calls changes an account. -/
theorem users_exec (s : Store) (calls : ι → SessionCall) (ms : List (Move ι Nat)) :
    ((SessionCall.started P s calls).exec (system P) ms).store.users = s.users := by
  refine ((SessionCall.started_issuing s calls).exec (S := system P)
    (Q := fun s' => s'.users = s.users) rfl ?_ ?_ ms).2
  · intro c s' hc hs
    exact (hc.exec_spec P s').1.trans hs
  · intro x s' hs
    exact hs

/-- A request with this bearer token passes `AuthGuard()`. -/
def Authenticates (P : Platform) (s : Store) (token : String) : Prop :=
  ∃ user, ((authGuard P (some token)).run (exec P) s).1 = .ok user

theorem run_validate (s : Store) (payload : JwtPayload) :
    (JwtStrategy.validate payload).run (exec P) s =
      (match s.userByEmail payload.email with
        | none => .error (.unauthorized "Unauthorized")
        | some user => .ok user, s) := by
  have hexec : exec P (.users (.findOneByEmail payload.email)) s =
      (.ok (s.userByEmail payload.email), s) := rfl
  simp only [JwtStrategy.validate, Prog.run_bind, Service.await, Prog.run_await, hexec]
  cases s.userByEmail payload.email <;> rfl

/-- The bearer token has not expired, and its email is that of the user. -/
def Bears (P : Platform) (s : Store) (bearer : Option String) (user : User) : Prop :=
  ∃ token claims, bearer = some token ∧ P.jwt.verify s.clock token = some claims ∧
    s.userByEmail claims.payload.email = some user

theorem run_authGuard_granted {s : Store} {bearer : Option String} {user : User}
    (h : Bears P s bearer user) : (authGuard P bearer).run (exec P) s = (.ok user, s) := by
  obtain ⟨token, claims, rfl, hv, hu⟩ := h
  unfold authGuard
  simp only [Prog.run_bind, Prog.run_tryCatch, run_verify, hv, run_validate, hu]

theorem run_authGuard_refused {s : Store} {bearer : Option String}
    (h : ∀ user, ¬Bears P s bearer user) :
    ∃ e, (authGuard P bearer).run (exec P) s = (.error e, s) := by
  unfold authGuard
  cases bearer with
  | none => exact ⟨_, rfl⟩
  | some token =>
    simp only [Prog.run_bind, Prog.run_tryCatch, run_verify]
    cases hv : P.jwt.verify s.clock token with
    | none => exact ⟨_, rfl⟩
    | some claims =>
      simp only [run_validate]
      cases hu : s.userByEmail claims.payload.email with
      | none => exact ⟨_, rfl⟩
      | some user => exact absurd ⟨token, claims, rfl, hv, hu⟩ (h user)

theorem authGuard_ok {s : Store} {token : String} {claims : JwtClaims} {user : User}
    (hv : P.jwt.verify s.clock token = some claims)
    (hu : s.userByEmail claims.payload.email = some user) :
    ((authGuard P (some token)).run (exec P) s).1 = .ok user := by
  rw [run_authGuard_granted ⟨token, claims, rfl, hv, hu⟩]

theorem authenticates_iff {s : Store} {token : String} :
    Authenticates P s token ↔ ∃ claims u row, P.jwt.sign claims = token ∧ s.clock < claims.exp ∧
      s.users.find? u = some row ∧ row.email = claims.payload.email := by
  constructor
  · rintro ⟨user, h⟩
    by_cases hbears : ∃ user, Bears P s (some token) user
    · obtain ⟨user', token', claims, htoken, hv, hu⟩ := hbears
      cases htoken
      obtain ⟨hsign, hexp⟩ := JwtService.verify_eq_some.mp hv
      obtain ⟨u, row, hrow, he, -⟩ := userByEmail_eq_some.mp hu
      exact ⟨claims, u, row, hsign, hexp, hrow, he⟩
    · obtain ⟨e, he⟩ := run_authGuard_refused (P := P) fun user hu => hbears ⟨user, hu⟩
      rw [he] at h
      cases h
  · rintro ⟨claims, u, row, hsign, hexp, hrow, he⟩
    exact ⟨s.userEntity u row, authGuard_ok (JwtService.verify_eq_some.mpr ⟨hsign, hexp⟩)
      (userByEmail_eq_some.mpr ⟨u, row, hrow, he, rfl⟩)⟩

end

/-! ## Refreshes that start after the logout -/

/-- No stored user named by the token has its refresh key. -/
def Revoked (P : Platform) (s : Store) (token : String) : Prop :=
  ∀ claims u row, P.jwt.sign claims = token → s.users.find? u = some row →
    row.email = claims.payload.email → s.cache.entry (refreshKey u token) = none

/-- The token cannot be refreshed with any more. -/
def Ended (P : Platform) (s : Store) (token : String) : Prop :=
  (∀ claims, P.jwt.sign claims = token → claims.exp ≤ s.clock ∨
    P.isEmail claims.payload.email = false) ∨ Revoked P s token

/-- The command writes a refresh key of the token. -/
def Reissues (token : String) (c : Cmd) : Prop :=
  ∃ u value, c = .redis (.set (refreshKey u token) value)

section

variable {P : Platform} {s : Store} {token : String} {c : Cmd}

theorem Revoked.exec (h : Revoked P s token) (hc : SessionCmd c) (hset : ¬ Reissues token c) :
    Revoked P (exec P c s).2 token := by
  obtain ⟨husers, -, hcache⟩ := hc.exec_spec P s
  intro claims u row hsign hrow he
  rw [husers] at hrow
  refine hcache _ ?_ (h claims u row hsign hrow he)
  rintro value rfl
  exact hset ⟨u, value, rfl⟩

theorem Ended.exec (h : Ended P s token) (hc : SessionCmd c) (hset : ¬ Reissues token c) :
    Ended P (exec P c s).2 token := by
  rcases h with h | h
  · left
    rw [(hc.exec_spec P s).2.1]
    exact h
  · exact .inr (h.exec hc hset)

theorem Ended.elapse (h : Ended P s token) (d : Nat) : Ended P (elapse d s) token := by
  rcases h with h | h
  · refine .inl fun claims hsign => ?_
    rcases h claims hsign with hexp | hemail
    · exact .inl (Nat.le_add_right_of_le hexp)
    · exact .inr hemail
  · exact .inr h

/-- A token that still verifies has been revoked. -/
theorem Ended.revoked (h : Ended P s token) {claims : JwtClaims}
    (hv : P.jwt.verify s.clock token = some claims)
    (hemail : P.isEmail claims.payload.email = true) : Revoked P s token := by
  obtain ⟨hsign, hexp⟩ := JwtService.verify_eq_some.mp hv
  rcases h with h | h
  · rcases h claims hsign with hle | hno
    · omega
    · rw [hemail] at hno
      cases hno
  · exact h

/-- Deleting the refresh key of the user a token names revokes the token. -/
theorem revoked_del {claims : JwtClaims} {u : Uuid} {row : UserRow}
    (hsign : P.jwt.sign claims = token) (hrow : s.users.find? u = some row)
    (he : row.email = claims.payload.email) :
    Revoked P { s with cache := s.cache.del (refreshKey u token) } token := by
  intro claims' u' row' hsign' hrow' he'
  obtain rfl : claims = claims' := JwtService.sign_inj (hsign.trans hsign'.symm)
  obtain rfl : u' = u := Keyed.Table.find?_inj hrow' hrow (he'.trans he.symm)
  exact Expiring.Cache.entry_del_self ..

end

/-! ## The points of a logout and of a refresh -/

namespace SessionCall

/-- `logout` after it has found the user. -/
def logoutDelete (token : String) (user : User) : Service Outcome :=
  (fun _ => .loggedOut) <$> (do
    try CacheService.delete (refreshKey user.id token)
    catch _ => pure () : Service Unit)

/-- `logout` after it has verified its token. -/
def logoutLook (P : Platform) (token : String) (claims : JwtClaims) : Service Outcome :=
  (fun _ => .loggedOut) <$> (do
    try
      match ← UserRepository.getUserByEmail P claims.payload.email with
      | none => pure ()
      | some user => CacheService.delete (refreshKey user.id token)
    catch _ => pure () : Service Unit)

/-- `refreshAccessToken` after it has found the user. -/
def refreshCheck (P : Platform) (token : String) (user : User) : Service Outcome :=
  .refreshed <$> (do
    let isValid ← CacheService.get (refreshKey user.id token)
    if isValid ≠ some "active" then
      throw (.unauthorized "Refresh token is invalid or has been revoked")
    let newAccessToken ← sign P ⟨user.email, user.userRole⟩ accessLifetime
    CacheService.set (sessionKey user.id newAccessToken) "active" (some sessionTtl)
    return newAccessToken)

/-- `refreshAccessToken` after it has verified its token. -/
def refreshLook (P : Platform) (token : String) (claims : JwtClaims) : Service Outcome :=
  .refreshed <$> (do
    match ← UserRepository.getUserByEmail P claims.payload.email with
    | none => throw (.unauthorized "User not found")
    | some user =>
        let isValid ← CacheService.get (refreshKey user.id token)
        if isValid ≠ some "active" then
          throw (.unauthorized "Refresh token is invalid or has been revoked")
        let newAccessToken ← sign P ⟨user.email, user.userRole⟩ accessLifetime
        CacheService.set (sessionKey user.id newAccessToken) "active" (some sessionTtl)
        return newAccessToken)

/-- The points of a logout whose commands do not fail. -/
inductive LogoutAt (P : Platform) (s : Store) (token : String) : Service Outcome → Prop where
  | start : LogoutAt P s token ((SessionCall.logout token).prog P)
  | looking (claims : JwtClaims) (hsign : P.jwt.sign claims = token) :
      LogoutAt P s token (logoutLook P token claims)
  | deleting (claims : JwtClaims) (user : User) (row : UserRow)
      (hsign : P.jwt.sign claims = token) (hrow : s.users.find? user.id = some row)
      (he : row.email = claims.payload.email) :
      LogoutAt P s token (logoutDelete token user)
  | returned (h : Ended P s token) : LogoutAt P s token (.ret .loggedOut)

/-- The points of a refresh that is refused. -/
inductive RefreshAt (P : Platform) (s : Store) (token : String) : Service Outcome → Prop where
  | start : RefreshAt P s token ((SessionCall.refreshAccessToken token).prog P)
  | looking (claims : JwtClaims) (hsign : P.jwt.sign claims = token)
      (hemail : P.isEmail claims.payload.email = true) (h : Revoked P s token) :
      RefreshAt P s token (refreshLook P token claims)
  | checking (user : User) (h : s.cache.entry (refreshKey user.id token) = none) :
      RefreshAt P s token (refreshCheck P token user)
  | threw (e : Thrown) : RefreshAt P s token (.fail e)

variable {P : Platform} {s s' : Store} {token : String} {p : Service Outcome}

theorem LogoutAt.mono (h : LogoutAt P s token p) (husers : s'.users = s.users)
    (hended : p = .ret .loggedOut → Ended P s token → Ended P s' token) :
    LogoutAt P s' token p := by
  cases h with
  | start => exact .start
  | looking claims hsign => exact .looking claims hsign
  | deleting claims user row hsign hrow he =>
    exact .deleting claims user row hsign (by rw [husers]; exact hrow) he
  | returned h => exact .returned (hended rfl h)

/-- A token that does not verify has ended. -/
theorem ended_of_verify_none (hv : P.jwt.verify s.clock token = none) : Ended P s token := by
  refine .inl fun claims hsign => .inl ?_
  by_contra hlt
  rw [JwtService.verify_eq_some.mpr ⟨hsign, Nat.lt_of_not_le hlt⟩] at hv
  cases hv

/-- A token whose email nobody has is revoked. -/
theorem revoked_of_unknown {claims : JwtClaims} (hsign : P.jwt.sign claims = token)
    (h : s.userByEmail claims.payload.email = none) : Revoked P s token := by
  intro claims' u row hsign' hrow he
  obtain rfl : claims = claims' := JwtService.sign_inj (hsign.trans hsign'.symm)
  rw [userByEmail_eq_some.mpr ⟨u, row, hrow, he, rfl⟩] at h
  cases h

/-- A logout whose command has been answered is at the next point. -/
theorem LogoutAt.answer {c : Cmd} {k : Except Thrown c.Answer → Service Outcome}
    (h : LogoutAt P s token (.call c k)) :
    LogoutAt P (exec P c s).2 token (k (exec P c s).1) := by
  generalize hp : Prog.call c k = p at h
  cases h with
  | start =>
    cases hp
    show LogoutAt P s token ((fun _ => .loggedOut) <$>
      (tryCatch (verified P token s.clock >>= _) _ : Service Unit))
    unfold verified
    cases hv : P.jwt.verify s.clock token with
    | none => exact .returned (ended_of_verify_none hv)
    | some claims => exact .looking claims (JwtService.verify_eq_some.mp hv).1
  | looking claims hsign =>
    unfold logoutLook UserRepository.getUserByEmail at hp
    cases hemail : P.isEmail claims.payload.email with
    | false =>
      rw [hemail] at hp
      cases hp
    | true =>
      rw [hemail] at hp
      cases hp
      rcases findOneByEmail_cases P claims.payload.email s with h | ⟨u, row, hrow, he, h⟩ <;> rw [h]
      · exact .returned (.inr (revoked_of_unknown hsign (Except.ok.inj h)))
      · exact .deleting claims (s.userEntity u row) row hsign hrow he
  | deleting claims user row hsign hrow he =>
    cases hp
    exact .returned (.inr (revoked_del hsign hrow he))
  | returned h => cases hp

/-- After a logout that has returned its token has ended. -/
theorem LogoutAt.ended {r : Outcome} (h : LogoutAt P s token (.ret r)) : Ended P s token := by
  generalize hp : (Prog.ret r : Service Outcome) = p at h
  cases h with
  | start => cases hp
  | looking claims hsign =>
    unfold logoutLook UserRepository.getUserByEmail at hp
    cases hemail : P.isEmail claims.payload.email with
    | false =>
      refine .inl fun claims' hsign' => .inr ?_
      obtain rfl : claims = claims' := JwtService.sign_inj (hsign.trans hsign'.symm)
      exact hemail
    | true =>
      rw [hemail] at hp
      cases hp
  | deleting claims user row hsign hrow he => cases hp
  | returned h => exact h

theorem RefreshAt.mono (h : RefreshAt P s token p) (hrevoked : Revoked P s token →
    Revoked P s' token) (hentry : ∀ u, s.cache.entry (refreshKey u token) = none →
      s'.cache.entry (refreshKey u token) = none) : RefreshAt P s' token p := by
  cases h with
  | start => exact .start
  | looking claims hsign hemail h => exact .looking claims hsign hemail (hrevoked h)
  | checking user h => exact .checking user (hentry _ h)
  | threw e => exact .threw e

/-- A refresh whose command has been answered is at the next point. -/
theorem RefreshAt.answer {c : Cmd} {k : Except Thrown c.Answer → Service Outcome}
    (h : RefreshAt P s token (.call c k)) (hended : Ended P s token) :
    RefreshAt P (exec P c s).2 token (k (exec P c s).1) := by
  generalize hp : Prog.call c k = p at h
  cases h with
  | start =>
    cases hp
    show RefreshAt P s token
      (.refreshed <$> (tryCatch (verified P token s.clock) _ >>= _ : Service String))
    unfold verified
    cases hv : P.jwt.verify s.clock token with
    | none => exact .threw _
    | some claims =>
      cases hemail : P.isEmail claims.payload.email with
      | false =>
        have hthrow : UserRepository.getUserByEmail P claims.payload.email =
            .fail (.badRequest "This is not a valid email.") := by
          unfold UserRepository.getUserByEmail
          rw [hemail]
          rfl
        show RefreshAt P s token (.refreshed <$>
          (UserRepository.getUserByEmail P claims.payload.email >>= _ : Service String))
        rw [hthrow]
        exact .threw _
      | true =>
        exact .looking claims (JwtService.verify_eq_some.mp hv).1 hemail (hended.revoked hv hemail)
  | looking claims hsign hemail h =>
    unfold refreshLook UserRepository.getUserByEmail at hp
    rw [hemail] at hp
    cases hp
    rcases findOneByEmail_cases P claims.payload.email s with h' | ⟨u, row, hrow, he, h'⟩ <;>
      rw [h']
    · exact .threw _
    · exact .checking (s.userEntity u row) (h claims u row hsign hrow he)
  | checking user h =>
    cases hp
    have hget : s.cache.get s.clock (refreshKey user.id token) = none := by
      rw [Expiring.Cache.get, h]
      rfl
    have hanswer : (exec P (.redis (.get (refreshKey user.id token))) s).1 = .ok none := by
      show (RedisCmd.exec s (.get (refreshKey user.id token))).1 = _
      simp only [RedisCmd.exec, hget]
    rw [hanswer]
    exact .threw _
  | threw e => cases hp

/-- A refresh whose command has failed has thrown. -/
theorem RefreshAt.fault {c : Cmd} {k : Except Thrown c.Answer → Service Outcome}
    (h : RefreshAt P s token (.call c k)) {e : Thrown} (hf : canFail c = some e) :
    RefreshAt P s token (k (.error e)) := by
  generalize hp : Prog.call c k = p at h
  cases h with
  | start =>
    cases hp
    cases hf
  | looking claims hsign hemail h =>
    unfold refreshLook UserRepository.getUserByEmail at hp
    rw [hemail] at hp
    cases hp
    exact .threw _
  | checking user h =>
    cases hp
    exact .threw _
  | threw e => cases hp

theorem RefreshAt.not_ret {r : Outcome} (h : RefreshAt P s token (.ret r)) : False := by
  generalize hp : (Prog.ret r : Service Outcome) = p at h
  cases h with
  | start => cases hp
  | looking claims hsign hemail h =>
    unfold refreshLook UserRepository.getUserByEmail at hp
    rw [hemail] at hp
    cases hp
  | checking user h => cases hp
  | threw e => cases hp

end SessionCall

end VoltFleet
