import VoltFleet.Auth.Proofs.Revocation

/-!
# What a logout ends

`logout` deletes the refresh key of its token, and nothing that checks an access
token reads the cache.  So a refresh that starts after the logout is refused,
while an access token is accepted until it expires.
-/

namespace VoltFleet.SessionCall

open Awaiting AuthService

variable {P : Platform} {token : String} {ι : Type} [DecidableEq ι]

/-- No command of thread `i` fails, and once the thread has returned no refresh key of the
token is written. -/
def Admits (i : ι) (token : String) (cfg : Serving ι Outcome) : Move ι Nat → Prop
  | .fault j => j ≠ i
  | .step j => ∀ r, cfg.threads i = .ret r → ∀ c k, cfg.threads j = .call c k → ¬ Reissues token c
  | .env _ => True

/-- A logout on its way, among calls around sessions. -/
structure LoggingOut (P : Platform) (i : ι) (token : String) (cfg : Serving ι Outcome) : Prop where
  issuing : cfg.Issuing SessionCmd
  thread : LogoutAt P cfg.store token (cfg.threads i)

theorem loggingOut_move {i : ι} {cfg : Serving ι Outcome} {m : Move ι Nat}
    (h : LoggingOut P i token cfg) (hok : Admits i token cfg m) :
    LoggingOut P i token (cfg.move (system P) m) := by
  obtain ⟨hissuing, hthread⟩ := h
  refine Config.move_cases (motive := LoggingOut P i token) cfg m ⟨hissuing, hthread⟩
    ?stepped ?faulted ?outside
  case stepped =>
    rintro j c k rfl hc
    refine ⟨hissuing.deliver hc _ _, ?_⟩
    by_cases hj : i = j
    · subst hj
      rw [hc] at hthread
      rw [Config.deliver_threads_self]
      exact hthread.answer
    · rw [Config.deliver_threads_ne cfg hj]
      have hcmd : SessionCmd c := by
        have hi := hissuing j
        rw [hc] at hi
        exact hi.1
      refine hthread.mono (hcmd.exec_spec P cfg.store).1 fun hret hended => ?_
      exact hended.exec hcmd (hok _ hret c k hc)
  case faulted =>
    rintro j c k e rfl hc -
    refine ⟨hissuing.deliver hc _ _, ?_⟩
    rw [Config.deliver_threads_ne cfg (Ne.symm hok)]
    exact hthread
  case outside =>
    rintro d rfl
    exact ⟨hissuing, hthread.mono rfl fun _ hended => hended.elapse d⟩

/-- The logout has returned, and a refresh with its token is on its way. -/
structure LoggedOut (P : Platform) (i j : ι) (token : String) (cfg : Serving ι Outcome) :
    Prop where
  issuing : cfg.Issuing SessionCmd
  ended : Ended P cfg.store token
  returned : ∃ r, cfg.threads i = .ret r
  thread : RefreshAt P cfg.store token (cfg.threads j)

theorem loggedOut_move {i j : ι} {cfg : Serving ι Outcome} {m : Move ι Nat}
    (h : LoggedOut P i j token cfg) (hok : Admits i token cfg m) :
    LoggedOut P i j token (cfg.move (system P) m) := by
  obtain ⟨hissuing, hended, ⟨r, hret⟩, hthread⟩ := h
  have hkeep : ∀ {l c k} (a : Except Thrown (Cmd.Answer c)) (s : Store), cfg.threads l = .call c k →
      (cfg.deliver l c k a s).threads i = .ret r := by
    intro l c k a s hc
    have hne : i ≠ l := by
      rintro rfl
      rw [hret] at hc
      cases hc
    rw [Config.deliver_threads_ne cfg hne]
    exact hret
  refine Config.move_cases (motive := LoggedOut P i j token) cfg m
    ⟨hissuing, hended, ⟨r, hret⟩, hthread⟩ ?stepped ?faulted ?outside
  case stepped =>
    rintro l c k rfl hc
    have hcmd : SessionCmd c := by
      have hi := hissuing l
      rw [hc] at hi
      exact hi.1
    have hset : ¬ Reissues token c := hok r hret c k hc
    refine ⟨hissuing.deliver hc _ _, hended.exec hcmd hset, ⟨r, hkeep _ _ hc⟩, ?_⟩
    by_cases hl : j = l
    · subst hl
      rw [hc] at hthread
      rw [Config.deliver_threads_self]
      exact hthread.answer hended
    · rw [Config.deliver_threads_ne cfg hl]
      refine hthread.mono (fun h => h.exec hcmd hset) fun u hu => ?_
      exact (hcmd.exec_spec P cfg.store).2.2 _ (fun value he => hset ⟨u, value, he⟩) hu
  case faulted =>
    rintro l c k e rfl hc hf
    refine ⟨hissuing.deliver hc _ _, hended, ⟨r, hkeep _ _ hc⟩, ?_⟩
    by_cases hl : j = l
    · subst hl
      rw [hc] at hthread
      rw [Config.deliver_threads_self]
      exact hthread.fault hf
    · rw [Config.deliver_threads_ne cfg hl]
      exact hthread
  case outside =>
    rintro d rfl
    exact ⟨hissuing, hended.elapse d, ⟨r, hret⟩, hthread.mono id fun _ hu => hu⟩

/-- In every run of these calls, an access token is accepted exactly until it expires, as
long as an account has its email.  A refresh that starts after a logout with the same token
has returned does not return, if no command of the logout fails and no sign-in writes that
refresh key again. -/
theorem access_until_expiry_refresh_until_logout (P : Platform) (s : Store)
    (calls : ι → SessionCall) :
    (∀ ms accessToken,
      Authenticates P ((started P s calls).exec (system P) ms).store accessToken ↔
        ∃ claims u row, P.jwt.sign claims = accessToken ∧
          ((started P s calls).exec (system P) ms).store.clock < claims.exp ∧
          s.users.find? u = some row ∧ row.email = claims.payload.email) ∧
    ∀ i j token ms ns, calls i = .logout token → calls j = .refreshAccessToken token →
      Config.Along (system P) (Admits i token) (started P s calls) (ms ++ ns) →
      (∃ r, ((started P s calls).exec (system P) ms).threads i = .ret r) →
      ((started P s calls).exec (system P) ms).threads j = (calls j).prog P →
      ∀ r, ((started P s calls).exec (system P) (ms ++ ns)).threads j ≠ .ret r := by
  constructor
  · intro ms accessToken
    rw [authenticates_iff, users_exec]
  · intro i j token ms ns hi hj hok hret hstart r hr
    obtain ⟨hms, hns⟩ := Config.along_append.mp hok
    have init : LoggingOut P i token (started P s calls) := by
      refine ⟨started_issuing s calls, ?_⟩
      show LogoutAt P s token ((calls i).prog P)
      rw [hi]
      exact .start
    have hout : LoggingOut P i token ((started P s calls).exec (system P) ms) :=
      Config.exec_inv (fun _ _ => loggingOut_move) init hms
    have hended : Ended P ((started P s calls).exec (system P) ms).store token := by
      obtain ⟨r', hr'⟩ := hret
      have ht := hout.thread
      rw [hr'] at ht
      exact ht.ended
    have hnext : LoggedOut P i j token ((started P s calls).exec (system P) ms) := by
      refine ⟨hout.issuing, hended, hret, ?_⟩
      rw [hstart, hj]
      exact .start
    have hlast : LoggedOut P i j token ((started P s calls).exec (system P) (ms ++ ns)) := by
      rw [Config.exec_append]
      exact Config.exec_inv (fun _ _ => loggedOut_move) hnext hns
    have ht := hlast.thread
    rw [hr] at ht
    exact ht.not_ret

/-- Without sign-ins no refresh key is written. -/
theorem along_admits {s : Store} {calls : ι → SessionCall} (hcalls : ∀ j, ¬ (calls j).IsSignIn)
    {i : ι} {ms : List (Move ι Nat)} (hms : ∀ m ∈ ms, m ≠ .fault i) :
    Config.Along (system P) (Admits i token) (started P s calls) ms := by
  have hissuing : (started P s calls).Issuing RefreshCmd :=
    fun j => prog_issues_of_not_signIn (hcalls j)
  refine Config.along_of_inv (fun cfg m h _ => h.move m) ?_ hissuing (Config.along_of_forall hms)
  intro cfg m h hm
  cases m with
  | step j =>
    rintro - - c k hc ⟨u, value, rfl⟩
    have hi := h j
    rw [hc] at hi
    obtain ⟨u', token', hkey⟩ := hi.1
    exact refreshKey_ne_sessionKey u u' token token' hkey
  | fault j =>
    rintro rfl
    exact hm rfl
  | env d => trivial

/-! ## A session that outlives its logout -/

/-- The entity of the user who signs in. -/
def firstUser : User := verifiedUserStore.userEntity (.ofNat 1) verifiedUser

/-- The store after the user has signed in. -/
def firstSignInStore : Store :=
  signedInStore .plain verifiedUserStore verifiedUser.email firstUser 0

/-- The user can sign in as long as the accounts are the same. -/
theorem maySignIn_verifiedUser {s : Store} (h : s.users = verifiedUserStore.users) :
    MaySignIn .plain s ⟨"Ada@example.com", "secret"⟩ (s.userEntity (.ofNat 1) verifiedUser) := by
  have hemail : Platform.plain.toLowerCase "Ada@example.com" = verifiedUser.email := by decide
  have hrow : s.users.find? (.ofNat 1) = some verifiedUser := by
    rw [h]
    rfl
  have hpassword : Platform.plain.bcryptCompare "secret" verifiedUser.password = true := by decide
  refine ⟨by decide, ?_, ?_, rfl, hpassword⟩
  · exact userByEmail_eq_some.mpr ⟨.ofNat 1, verifiedUser, hrow, hemail.symm, rfl⟩
  · rintro (h | h) <;> cases h

theorem run_firstSignIn :
    (AuthService.signIn .plain ⟨"Ada@example.com", "secret"⟩ 0).run (exec .plain)
      verifiedUserStore = (.ok firstSignIn, firstSignInStore) :=
  run_signIn_granted (maySignIn_verifiedUser rfl) 0

/-- The refresh token of the sign-in names the user for a week. -/
theorem names_firstSignIn {s : Store} (husers : s.users = verifiedUserStore.users)
    (hclock : s.clock < 604800) :
    Names .plain s firstSignIn.refreshToken (s.userEntity (.ofNat 1) verifiedUser) := by
  have hrow : s.users.find? (.ofNat 1) = some verifiedUser := by
    rw [husers]
    rfl
  refine ⟨⟨⟨verifiedUser.email, none⟩, 0, 604800⟩, ?_, by decide, ?_⟩
  · exact JwtService.verify_eq_some.mpr ⟨by rfl, hclock⟩
  · exact userByEmail_eq_some.mpr ⟨.ofNat 1, verifiedUser, hrow, rfl, rfl⟩

/-- Right after the sign-in its refresh token is active. -/
theorem active_firstSignIn :
    Active firstSignInStore (firstSignInStore.userEntity (.ofNat 1) verifiedUser)
      firstSignIn.refreshToken := by
  have htoken : firstSignIn.refreshToken = issuedToken .plain verifiedUserStore
      verifiedUser.email firstUser refreshTtl := rfl
  have hstore : firstSignInStore = signedInStore .plain verifiedUserStore
      verifiedUser.email firstUser 0 := rfl
  have hentry := signedInStore_entry_self (P := .plain) (s := verifiedUserStore)
    verifiedUser.email firstUser 0
  have hid : firstUser.id = .ofNat 1 := rfl
  have hclock : firstSignInStore.clock = verifiedUserStore.clock :=
    signedInStore_clock ..
  rw [← htoken, ← hstore, hid] at hentry
  have hlive : (⟨.str "active", some (verifiedUserStore.clock + refreshTtl)⟩ :
      Expiring.Entry RedisValue).live firstSignInStore.clock = true := by
    rw [hclock, Expiring.Entry.live_until, decide_eq_true_eq]
    exact Nat.lt_add_of_pos_right (by decide)
  show firstSignInStore.cache.get firstSignInStore.clock
    (refreshKey (.ofNat 1) firstSignIn.refreshToken) = some (.str "active")
  exact Expiring.Cache.get_eq_some.mpr ⟨_, hentry, hlive, rfl⟩

/-- The logout of the refresh token. -/
theorem run_firstLogout :
    ((SessionCall.logout firstSignIn.refreshToken).prog .plain).run (exec .plain) firstSignInStore =
      (.ok .loggedOut, { firstSignInStore with
        cache := firstSignInStore.cache.del
          (refreshKey (.ofNat 1) firstSignIn.refreshToken) }) := by
  rw [prog, Prog.run_map,
    run_logout_named (names_firstSignIn (s := firstSignInStore) rfl (by decide))]
  rfl

/-- The logout of the refresh token, and a refresh with it. -/
def refreshAndOut : Bool → SessionCall
  | false => .refreshAccessToken firstSignIn.refreshToken
  | true => .logout firstSignIn.refreshToken

/-- Once the logout has returned, the refresh does not return. -/
theorem refresh_refused_after_logout :
    ∃ n, let start := started .plain firstSignInStore refreshAndOut
      (start.exec (system .plain) (.replicate n (.step true))).threads true = .ret .loggedOut ∧
        ∀ n' r, (start.exec (system .plain)
          (.replicate n (.step true) ++ .replicate n' (.step false))).threads false ≠ .ret r := by
  obtain ⟨n, -, hself, hother⟩ := Config.exec_alone (S := system .plain) (i := true)
    (show (started .plain firstSignInStore refreshAndOut).threads true = _ from rfl)
    run_firstLogout
  refine ⟨n, hself, fun n' => ?_⟩
  refine (access_until_expiry_refresh_until_logout .plain firstSignInStore refreshAndOut).2 true
    false firstSignIn.refreshToken (.replicate n (.step true)) (.replicate n' (.step false)) rfl rfl
    (along_admits ?_ ?_) ⟨_, hself⟩ (hother false (by decide))
  · intro j
    cases j <;> exact not_false
  · intro m hm
    rcases List.mem_append.mp hm with hm | hm <;> rw [List.eq_of_mem_replicate hm] <;> nofun

/-- A sign-in, and the logout of the refresh token it returns. -/
def signInAndOut : Bool → SessionCall
  | false => .signIn ⟨"Ada@example.com", "secret"⟩ 0
  | true => .logout firstSignIn.refreshToken

/-- A run of the two calls. -/
def signInAndOutRun (ms : List (Move Bool Nat)) : Serving Bool Outcome :=
  (started .plain verifiedUserStore signInAndOut).exec (system .plain) ms

/-- After the sign-in and the logout, one after the other, the access token is accepted. -/
theorem access_survives_logout :
    ∃ n n', let ms := List.replicate n (.step false) ++ List.replicate n' (.step true)
      (signInAndOutRun ms).threads false = .ret (.signedIn firstSignIn) ∧
        (signInAndOutRun ms).threads true = .ret .loggedOut ∧
        Authenticates .plain (signInAndOutRun ms).store firstSignIn.accessToken := by
  have hsignIn : ((signInAndOut false).prog .plain).run (exec .plain) verifiedUserStore =
      (.ok (.signedIn firstSignIn), firstSignInStore) := by
    rw [signInAndOut, prog, Prog.run_map, run_firstSignIn]
    rfl
  obtain ⟨n, hstore, hself, hother⟩ := Config.exec_alone (S := system .plain) (i := false)
    (show (started .plain verifiedUserStore signInAndOut).threads false = _ from rfl) hsignIn
  obtain ⟨n', hstore', hself', hother'⟩ := Config.exec_alone (S := system .plain) (i := true)
    (hother true (by decide)) ((congrArg (Prog.run _ _) hstore).trans run_firstLogout)
  refine ⟨n, n', ?_⟩
  intro ms
  unfold signInAndOutRun
  rw [Config.exec_append]
  refine ⟨(hother' false (by decide)).trans hself, hself', ?_⟩
  rw [hstore']
  exact authenticates_iff.mpr ⟨⟨⟨verifiedUser.email, none⟩, 0, 36000⟩, .ofNat 1, verifiedUser,
    by rfl, by decide, by rfl, rfl⟩

end VoltFleet.SessionCall
