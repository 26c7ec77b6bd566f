import VoltFleet.Auth.Proofs.Logout

/-!
# Sessions of one user

A session is a refresh key, named by the user and the text of the token.  The
text is determined by the claims: two sign-ins in one second with one email and
one role share it, and with it the session.  All other sessions are untouched by
a logout.
-/

namespace VoltFleet

open Awaiting AuthService SessionCall

/-- The claims of the refresh token a sign-in returns. -/
def SignInResult.claims (result : SignInResult) (time : Nat) : JwtClaims :=
  ⟨⟨result.user.email, result.user.userRole⟩, time, time + refreshTtl⟩

/-- Every sign-in on record returned a token of a stored user, and its refresh key is there
until it expires or is logged out. -/
structure KeepsIssued (P : Platform) (h : History) : Prop where
  issued : ∀ {time result}, .signedIn time result ∈ h.records →
    result.refreshToken = P.jwt.sign (result.claims time) ∧ P.isEmail result.user.email = true ∧
      ∃ row, h.store.users.find? result.user.id = some row ∧ row.email = result.user.email
  keys : ∀ {newer time result older}, h.records = newer ++ .signedIn time result :: older →
    .loggedOut result.refreshToken ∉ newer → h.store.clock < time + refreshTtl →
    h.store.cache.entry (refreshKey result.user.id result.refreshToken) =
      some ⟨.str "active", some (time + refreshTtl)⟩

theorem other_ne_signedIn (time : Nat) (result : SignInResult) :
    Record.other ≠ .signedIn time result := by
  intro he
  cases he

theorem loggedOut_ne_signedIn (token : String) (time : Nat) (result : SignInResult) :
    Record.loggedOut token ≠ .signedIn time result := by
  intro he
  cases he

theorem refreshed_ne_signedIn (token accessToken : String) (time : Nat) (result : SignInResult) :
    Record.refreshed token accessToken ≠ .signedIn time result := by
  intro he
  cases he

variable {P : Platform} {h : History}

/-- A record that is no sign-in, of an operation that leaves the sessions on record. -/
theorem KeepsIssued.cons (hk : KeepsIssued P h) {s : Store} {record : Record}
    (hrecord : ∀ time result, record ≠ .signedIn time result)
    (hclock : h.store.clock ≤ s.clock)
    (hentry : ∀ u token, record ≠ .loggedOut token →
      s.cache.entry (refreshKey u token) = h.store.cache.entry (refreshKey u token))
    (hemails : ∀ {u row}, h.store.users.find? u = some row →
      ∃ row', s.users.find? u = some row' ∧ row'.email = row.email) :
    KeepsIssued P ⟨s, record :: h.records⟩ := by
  constructor
  · intro time result hm
    rcases List.mem_cons.mp hm with he | hm
    · exact absurd he.symm (hrecord time result)
    · obtain ⟨hsign, hemail, row, hrow, he⟩ := hk.issued hm
      obtain ⟨row', hrow', he'⟩ := hemails hrow
      exact ⟨hsign, hemail, row', hrow', he'.trans he⟩
  · intro newer time result older he hout hnow
    cases newer with
    | nil => exact absurd (List.cons.inj he).1 (hrecord time result)
    | cons r newer =>
      obtain ⟨hr, hrest⟩ := List.cons.inj he
      subst hr
      rw [List.mem_cons, not_or] at hout
      have hold := hk.keys hrest hout.2 (Nat.lt_of_le_of_lt hclock hnow)
      exact (hentry _ _ (Ne.symm hout.1)).trans hold

theorem KeepsIssued.keep (hk : KeepsIssued P h) {s : Store} (hs : KeepsSessions h.store s)
    {record : Record} (hrecord : ∀ time result, record ≠ .signedIn time result) :
    KeepsIssued P ⟨s, record :: h.records⟩ :=
  hk.cons hrecord (Nat.le_of_eq hs.clock.symm) (fun u token _ => hs.refresh u token) hs.emails

theorem KeepsIssued.logout (hk : KeepsIssued P h) (token : String) :
    KeepsIssued P ⟨((AuthService.logout P token).run (exec P) h.store).2,
      .loggedOut token :: h.records⟩ := by
  by_cases hn : ∃ user, Names P h.store token user
  · obtain ⟨user, hn⟩ := hn
    rw [run_logout_named hn]
    refine hk.cons (loggedOut_ne_signedIn token) (Nat.le_refl _) ?_ fun hrow => ⟨_, hrow, rfl⟩
    intro u token' hne
    refine Expiring.Cache.entry_del_ne _ fun he => hne ?_
    rw [(refreshKey_inj.mp he).2]
  · rw [run_logout_unnamed fun user hu => hn ⟨user, hu⟩]
    exact hk.keep (.refl h.store) (loggedOut_ne_signedIn token)

theorem KeepsIssued.signIn (hk : KeepsIssued P h) {email : String} {user : User}
    {accessToken : String} (hemail : P.isEmail email = true)
    (huser : h.store.userByEmail email = some user) (session : Nat) :
    KeepsIssued P ⟨signedInStore P h.store email user session,
      .signedIn h.store.clock ⟨accessToken, issuedToken P h.store email user refreshTtl,
        { user with password := none }⟩ :: h.records⟩ := by
  obtain ⟨u₀, row, hrow, rfl, rfl⟩ := userByEmail_eq_some.mp huser
  constructor
  · intro time result hm
    rcases List.mem_cons.mp hm with he | hm
    · cases he
      exact ⟨rfl, hemail, row, hrow, rfl⟩
    · exact hk.issued hm
  · intro newer time result older he hout hnow
    cases newer with
    | nil =>
      obtain ⟨he, -⟩ := List.cons.inj he
      cases he
      exact signedInStore_entry_self row.email (h.store.userEntity u₀ row) session
    | cons r newer =>
      obtain ⟨hr, hrest⟩ := List.cons.inj he
      subst hr
      rw [List.mem_cons, not_or] at hout
      have hold := hk.keys hrest hout.2 hnow
      by_cases hkey : refreshKey result.user.id result.refreshToken = refreshKey u₀
          (issuedToken P h.store row.email (h.store.userEntity u₀ row) refreshTtl)
      · -- the two sign-ins returned one token, so they took place in one second
        have hmem : .signedIn time result ∈ h.records :=
          hrest ▸ List.mem_append_right newer List.mem_cons_self
        have hsame := (hk.issued hmem).1.symm.trans (refreshKey_inj.mp hkey).2
        have htime : time = h.store.clock := congrArg JwtClaims.iat (JwtService.sign_inj hsame)
        subst htime
        exact (congrArg _ hkey).trans
          (signedInStore_entry_self row.email (h.store.userEntity u₀ row) session)
      · exact (signedInStore_entry_ne hkey).trans hold

theorem KeepsIssued.serve (hk : KeepsIssued P h) (op : SessionOp) :
    KeepsIssued P (h.serve P op) := by
  cases op with
  | signUp dto => exact hk.keep (run_signUp_keeps P h.store dto) other_ne_signedIn
  | resetPassword dto newPassword =>
    exact hk.keep (run_resetPassword_keeps P h.store dto newPassword) other_ne_signedIn
  | elapse d =>
    exact hk.cons other_ne_signedIn (Nat.le_add_right _ d) (fun _ _ _ => rfl)
      fun hrow => ⟨_, hrow, rfl⟩
  | logout token => exact hk.logout token
  | signIn dto session =>
    simp only [History.serve]
    rcases run_signIn_cases P h.store dto session with ⟨e, hrun⟩ | ⟨user, hemail, huser, hrun⟩ <;>
      rw [hrun]
    · exact hk.keep (.refl h.store) other_ne_signedIn
    · exact hk.signIn hemail huser session
  | refreshAccessToken token =>
    simp only [History.serve]
    by_cases hn : ∃ user, Names P h.store token user ∧ Active h.store user token
    · obtain ⟨user, hn, ha⟩ := hn
      rw [run_refresh_granted hn ha]
      exact hk.keep (keepsSessions_activate (refreshKey_ne_sessionKey · _ · _) _)
        (refreshed_ne_signedIn token _)
    · obtain ⟨e, hrun⟩ := run_refresh_refused (P := P) fun user hu ha => hn ⟨user, hu, ha⟩
      rw [hrun]
      exact hk.keep (.refl h.store) other_ne_signedIn

theorem keepsIssued_serveAll (P : Platform) (s : Store) (ops : List SessionOp) :
    KeepsIssued P (History.serveAll P s ops) := by
  have step : ∀ (ops : List SessionOp) (h : History), KeepsIssued P h →
      KeepsIssued P (ops.foldl (History.serve P) h) := by
    intro ops
    induction ops with
    | nil => exact fun _ hk => hk
    | cons op ops ih => exact fun h hk => ih _ (hk.serve op)
  refine step ops ⟨s, []⟩ ⟨nofun, ?_⟩
  intro newer time result older he
  cases newer <;> cases he

/-- In every run, a refresh token that a sign-in returned is accepted until it expires or is
logged out itself.  Two sign-ins returned one token if and only if they took place in one
second, for one email and one role. -/
theorem sessions_independent (P : Platform) (s : Store) (ops : List SessionOp)
    {newer older : List Record} {time : Nat} {result : SignInResult}
    (h : (History.serveAll P s ops).records = newer ++ .signedIn time result :: older) :
    ((History.serveAll P s ops).store.clock < time + refreshTtl →
      .loggedOut result.refreshToken ∉ newer →
      Accepts P (History.serveAll P s ops).store result.refreshToken) ∧
    ∀ time' result', .signedIn time' result' ∈ (History.serveAll P s ops).records →
      (result'.refreshToken = result.refreshToken ↔ time' = time ∧
        result'.user.email = result.user.email ∧ result'.user.userRole = result.user.userRole) := by
  have hk := keepsIssued_serveAll P s ops
  have hmem : .signedIn time result ∈ (History.serveAll P s ops).records :=
    h ▸ List.mem_append_right newer List.mem_cons_self
  obtain ⟨hsign, hemail, row, hrow, he⟩ := hk.issued hmem
  constructor
  · intro hnow hout
    refine accepts_iff.mpr ⟨_, ⟨result.claims time,
      JwtService.verify_eq_some.mpr ⟨hsign.symm, hnow⟩, hemail,
      userByEmail_eq_some.mpr ⟨_, row, hrow, he, rfl⟩⟩, ?_⟩
    exact Expiring.Cache.get_eq_some.mpr ⟨_, hk.keys h hout hnow, decide_eq_true hnow, rfl⟩
  · intro time' result' hmem'
    rw [hsign, (hk.issued hmem').1]
    constructor
    · intro hsame
      have hclaims := JwtService.sign_inj hsame
      exact ⟨congrArg JwtClaims.iat hclaims, congrArg (·.payload.email) hclaims,
        congrArg (·.payload.role) hclaims⟩
    · rintro ⟨rfl, he, hr⟩
      rw [SignInResult.claims, SignInResult.claims, he, hr]

/-! ## Two devices -/

theorem History.serve_signIn {dto : AuthCredentialsDto} {user : User}
    (hmay : MaySignIn P h.store dto user) (session : Nat) :
    h.serve P (.signIn dto session) =
      ⟨signedInStore P h.store (P.toLowerCase dto.email) user session,
        .signedIn h.store.clock ⟨issuedToken P h.store (P.toLowerCase dto.email) user P.expiresIn,
          issuedToken P h.store (P.toLowerCase dto.email) user refreshTtl,
          { user with password := none }⟩ :: h.records⟩ := by
  rw [History.serve, run_signIn_granted hmay]

/-- What a device of the user receives that signs in at this time. -/
def signInAt (time : Nat) : SignInResult :=
  ⟨Platform.plain.jwt.sign ⟨⟨verifiedUser.email, none⟩, time, time + Platform.plain.expiresIn⟩,
    Platform.plain.jwt.sign ⟨⟨verifiedUser.email, none⟩, time, time + refreshTtl⟩,
    { firstUser with password := none }⟩

theorem signInAt_zero : signInAt 0 = firstSignIn := rfl

theorem signInAt_refreshToken_inj {time time' : Nat}
    (h : (signInAt time).refreshToken = (signInAt time').refreshToken) : time = time' := by
  simp only [signInAt] at h
  exact congrArg JwtClaims.iat (JwtService.sign_inj h)

theorem History.serve_verifiedUser (husers : h.store.users = verifiedUserStore.users)
    (session : Nat) :
    ∃ s, s.users = h.store.users ∧ s.clock = h.store.clock ∧
      h.serve .plain (.signIn ⟨"Ada@example.com", "secret"⟩ session) =
        ⟨s, .signedIn h.store.clock (signInAt h.store.clock) :: h.records⟩ := by
  have hemail : Platform.plain.toLowerCase "Ada@example.com" = verifiedUser.email := by decide
  have huser : h.store.userEntity (.ofNat 1) verifiedUser = firstUser := by
    simp only [firstUser, Store.userEntity, verifiedUser, Option.bind_none]
  refine ⟨signedInStore .plain h.store verifiedUser.email firstUser session,
    signedInStore_users .., signedInStore_clock .., ?_⟩
  rw [History.serve_signIn (maySignIn_verifiedUser husers), hemail, huser]
  rfl

/-- Two devices of a user sign in, `d` seconds apart. -/
def twoDevices (d : Nat) : List SessionOp :=
  [.signIn ⟨"Ada@example.com", "secret"⟩ 0, .elapse d, .signIn ⟨"Ada@example.com", "secret"⟩ 1]

theorem serveAll_twoDevices (d : Nat) :
    ∃ s, s.users = verifiedUserStore.users ∧ s.clock = 0 + d ∧
      History.serveAll .plain verifiedUserStore (twoDevices d) =
        ⟨s, [.signedIn (0 + d) (signInAt (0 + d)), .other, .signedIn 0 (signInAt 0)]⟩ := by
  obtain ⟨s, husers, hclock, hfirst⟩ :=
    History.serve_verifiedUser (h := ⟨verifiedUserStore, []⟩) rfl 0
  obtain ⟨s', husers', hclock', hsecond⟩ := History.serve_verifiedUser
    (h := ⟨elapse d s, [.other, .signedIn 0 (signInAt 0)]⟩) husers 1
  have hnow : (elapse d s).clock = 0 + d := congrArg (· + d) hclock
  refine ⟨s', husers'.trans husers, hclock'.trans hnow, ?_⟩
  rw [History.serveAll, twoDevices, List.foldl_cons, List.foldl_cons, List.foldl_cons, hfirst]
  dsimp only at hsecond
  rw [hnow] at hsecond
  exact hsecond

theorem serveAll_twoDevices_logout (d : Nat) :
    History.serveAll .plain verifiedUserStore (twoDevices d ++ [.logout firstSignIn.refreshToken]) =
      History.serve .plain (History.serveAll .plain verifiedUserStore (twoDevices d))
        (.logout firstSignIn.refreshToken) := by
  rw [History.serveAll, List.foldl_append]
  rfl

/-- A second apart the second device stays signed in when the first one logs out. -/
theorem second_device_stays :
    Accepts .plain (History.serveAll .plain verifiedUserStore
      (twoDevices 1 ++ [.logout firstSignIn.refreshToken])).store
      (signInAt 1).refreshToken := by
  obtain ⟨s, husers, hclock, hrun⟩ := serveAll_twoDevices 1
  have hserved : History.serveAll .plain verifiedUserStore
      (twoDevices 1 ++ [.logout firstSignIn.refreshToken]) =
      ⟨{ s with cache := s.cache.del (refreshKey (.ofNat 1) firstSignIn.refreshToken) },
        [.loggedOut firstSignIn.refreshToken] ++ .signedIn 1 (signInAt 1) ::
          [.other, .signedIn 0 (signInAt 0)]⟩ := by
    rw [serveAll_twoDevices_logout, hrun, History.serve, run_logout_named
      (names_firstSignIn husers (by rw [hclock]; decide))]
    rfl
  have hrecords : (History.serveAll .plain verifiedUserStore
      (twoDevices 1 ++ [.logout firstSignIn.refreshToken])).records =
      [.loggedOut firstSignIn.refreshToken] ++ .signedIn 1 (signInAt 1) ::
        [.other, .signedIn 0 (signInAt 0)] := by rw [hserved]
  have hindependent := @sessions_independent .plain verifiedUserStore
    (twoDevices 1 ++ [.logout firstSignIn.refreshToken]) [.loggedOut firstSignIn.refreshToken]
    [.other, .signedIn 0 (signInAt 0)] 1 (signInAt 1)
  refine (hindependent hrecords).1 ?_ ?_
  · rw [hserved]
    show s.clock < 1 + refreshTtl
    rw [hclock]
    decide
  · intro hm
    rw [← signInAt_zero, List.mem_singleton] at hm
    have htime := signInAt_refreshToken_inj (Record.loggedOut.inj hm)
    exact absurd htime (by decide)

/-- Two devices sign in within one second and receive one refresh token; the logout of the
first device ends the session of the second. -/
theorem same_second_logout :
    (History.serveAll .plain verifiedUserStore (twoDevices 0)).records =
      [.signedIn 0 firstSignIn, .other, .signedIn 0 firstSignIn] ∧
    ¬ Accepts .plain (History.serveAll .plain verifiedUserStore
      (twoDevices 0 ++ [.logout firstSignIn.refreshToken])).store firstSignIn.refreshToken := by
  obtain ⟨s, husers, hclock, hrun⟩ := serveAll_twoDevices 0
  have hnames := names_firstSignIn husers (by rw [hclock]; decide)
  refine ⟨by rw [hrun, signInAt_zero], fun haccepts => ?_⟩
  rw [serveAll_twoDevices_logout, hrun, History.serve, run_logout_named hnames] at haccepts
  obtain ⟨user, hn, hactive⟩ := accepts_iff.mp haccepts
  have hid : user.id = .ofNat 1 := by rw [names_unique hn hnames]; rfl
  obtain ⟨e, he, -⟩ := Expiring.Cache.get_eq_some.mp hactive
  rw [hid] at he
  have hgone := Expiring.Cache.entry_del_self s.cache
    (refreshKey (.ofNat 1) firstSignIn.refreshToken)
  have hnone : none = some e := hgone.symm.trans he
  cases hnone

end VoltFleet
