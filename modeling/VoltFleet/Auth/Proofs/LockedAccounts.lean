import VoltFleet.Auth.Proofs.Logout

/-!
# Locked accounts

Nothing that gives access reads the status of the account: a sign-in asks twice
whether the account is confirmed, a refresh asks the cache, and the strategy asks
nothing.  So a locked account is shut out of a call exactly where one of these
other checks refuses it.
-/

namespace VoltFleet

open Awaiting AuthService

/-! ## Runs -/

/-- A call is served, the status of an account is changed in the table, or time passes. -/
inductive AccessEvent where
  | serve (call : SessionCall)
  | setStatus (u : Uuid) (status : AccountStatus)
  | elapse (seconds : Nat)

/-- Give an account another status. -/
def Store.setStatus (s : Store) (u : Uuid) (status : AccountStatus) : Store :=
  { s with
    users := s.users.map (fun k row => if k = u then { row with accountStatus := status } else row)
      fun k row => by split <;> rfl }

/-- A call runs by itself, a status is set, or time passes. -/
def AccessEvent.step (P : Platform) (s : Store) : AccessEvent → Store
  | .serve call => ((call.prog P).run (exec P) s).2
  | .setStatus u status => s.setStatus u status
  | .elapse seconds => VoltFleet.elapse seconds s

/-- `ok` holds of every call of the run and the store it is served in. -/
def EveryCall (P : Platform) (ok : Store → SessionCall → Prop) : Store → List AccessEvent → Prop
  | _, [] => True
  | s, e :: es => (∀ call, e = .serve call → ok s call) ∧ EveryCall P ok (e.step P s) es

theorem everyCall_congr {P : Platform} {ok ok' : Store → SessionCall → Prop}
    (h : ∀ s call, ok s call ↔ ok' s call) (s : Store) (es : List AccessEvent) :
    EveryCall P ok s es ↔ EveryCall P ok' s es := by
  induction es generalizing s with
  | nil => exact Iff.rfl
  | cons e es ih => exact and_congr (forall₂_congr fun call _ => h s call) (ih _)

/-! ## One call -/

/-- The account is stored and has the status `LOCKED`. -/
def Store.Locked (s : Store) (u : Uuid) : Prop :=
  ∃ row, s.users.find? u = some row ∧ row.accountStatus = .LOCKED

/-- The token is signed for the email of the account. -/
def TokenFor (P : Platform) (s : Store) (u : Uuid) (token : String) : Prop :=
  ∃ claims row, P.jwt.sign claims = token ∧ s.users.find? u = some row ∧
    row.email = claims.payload.email

/-- The outcome gives access to the account: it has a token for it or has accepted one. -/
def Outcome.GivesAccess (P : Platform) (s : Store) (u : Uuid) : Outcome → Prop
  | .signedIn result => TokenFor P s u result.accessToken ∨ TokenFor P s u result.refreshToken
  | .refreshed accessToken => TokenFor P s u accessToken
  | .loggedOut => False
  | .authenticated user => user.id = u

namespace SessionCall

/-- The call gives no access to an account that is locked. -/
def ShutsOut (P : Platform) (s : Store) (call : SessionCall) : Prop :=
  ∀ o s', (call.prog P).run (exec P) s = (.ok o, s') → ∀ u, s'.Locked u → ¬o.GivesAccess P s' u

/-- The user passes the checks the code makes. -/
def Passes (P : Platform) (s : Store) (user : User) : SessionCall → Prop
  | .signIn dto _ => MaySignIn P s dto user
  | .refreshAccessToken token => Names P s token user ∧ Active s user token
  | .logout _ => False
  | .request bearer => Bears P s bearer user

/-- No user who passes the checks is locked. -/
def PassesUnlocked (P : Platform) (s : Store) (call : SessionCall) : Prop :=
  ∀ user, call.Passes P s user → user.accountStatus ≠ .LOCKED

variable {P : Platform} {s : Store} {call : SessionCall} {user : User}

theorem tokenFor_sign {u v : Uuid} {row : UserRow} {claims : JwtClaims}
    (hrow : s.users.find? v = some row) (hemail : row.email = claims.payload.email) :
    TokenFor P s u (P.jwt.sign claims) ↔ u = v := by
  constructor
  · rintro ⟨claims', row', hsign, hrow', he⟩
    rw [JwtService.sign_inj hsign] at he
    exact Keyed.Table.find?_inj hrow' hrow (he.trans hemail.symm)
  · rintro rfl
    exact ⟨claims, row, rfl, hrow, hemail⟩

/-- Who passes the checks is a stored user. -/
theorem Passes.stored (h : call.Passes P s user) :
    ∃ row, s.users.find? user.id = some row ∧ user = s.userEntity user.id row := by
  have stored : ∀ {email}, s.userByEmail email = some user →
      ∃ row, s.users.find? user.id = some row ∧ user = s.userEntity user.id row := by
    intro email hu
    obtain ⟨u, row, hrow, -, rfl⟩ := userByEmail_eq_some.mp hu
    exact ⟨row, hrow, rfl⟩
  cases call with
  | signIn dto session => exact stored h.found
  | refreshAccessToken token =>
    obtain ⟨⟨claims, -, -, hu⟩, -⟩ := h
    exact stored hu
  | logout token => exact h.elim
  | request bearer =>
    obtain ⟨token, claims, -, -, hu⟩ := h
    exact stored hu

/-- The call gives access to whoever passes the checks, and to nobody else. -/
theorem Passes.run (h : call.Passes P s user) :
    ∃ o s', (call.prog P).run (exec P) s = (.ok o, s') ∧ s'.users = s.users ∧
      ∀ u, o.GivesAccess P s' u ↔ u = user.id := by
  cases call with
  | signIn dto session =>
    have hrun : ((SessionCall.signIn dto session).prog P).run (exec P) s =
        (.ok (.signedIn ⟨issuedToken P s (P.toLowerCase dto.email) user P.expiresIn,
            issuedToken P s (P.toLowerCase dto.email) user refreshTtl,
            { user with password := none }⟩),
          signedInStore P s (P.toLowerCase dto.email) user session) := by
      rw [prog, Prog.run_map, run_signIn_granted h session]
      rfl
    refine ⟨_, _, hrun, rfl, fun u => ?_⟩
    obtain ⟨v, row, hrow, hemail, rfl⟩ := userByEmail_eq_some.mp h.found
    have htoken : ∀ lifetime, TokenFor P (signedInStore P s (P.toLowerCase dto.email)
        (s.userEntity v row) session) u
          (issuedToken P s (P.toLowerCase dto.email) (s.userEntity v row) lifetime) ↔ u = v :=
      fun _ => tokenFor_sign hrow hemail
    exact (or_congr (htoken _) (htoken _)).trans or_self_iff
  | refreshAccessToken token =>
    obtain ⟨hnames, hactive⟩ := h
    have hrun : ((SessionCall.refreshAccessToken token).prog P).run (exec P) s =
        (.ok (.refreshed (refreshedToken P s user)),
          s.activate (sessionKey user.id (refreshedToken P s user)) sessionTtl) := by
      rw [prog, Prog.run_map, run_refresh_granted hnames hactive]
      rfl
    refine ⟨_, _, hrun, rfl, fun u => ?_⟩
    obtain ⟨claims, -, -, hu⟩ := hnames
    obtain ⟨v, row, hrow, -, rfl⟩ := userByEmail_eq_some.mp hu
    have hstored : (s.activate (sessionKey v (refreshedToken P s (s.userEntity v row)))
        sessionTtl).users.find? v = some row := hrow
    have hnamed : row.email = (s.userEntity v row).email := rfl
    exact tokenFor_sign hstored hnamed
  | logout token => exact h.elim
  | request bearer =>
    have hrun : ((SessionCall.request bearer).prog P).run (exec P) s =
        (.ok (.authenticated user), s) := by
      rw [prog, Prog.run_map, run_authGuard_granted h]
      rfl
    exact ⟨_, _, hrun, rfl, fun u => eq_comm⟩

/-- Where nobody passes the checks the call gives no access. -/
theorem no_access_of_not_passes (h : ∀ user, ¬call.Passes P s user) {o : Outcome} {s' : Store}
    (hrun : (call.prog P).run (exec P) s = (.ok o, s')) (u : Uuid) : ¬o.GivesAccess P s' u := by
  have refused : ∀ {e : Thrown}, (call.prog P).run (exec P) s ≠ (.error e, s) := by
    intro e he
    rw [he] at hrun
    cases hrun
  cases call with
  | signIn dto session =>
    obtain ⟨e, he⟩ := run_signIn_refused (P := P) h session
    exact absurd (by rw [prog, Prog.run_map, he]; rfl) (refused (e := e))
  | refreshAccessToken token =>
    obtain ⟨e, he⟩ := run_refresh_refused (P := P) fun user hn ha => h user ⟨hn, ha⟩
    exact absurd (by rw [prog, Prog.run_map, he]; rfl) (refused (e := e))
  | logout token =>
    rw [prog, Prog.run_map] at hrun
    have ho := congrArg Prod.fst hrun
    cases hr : ((AuthService.logout P token).run (exec P) s).1 with
    | error e =>
      rw [hr] at ho
      cases ho
    | ok a =>
      rw [hr] at ho
      cases ho
      exact not_false
  | request bearer =>
    obtain ⟨e, he⟩ := run_authGuard_refused (P := P) h
    exact absurd (by rw [prog, Prog.run_map, he]; rfl) (refused (e := e))

/-- A call shuts locked accounts out exactly if none passes its checks. -/
theorem shutsOut_iff (P : Platform) (s : Store) (call : SessionCall) :
    call.ShutsOut P s ↔ call.PassesUnlocked P s := by
  constructor
  · intro h user hpasses hlocked
    obtain ⟨o, s', hrun, husers, haccess⟩ := hpasses.run
    obtain ⟨row, hrow, he⟩ := hpasses.stored
    rw [he] at hlocked
    have hlocked' : s'.Locked user.id := ⟨row, by rw [husers]; exact hrow, hlocked⟩
    exact h o s' hrun user.id hlocked' ((haccess user.id).mpr rfl)
  · intro h o s' hrun u hlocked haccess
    by_cases hpasses : ∃ user, call.Passes P s user
    · obtain ⟨user, hpasses⟩ := hpasses
      obtain ⟨o', s'', hrun', husers, haccess'⟩ := hpasses.run
      rw [hrun] at hrun'
      cases hrun'
      obtain rfl := (haccess' u).mp haccess
      obtain ⟨row, hrow, he⟩ := hpasses.stored
      obtain ⟨row', hrow', hstatus⟩ := hlocked
      rw [husers, hrow] at hrow'
      cases hrow'
      refine h user hpasses ?_
      rw [he]
      exact hstatus
    · exact no_access_of_not_passes (fun user hu => hpasses ⟨user, hu⟩) hrun u haccess

/-- In a run of calls, with statuses changed in between, every call shuts locked accounts out
exactly if no locked account ever passes the other checks. -/
theorem locked_shut_out_iff (P : Platform) (s : Store) (events : List AccessEvent) :
    EveryCall P (fun s call => call.ShutsOut P s) s events ↔
      EveryCall P (fun s call => call.PassesUnlocked P s) s events :=
  everyCall_congr (shutsOut_iff P) s events

/-- An account that has been locked signs in. -/
theorem locked_account_signs_in :
    ¬EveryCall .plain (fun s call => call.ShutsOut .plain s) verifiedUserStore
      [.setStatus (.ofNat 1) .LOCKED, .serve (.signIn ⟨"Ada@example.com", "secret"⟩ 0)] := by
  intro h
  have hunlocked := (shutsOut_iff _ _ _).mp (h.2.1 _ rfl)
  have hrow : (verifiedUserStore.setStatus (.ofNat 1) .LOCKED).users.find? (.ofNat 1) =
      some { verifiedUser with accountStatus := .LOCKED } := by rfl
  have hemail : Platform.plain.toLowerCase "Ada@example.com" = verifiedUser.email := by decide
  have hpassword : Platform.plain.bcryptCompare "secret" verifiedUser.password = true := by decide
  have hmay : MaySignIn .plain (verifiedUserStore.setStatus (.ofNat 1) .LOCKED)
      ⟨"Ada@example.com", "secret"⟩ ((verifiedUserStore.setStatus (.ofNat 1) .LOCKED).userEntity
        (.ofNat 1) { verifiedUser with accountStatus := .LOCKED }) := by
    refine ⟨by decide, userByEmail_eq_some.mpr ⟨_, _, hrow, hemail.symm, rfl⟩, ?_, rfl, hpassword⟩
    rintro (h | h) <;> cases h
  exact hunlocked _ hmay rfl

end SessionCall

end VoltFleet
