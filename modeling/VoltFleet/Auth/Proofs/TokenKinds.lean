import VoltFleet.Auth.Proofs.Logout
import VoltFleet.Auth.Proofs.SessionContract

/-!
# Access tokens and refresh tokens

Both kinds are signed with one secret over one payload, and no claim tells them
apart.  A refresh is granted only where the cache has the refresh key of its token,
which only a sign-in writes, for the token it signs for a week; a bearer token is
accepted whatever it was issued for.
-/

namespace VoltFleet

open Awaiting AuthService

/-- The token was signed to be valid for this long. -/
def SignedFor (P : Platform) (lifetime : Nat) (token : String) : Prop :=
  ∃ payload iat, token = P.jwt.sign ⟨payload, iat, iat + lifetime⟩

theorem SignedFor.unique {P : Platform} {d d' : Nat} {token : String} (h : SignedFor P d token)
    (h' : SignedFor P d' token) : d = d' := by
  obtain ⟨payload, iat, rfl⟩ := h
  obtain ⟨payload', iat', he⟩ := h'
  have hclaims := JwtService.sign_inj he
  have hiat : iat = iat' := congrArg JwtClaims.iat hclaims
  have hexp : iat + d = iat' + d' := congrArg JwtClaims.exp hclaims
  omega

/-- A refresh token of a stored account. -/
def RefreshTokenOf (P : Platform) (s : Store) (token : String) : Prop :=
  ∃ payload iat u row, token = P.jwt.sign ⟨payload, iat, iat + refreshTtl⟩ ∧
    s.users.find? u = some row ∧ row.email = payload.email

variable {P : Platform} {s₀ : Store}

namespace SessionCall

/-- The tokens a call returns are of their kinds, and a refresh is granted for a token that is
valid for a week only. -/
def OfKinds (P : Platform) (s₀ : Store) : SessionCall → Outcome → Prop
  | .signIn .., .signedIn result =>
      SignedFor P P.expiresIn result.accessToken ∧ RefreshTokenOf P s₀ result.refreshToken
  | .refreshAccessToken token, .refreshed accessToken =>
      SignedFor P refreshTtl token ∧ SignedFor P accessLifetime accessToken
  | .logout _, .loggedOut => True
  | .request _, .authenticated _ => True
  | _, _ => False

/-- The refresh keys are those of tokens that are valid for a week. -/
abbrev weekLong (P : Platform) : Uuid → String → Prop := fun _ token => SignedFor P refreshTtl token

theorem prog_meets (call : SessionCall) :
    (call.prog P).Meets (sessionContract s₀ (weekLong P)) (call.OfKinds P s₀) := by
  cases call with
  | signIn dto session =>
    refine (SessionContract.signIn_meets session fun _ _ _ => ⟨_, _, rfl⟩).map fun result h => ?_
    obtain ⟨user, hmay, ⟨iat, haccess⟩, iat', hrefresh⟩ := h
    obtain ⟨u, row, hrow, hemail, -⟩ := userByEmail_eq_some.mp hmay.found
    exact ⟨⟨_, iat, haccess⟩, _, iat', u, row, hrefresh, hrow, hemail⟩
  | refreshAccessToken token =>
    refine (SessionContract.refreshAccessToken_meets token).map fun accessToken h => ?_
    obtain ⟨email, user, iat, -, htoken, haccess⟩ := h
    exact ⟨htoken, _, iat, haccess⟩
  | logout token =>
    exact ((logout_issues token).meets sessionContract_refreshCmd).map fun _ h => h
  | request bearer =>
    exact ((authGuard_issues bearer).meets sessionContract_refreshCmd).map fun _ h => h

variable {ι : Type} [DecidableEq ι]

/-- In every run the calls return tokens of their kinds, and the accounts stay. -/
theorem started_ofKinds (s : Store)
    (hkeys : ∀ u token, ¬SignedFor P refreshTtl token → s.cache.entry (refreshKey u token) = none)
    (calls : ι → SessionCall) (ms : List (Move ι Nat)) :
    ((started P s calls).exec (system P) ms).Fulfils (sessionContract s (weekLong P))
      (KeepsGood s (weekLong P)) fun i => (calls i).OfKinds P s := by
  refine Config.Fulfils.exec (sessionContract_honoured P s _)
    ⟨fun i => prog_meets (calls i), .refl s, fun u token hkey => ?_⟩ ms
  by_contra htoken
  exact hkey (Expiring.Cache.get_of_entry_none (hkeys u token htoken) _)

omit [DecidableEq ι] in
/-- A token that is not valid for a week is not refreshed with. -/
theorem not_refreshed {s : Store} {calls : ι → SessionCall} {cfg : Serving ι Outcome}
    (h : cfg.Fulfils (sessionContract s (weekLong P)) (KeepsGood s (weekLong P))
      fun i => (calls i).OfKinds P s)
    {token : String} (htoken : ¬SignedFor P refreshTtl token) (j : ι)
    (hj : calls j = .refreshAccessToken token) (o : Outcome) : cfg.threads j ≠ .ret o := by
  intro hret
  have hkinds := h.returned hret
  rw [hj] at hkinds
  cases o with
  | refreshed accessToken => exact htoken hkinds.1
  | _ => exact hkinds

/-- From a cache whose refresh keys are those of tokens valid for a week, in every run: no
access token that a sign-in or a refresh returns is refreshed with, and a refresh token that a
sign-in returns is accepted as a bearer token until it expires. -/
theorem access_tokens_not_refreshed (P : Platform) (s : Store)
    (hlifetime : P.expiresIn ≠ refreshTtl)
    (hkeys : ∀ u token, ¬SignedFor P refreshTtl token → s.cache.entry (refreshKey u token) = none)
    (calls : ι → SessionCall) (ms : List (Move ι Nat)) :
    (∀ i result, ((started P s calls).exec (system P) ms).threads i = .ret (.signedIn result) →
      (∀ j, calls j = .refreshAccessToken result.accessToken →
        ∀ o, ((started P s calls).exec (system P) ms).threads j ≠ .ret o) ∧
      ∃ payload iat, result.refreshToken = P.jwt.sign ⟨payload, iat, iat + refreshTtl⟩ ∧
        (Authenticates P ((started P s calls).exec (system P) ms).store result.refreshToken ↔
          ((started P s calls).exec (system P) ms).store.clock < iat + refreshTtl)) ∧
    ∀ i accessToken,
      ((started P s calls).exec (system P) ms).threads i = .ret (.refreshed accessToken) →
      ∀ j, calls j = .refreshAccessToken accessToken →
        ∀ o, ((started P s calls).exec (system P) ms).threads j ≠ .ret o := by
  have hrun := started_ofKinds s hkeys calls ms
  constructor
  · intro i result hret
    have hkinds := hrun.returned hret
    cases hcall : calls i with
    | signIn dto session =>
      rw [hcall] at hkinds
      obtain ⟨haccess, payload, iat, u, row, hrefresh, hrow, hemail⟩ := hkinds
      refine ⟨not_refreshed hrun fun hweek => hlifetime (haccess.unique hweek), ?_⟩
      refine ⟨payload, iat, hrefresh, ?_⟩
      rw [authenticates_iff]
      constructor
      · rintro ⟨claims, -, -, hsign, hexp, -, -⟩
        rw [hrefresh] at hsign
        rw [JwtService.sign_inj hsign] at hexp
        exact hexp
      · intro hclock
        rw [← hrun.store.accounts.users] at hrow
        exact ⟨_, u, row, hrefresh.symm, hclock, hrow, hemail⟩
    | _ =>
      rw [hcall] at hkinds
      exact hkinds.elim
  · intro i accessToken hret
    have hkinds := hrun.returned hret
    cases hcall : calls i with
    | refreshAccessToken token =>
      rw [hcall] at hkinds
      refine not_refreshed hrun fun hweek => ?_
      have hlifetimes := hkinds.2.unique hweek
      rw [accessLifetime, refreshTtl] at hlifetimes
      omega
    | _ =>
      rw [hcall] at hkinds
      exact hkinds.elim

/-- A sign-in, and a refresh with the access token it returns. -/
def signInAndMisuse : Bool → SessionCall
  | false => .signIn ⟨"Ada@example.com", "secret"⟩ 0
  | true => .refreshAccessToken firstSignIn.accessToken

/-- Once the sign-in has returned, nothing makes the refresh return. -/
theorem access_token_misused :
    ∃ n, ((started .plain verifiedUserStore signInAndMisuse).exec (system .plain)
        (.replicate n (.step false))).threads false = .ret (.signedIn firstSignIn) ∧
      ∀ ms o, ((started .plain verifiedUserStore signInAndMisuse).exec (system .plain)
        (.replicate n (.step false) ++ ms)).threads true ≠ .ret o := by
  have hsignIn : ((signInAndMisuse false).prog .plain).run (exec .plain) verifiedUserStore =
      (.ok (.signedIn firstSignIn), firstSignInStore) := by
    rw [signInAndMisuse, prog, Prog.run_map, run_firstSignIn]
    rfl
  obtain ⟨n, -, hself, -⟩ := Config.exec_alone (S := system .plain) (i := false)
    (show (started .plain verifiedUserStore signInAndMisuse).threads false = _ from rfl) hsignIn
  refine ⟨n, hself, fun ms => ?_⟩
  have hret : ((started .plain verifiedUserStore signInAndMisuse).exec (system .plain)
      (.replicate n (.step false) ++ ms)).threads false = .ret (.signedIn firstSignIn) := by
    rw [Config.exec_append]
    exact Config.exec_returned hself ms
  exact ((access_tokens_not_refreshed .plain verifiedUserStore (by decide) (fun _ _ _ => rfl)
    signInAndMisuse _).1 false firstSignIn hret).1 true rfl

/-- The refresh token a sign-in returns is accepted as a bearer token. -/
theorem refresh_token_is_bearer :
    (AuthService.signIn .plain ⟨"Ada@example.com", "secret"⟩ 0).run (exec .plain)
        verifiedUserStore = (.ok firstSignIn, firstSignInStore) ∧
      Authenticates .plain firstSignInStore firstSignIn.refreshToken := by
  refine ⟨run_firstSignIn, authenticates_iff.mpr ?_⟩
  exact ⟨⟨⟨verifiedUser.email, none⟩, 0, 604800⟩, .ofNat 1, verifiedUser, by rfl, by decide,
    by rfl, rfl⟩

end SessionCall

end VoltFleet
