import VoltFleet.Auth.Proofs.Accounts
import VoltFleet.Auth.Proofs.Sessions
import VoltFleet.Misc.Contract

/-!
# What the calls around a session may do

A sign-in, a refresh, a logout and an authenticated request leave the accounts as
they are.  Which refresh keys they write is a parameter `Good` of the contract:
whoever finds a refresh key in the cache learns that `Good` holds of it.
-/

namespace VoltFleet

open Awaiting AuthService

/-- The users that are found are those of `s₀`, and the refresh keys that are written or found
are good. -/
def sessionContract (s₀ : Store) (Good : Uuid → String → Prop) :
    Contract Cmd Cmd.Answer Thrown where
  allows
    | .redis (.set key _) => ∀ u token, key = refreshKey u token → Good u token
    | c => SessionCmd c
  answers
    | .users (.findOneByEmail email), .ok found => found = s₀.userByEmail email
    | .redis (.get key), .ok (some _) => ∀ u token, key = refreshKey u token → Good u token
    | _, _ => True

/-- The accounts are as they were, and the refresh keys that can be read are good. -/
structure KeepsGood (s₀ : Store) (Good : Uuid → String → Prop) (s : Store) : Prop where
  accounts : SameAccounts s₀ s
  keys : ∀ u token, s.cache.get s.clock (refreshKey u token) ≠ none → Good u token

/-- A command that is no write of a key does not bring the key about. -/
theorem SessionCmd.get_of_none {c : Cmd} (h : SessionCmd c) (P : Platform) {s : Store}
    {key : String} (hset : ∀ value, c ≠ .redis (.set key value))
    (hkey : s.cache.get s.clock key = none) :
    (exec P c s).2.cache.get (exec P c s).2.clock key = none := by
  unfold SessionCmd at h
  split at h
  · exact hkey
  · exact h.elim
  · exact h.elim
  · rename_i c hrpush hhset
    cases c with
    | rpush key data => exact (hrpush key data rfl).elim
    | hset key field value => exact (hhset key field value rfl).elim
    | get key => exact hkey
    | lrange key => exact hkey
    | set key' value =>
      have hne : key ≠ key' := by
        rintro rfl
        exact hset value rfl
      exact (Expiring.Cache.get_congr (Expiring.Cache.entry_set_ne _ hne _) _).trans hkey
    | expire key' ttl => exact Expiring.Cache.get_expire_of_none hkey
    | del key' =>
      by_cases hne : key = key'
      · subst hne
        exact Expiring.Cache.get_of_entry_none (Expiring.Cache.entry_del_self ..) _
      · exact (Expiring.Cache.get_congr (Expiring.Cache.entry_del_ne _ hne) _).trans hkey
  · rename_i c
    cases c <;> exact hkey
  · exact h.elim

variable {P : Platform} {s₀ : Store} {Good : Uuid → String → Prop}

theorem sessionContract_sessionCmd {c : Cmd} (h : (sessionContract s₀ Good).allows c) :
    SessionCmd c := by
  cases c with
  | redis c =>
    cases c with
    | set key value => trivial
    | _ => exact h
  | _ => exact h

theorem sessionContract_refreshCmd (c : Cmd) (h : RefreshCmd c) :
    (sessionContract s₀ Good).allows c := by
  cases c with
  | redis c =>
    cases c with
    | set key value =>
      obtain ⟨u, token, rfl⟩ := h
      intro u' token' he
      exact absurd he.symm (refreshKey_ne_sessionKey u' u token' token)
    | _ => trivial
  | _ => exact RefreshCmd.sessionCmd _ h

theorem sessionContract_honoured (P : Platform) (s₀ : Store) (Good : Uuid → String → Prop) :
    (sessionContract s₀ Good).Honoured (system P) (KeepsGood s₀ Good) := by
  constructor
  case step =>
    intro c s hc hs
    have hcmd := sessionContract_sessionCmd hc
    refine ⟨hs.accounts.trans ((SessionCmd.leavesAccounts _ hcmd).exec P s), fun u token hkey => ?_⟩
    by_contra hbad
    refine hkey (hcmd.get_of_none P ?_ ?_)
    · rintro value rfl
      exact hbad (hc u token rfl)
    · by_contra hfound
      exact hbad (hs.keys u token hfound)
  case answer =>
    intro c s hs
    show (sessionContract s₀ Good).answers c (exec P c s).1
    cases c with
    | users c =>
      cases c with
      | findOneByEmail email => exact hs.accounts.userByEmail_eq email
      | _ => trivial
    | redis c =>
      cases c with
      | get key =>
        show (sessionContract s₀ Good).answers (.redis (.get key)) (RedisCmd.exec s (.get key)).1
        cases hget : s.cache.get s.clock key with
        | none =>
          simp only [RedisCmd.exec, hget]
          trivial
        | some v =>
          have hgood : ∀ u token, key = refreshKey u token → Good u token := by
            rintro u token rfl
            refine hs.keys u token ?_
            rw [hget]
            exact Option.some_ne_none v
          cases v with
          | str value =>
            simp only [RedisCmd.exec, hget]
            exact hgood
          | _ =>
            simp only [RedisCmd.exec, hget]
            trivial
      | _ => trivial
    | _ => trivial
  case fault =>
    intro c e _
    cases c with
    | users c => cases c <;> trivial
    | redis c => cases c <;> trivial
    | _ => trivial
  case env =>
    intro d s hs
    refine ⟨hs.accounts.trans ⟨rfl, rfl, rfl⟩, fun u token hkey => ?_⟩
    refine hs.keys u token fun hnone => hkey ?_
    exact Expiring.Cache.get_add_of_none hnone

namespace SessionContract

/-! ## What each call returns -/

theorem sign_meets (payload : JwtPayload) (expiresIn : Nat) :
    (sign P payload expiresIn).Meets (sessionContract s₀ Good)
      fun token => ∃ iat, token = P.jwt.sign ⟨payload, iat, iat + expiresIn⟩ := by
  refine Prog.Meets.bind (Q := fun _ => True) (Prog.Meets.await trivial fun _ _ => trivial) ?_
  intro now _
  exact ⟨now, rfl⟩

theorem getUserByEmail_meets (email : String) :
    (UserRepository.getUserByEmail P email).Meets (sessionContract s₀ Good) fun found =>
      P.isEmail email = true ∧ found = s₀.userByEmail email := by
  unfold UserRepository.getUserByEmail
  by_cases hemail : P.isEmail email = true
  · rw [hemail]
    exact .tryCatch (.await trivial fun found hfound => ⟨rfl, hfound⟩) fun _ => trivial
  · rw [Bool.eq_false_iff.mpr hemail]
    trivial

theorem set_meets {key value : String} {ttl : Option Nat}
    (h : ∀ u token, key = refreshKey u token → Good u token) :
    (CacheService.set key value ttl).Meets (sessionContract s₀ Good) fun _ => True :=
  (set_issues (Q := (sessionContract s₀ Good).allows) h fun _ => trivial).meets fun _ hc => hc

theorem sessionSet_meets (u : Uuid) (token value : String) (ttl : Option Nat) :
    (CacheService.set (sessionKey u token) value ttl).Meets (sessionContract s₀ Good)
      fun _ => True :=
  set_meets fun u' token' he => absurd he.symm (refreshKey_ne_sessionKey u' u token' token)

theorem get_meets (key : String) :
    (CacheService.get key).Meets (sessionContract s₀ Good) fun found =>
      ∀ value, found = some value → ∀ u token, key = refreshKey u token → Good u token := by
  refine .tryCatch (.await trivial fun found hfound value hvalue => ?_) fun _ => nofun
  subst hvalue
  exact hfound

/-- The tokens a sign-in has signed for a user who may sign in. -/
structure SignedIn (P : Platform) (s₀ : Store) (dto : AuthCredentialsDto) (user : User)
    (result : SignInResult) : Prop where
  admitted : MaySignIn P s₀ dto user
  access : ∃ iat, result.accessToken =
    P.jwt.sign ⟨⟨P.toLowerCase dto.email, user.userRole⟩, iat, iat + P.expiresIn⟩
  refresh : ∃ iat, result.refreshToken =
    P.jwt.sign ⟨⟨P.toLowerCase dto.email, user.userRole⟩, iat, iat + refreshTtl⟩

theorem signIn_meets {dto : AuthCredentialsDto} (session : Nat)
    (hgood : ∀ user iat, MaySignIn P s₀ dto user → Good user.id
      (P.jwt.sign ⟨⟨P.toLowerCase dto.email, user.userRole⟩, iat, iat + refreshTtl⟩)) :
    (signIn P dto session).Meets (sessionContract s₀ Good) fun result =>
      ∃ user, SignedIn P s₀ dto user result := by
  unfold signIn
  refine .bind (getUserByEmail_meets _) fun found hfound => ?_
  obtain ⟨hemail, hfound⟩ := hfound
  cases found with
  | none => trivial
  | some user =>
    dsimp only
    split
    · trivial
    · rename_i hrole
      split
      · trivial
      · rename_i hverified
        split
        · trivial
        · rename_i hpassword
          have hmay : MaySignIn P s₀ dto user :=
            ⟨hemail, hfound.symm, hrole, by simpa using hverified, by simpa using hpassword⟩
          refine .bind (sign_meets _ _) fun accessToken haccess => ?_
          refine .bind (sign_meets _ _) fun refreshToken hrefresh => ?_
          obtain ⟨iat, rfl⟩ := hrefresh
          refine .bind (Q := fun _ => True) (.await trivial fun _ _ => trivial) fun _ _ => ?_
          refine .bind (sessionSet_meets _ _ _ _) fun _ _ => .bind (set_meets ?_) fun _ _ => ?_
          · intro u token he
            obtain ⟨rfl, rfl⟩ := refreshKey_inj.mp he
            exact hgood user iat hmay
          · exact ⟨user, hmay, haccess, iat, rfl⟩

theorem refreshAccessToken_meets (token : String) :
    (refreshAccessToken P token).Meets (sessionContract s₀ Good) fun accessToken =>
      ∃ email user iat, s₀.userByEmail email = some user ∧ Good user.id token ∧
        accessToken = P.jwt.sign ⟨⟨user.email, user.userRole⟩, iat, iat + accessLifetime⟩ := by
  have hverify : (verify P token).Meets (sessionContract s₀ Good) fun _ => True :=
    (verify_issues trivial token).meets sessionContract_refreshCmd
  unfold refreshAccessToken
  refine .bind (.tryCatch hverify fun _ => trivial) fun payload _ => ?_
  refine .bind (getUserByEmail_meets _) fun found hfound => ?_
  cases found with
  | none => trivial
  | some user =>
    refine .bind (get_meets _) fun isValid hvalid => ?_
    dsimp only
    split
    · trivial
    · rename_i hactive
      have hgood : Good user.id token := hvalid "active" (not_not.mp hactive) user.id token rfl
      refine .bind (sign_meets _ _) fun accessToken haccess => ?_
      obtain ⟨iat, rfl⟩ := haccess
      exact .bind (sessionSet_meets _ _ _ _) fun _ _ =>
        ⟨payload.email, user, iat, hfound.2.symm, hgood, rfl⟩

end SessionContract

end VoltFleet
