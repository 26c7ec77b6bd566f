import VoltFleet.Auth.Proofs.Sessions
import VoltFleet.PlainPlatform

/-!
# Which refresh tokens are accepted

A run serves one operation after the other, with time passing between them, and
records the sign-ins, refreshes and logouts.  The refresh keys in the cache are
determined by the record: a token is accepted from the sign-in that returned it
for seven days, unless it has been logged out since.
-/

namespace VoltFleet

open Awaiting AuthService

/-- The calls that a run is made of, and time that passes. -/
inductive SessionOp where
  | signUp (dto : CreateUserDto)
  | signIn (dto : AuthCredentialsDto) (session : Nat)
  | refreshAccessToken (token : String)
  | logout (token : String)
  | resetPassword (dto : ResetPasswordDto) (newPassword : NewPasswordDto)
  | elapse (seconds : Nat)

/-- What is remembered of an operation. -/
inductive Record where
  | signedIn (time : Nat) (result : SignInResult)
  | refreshed (token accessToken : String)
  | loggedOut (token : String)
  | other
  deriving DecidableEq

/-- The store, and the operations served so far, newest first. -/
structure History where
  store : Store
  records : List Record

namespace History

/-- Serve one operation. -/
def serve (P : Platform) (h : History) : SessionOp → History
  | .signUp dto => ⟨((signUp P dto).run (exec P) h.store).2, .other :: h.records⟩
  | .signIn dto session =>
      match (signIn P dto session).run (exec P) h.store with
      | (.ok result, s) => ⟨s, .signedIn h.store.clock result :: h.records⟩
      | (.error _, s) => ⟨s, .other :: h.records⟩
  | .refreshAccessToken token =>
      match (refreshAccessToken P token).run (exec P) h.store with
      | (.ok accessToken, s) => ⟨s, .refreshed token accessToken :: h.records⟩
      | (.error _, s) => ⟨s, .other :: h.records⟩
  | .logout token => ⟨((logout P token).run (exec P) h.store).2, .loggedOut token :: h.records⟩
  | .resetPassword dto newPassword =>
      ⟨((resetPassword P dto newPassword).run (exec P) h.store).2, .other :: h.records⟩
  | .elapse seconds => ⟨VoltFleet.elapse seconds h.store, .other :: h.records⟩

/-- Serve a list of operations. -/
def serveAll (P : Platform) (s : Store) (ops : List SessionOp) : History :=
  ops.foldl (serve P) ⟨s, []⟩

end History

/-- `refreshAccessToken` accepts the token. -/
def Accepts (P : Platform) (s : Store) (token : String) : Prop :=
  ∃ accessToken, ((refreshAccessToken P token).run (exec P) s).1 = .ok accessToken

/-- The latest sign-in that returned the token was less than seven days ago, and the token
has not been logged out since. -/
def Usable (records : List Record) (now : Nat) (token : String) : Prop :=
  ∃ newer time result older, records = newer ++ .signedIn time result :: older ∧
    result.refreshToken = token ∧
    (∀ time' result', .signedIn time' result' ∈ newer → result'.refreshToken ≠ token) ∧
    now < time + refreshTtl ∧ .loggedOut token ∉ newer

/-! ## The record of a token -/

/-- The time and the user of the latest sign-in that returned the token, unless it has
been logged out since. -/
def lastIssue (token : String) : List Record → Option (Nat × Uuid)
  | [] => none
  | .signedIn time result :: records =>
      if result.refreshToken = token then some (time, result.user.id)
      else lastIssue token records
  | .loggedOut token' :: records => if token' = token then none else lastIssue token records
  | .refreshed .. :: records => lastIssue token records
  | .other :: records => lastIssue token records

/-- A sign-in that returned the token, or its logout. -/
def Record.Concerns (token : String) : Record → Prop
  | .signedIn _ result => result.refreshToken = token
  | .loggedOut token' => token' = token
  | _ => False

theorem usable_cons_iff {record : Record} {records : List Record} {now : Nat} {token : String}
    (h : ¬ record.Concerns token) :
    Usable (record :: records) now token ↔ Usable records now token := by
  constructor
  · rintro ⟨newer, time, result, older, he, ht, hlatest, hnow, hlog⟩
    cases newer with
    | nil =>
      obtain ⟨rfl, rfl⟩ := List.cons.inj he
      exact absurd ht h
    | cons r newer =>
      obtain ⟨rfl, rfl⟩ := List.cons.inj he
      exact ⟨newer, time, result, older, rfl, ht,
        fun time' result' hm => hlatest time' result' (List.mem_cons_of_mem _ hm), hnow,
        fun hm => hlog (List.mem_cons_of_mem _ hm)⟩
  · rintro ⟨newer, time, result, older, rfl, ht, hlatest, hnow, hlog⟩
    refine ⟨record :: newer, time, result, older, rfl, ht, ?_, hnow, ?_⟩
    · intro time' result' hm
      rcases List.mem_cons.mp hm with he | hm
      · subst he
        exact h
      · exact hlatest time' result' hm
    · intro hm
      rcases List.mem_cons.mp hm with he | hm
      · subst he
        exact h rfl
      · exact hlog hm

theorem usable_iff {now : Nat} {token : String} (records : List Record) :
    Usable records now token ↔
      ∃ time u, lastIssue token records = some (time, u) ∧ now < time + refreshTtl := by
  induction records with
  | nil =>
    constructor
    · rintro ⟨newer, time, result, older, he, -⟩
      exact absurd he (by simp)
    · rintro ⟨time, u, h, -⟩
      cases h
  | cons record records ih =>
    cases record with
    | other =>
      refine (usable_cons_iff ?_).trans ih
      exact not_false
    | refreshed token' accessToken =>
      refine (usable_cons_iff ?_).trans ih
      exact not_false
    | loggedOut token' =>
      by_cases ht : token' = token
      · subst ht
        rw [lastIssue, if_pos rfl]
        constructor
        · rintro ⟨newer, time, result, older, he, -, -, -, hlog⟩
          cases newer with
          | nil => cases he
          | cons r newer =>
            obtain ⟨rfl, -⟩ := List.cons.inj he
            exact absurd List.mem_cons_self hlog
        · rintro ⟨time, u, h, -⟩
          cases h
      · rw [lastIssue, if_neg ht]
        refine (usable_cons_iff ?_).trans ih
        exact ht
    | signedIn time result =>
      by_cases ht : result.refreshToken = token
      · rw [lastIssue, if_pos ht]
        constructor
        · rintro ⟨newer, time', result', older, he, ht', hlatest, hnow, -⟩
          cases newer with
          | nil =>
            obtain ⟨h, -⟩ := List.cons.inj he
            cases h
            exact ⟨time, _, rfl, hnow⟩
          | cons r newer =>
            obtain ⟨rfl, -⟩ := List.cons.inj he
            exact absurd ht (hlatest time result List.mem_cons_self)
        · rintro ⟨time', u, h, hnow⟩
          cases h
          exact ⟨[], time, result, records, rfl, ht, fun _ _ hm => absurd hm List.not_mem_nil,
            hnow, List.not_mem_nil⟩
      · rw [lastIssue, if_neg ht]
        refine (usable_cons_iff ?_).trans ih
        exact ht

/-! ## The refresh keys follow the record -/

/-- The refresh entry of a user and a token whose last issue is `issue`. -/
def refreshEntry (now : Nat) (u : Uuid) : Option (Nat × Uuid) → Option (Expiring.Entry RedisValue)
  | some (time, u') =>
      if u' = u ∧ now < time + refreshTtl then some ⟨.str "active", some (time + refreshTtl)⟩
      else none
  | none => none

/-- The tokens on record belong to stored users, and the refresh keys in the cache are
those of the tokens that are still usable. -/
structure Tracks (P : Platform) (h : History) : Prop where
  issued : ∀ {token time u}, lastIssue token h.records = some (time, u) →
    ∃ email role row, token = P.jwt.sign ⟨⟨email, role⟩, time, time + refreshTtl⟩ ∧
      P.isEmail email = true ∧ h.store.users.find? u = some row ∧ row.email = email
  keys : ∀ u token, (h.store.cache.entry (refreshKey u token)).filter (·.live h.store.clock) =
    refreshEntry h.store.clock u (lastIssue token h.records)
  refreshed : ∀ {token accessToken}, .refreshed token accessToken ∈ h.records →
    ∃ payload iat, accessToken = P.jwt.sign ⟨payload, iat, iat + accessLifetime⟩

variable {P : Platform} {h : History}

/-- A usable token on record is signed and names its user. -/
theorem Tracks.names (ht : Tracks P h) {token : String} {time : Nat} {u : Uuid}
    (hissue : lastIssue token h.records = some (time, u))
    (hnow : h.store.clock < time + refreshTtl) :
    ∃ user, user.id = u ∧ Names P h.store token user := by
  obtain ⟨email, role, row, rfl, hemail, hrow, he⟩ := ht.issued hissue
  refine ⟨h.store.userEntity u row, rfl, ⟨⟨email, role⟩, time, time + refreshTtl⟩, ?_, hemail,
    userByEmail_eq_some.mpr ⟨u, row, hrow, he, rfl⟩⟩
  rw [JwtService.verify_sign, if_pos hnow]

theorem accepts_iff {s : Store} {token : String} :
    Accepts P s token ↔ ∃ user, Names P s token user ∧ Active s user token := by
  constructor
  · rintro ⟨accessToken, hrun⟩
    by_contra hno
    obtain ⟨e, he⟩ := run_refresh_refused (P := P) fun user hn ha => hno ⟨user, hn, ha⟩
    rw [he] at hrun
    cases hrun
  · rintro ⟨user, hn, ha⟩
    exact ⟨_, by rw [run_refresh_granted hn ha]⟩

/-- Where the keys follow the record, the accepted tokens are the usable ones. -/
theorem Tracks.accepts_iff_usable (ht : Tracks P h) (token : String) :
    Accepts P h.store token ↔ Usable h.records h.store.clock token := by
  rw [accepts_iff, usable_iff]
  constructor
  · rintro ⟨user, -, ha⟩
    obtain ⟨e, he, hlive, -⟩ := Expiring.Cache.get_eq_some.mp ha
    have hkey := ht.keys user.id token
    rw [he, Option.filter_some, if_pos hlive] at hkey
    unfold refreshEntry at hkey
    split at hkey
    · rename_i time u hissue
      by_cases hc : u = user.id ∧ h.store.clock < time + refreshTtl
      · exact ⟨time, u, hissue, hc.2⟩
      · rw [if_neg hc] at hkey
        cases hkey
    · cases hkey
  · rintro ⟨time, u, hissue, hnow⟩
    obtain ⟨user, rfl, hn⟩ := ht.names hissue hnow
    refine ⟨user, hn, ?_⟩
    have hkey := ht.keys user.id token
    rw [hissue, refreshEntry, if_pos ⟨rfl, hnow⟩, Option.filter_eq_some_iff] at hkey
    exact Expiring.Cache.get_eq_some.mpr ⟨_, hkey.1, hkey.2, rfl⟩

/-! ## One operation -/

/-- An operation that is no sign-in or logout, and keeps what belongs to sessions. -/
theorem Tracks.keep (ht : Tracks P h) {s : Store} (hk : KeepsSessions h.store s)
    {record : Record} (hlast : ∀ token, lastIssue token (record :: h.records) =
      lastIssue token h.records)
    (hrefreshed : ∀ {token accessToken}, record = .refreshed token accessToken →
      ∃ payload iat, accessToken = P.jwt.sign ⟨payload, iat, iat + accessLifetime⟩) :
    Tracks P ⟨s, record :: h.records⟩ := by
  constructor
  · intro token time u hissue
    rw [hlast] at hissue
    obtain ⟨email, role, row, hsign, hemail, hrow, he⟩ := ht.issued hissue
    obtain ⟨row', hrow', he'⟩ := hk.emails hrow
    exact ⟨email, role, row', hsign, hemail, hrow', he'.trans he⟩
  · intro u token
    rw [hlast, hk.refresh, hk.clock]
    exact ht.keys u token
  · intro token accessToken hm
    rcases List.mem_cons.mp hm with he | hm
    · exact hrefreshed he.symm
    · exact ht.refreshed hm

theorem Tracks.elapse (ht : Tracks P h) (d : Nat) :
    Tracks P ⟨VoltFleet.elapse d h.store, .other :: h.records⟩ := by
  refine ⟨ht.issued, fun u token => ?_, ?_⟩
  · have hkey := ht.keys u token
    show (h.store.cache.entry (refreshKey u token)).filter (·.live (h.store.clock + d)) =
      refreshEntry (h.store.clock + d) u (lastIssue token h.records)
    cases hissue : lastIssue token h.records with
    | none =>
      rw [hissue] at hkey
      rw [refreshEntry, Option.filter_eq_none_iff] at hkey ⊢
      exact fun e he hlive => hkey e he (Expiring.Entry.live_of_live_add hlive)
    | some issue =>
      obtain ⟨time, u'⟩ := issue
      rw [hissue, refreshEntry] at hkey
      rw [refreshEntry]
      by_cases hc : u' = u ∧ h.store.clock < time + refreshTtl
      · rw [if_pos hc, Option.filter_eq_some_iff] at hkey
        rw [hkey.1, Option.filter_some, Expiring.Entry.live_until]
        by_cases hd : h.store.clock + d < time + refreshTtl
        · rw [if_pos (decide_eq_true hd), if_pos ⟨hc.1, hd⟩]
        · rw [if_neg (by simpa using hd), if_neg fun hc' => hd hc'.2]
      · rw [if_neg hc, Option.filter_eq_none_iff] at hkey
        have hd : ¬ (u' = u ∧ h.store.clock + d < time + refreshTtl) :=
          fun hd => hc ⟨hd.1, by omega⟩
        rw [if_neg hd, Option.filter_eq_none_iff]
        exact fun e he hlive => hkey e he (Expiring.Entry.live_of_live_add hlive)
  · intro token accessToken hm
    rcases List.mem_cons.mp hm with he | hm
    · cases he
    · exact ht.refreshed hm

/-- An entry of a token that names a user belongs to that user. -/
theorem Tracks.keys_ne (ht : Tracks P h) {token : String} {user : User}
    (hn : Names P h.store token user) {u : Uuid} (hu : u ≠ user.id) :
    refreshEntry h.store.clock u (lastIssue token h.records) = none := by
  cases hissue : lastIssue token h.records with
  | none => rfl
  | some issue =>
    obtain ⟨time, u'⟩ := issue
    rw [refreshEntry, if_neg]
    rintro ⟨rfl, hnow⟩
    obtain ⟨user', rfl, hn'⟩ := ht.names hissue hnow
    exact hu (by rw [names_unique hn hn'])

/-- An entry of a token that names nobody is gone. -/
theorem Tracks.keys_unnamed (ht : Tracks P h) {token : String}
    (hn : ∀ user, ¬ Names P h.store token user) (u : Uuid) :
    refreshEntry h.store.clock u (lastIssue token h.records) = none := by
  cases hissue : lastIssue token h.records with
  | none => rfl
  | some issue =>
    obtain ⟨time, u'⟩ := issue
    rw [refreshEntry, if_neg]
    rintro ⟨rfl, hnow⟩
    obtain ⟨user', -, hn'⟩ := ht.names hissue hnow
    exact hn user' hn'

theorem Tracks.logout (ht : Tracks P h) (token : String) :
    Tracks P ⟨((AuthService.logout P token).run (exec P) h.store).2,
      .loggedOut token :: h.records⟩ := by
  have hissued : ∀ {token' time u}, lastIssue token' (.loggedOut token :: h.records) =
      some (time, u) → lastIssue token' h.records = some (time, u) := by
    intro token' time u hissue
    rw [lastIssue] at hissue
    split at hissue
    · cases hissue
    · exact hissue
  have hrefreshed : ∀ {token' accessToken}, .refreshed token' accessToken ∈
      Record.loggedOut token :: h.records →
      ∃ payload iat, accessToken = P.jwt.sign ⟨payload, iat, iat + accessLifetime⟩ := by
    intro token' accessToken hm
    rcases List.mem_cons.mp hm with he | hm
    · cases he
    · exact ht.refreshed hm
  by_cases hn : ∃ user, Names P h.store token user
  · obtain ⟨user, hn⟩ := hn
    rw [run_logout_named hn]
    refine ⟨fun hissue => ht.issued (hissued hissue), fun u token' => ?_, hrefreshed⟩
    have hkey := ht.keys u token'
    show ((h.store.cache.del (refreshKey user.id token)).entry (refreshKey u token')).filter _ = _
    rw [lastIssue]
    by_cases htok : token = token'
    · subst htok
      rw [if_pos rfl]
      by_cases hu : u = user.id
      · subst hu
        rw [Expiring.Cache.entry_del_self]
        rfl
      · rw [Expiring.Cache.entry_del_ne _ fun he => hu (refreshKey_inj.mp he).1]
        exact hkey.trans (ht.keys_ne hn hu)
    · rw [if_neg htok, Expiring.Cache.entry_del_ne _ fun he => htok (refreshKey_inj.mp he).2.symm]
      exact hkey
  · have hn' : ∀ user, ¬ Names P h.store token user := fun user hu => hn ⟨user, hu⟩
    rw [run_logout_unnamed hn']
    refine ⟨fun hissue => ht.issued (hissued hissue), fun u token' => ?_, hrefreshed⟩
    have hkey := ht.keys u token'
    rw [lastIssue]
    by_cases htok : token = token'
    · subst htok
      rw [if_pos rfl]
      exact hkey.trans (ht.keys_unnamed hn' u)
    · rw [if_neg htok]
      exact hkey

theorem Tracks.signIn (ht : Tracks P h) {email : String} {user : User} {accessToken : String}
    (hemail : P.isEmail email = true) (huser : h.store.userByEmail email = some user)
    (session : Nat) :
    Tracks P ⟨signedInStore P h.store email user session,
      .signedIn h.store.clock ⟨accessToken, issuedToken P h.store email user refreshTtl,
        { user with password := none }⟩ :: h.records⟩ := by
  obtain ⟨u₀, row, hrow, he, rfl⟩ := userByEmail_eq_some.mp huser
  have hnow : h.store.clock < h.store.clock + refreshTtl := by
    rw [refreshTtl]
    omega
  have hn : Names P h.store (issuedToken P h.store email (h.store.userEntity u₀ row) refreshTtl)
      (h.store.userEntity u₀ row) := by
    refine ⟨⟨⟨email, (h.store.userEntity u₀ row).userRole⟩, h.store.clock,
      h.store.clock + refreshTtl⟩, ?_, hemail, huser⟩
    rw [issuedToken, JwtService.verify_sign, if_pos hnow]
  refine ⟨?_, fun u token => ?_, ?_⟩
  · intro token time u hissue
    rw [lastIssue] at hissue
    split at hissue
    · rename_i htok
      cases hissue
      exact ⟨email, _, row, htok.symm, hemail, hrow, he⟩
    · exact ht.issued hissue
  · have hkey := ht.keys u token
    have hentry : ∀ u token, refreshKey u token ≠ refreshKey u₀
        (issuedToken P h.store email (h.store.userEntity u₀ row) refreshTtl) →
        (signedInStore P h.store email (h.store.userEntity u₀ row) session).cache.entry
          (refreshKey u token) = h.store.cache.entry (refreshKey u token) :=
      fun _ _ hne => signedInStore_entry_ne hne
    show Option.filter (·.live h.store.clock) _ = refreshEntry h.store.clock u _
    rw [lastIssue]
    by_cases htok : issuedToken P h.store email (h.store.userEntity u₀ row) refreshTtl = token
    · subst htok
      rw [if_pos rfl]
      by_cases hu : u = u₀
      · subst hu
        have hself : (signedInStore P h.store email (h.store.userEntity u row) session).cache.entry
            (refreshKey u (issuedToken P h.store email (h.store.userEntity u row) refreshTtl)) =
            some ⟨.str "active", some (h.store.clock + refreshTtl)⟩ :=
          signedInStore_entry_self email (h.store.userEntity u row) session
        rw [hself, refreshEntry, if_pos ⟨rfl, hnow⟩, Option.filter_some,
          Expiring.Entry.live_until, if_pos (decide_eq_true hnow)]
      · rw [hentry u _ fun he => hu (refreshKey_inj.mp he).1, refreshEntry,
          if_neg fun hc => hu hc.1.symm]
        exact hkey.trans (ht.keys_ne hn hu)
    · rw [if_neg htok, hentry u token fun he => htok (refreshKey_inj.mp he).2.symm]
      exact hkey
  · intro token accessToken hm
    rcases List.mem_cons.mp hm with he | hm
    · cases he
    · exact ht.refreshed hm

theorem Tracks.serve (ht : Tracks P h) (op : SessionOp) : Tracks P (h.serve P op) := by
  cases op with
  | signUp dto => exact ht.keep (run_signUp_keeps P h.store dto) (fun _ => rfl) nofun
  | resetPassword dto newPassword =>
    exact ht.keep (run_resetPassword_keeps P h.store dto newPassword) (fun _ => rfl) nofun
  | elapse d => exact ht.elapse d
  | logout token => exact ht.logout token
  | signIn dto session =>
    simp only [History.serve]
    rcases run_signIn_cases P h.store dto session with ⟨e, hrun⟩ | ⟨user, hemail, huser, hrun⟩ <;>
      rw [hrun]
    · exact ht.keep (.refl h.store) (fun _ => rfl) nofun
    · exact ht.signIn hemail huser session
  | refreshAccessToken token =>
    simp only [History.serve]
    by_cases hn : ∃ user, Names P h.store token user ∧ Active h.store user token
    · obtain ⟨user, hn, ha⟩ := hn
      rw [run_refresh_granted hn ha]
      refine ht.keep (keepsSessions_activate (refreshKey_ne_sessionKey · _ · _) _)
        (fun _ => rfl) ?_
      rintro token' accessToken hr
      cases hr
      exact ⟨_, _, rfl⟩
    · obtain ⟨e, hrun⟩ := run_refresh_refused (P := P) fun user hu ha => hn ⟨user, hu, ha⟩
      rw [hrun]
      exact ht.keep (.refl h.store) (fun _ => rfl) nofun

theorem Tracks.serveAll (ht : Tracks P h) (ops : List SessionOp) :
    Tracks P (ops.foldl (History.serve P) h) := by
  induction ops generalizing h with
  | nil => exact ht
  | cons op ops ih => exact ih (ht.serve op)

/-- From a cache without refresh keys, after any run, `refreshAccessToken` accepts exactly
the tokens that a sign-in returned less than seven days ago and that have not been logged
out since, and none of the access tokens it has returned itself. -/
theorem refresh_accepted_iff (P : Platform) (s : Store)
    (hs : ∀ u token, s.cache.get s.clock (refreshKey u token) = none) (ops : List SessionOp) :
    (∀ token, Accepts P (History.serveAll P s ops).store token ↔
      Usable (History.serveAll P s ops).records (History.serveAll P s ops).store.clock token) ∧
    ∀ token accessToken, .refreshed token accessToken ∈ (History.serveAll P s ops).records →
      ¬ Accepts P (History.serveAll P s ops).store accessToken := by
  have init : Tracks P ⟨s, []⟩ := by
    refine ⟨nofun, fun u token => ?_, nofun⟩
    have hnone := hs u token
    rw [Expiring.Cache.get, Option.map_eq_none_iff] at hnone
    exact hnone
  have ht : Tracks P (History.serveAll P s ops) := init.serveAll ops
  refine ⟨ht.accepts_iff_usable, fun token accessToken hm hacc => ?_⟩
  obtain ⟨payload, iat, rfl⟩ := ht.refreshed hm
  obtain ⟨time, u, hissue, -⟩ := (usable_iff _).mp ((ht.accepts_iff_usable _).mp hacc)
  obtain ⟨email, role, row, hsign, -⟩ := ht.issued hissue
  have hclaims := JwtService.sign_inj hsign
  have hiat : iat = time := congrArg JwtClaims.iat hclaims
  have hexp : iat + accessLifetime = time + refreshTtl := congrArg JwtClaims.exp hclaims
  rw [accessLifetime, refreshTtl] at hexp
  omega

/-! ## A sign-in -/

/-- A confirmed user whose password is `secret`. -/
def verifiedUser : UserRow :=
  ⟨"Ada", "Byron", "ada@example.com", ⟨"#secret"⟩, .ACTIVE, true, none⟩

/-- One account, which is confirmed. -/
def verifiedUserStore : Store :=
  { Store.empty with
    users := ((∅ : Keyed.Table Uuid UserRow UserRow.email).put (.ofNat 1) verifiedUser).getD ∅ }

/-- What signing in returns at the start. -/
def firstSignIn : SignInResult :=
  let user := verifiedUserStore.userEntity (.ofNat 1) verifiedUser
  ⟨issuedToken .plain verifiedUserStore verifiedUser.email user Platform.plain.expiresIn,
    issuedToken .plain verifiedUserStore verifiedUser.email user refreshTtl,
    { user with password := none }⟩

/-- The refresh token is accepted until the last second of the week. -/
theorem refresh_accepted_for_a_week :
    Accepts .plain (History.serveAll .plain verifiedUserStore
      [.signIn ⟨"Ada@example.com", "secret"⟩ 0, .elapse 604799]).store
      firstSignIn.refreshToken := by
  refine ((refresh_accepted_iff .plain verifiedUserStore (fun _ _ => rfl)
    [.signIn ⟨"Ada@example.com", "secret"⟩ 0, .elapse 604799]).1 _).mpr ?_
  exact ⟨[.other], 0, firstSignIn, [], by rfl, rfl, by simp, by decide, by decide⟩

end VoltFleet
