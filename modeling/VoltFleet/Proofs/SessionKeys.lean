import VoltFleet.Misc.Simulation
import VoltFleet.Proofs.AccountRequests

/-!
# Session keys decide nothing

A sign-in and a refresh write a `session:` key, and a sign-in fills the session
object, but no handler and no guard reads either.  So two runs that start with
different session keys answer every request alike: to delete the session keys of
an account takes nothing away from it.
-/

namespace VoltFleet

open Awaiting AuthService

/-- The key is that of a session. -/
def IsSessionKey (key : String) : Prop := ∃ u token, key = sessionKey u token

/-- Any difference between the stores is under session keys, in the session objects or in the
websocket server. -/
structure SessionsApart (s s' : Store) : Prop where
  besides : s' = s.besides s'
  cache : ∀ key, ¬IsSessionKey key → s'.cache.entry key = s.cache.entry key

/-- The command does not read a session key, and is no list or hash command. -/
def ReadsNoSession : Cmd → Prop
  | .redis (.get key) => ¬IsSessionKey key
  | .redis (.lrange _) => False
  | .redis (.rpush ..) => False
  | .redis (.hset ..) => False
  | _ => True

section

variable {P : Platform} {s s' : Store}

/-- Other session keys and other session objects. -/
theorem SessionsApart.of_keys (s : Store) {m : Expiring.Cache String RedisValue}
    (hm : ∀ key, ¬IsSessionKey key → m.entry key = s.cache.entry key)
    (sessions : Nat → Option User) : SessionsApart s { s with cache := m, sessions := sessions } :=
  ⟨rfl, hm⟩

theorem SessionsApart.clock (h : SessionsApart s s') : s'.clock = s.clock := by
  rw [h.besides]
  rfl

/-- The write of one key on both sides, to the same effect unless it is a session key. -/
theorem SessionsApart.write (h : SessionsApart s s') (key : String)
    {m m' : Expiring.Cache String RedisValue}
    (hm : ∀ k, k ≠ key → m.entry k = s.cache.entry k)
    (hm' : ∀ k, k ≠ key → m'.entry k = s'.cache.entry k)
    (hkey : s'.cache.entry key = s.cache.entry key → m'.entry key = m.entry key) :
    SessionsApart { s with cache := m } { s' with cache := m' } := by
  refine ⟨?_, fun k hk => ?_⟩
  · rw [h.besides]
    rfl
  · by_cases he : k = key
    · subst he
      exact hkey (h.cache k hk)
    · show m'.entry k = m.entry k
      rw [hm k he, hm' k he]
      exact h.cache k hk

/-- A command of a repository. -/
theorem SessionsApart.tables (h : SessionsApart s s') {c : Cmd} (hc : OnTables c) :
    (exec P c s).1 = (exec P c s').1 ∧ SessionsApart (exec P c s).2 (exec P c s').2 := by
  have hexec : exec P c (s.besides s') = ((exec P c s).1, (exec P c s).2.besides s') :=
    (hc.exec P).besides s s'
  rw [← h.besides] at hexec
  have hcache : (exec P c s).2.cache = s.cache := (hc.exec P).cache s
  rw [hexec]
  refine ⟨rfl, rfl, fun key hkey => ?_⟩
  show s'.cache.entry key = (exec P c s).2.cache.entry key
  rw [hcache]
  exact h.cache key hkey

theorem SessionsApart.redis (h : SessionsApart s s') {c : RedisCmd}
    (hc : ReadsNoSession (.redis c)) :
    (c.exec s).1 = (c.exec s').1 ∧ SessionsApart (c.exec s).2 (c.exec s').2 := by
  cases c with
  | get key =>
    have hget : s'.cache.get s'.clock key = s.cache.get s.clock key := by
      rw [h.clock]
      exact Expiring.Cache.get_congr (h.cache key hc) _
    refine ⟨?_, h⟩
    simp only [RedisCmd.exec, hget]
  | set key value =>
    refine ⟨rfl, h.write key (fun k hk => ?_) (fun k hk => ?_) fun _ => ?_⟩
    · exact Expiring.Cache.entry_set_ne _ hk _
    · exact Expiring.Cache.entry_set_ne _ hk _
    · rw [Expiring.Cache.entry_set_self, Expiring.Cache.entry_set_self]
  | expire key ttl =>
    refine ⟨rfl, h.write key (fun k hk => ?_) (fun k hk => ?_) fun he => ?_⟩
    · exact Expiring.Cache.entry_expire_ne _ _ hk _
    · exact Expiring.Cache.entry_expire_ne _ _ hk _
    · rw [h.clock]
      exact Expiring.Cache.entry_expire_congr he
  | del key =>
    refine ⟨rfl, h.write key (fun k hk => ?_) (fun k hk => ?_) fun _ => ?_⟩
    · exact Expiring.Cache.entry_del_ne _ hk
    · exact Expiring.Cache.entry_del_ne _ hk
    · rw [Expiring.Cache.entry_del_self, Expiring.Cache.entry_del_self]
  | lrange key => exact hc.elim
  | rpush key data => exact hc.elim
  | hset key field value => exact hc.elim

theorem SessionsApart.process (h : SessionsApart s s') (c : ProcessCmd) :
    (c.exec s).1 = (c.exec s').1 ∧ SessionsApart (c.exec s).2 (c.exec s').2 := by
  have hdraws : s'.draws = s.draws := by
    rw [h.besides]
    rfl
  cases c with
  | now => exact ⟨congrArg Except.ok h.clock.symm, h⟩
  | genSalt =>
    refine ⟨congrArg Except.ok hdraws.symm, ?_, h.cache⟩
    rw [h.besides]
    rfl
  | setCurrentUser session user =>
    refine ⟨rfl, ?_, h.cache⟩
    rw [h.besides]
    rfl
  | broadcast fleetId telemetry =>
    refine ⟨rfl, ?_, h.cache⟩
    rw [h.besides]
    rfl

theorem sessionsApart_exec (P : Platform) (c : Cmd) (s s' : Store) (hc : ReadsNoSession c)
    (h : SessionsApart s s') :
    (exec P c s).1 = (exec P c s').1 ∧ SessionsApart (exec P c s).2 (exec P c s').2 := by
  cases c with
  | users c => exact h.tables trivial
  | roles c => exact h.tables trivial
  | privileges c => exact h.tables trivial
  | fleets c => exact h.tables trivial
  | vehicles c => exact h.tables trivial
  | telemetry c => exact h.tables trivial
  | redis c => exact h.redis hc
  | process c => exact h.process c

/-- The services cannot tell such stores apart. -/
theorem simulates_sessionsApart (P : Platform) :
    Simulates (system P) (system P) ReadsNoSession SessionsApart := by
  constructor
  case answer =>
    intro c s s' hc h
    exact (sessionsApart_exec P c s s' hc h).1
  case step =>
    intro c s s' hc h
    exact (sessionsApart_exec P c s s' hc h).2
  case fault =>
    intro c _
    rfl
  case env =>
    intro d s s' h
    refine ⟨?_, h.cache⟩
    rw [h.besides]
    rfl

/-! ## What requests read -/

theorem not_isSessionKey_refresh (u : Uuid) (token : String) :
    ¬IsSessionKey (refreshKey u token) := by
  rintro ⟨u', token', hkey⟩
  exact refreshKey_ne_sessionKey u u' token token' hkey

theorem not_isSessionKey_reset (userId : String) : ¬IsSessionKey (resetPasswordKey userId) := by
  rintro ⟨u, token, hkey⟩
  exact append_ne_append 0 (by decide) (by decide) (by decide) _ _ hkey

theorem prog_readsNoSession (request : HttpRequest) : (request.prog P).Issues ReadsNoSession := by
  refine (prog_commands request).mono fun c hc => ?_
  rcases hc with hplain | ⟨-, haccount⟩ | ⟨dto, -, hingest⟩
  · cases hplain <;> trivial
  · cases haccount with
    | getRefresh u token => exact not_isSessionKey_refresh u token
    | getReset userId => exact not_isSessionKey_reset userId
    | _ => trivial
  · cases hingest <;> trivial

end

namespace HttpRequest

variable {ι : Type} [DecidableEq ι]

/-- Runs from stores that differ in session keys, session objects or websocket clients only:
the same moves complete the same commands with the same answers, leave every request at the
same point or with the same outcome, and lead to stores that differ in the same respects
only. -/
theorem session_keys_unread (P : Platform) (s s' : Store) (h : SessionsApart s s')
    (requests : ι → HttpRequest) (ms : List (Move ι Nat)) :
    let cfg := (started P s requests).exec (system P) ms
    let cfg' := (started P s' requests).exec (system P) ms
    cfg'.threads = cfg.threads ∧ cfg'.trace = cfg.trace ∧ SessionsApart cfg.store cfg'.store := by
  intro cfg cfg'
  have hstart : Config.Alike SessionsApart (started P s requests) (started P s' requests) :=
    ⟨rfl, rfl, h⟩
  have hissuing : (started P s requests).Issuing ReadsNoSession :=
    fun i => prog_readsNoSession (requests i)
  have hend : Config.Alike SessionsApart cfg cfg' :=
    hstart.exec (simulates_sessionsApart P) hissuing ms
  exact ⟨hend.threads.symm, hend.trace.symm, hend.store⟩

/-! ## Deleted session keys -/

/-- The store after a sign-in, without any session key and without the session object. -/
def signedOut : Store :=
  { SessionCall.firstSignInStore with
    cache := SessionCall.firstSignInStore.cache.del
      (sessionKey (.ofNat 1) firstSignIn.accessToken)
    sessions := fun _ => none }

/-- Who is signed in refreshes the access token. -/
def oneRefresh : Unit → HttpRequest := fun _ =>
  { bearer := none
    route := .refreshAccessToken firstSignIn.refreshToken
    proceeds := true }

/-- The refresh does not notice that the session key has been deleted. -/
theorem session_keys_unread_refresh :
    ((started .plain signedOut oneRefresh).exec (system .plain)
      [.step (), .step (), .step (), .step (), .step (), .step ()]).threads =
      ((started .plain SessionCall.firstSignInStore oneRefresh).exec (system .plain)
        [.step (), .step (), .step (), .step (), .step (), .step ()]).threads := by
  refine (session_keys_unread .plain SessionCall.firstSignInStore signedOut (.of_keys _ ?_ _)
    oneRefresh _).1
  intro key hkey
  refine Expiring.Cache.entry_del_ne _ ?_
  rintro rfl
  exact hkey ⟨_, _, rfl⟩

end HttpRequest

end VoltFleet
