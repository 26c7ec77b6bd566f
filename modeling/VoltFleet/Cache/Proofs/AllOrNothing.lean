import VoltFleet.Auth.Proofs.Accounts
import VoltFleet.Auth.Proofs.Sessions
import VoltFleet.Misc.CutOff
import VoltFleet.PlainPlatform

/-!
# Writes of the cache that are cut off

`set`, `setList` and `hset` send two or three commands each, and drop the exception
of a client that fails in between.  What is left then is neither the old entry nor
the new one with its time to live.
-/

namespace VoltFleet

open Awaiting

/-- What a key of the cache holds now. -/
def Store.held (s : Store) (key : String) : Option (Expiring.Entry RedisValue) :=
  s.cache.held s.clock key

/-- What a key holds that has just been written with a time to live. -/
def Store.lasting (s : Store) (ttl : Nat) (v : RedisValue) :
    Option (Expiring.Entry RedisValue) :=
  if 0 < ttl then some ⟨v, some (s.clock + ttl)⟩ else none

/-- The fields of a hash; a key that is not there has none. -/
def Store.fields (s : Store) (key : String) : List (String × String) :=
  match s.held key with
  | some ⟨.hash fields, _⟩ => fields
  | _ => []

/-- The command goes to the cache server. -/
def Cmd.isRedis : Cmd → Bool
  | .redis _ => true
  | _ => false

/-- The calls that write to the cache. -/
inductive CacheCall where
  | set (key value : String) (ttl : Nat)
  | setList (key : String) (data : List String) (ttl : Nat)
  | hset (key field value : String) (ttl : Nat)
  | signIn (dto : AuthCredentialsDto) (session : Nat)
  | refreshAccessToken (token : String)

namespace CacheCall

/-- The call as a program. -/
def prog (P : Platform) : CacheCall → Service Unit
  | .set key value ttl => CacheService.set key value (some ttl)
  | .setList key data ttl => CacheService.setList key data ttl
  | .hset key field value ttl => CacheService.hset key field value ttl
  | .signIn dto session => (AuthService.signIn P dto session).dropResult
  | .refreshAccessToken token => (AuthService.refreshAccessToken P token).dropResult

/-- The client fails from the `n`-th command on, counted from zero. -/
abbrev failing (P : Platform) : Handler Cmd Cmd.Answer Thrown (Store × Nat) :=
  cutOff (exec P) Cmd.isRedis .storeFailed

/-- The stores after the call. -/
def after (P : Platform) (s : Store) (n : Nat) (call : CacheCall) : Store :=
  ((call.prog P).run (failing P) (s, n)).2.1

/-- What a key is to hold that the call writes. -/
def Complete (P : Platform) (s : Store) :
    CacheCall → String → Option (Expiring.Entry RedisValue) → Prop
  | .set key value ttl, k, e => k = key ∧ e = s.lasting ttl (.str value)
  | .setList key data ttl, k, e =>
      k = key ∧ e = if data = [] then none else s.lasting ttl (.list data)
  | .hset key field value ttl, k, e =>
      k = key ∧ e = s.lasting ttl (.hash (setField field value (s.fields key)))
  | .signIn dto _, k, e => ∃ user, AuthService.MaySignIn P s dto user ∧
      ((k = AuthService.sessionKey user.id (AuthService.issuedToken P s
          (P.toLowerCase dto.email) user P.expiresIn) ∧
        e = s.lasting AuthService.sessionTtl (.str "active")) ∨
      (k = AuthService.refreshKey user.id (AuthService.issuedToken P s
          (P.toLowerCase dto.email) user AuthService.refreshTtl) ∧
        e = s.lasting AuthService.refreshTtl (.str "active")))
  | .refreshAccessToken token, k, e => ∃ user, AuthService.Names P s token user ∧
      AuthService.Active s user token ∧
      k = AuthService.sessionKey user.id (AuthService.refreshedToken P s user) ∧
      e = s.lasting AuthService.sessionTtl (.str "active")

/-- Every key is as it was, or holds what it is to hold. -/
def AllOrNothing (P : Platform) (s : Store) (n : Nat) (call : CacheCall) : Prop :=
  ∀ k, (call.after P s n).held k = s.held k ∨ call.Complete P s k ((call.after P s n).held k)

/-- The calls with a time to live, as far as they check it. -/
def HasTtl : CacheCall → Prop
  | .set _ _ ttl => 0 < ttl
  | .setList _ _ ttl => 0 < ttl
  | _ => True

/-- A hash of which one field is written and whose time to live is not: it has been there, and has
the value or the time to live already.  A key of another kind is left alone. -/
def FieldKept (now ttl : Nat) (field value : String) :
    Option (Expiring.Entry RedisValue) → Prop
  | none => False
  | some ⟨.hash fields, expiresAt⟩ =>
      fields.lookup field = some value ∨ expiresAt = some (now + ttl)
  | some _ => True

/-- The client does not fail between the commands, or what it leaves is there already. -/
def Uncut (P : Platform) (s : Store) (n : Nat) : CacheCall → Prop
  | .set key value _ => n = 1 → s.held key = some ⟨.str value, none⟩
  | .setList key data _ => data ≠ [] → (n = 1 → s.held key = none) ∧
      (n = 2 → s.held key = some ⟨.list data, none⟩)
  | .hset key field value ttl => n = 1 → FieldKept s.clock ttl field value (s.held key)
  | .signIn dto _ => ∀ user, AuthService.MaySignIn P s dto user →
      (n = 1 → s.held (AuthService.sessionKey user.id (AuthService.issuedToken P s
        (P.toLowerCase dto.email) user P.expiresIn)) = some ⟨.str "active", none⟩) ∧
      (n = 3 → s.held (AuthService.refreshKey user.id (AuthService.issuedToken P s
        (P.toLowerCase dto.email) user AuthService.refreshTtl)) = some ⟨.str "active", none⟩)
  | .refreshAccessToken token => ∀ user, AuthService.Names P s token user →
      AuthService.Active s user token → n = 2 →
      s.held (AuthService.sessionKey user.id (AuthService.refreshedToken P s user)) =
        some ⟨.str "active", none⟩

variable {P : Platform} {s : Store} {n ttl : Nat} {key k : String} {call : CacheCall}

/-- A key with a time to live is not one without. -/
theorem ne_lasting {v v' : RedisValue} : some ⟨v, none⟩ ≠ s.lasting ttl v' := by
  intro h
  unfold Store.lasting at h
  split at h <;> cases h

theorem lasting_of_pos (h : 0 < ttl) (v : RedisValue) :
    s.lasting ttl v = some ⟨v, some (s.clock + ttl)⟩ := if_pos h

/-- A call that writes one key. -/
theorem allOrNothing_of_key {target : Option (Expiring.Entry RedisValue)}
    (hcomplete : ∀ k e, call.Complete P s k e ↔ k = key ∧ e = target)
    (hothers : ∀ k, k ≠ key → (call.after P s n).held k = s.held k) :
    call.AllOrNothing P s n ↔
      (call.after P s n).held key = s.held key ∨ (call.after P s n).held key = target := by
  constructor
  · intro h
    exact (h key).imp_right fun hkey => ((hcomplete _ _).mp hkey).2
  · intro h k
    by_cases hk : k = key
    · subst hk
      exact h.imp_right fun hkey => (hcomplete _ _).mpr ⟨rfl, hkey⟩
    · exact .inl (hothers k hk)

/-- An entry after a call of two commands, the first of which leaves `b` and both `c`. -/
theorem cut_iff {α : Type} {a b c : α} :
    ((if n = 0 then a else if n = 1 then b else c) = a ∨
        (if n = 0 then a else if n = 1 then b else c) = c) ↔
      (n = 1 → a = b ∨ b = c) := by
  match n with
  | 0 => simp
  | 1 => simp [eq_comm]
  | n + 2 => simp

/-! ## `expire`, which ends each call -/

/-- The stores and the answers that are left after the `EXPIRE` command. -/
def expireCut (key : String) (ttl : Nat) : Store × Nat → Store × Nat
  | (s, 0) => (s, 0)
  | (s, n + 1) => ({ s with cache := s.cache.expire s.clock key ttl }, n)

theorem held_expireCut_ne (h : k ≠ key) : (expireCut key ttl (s, n)).1.held k = s.held k := by
  cases n with
  | zero => rfl
  | succ n => exact Expiring.Cache.held_expire_ne h

theorem held_expireCut_self {v : RedisValue} {t : Option Nat} (h : s.held key = some ⟨v, t⟩) :
    (expireCut key ttl (s, n)).1.held key = if n = 0 then some ⟨v, t⟩ else s.lasting ttl v := by
  cases n with
  | zero => exact h
  | succ n =>
    have hself : (expireCut key ttl (s, n + 1)).1.held key = _ :=
      Expiring.Cache.held_expire_self
    rw [hself, if_neg (Nat.succ_ne_zero n)]
    rw [Store.held] at h
    rw [h]
    rfl

theorem held_expireCut_none (h : s.held key = none) :
    (expireCut key ttl (s, n)).1.held key = none := by
  cases n with
  | zero => exact h
  | succ n =>
    have hself : (expireCut key ttl (s, n + 1)).1.held key = _ :=
      Expiring.Cache.held_expire_self
    rw [Store.held] at h
    rw [hself, h]
    rfl

/-! ## `set` -/

/-- The stores and the answers that are left after a `set`. -/
def setCut (key value : String) (ttl : Nat) : Store × Nat → Store × Nat
  | (s, 0) => (s, 0)
  | (s, n + 1) => expireCut key ttl ({ s with cache := s.cache.set key (.str value) }, n)

theorem run_set_failing {value : String} (httl : 0 < ttl) :
    (CacheService.set key value (some ttl)).run (failing P) (s, n) =
      (.ok (), setCut key value ttl (s, n)) := by
  obtain ⟨t, rfl⟩ : ∃ t, ttl = t + 1 := ⟨ttl - 1, (Nat.sub_add_cancel httl).symm⟩
  match n with
  | 0 => rfl
  | 1 => rfl
  | n + 2 => rfl

theorem held_setCut_ne {value : String} (h : k ≠ key) :
    (setCut key value ttl (s, n)).1.held k = s.held k := by
  cases n with
  | zero => rfl
  | succ n => exact (held_expireCut_ne h).trans (Expiring.Cache.held_set_ne h)

theorem held_setCut_self {value : String} : (setCut key value ttl (s, n)).1.held key =
    if n = 0 then s.held key
    else if n = 1 then some ⟨.str value, none⟩ else s.lasting ttl (.str value) := by
  cases n with
  | zero => rfl
  | succ n =>
    have hset : ({ s with cache := s.cache.set key (.str value) } : Store).held key =
        some ⟨.str value, none⟩ := Expiring.Cache.held_set_self
    have hself : (setCut key value ttl (s, n + 1)).1.held key = _ := held_expireCut_self hset
    rw [hself, if_neg (Nat.succ_ne_zero n)]
    simp only [Nat.add_eq_right]
    rfl

theorem set_allOrNothing_iff {value : String} (httl : 0 < ttl) :
    (CacheCall.set key value ttl).AllOrNothing P s n ↔
      (CacheCall.set key value ttl).Uncut P s n := by
  have hafter : (CacheCall.set key value ttl).after P s n = (setCut key value ttl (s, n)).1 := by
    rw [after, prog, run_set_failing httl]
  have hothers : ∀ k, k ≠ key → ((CacheCall.set key value ttl).after P s n).held k = s.held k := by
    intro k hk
    rw [hafter, held_setCut_ne hk]
  rw [allOrNothing_of_key (fun k e => Iff.rfl) hothers, hafter, held_setCut_self, cut_iff]
  simp only [ne_lasting, or_false]
  rfl

/-! ## `setList` -/

/-- What is left after the `RPUSH` command and the one that follows it. -/
def rpushCut (key : String) (data : List String) (ttl : Nat) : Store × Nat → Store × Nat
  | (s, 0) => (s, 0)
  | (s, n + 1) =>
      expireCut key ttl ({ s with cache := s.cache.replace s.clock key (.list data) }, n)

/-- The store and the number of commands left after a `setList` that may be cut off. -/
def setListCut (key : String) (data : List String) (ttl : Nat) : Store × Nat → Store × Nat
  | (s, 0) => (s, 0)
  | (s, n + 1) =>
      if data = [] then expireCut key ttl ({ s with cache := s.cache.del key }, n)
      else rpushCut key data ttl ({ s with cache := s.cache.del key }, n)

theorem run_setList_failing {data : List String} (httl : 0 < ttl) :
    (CacheService.setList key data ttl).run (failing P) (s, n) =
      (.ok (), setListCut key data ttl (s, n)) := by
  have hget : (s.cache.del key).get s.clock key = none :=
    Expiring.Cache.get_of_entry_none (Expiring.Cache.entry_del_self ..) _
  have hrpush : exec P (.redis (.rpush key data)) { s with cache := s.cache.del key } =
      (.ok (), { s with cache := (s.cache.del key).replace s.clock key (.list data) }) := by
    simp only [exec, RedisCmd.exec, hget]
  have hdel : ∀ n, failing P (.redis (.del key)) (s, n + 1) =
      (.ok (), { s with cache := s.cache.del key }, n) := fun n => rfl
  have hpush : ∀ n, failing P (.redis (.rpush key data))
      ({ s with cache := s.cache.del key }, n + 1) =
      (.ok (), { s with cache := (s.cache.del key).replace s.clock key (.list data) }, n) := by
    intro n
    rw [failing, cutOff_succ rfl, hrpush]
  unfold CacheService.setList
  cases data with
  | nil =>
    simp only [List.length_nil, Nat.lt_irrefl, if_false, if_pos httl]
    rcases n with _ | _ | n <;> rfl
  | cons text data =>
    simp only [List.length_cons, Nat.zero_lt_succ, if_true, if_pos httl]
    rcases n with _ | _ | n
    · rfl
    · rfl
    · simp only [Prog.run_tryCatch, Prog.run_bind, Service.await, Prog.run_await, hdel, hpush]
      cases n <;> rfl

theorem held_setListCut_ne {data : List String} (h : k ≠ key) :
    (setListCut key data ttl (s, n)).1.held k = s.held k := by
  cases n with
  | zero => rfl
  | succ n =>
    have hdel : ({ s with cache := s.cache.del key } : Store).held k = s.held k :=
      Expiring.Cache.held_del_ne h
    rw [setListCut]
    split
    · exact (held_expireCut_ne h).trans hdel
    · cases n with
      | zero => exact hdel
      | succ n => exact (held_expireCut_ne h).trans ((Expiring.Cache.held_replace_ne h).trans hdel)

theorem held_setListCut_nil :
    (setListCut key [] ttl (s, n)).1.held key = if n = 0 then s.held key else none := by
  cases n with
  | zero => rfl
  | succ n =>
    have hdel : ({ s with cache := s.cache.del key } : Store).held key = none :=
      Expiring.Cache.held_del_self
    rw [setListCut, if_pos rfl, if_neg (Nat.succ_ne_zero n)]
    exact held_expireCut_none hdel

theorem held_setListCut_self {data : List String} (hdata : data ≠ []) :
    (setListCut key data ttl (s, n)).1.held key =
      if n = 0 then s.held key else if n = 1 then none
      else if n = 2 then some ⟨.list data, none⟩ else s.lasting ttl (.list data) := by
  have hdel : (s.cache.del key).held s.clock key = none := Expiring.Cache.held_del_self
  match n with
  | 0 => rfl
  | 1 =>
    rw [setListCut, if_neg hdata]
    exact hdel
  | n + 2 =>
    have hpush : ({ s with cache := (s.cache.del key).replace s.clock key (.list data) } :
        Store).held key = some ⟨.list data, none⟩ := by
      refine Expiring.Cache.held_replace_self.trans ?_
      rw [hdel]
      rfl
    rw [setListCut, if_neg hdata]
    refine (held_expireCut_self hpush).trans ?_
    simp only [Nat.add_eq_right, Nat.reduceEqDiff, if_false]
    rfl

theorem setList_allOrNothing_iff {data : List String} (httl : 0 < ttl) :
    (CacheCall.setList key data ttl).AllOrNothing P s n ↔
      (CacheCall.setList key data ttl).Uncut P s n := by
  have hafter : (CacheCall.setList key data ttl).after P s n =
      (setListCut key data ttl (s, n)).1 := by
    rw [after, prog, run_setList_failing httl]
  have hothers : ∀ k, k ≠ key →
      ((CacheCall.setList key data ttl).after P s n).held k = s.held k := by
    intro k hk
    rw [hafter, held_setListCut_ne hk]
  rw [allOrNothing_of_key (fun k e => Iff.rfl) hothers, hafter]
  by_cases hdata : data = []
  · subst hdata
    rw [held_setListCut_nil, if_pos rfl]
    have huncut : (CacheCall.setList key [] ttl).Uncut P s n := fun h => absurd rfl h
    refine ⟨fun _ => huncut, fun _ => ?_⟩
    by_cases hn : n = 0
    · exact .inl (if_pos hn)
    · exact .inr (if_neg hn)
  · rw [held_setListCut_self hdata, if_neg hdata]
    have huncut : (CacheCall.setList key data ttl).Uncut P s n ↔
        (n = 1 → s.held key = none) ∧ (n = 2 → s.held key = some ⟨.list data, none⟩) :=
      ⟨fun h => h hdata, fun h _ => h⟩
    rw [huncut, lasting_of_pos httl]
    match n with
    | 0 => simp
    | 1 => simp [eq_comm]
    | 2 => simp [eq_comm]
    | n + 3 => simp

/-! ## `hset` -/

/-- The command finds a hash or nothing. -/
def TakesField (s : Store) (key : String) : Prop :=
  s.held key = none ∨ ∃ fields expiresAt, s.held key = some ⟨.hash fields, expiresAt⟩

/-- The same after an `hset`. -/
def hsetCut (key field value : String) (ttl : Nat) : Store × Nat → Store × Nat
  | (s, 0) => (s, 0)
  | (s, n + 1) => expireCut key ttl ({ s with
      cache := s.cache.replace s.clock key (.hash (setField field value (s.fields key))) }, n)

theorem run_hset_failing {field value : String} (h : TakesField s key) :
    (CacheService.hset key field value ttl).run (failing P) (s, n) =
      (.ok (), hsetCut key field value ttl (s, n)) := by
  have hexec : exec P (.redis (.hset key field value)) s = (.ok (), { s with
      cache := s.cache.replace s.clock key (.hash (setField field value (s.fields key))) }) := by
    rcases h with hheld | ⟨fields, expiresAt, hheld⟩
    · have hget : s.cache.get s.clock key = none := by
        rw [Store.held] at hheld
        rw [Expiring.Cache.get_eq_held, hheld]
        rfl
      simp only [exec, RedisCmd.exec, hget, Store.fields, hheld, setField]
    · have hget : s.cache.get s.clock key = some (.hash fields) := by
        rw [Store.held] at hheld
        rw [Expiring.Cache.get_eq_held, hheld]
        rfl
      simp only [exec, RedisCmd.exec, hget, Store.fields, hheld]
  have hhset : ∀ n, failing P (.redis (.hset key field value)) (s, n + 1) = (.ok (), { s with
      cache := s.cache.replace s.clock key (.hash (setField field value (s.fields key))) }, n) := by
    intro n
    rw [failing, cutOff_succ rfl, hexec]
  unfold CacheService.hset
  cases n with
  | zero => rfl
  | succ n =>
    simp only [Prog.run_tryCatch, Prog.run_bind, Service.await, Prog.run_await, hhset]
    cases n <;> rfl

/-- A key of another kind is left alone. -/
theorem run_hset_wrongType {field value : String} (h : ¬TakesField s key) :
    ∃ m, (CacheService.hset key field value ttl).run (failing P) (s, n) = (.ok (), s, m) := by
  have hexec : exec P (.redis (.hset key field value)) s = (.error wrongType, s) := by
    cases hheld : s.held key with
    | none => exact absurd (.inl hheld) h
    | some e =>
      obtain ⟨v, t⟩ := e
      have hget : s.cache.get s.clock key = some v := by
        rw [Store.held] at hheld
        rw [Expiring.Cache.get_eq_held, hheld]
        rfl
      cases v with
      | str text => simp only [exec, RedisCmd.exec, hget]
      | list l => simp only [exec, RedisCmd.exec, hget]
      | hash fields => exact absurd (.inr ⟨fields, t, hheld⟩) h
  cases n with
  | zero => exact ⟨0, rfl⟩
  | succ n =>
    have hhset : failing P (.redis (.hset key field value)) (s, n + 1) =
        (.error wrongType, s, n) := by
      rw [failing, cutOff_succ rfl, hexec]
    refine ⟨n, ?_⟩
    unfold CacheService.hset
    simp only [Prog.run_tryCatch, Prog.run_bind, Service.await, Prog.run_await, hhset]
    rfl

/-- Setting a field changes a hash unless the field has the value. -/
theorem setField_eq_self {field value : String} {fields : List (String × String)} :
    setField field value fields = fields ↔ fields.lookup field = some value := by
  induction fields with
  | nil => simp [setField]
  | cons entry fields ih =>
    obtain ⟨name, old⟩ := entry
    rw [setField]
    by_cases hname : name = field
    · subst hname
      simp [eq_comm]
    · rw [if_neg hname, List.cons.injEq, List.lookup_cons, beq_false_of_ne (Ne.symm hname)]
      simpa using ih

theorem held_hsetCut_ne {field value : String} (h : k ≠ key) :
    (hsetCut key field value ttl (s, n)).1.held k = s.held k := by
  cases n with
  | zero => rfl
  | succ n => exact (held_expireCut_ne h).trans (Expiring.Cache.held_replace_ne h)

theorem held_hsetCut_self {field value : String} :
    (hsetCut key field value ttl (s, n)).1.held key =
      if n = 0 then s.held key
      else if n = 1 then some ⟨.hash (setField field value (s.fields key)),
        (s.held key).bind Expiring.Entry.expiresAt⟩
      else s.lasting ttl (.hash (setField field value (s.fields key))) := by
  cases n with
  | zero => rfl
  | succ n =>
    have hreplace : ({ s with
        cache := s.cache.replace s.clock key (.hash (setField field value (s.fields key))) } :
        Store).held key = _ := Expiring.Cache.held_replace_self
    rw [if_neg (Nat.succ_ne_zero n)]
    refine (held_expireCut_self hreplace).trans ?_
    simp only [Nat.add_eq_right]
    rfl

/-- What is left of a hash between the two commands is whole only by chance. -/
theorem fieldKept_iff {field value : String} (h : TakesField s key) :
    (s.held key = some ⟨.hash (setField field value (s.fields key)),
          (s.held key).bind Expiring.Entry.expiresAt⟩ ∨
        some ⟨.hash (setField field value (s.fields key)),
          (s.held key).bind Expiring.Entry.expiresAt⟩ =
          s.lasting ttl (.hash (setField field value (s.fields key)))) ↔
      FieldKept s.clock ttl field value (s.held key) := by
  rcases h with hheld | ⟨fields, expiresAt, hheld⟩
  · rw [hheld]
    simp only [FieldKept, iff_false, not_or]
    refine ⟨fun h => ?_, ne_lasting⟩
    cases h
  · have hfields : s.fields key = fields := by simp only [Store.fields, hheld]
    have hlive : (⟨RedisValue.hash fields, expiresAt⟩ : Expiring.Entry RedisValue).live s.clock =
        true := Expiring.Cache.live_of_held hheld
    rw [hheld, hfields, FieldKept, ← setField_eq_self, Option.bind_some, Store.lasting]
    simp only [Option.some.injEq, Expiring.Entry.mk.injEq, RedisValue.hash.injEq, and_true]
    refine or_congr eq_comm ?_
    by_cases httl : 0 < ttl
    · simp [httl]
    · simp only [httl, if_false, reduceCtorEq, false_iff]
      rintro rfl
      rw [Expiring.Entry.live_until, decide_eq_true_eq] at hlive
      omega

theorem hset_allOrNothing_iff {field value : String} :
    (CacheCall.hset key field value ttl).AllOrNothing P s n ↔
      (CacheCall.hset key field value ttl).Uncut P s n := by
  by_cases h : TakesField s key
  · have hafter : (CacheCall.hset key field value ttl).after P s n =
        (hsetCut key field value ttl (s, n)).1 := by
      rw [after, prog, run_hset_failing h]
    have hothers : ∀ k, k ≠ key →
        ((CacheCall.hset key field value ttl).after P s n).held k = s.held k := by
      intro k hk
      rw [hafter, held_hsetCut_ne hk]
    rw [allOrNothing_of_key (fun k e => Iff.rfl) hothers, hafter, held_hsetCut_self, cut_iff,
      fieldKept_iff h]
    rfl
  · have hafter : (CacheCall.hset key field value ttl).after P s n = s := by
      obtain ⟨m, hrun⟩ := run_hset_wrongType (P := P) (n := n) h
      rw [after, prog, hrun]
    have hkept : FieldKept s.clock ttl field value (s.held key) := by
      cases hheld : s.held key with
      | none => exact absurd (.inl hheld) h
      | some e =>
        obtain ⟨v, t⟩ := e
        cases v with
        | hash fields => exact absurd (.inr ⟨fields, t, hheld⟩) h
        | _ => trivial
    refine ⟨fun _ _ => hkept, fun _ k => .inl ?_⟩
    rw [hafter]

/-! ## Signing in and refreshing -/

open AuthService

/-- What the calls read before they write does not reach the client. -/
theorem run_getUserByEmail_failing (email : String) :
    (UserRepository.getUserByEmail P email).run (failing P) (s, n) =
      (if P.isEmail email = true then .ok (s.userByEmail email)
        else .error (.badRequest "This is not a valid email."), s, n) := by
  have hissues : (UserRepository.getUserByEmail P email).Issues fun c => c.isRedis = false :=
    getUserByEmail_issues rfl
  rw [hissues.run_cutOff, run_getUserByEmail]

theorem run_verify_failing (token : String) :
    (verify P token).run (failing P) (s, n) =
      (match P.jwt.verify s.clock token with
        | none => .error (.error "invalid token")
        | some claims => .ok claims.payload, s, n) := by
  have hissues : (verify P token).Issues fun c => c.isRedis = false :=
    verify_issues (Q := fun c => c.isRedis = false) rfl token
  rw [hissues.run_cutOff]
  exact congrArg (fun r => (r.1, r.2, n)) (run_verify P s token)

theorem run_sign_failing (payload : JwtPayload) (lifetime : Nat) :
    (sign P payload lifetime).run (failing P) (s, n) =
      (.ok (P.jwt.sign ⟨payload, s.clock, s.clock + lifetime⟩), s, n) := rfl

/-- A client that fails reads every key as a missing one. -/
theorem run_get_failing (key : String) : (CacheService.get key).run (failing P) (s, n) =
    (.ok (if n = 0 then none else CacheService.cached s key), s, n - 1) := by
  cases n with
  | zero => rfl
  | succ n =>
    have hget : failing P (.redis (.get key)) (s, n + 1) =
        ((exec P (.redis (.get key)) s).1, s, n) := rfl
    rw [if_neg (Nat.succ_ne_zero n), CacheService.get, CacheService.cached]
    simp only [Service.await, Prog.run_tryCatch, Prog.run_await, hget, exec, RedisCmd.exec]
    cases s.cache.get s.clock key with
    | none => rfl
    | some v => cases v <;> rfl

/-- The store of a user who is signing in, before the writes. -/
def enter (s : Store) (session : Nat) (user : User) : Store :=
  { s with sessions := Function.update s.sessions session (some { user with password := none }) }

theorem run_signIn_failing {dto : AuthCredentialsDto} {user : User}
    (h : MaySignIn P s dto user) (session : Nat) :
    ((AuthService.signIn P dto session).run (failing P) (s, n)).2 =
      setCut (refreshKey user.id (issuedToken P s (P.toLowerCase dto.email) user refreshTtl))
        "active" refreshTtl
        (setCut (sessionKey user.id (issuedToken P s (P.toLowerCase dto.email) user P.expiresIn))
          "active" sessionTtl (enter s session user, n)) := by
  have henter : failing P (.process (.setCurrentUser session { user with password := none }))
      (s, n) = (.ok (), enter s session user, n) := rfl
  have hsession : ∀ key x, (CacheService.set key "active" (some sessionTtl)).run (failing P) x =
      (.ok (), setCut key "active" sessionTtl x) := fun key x => run_set_failing (by decide)
  have hrefresh : ∀ key x, (CacheService.set key "active" (some refreshTtl)).run (failing P) x =
      (.ok (), setCut key "active" refreshTtl x) := fun key x => run_set_failing (by decide)
  unfold AuthService.signIn
  simp only [Prog.run_bind, run_getUserByEmail_failing, h.email, if_true, h.found,
    if_neg h.role, h.verified, h.password, Bool.not_true, Bool.false_eq_true, if_false,
    run_sign_failing, Service.await, Prog.run_await, henter, hsession, hrefresh, Prog.run_ret,
    Prog.pure_eq]
  rfl

theorem run_refresh_failing {token : String} {user : User} (h : Names P s token user)
    (hactive : Active s user token) (hn : n ≠ 0) :
    ((AuthService.refreshAccessToken P token).run (failing P) (s, n)).2 =
      setCut (sessionKey user.id (refreshedToken P s user)) "active" sessionTtl (s, n - 1) := by
  obtain ⟨claims, hv, hemail, hu⟩ := h
  have hget : CacheService.cached s (refreshKey user.id token) = some "active" :=
    CacheService.cached_eq_some.mpr hactive
  have hsession : ∀ key x, (CacheService.set key "active" (some sessionTtl)).run (failing P) x =
      (.ok (), setCut key "active" sessionTtl x) := fun key x => run_set_failing (by decide)
  unfold AuthService.refreshAccessToken
  simp only [Prog.run_bind, Prog.run_tryCatch, run_verify_failing, hv,
    run_getUserByEmail_failing, hemail, hu, if_true, run_get_failing, if_neg hn, hget, ne_eq,
    not_true_eq_false, if_false, run_sign_failing, hsession, Prog.run_ret, Prog.pure_eq]
  rfl

@[simp] theorem setCut_clock {value : String} (x : Store × Nat) :
    (setCut key value ttl x).1.clock = x.1.clock := by
  obtain ⟨s, n⟩ := x
  match n with
  | 0 => rfl
  | 1 => rfl
  | n + 2 => rfl

@[simp] theorem setCut_left {value : String} (x : Store × Nat) :
    (setCut key value ttl x).2 = x.2 - 2 := by
  obtain ⟨s, n⟩ := x
  match n with
  | 0 => rfl
  | 1 => rfl
  | n + 2 => rfl

/-- A `set` of a part of a call, by what it finds. -/
theorem held_setCut {value : String} (x : Store × Nat) :
    (setCut key value ttl x).1.held key =
      if x.2 = 0 then x.1.held key
      else if x.2 = 1 then some ⟨.str value, none⟩ else x.1.lasting ttl (.str value) :=
  held_setCut_self

theorem allOrNothing_of_after (h : call.after P s n = s) : call.AllOrNothing P s n := by
  intro k
  rw [h]
  exact .inl rfl

/-! ### `signIn` -/

theorem signIn_not_complete {dto : AuthCredentialsDto} {session : Nat} {v : RedisValue} :
    ¬(CacheCall.signIn dto session).Complete P s k (some ⟨v, none⟩) := by
  rintro ⟨user, -, ⟨-, h⟩ | ⟨-, h⟩⟩
  · exact ne_lasting h
  · exact ne_lasting h

/-- Two keys written one after the other. -/
theorem held_twoCuts {key' value : String} {ttl' : Nat} (h : key ≠ key') :
    (setCut key' value ttl' (setCut key value ttl (s, n))).1.held k =
      if k = key then
        if n = 0 then s.held key
        else if n = 1 then some ⟨.str value, none⟩ else s.lasting ttl (.str value)
      else if k = key' then
        if n ≤ 2 then s.held key'
        else if n = 3 then some ⟨.str value, none⟩ else s.lasting ttl' (.str value)
      else s.held k := by
  by_cases hkey : k = key
  · subst hkey
    rw [if_pos rfl, held_setCut_ne h, held_setCut_self]
  · rw [if_neg hkey]
    by_cases hkey' : k = key'
    · subst hkey'
      have hlasting : (setCut key value ttl (s, n)).1.lasting ttl' (.str value) =
          s.lasting ttl' (.str value) := by
        rw [Store.lasting, setCut_clock, Store.lasting]
      rw [if_pos rfl, held_setCut, setCut_left, hlasting, held_setCut_ne hkey]
      have hzero : n - 2 = 0 ↔ n ≤ 2 := by omega
      have hone : n - 2 = 1 ↔ n = 3 := by omega
      simp only [hzero, hone]
    · rw [if_neg hkey', held_setCut_ne hkey', held_setCut_ne hkey]

theorem after_signIn {dto : AuthCredentialsDto} {user : User} (h : MaySignIn P s dto user)
    (session : Nat) :
    (CacheCall.signIn dto session).after P s n =
      (setCut (refreshKey user.id (issuedToken P s (P.toLowerCase dto.email) user refreshTtl))
        "active" refreshTtl
        (setCut (sessionKey user.id (issuedToken P s (P.toLowerCase dto.email) user P.expiresIn))
          "active" sessionTtl (enter s session user, n))).1 := by
  rw [after, prog, Service.run_dropResult, run_signIn_failing h]

theorem after_signIn_refused {dto : AuthCredentialsDto} (h : ∀ user, ¬MaySignIn P s dto user)
    (session : Nat) : (CacheCall.signIn dto session).after P s n = s := by
  obtain ⟨e, hrun⟩ := run_signIn_refused_of (x := (s, n))
    (fun email => run_getUserByEmail_failing email) h session
  rw [after, prog, Service.run_dropResult, hrun]

theorem uncut_signIn {dto : AuthCredentialsDto} {user : User} (h : MaySignIn P s dto user)
    (session : Nat) :
    (CacheCall.signIn dto session).Uncut P s n ↔
      (n = 1 → s.held (sessionKey user.id (issuedToken P s (P.toLowerCase dto.email) user
        P.expiresIn)) = some ⟨.str "active", none⟩) ∧
      (n = 3 → s.held (refreshKey user.id (issuedToken P s (P.toLowerCase dto.email) user
        refreshTtl)) = some ⟨.str "active", none⟩) := by
  refine ⟨fun huncut => huncut user h, fun hboth user' h' => ?_⟩
  obtain rfl : user = user' := Option.some.inj (h.found.symm.trans h'.found)
  exact hboth

theorem signIn_allOrNothing_iff (dto : AuthCredentialsDto) (session : Nat) :
    (CacheCall.signIn dto session).AllOrNothing P s n ↔
      (CacheCall.signIn dto session).Uncut P s n := by
  by_cases h : ∃ user, MaySignIn P s dto user
  · obtain ⟨user, h⟩ := h
    have hafter := after_signIn (n := n) h session
    rw [uncut_signIn h]
    obtain ⟨access, haccess⟩ : ∃ access, access = sessionKey user.id
      (issuedToken P s (P.toLowerCase dto.email) user P.expiresIn) := ⟨_, rfl⟩
    obtain ⟨refresh, hrefresh⟩ : ∃ refresh, refresh = refreshKey user.id
      (issuedToken P s (P.toLowerCase dto.email) user refreshTtl) := ⟨_, rfl⟩
    have hne : access ≠ refresh := by
      rw [haccess, hrefresh]
      exact (refreshKey_ne_sessionKey _ _ _ _).symm
    rw [← haccess, ← hrefresh] at hafter ⊢
    constructor
    · intro hall
      constructor
      · intro hn
        subst hn
        have hkey := hall access
        rw [hafter, held_twoCuts hne, if_pos rfl, if_neg Nat.one_ne_zero, if_pos rfl] at hkey
        exact (hkey.resolve_right signIn_not_complete).symm
      · intro hn
        subst hn
        have hkey := hall refresh
        rw [hafter, held_twoCuts hne, if_neg hne.symm, if_pos rfl, if_neg (by decide),
          if_pos rfl] at hkey
        exact (hkey.resolve_right signIn_not_complete).symm
    · intro ⟨hone, hthree⟩ k
      rw [hafter, held_twoCuts hne]
      by_cases hk : k = access
      · rw [if_pos hk, hk]
        by_cases hzero : n = 0
        · exact .inl (if_pos hzero)
        · rw [if_neg hzero]
          by_cases hn : n = 1
          · exact .inl ((if_pos hn).trans (hone hn).symm)
          · exact .inr ⟨user, h, .inl ⟨haccess, if_neg hn⟩⟩
      · rw [if_neg hk]
        by_cases hk' : k = refresh
        · rw [if_pos hk', hk']
          by_cases htwo : n ≤ 2
          · exact .inl (if_pos htwo)
          · rw [if_neg htwo]
            by_cases hn : n = 3
            · exact .inl ((if_pos hn).trans (hthree hn).symm)
            · exact .inr ⟨user, h, .inr ⟨hrefresh, if_neg hn⟩⟩
        · exact .inl (if_neg hk')
  · have hno : ∀ user, ¬MaySignIn P s dto user := fun user hu => h ⟨user, hu⟩
    have hafter := after_signIn_refused (n := n) hno session
    exact ⟨fun _ user hu => absurd hu (hno user), fun _ => allOrNothing_of_after hafter⟩

/-! ### `refreshAccessToken` -/

theorem refresh_not_complete {token : String} {v : RedisValue} :
    ¬(CacheCall.refreshAccessToken token).Complete P s k (some ⟨v, none⟩) := by
  rintro ⟨user, -, -, -, h⟩
  exact ne_lasting h

/-- A refresh reads one key before it writes. -/
theorem after_refresh {token : String} {user : User} (h : Names P s token user)
    (hactive : Active s user token) :
    (CacheCall.refreshAccessToken token).after P s n =
      (setCut (sessionKey user.id (refreshedToken P s user)) "active" sessionTtl (s, n - 1)).1 := by
  rw [after, prog, Service.run_dropResult]
  by_cases hn : n = 0
  · subst hn
    obtain ⟨e, hrun⟩ := run_refresh_refused_of (x := (s, 0)) (run_verify_failing token)
      (fun email => run_getUserByEmail_failing email) (fun key => run_get_failing key)
      (fun _ _ => by simp)
    rcases hrun with hrun | hrun <;> rw [hrun] <;> rfl
  · rw [run_refresh_failing h hactive hn]

theorem after_refresh_refused {token : String}
    (h : ∀ user, Names P s token user → ¬Active s user token) :
    (CacheCall.refreshAccessToken token).after P s n = s := by
  have hinactive : ∀ user, Names P s token user →
      (if n = 0 then none else CacheService.cached s (refreshKey user.id token)) ≠
        some "active" := by
    intro user hnames hget
    split at hget
    · cases hget
    · exact h user hnames (CacheService.cached_eq_some.mp hget)
  obtain ⟨e, hrun⟩ := run_refresh_refused_of (x := (s, n)) (run_verify_failing token)
    (fun email => run_getUserByEmail_failing email) (fun key => run_get_failing key) hinactive
  rw [after, prog, Service.run_dropResult]
  rcases hrun with hrun | hrun <;> rw [hrun]

theorem refresh_allOrNothing_iff (token : String) :
    (CacheCall.refreshAccessToken token).AllOrNothing P s n ↔
      (CacheCall.refreshAccessToken token).Uncut P s n := by
  by_cases h : ∃ user, Names P s token user ∧ Active s user token
  · obtain ⟨user, h, hactive⟩ := h
    have hafter := after_refresh (n := n) h hactive
    have huncut : (CacheCall.refreshAccessToken token).Uncut P s n ↔
        (n = 2 → s.held (sessionKey user.id (refreshedToken P s user)) =
          some ⟨.str "active", none⟩) := by
      refine ⟨fun huncut => huncut user h hactive, fun htwo user' h' _ => ?_⟩
      obtain rfl := names_unique h h'
      exact htwo
    rw [huncut]
    constructor
    · intro hall hn
      subst hn
      have hcut : (setCut (sessionKey user.id (refreshedToken P s user)) "active" sessionTtl
          (s, 1)).1.held (sessionKey user.id (refreshedToken P s user)) =
            some ⟨.str "active", none⟩ := held_setCut_self
      have hkey := hall (sessionKey user.id (refreshedToken P s user))
      rw [hafter, hcut] at hkey
      exact (hkey.resolve_right refresh_not_complete).symm
    · intro htwo k
      rw [hafter]
      by_cases hk : k = sessionKey user.id (refreshedToken P s user)
      · rw [hk, held_setCut]
        by_cases hone : n - 1 = 0
        · exact .inl (if_pos hone)
        · rw [if_neg hone]
          by_cases hn : n - 1 = 1
          · exact .inl ((if_pos hn).trans (htwo (by omega)).symm)
          · exact .inr ⟨user, h, hactive, rfl, if_neg hn⟩
      · exact .inl (held_setCut_ne hk)
  · have hafter := after_refresh_refused (n := n) fun user hu ha => h ⟨user, hu, ha⟩
    exact ⟨fun _ user hu ha => absurd ⟨user, hu, ha⟩ h, fun _ => allOrNothing_of_after hafter⟩

/-! ## All calls -/

/-- The cache is all or nothing exactly if no call is cut between its commands. -/
theorem allOrNothing_iff (P : Platform) (s : Store) (n : Nat) (call : CacheCall)
    (h : call.HasTtl) : call.AllOrNothing P s n ↔ call.Uncut P s n := by
  cases call with
  | set key value ttl => exact set_allOrNothing_iff h
  | setList key data ttl => exact setList_allOrNothing_iff h
  | hset key field value ttl => exact hset_allOrNothing_iff
  | signIn dto session => exact signIn_allOrNothing_iff dto session
  | refreshAccessToken token => exact refresh_allOrNothing_iff token

/-- A key that is set for a minute by a client that goes on. -/
theorem allOrNothing_iff_minute :
    (CacheCall.set "session:1" "active" 60).HasTtl ∧
      ((CacheCall.set "session:1" "active" 60).AllOrNothing Platform.plain Store.empty 2 ↔
        (CacheCall.set "session:1" "active" 60).Uncut Platform.plain Store.empty 2) :=
  ⟨Nat.succ_pos 59, allOrNothing_iff Platform.plain Store.empty 2 _ (Nat.succ_pos 59)⟩

/-- A client that fails before `EXPIRE` leaves a session that does not end. -/
theorem not_allOrNothing_session : ∃ (P : Platform) (s : Store) (n : Nat) (call : CacheCall),
    call.HasTtl ∧ ¬call.AllOrNothing P s n := by
  refine ⟨Platform.plain, Store.empty, 1, .set "session:1" "active" 86400,
    Nat.succ_pos _, ?_⟩
  rw [set_allOrNothing_iff (Nat.succ_pos _)]
  intro h
  cases h rfl

end CacheCall

end VoltFleet
