import VoltFleet.Cache.CacheService
import VoltFleet.PlainPlatform

/-!
# Lists that are written side by side

A call of `setList` is a `DEL`, an `RPUSH` and an `EXPIRE`, sent one after the other.
The calls on one key leave the list of one of them in the runs in which no `RPUSH`
appends to what is there already after the last `DEL`.
-/

namespace VoltFleet

open Awaiting

/-- The call is about to delete the key. -/
def Deletes (key : String) (p : Service Unit) : Prop := ∃ k, p = .call (.redis (.del key)) k

/-- The call is about to append these values to the list. -/
def Appends (key : String) (data : List String) (p : Service Unit) : Prop :=
  ∃ k, p = .call (.redis (.rpush key data)) k

namespace CacheService

/-- What is left of a call after its `DEL`. -/
def appendRest (key : String) (data : List String) (ttl : Nat) : Service Unit := do
  try
    if 0 < data.length then
      Service.await (.redis (.rpush key data))
    if 0 < ttl then
      Service.await (.redis (.expire key ttl))
  catch _ => pure ()

/-- What is left of a call after its `RPUSH`. -/
def expireRest (key : String) (ttl : Nat) : Service Unit := do
  try
    if 0 < ttl then
      Service.await (.redis (.expire key ttl))
  catch _ => pure ()

variable {key : String} {data : List String} {ttl : Nat}

variable (key data ttl) in
theorem setList_eq : ∃ k, setList key data ttl = .call (.redis (.del key)) k ∧
    k (.ok ()) = appendRest key data ttl ∧ ∀ e, k (.error e) = .ret () :=
  ⟨_, rfl, rfl, fun _ => rfl⟩

variable (key ttl) in
theorem appendRest_eq (h : data ≠ []) :
    ∃ k, appendRest key data ttl = .call (.redis (.rpush key data)) k ∧
      k (.ok ()) = expireRest key ttl ∧ ∀ e, k (.error e) = .ret () := by
  have hlength : 0 < data.length := List.length_pos_iff.mpr h
  simp only [appendRest, if_pos hlength]
  exact ⟨_, rfl, rfl, fun _ => rfl⟩

variable (key) in
theorem expireRest_eq (h : 0 < ttl) :
    ∃ k, expireRest key ttl = .call (.redis (.expire key ttl)) k ∧ ∀ r, k r = .ret () := by
  simp only [expireRest, if_pos h]
  refine ⟨_, rfl, ?_⟩
  intro r
  cases r <;> rfl

/-- How far a call has come. -/
inductive Reached (key : String) (data : List String) (ttl : Nat) : Service Unit → Prop
  | fresh : Reached key data ttl (setList key data ttl)
  | deleted : data ≠ [] → Reached key data ttl (appendRest key data ttl)
  | written : Reached key data ttl (expireRest key ttl)
  | done : Reached key data ttl (.ret ())

theorem reached_appendRest : Reached key data ttl (appendRest key data ttl) := by
  by_cases h : data = []
  · subst h
    exact .written
  · exact .deleted h

/-- The command a call awaits, and how it goes on. -/
theorem Reached.call_cases {motive : (c : Cmd) → (Except Thrown c.Answer → Service Unit) → Prop}
    {c : Cmd} {k : Except Thrown c.Answer → Service Unit} (h : Reached key data ttl (.call c k))
    (del : ∀ k, k (.ok ()) = appendRest key data ttl → motive (.redis (.del key)) k)
    (rpush : ∀ k, data ≠ [] → (∀ r, Reached key data ttl (k r)) →
      motive (.redis (.rpush key data)) k)
    (expire : ∀ k, 0 < ttl → (∀ r, k r = .ret ()) → motive (.redis (.expire key ttl)) k) :
    motive c k := by
  generalize hp : (Prog.call c k : Service Unit) = p at h
  cases h with
  | fresh =>
    obtain ⟨k', hcall, hok, -⟩ := setList_eq key data ttl
    rw [hcall] at hp
    cases hp
    exact del k' hok
  | deleted hne =>
    obtain ⟨k', hcall, hok, herror⟩ := appendRest_eq key ttl hne
    rw [hcall] at hp
    cases hp
    refine rpush k' hne ?_
    intro r
    cases r with
    | ok u => rw [hok]; exact .written
    | error e => rw [herror]; exact .done
  | written =>
    rcases Nat.eq_zero_or_pos ttl with rfl | hpos
    · cases hp
    · obtain ⟨k', hcall, hret⟩ := expireRest_eq key hpos
      rw [hcall] at hp
      cases hp
      exact expire k' hpos hret
  | done => cases hp

end CacheService

/-! ## Runs of several calls -/

/-- What a key can be read as. -/
def Store.read (s : Store) (key : String) : Option RedisValue := s.cache.get s.clock key

section

variable {P : Platform} {s : Store} {key : String} {data : List String} {ttl : Nat}

theorem read_del : (exec P (.redis (.del key)) s).2.read key = none := by
  show (s.cache.del key).get s.clock key = none
  rw [Expiring.Cache.get_eq_held, Expiring.Cache.held_del_self]
  rfl

theorem read_rpush (h : s.read key = none) :
    (exec P (.redis (.rpush key data)) s).2.read key = some (.list data) := by
  have hexec : (exec P (.redis (.rpush key data)) s).2 =
      { s with cache := s.cache.replace s.clock key (.list data) } := by
    rw [Store.read] at h
    simp only [exec, RedisCmd.exec, h]
  rw [hexec]
  show (s.cache.replace s.clock key (.list data)).get s.clock key = some (.list data)
  rw [Expiring.Cache.get_eq_held, Expiring.Cache.held_replace_self]
  rfl

theorem read_expire (h : 0 < ttl) :
    (exec P (.redis (.expire key ttl)) s).2.read key = s.read key := by
  show (s.cache.expire s.clock key ttl).get s.clock key = s.cache.get s.clock key
  rw [Expiring.Cache.get_eq_held, Expiring.Cache.get_eq_held, Expiring.Cache.held_expire_self]
  cases s.cache.held s.clock key with
  | none => rfl
  | some e => simp [h]

/-- What `getList` makes of it. -/
def listOf : Option RedisValue → Option (List String)
  | none => some []
  | some (.list l) => some l
  | some _ => none

theorem run_getList :
    ((CacheService.getList key).run (exec P) s).1 = .ok (listOf (s.read key)) := by
  have hexec : exec P (.redis (.lrange key)) s = (RedisCmd.exec s (.lrange key)) := rfl
  simp only [CacheService.getList, Service.await, Prog.run_tryCatch, Prog.run_bind,
    Prog.run_await, hexec, RedisCmd.exec, Store.read]
  cases s.cache.get s.clock key with
  | none => rfl
  | some v => cases v <;> rfl

end

namespace ListWrites

variable {ι : Type} [DecidableEq ι] {P : Platform} {s : Store} {key : String}
  {data : ι → List String} {ttl : ι → Nat}

/-- Calls of `setList` on one key, about to start. -/
def started (s : Store) (key : String) (data : ι → List String) (ttl : ι → Nat) :
    Serving ι Unit :=
  Config.start s fun i => CacheService.setList key (data i) (ttl i)

/-- One of the calls completes a command; if it is an `RPUSH`, it finds nothing to append
to, or some call has its `DEL` ahead. -/
def Unmixed (key : String) (cfg : Serving ι Unit) : Move ι Nat → Prop
  | .step i => (∃ l, Appends key l (cfg.threads i)) →
      cfg.store.read key = none ∨ ∃ j, Deletes key (cfg.threads j)
  | _ => False

/-- What is in the list once the last `DEL` has taken place. -/
def OfOne (key : String) (data : ι → List String) (cfg : Serving ι Unit) : Prop :=
  (∃ i, Deletes key (cfg.threads i)) ∨
    (cfg.store.read key = none ∧ ∃ i, data i = [] ∨ Appends key (data i) (cfg.threads i)) ∨
    ∃ i, cfg.store.read key = some (.list (data i))

/-- Every call is at one of its points, and what has been written is from one of them. -/
structure Inv (key : String) (data : ι → List String) (ttl : ι → Nat) (cfg : Serving ι Unit) :
    Prop where
  reached : ∀ i, CacheService.Reached key (data i) (ttl i) (cfg.threads i)
  content : OfOne key data cfg

/-- A call that awaits its `DEL` still does after another call's move. -/
theorem deletes_deliver {cfg : Serving ι Unit} {j : ι} {c : Cmd}
    {k : Except Thrown c.Answer → Service Unit} (hj : cfg.threads j = .call c k)
    (hc : c ≠ .redis (.del key)) (h : ∃ i, Deletes key (cfg.threads i))
    (r : Except Thrown c.Answer) (s' : Store) :
    ∃ i, Deletes key ((cfg.deliver j c k r s').threads i) := by
  obtain ⟨i, k', hi⟩ := h
  have hne : i ≠ j := by
    rintro rfl
    rw [hj] at hi
    cases hi
    exact hc rfl
  refine ⟨i, k', ?_⟩
  rw [Config.deliver_threads_ne cfg hne]
  exact hi

theorem reached_deliver {cfg : Serving ι Unit} (h : Inv key data ttl cfg) {j : ι} {c : Cmd}
    {k : Except Thrown c.Answer → Service Unit} (r : Except Thrown c.Answer) (s' : Store)
    (hnext : CacheService.Reached key (data j) (ttl j) (k r)) (i : ι) :
    CacheService.Reached key (data i) (ttl i) ((cfg.deliver j c k r s').threads i) :=
  Config.threads_deliver (T := fun i p => CacheService.Reached key (data i) (ttl i) p) hnext
    (fun i _ => h.reached i) i

theorem inv_move {cfg : Serving ι Unit} {m : Move ι Nat} (h : Inv key data ttl cfg)
    (hm : Unmixed key cfg m) : Inv key data ttl (cfg.move (system P) m) := by
  refine Config.move_cases (motive := Inv key data ttl) cfg m h ?stepped ?faulted ?outside
  case faulted =>
    rintro i c k e rfl
    exact hm.elim
  case outside =>
    rintro x rfl
    exact hm.elim
  case stepped =>
    rintro j c k rfl hj
    have hreached := h.reached j
    rw [hj] at hreached
    revert hj
    refine hreached.call_cases (motive := fun c k => cfg.threads j = .call c k →
      Inv key data ttl (cfg.deliver j c k (exec P c cfg.store).1 (exec P c cfg.store).2))
      ?del ?rpush ?expire
    case del =>
      intro k hk hj
      have hnext : k (exec P (.redis (.del key)) cfg.store).1 =
        CacheService.appendRest key (data j) (ttl j) := hk
      constructor
      · refine reached_deliver h _ _ ?_
        rw [hnext]
        exact CacheService.reached_appendRest
      · refine .inr (.inl ⟨read_del (P := P), j, ?_⟩)
        rw [Config.deliver_threads_self, hnext]
        by_cases hdata : data j = []
        · exact .inl hdata
        · obtain ⟨k', hcall, -⟩ := CacheService.appendRest_eq key (ttl j) hdata
          exact .inr ⟨k', hcall⟩
    case rpush =>
      intro k hdata hk hj
      have hne : (Cmd.redis (.rpush key (data j))) ≠ .redis (.del key) := by
        intro h
        cases h
      constructor
      · exact reached_deliver h _ _ (hk _)
      · rcases hm ⟨data j, k, hj⟩ with hnone | hdeletes
        · exact .inr (.inr ⟨j, read_rpush (P := P) hnone⟩)
        · exact .inl (deletes_deliver hj hne hdeletes _ _)
    case expire =>
      intro k hpos hk hj
      have hne : (Cmd.redis (.expire key (ttl j))) ≠ .redis (.del key) := by
        intro h
        cases h
      constructor
      · refine reached_deliver h _ _ ?_
        rw [hk]
        exact .done
      · rcases h.content with hdeletes | ⟨hnone, i, hi⟩ | ⟨i, hi⟩
        · exact .inl (deletes_deliver hj hne hdeletes _ _)
        · refine .inr (.inl ⟨(read_expire (P := P) hpos).trans hnone, i, ?_⟩)
          refine hi.imp_right ?_
          rintro ⟨k', hcall⟩
          have hne : i ≠ j := by
            rintro rfl
            rw [hj] at hcall
            cases hcall
          exact ⟨k', (Config.deliver_threads_ne cfg hne _ _ _ _).trans hcall⟩
        · exact .inr (.inr ⟨i, (read_expire (P := P) hpos).trans hi⟩)

omit [DecidableEq ι] in
theorem inv_started [Nonempty ι] : Inv key data ttl (started s key data ttl) := by
  constructor
  · intro i
    exact .fresh
  · obtain ⟨i⟩ := ‹Nonempty ι›
    obtain ⟨k, hcall, -⟩ :=
      CacheService.setList_eq key (data i) (ttl i)
    exact .inl ⟨i, k, hcall⟩

/-- Calls of `setList` on one key leave the list of one of them, if no `RPUSH` finds a list
once all of them have sent their `DEL`. -/
theorem getList_of_unmixed [Nonempty ι] (P : Platform) (s : Store) (key : String)
    (data : ι → List String) (ttl : ι → Nat) (ms : List (Move ι Nat))
    (hunmixed : Config.Along (system P) (Unmixed key) (started s key data ttl) ms)
    (hdone : ∀ i, ((started s key data ttl).exec (system P) ms).threads i = .ret ()) :
    ∃ i, ((CacheService.getList key).run (exec P)
      ((started s key data ttl).exec (system P) ms).store).1 = .ok (some (data i)) := by
  have hinv : Inv key data ttl ((started s key data ttl).exec (system P) ms) :=
    Config.exec_inv (fun _ _ => inv_move) inv_started hunmixed
  rw [run_getList]
  rcases hinv.content with ⟨i, k, hi⟩ | ⟨hnone, i, hi⟩ | ⟨i, hi⟩
  · rw [hdone i] at hi
    cases hi
  · rcases hi with hdata | ⟨k, hcall⟩
    · refine ⟨i, ?_⟩
      rw [hnone, hdata]
      rfl
    · rw [hdone i] at hcall
      cases hcall
  · refine ⟨i, ?_⟩
    rw [hi]
    rfl

/-- One call writes an element, the other none. -/
def oneAndNone (i : Bool) : List String := if i then [] else ["a"]

/-- A call with one value and a call with none. -/
theorem getList_of_unmixed_in_order :
    ∃ i, ((CacheService.getList "ids").run (exec .plain)
      ((started .empty "ids" oneAndNone fun _ => 60).exec
        (system .plain) [.step false, .step false, .step true, .step true, .step false]).store).1 =
      .ok (some (oneAndNone i)) := by
  refine getList_of_unmixed .plain .empty "ids" oneAndNone (fun _ => 60)
    [.step false, .step false, .step true, .step true, .step false] ?_ ?_
  · refine ⟨fun _ => .inl rfl, fun _ => .inl rfl, fun _ => .inr ⟨true, _, rfl⟩, ?_, ?_, trivial⟩
    · intro _
      exact .inl (by decide +kernel)
    · intro _
      exact .inl (by decide +kernel)
  · intro i
    cases i <;> rfl

/-- Each call writes an element of its own. -/
def oneEach (i : Bool) : List String := if i then ["b"] else ["a"]

/-- Both calls delete the key before either appends: the list is a mixture. -/
theorem not_of_one_appended_twice :
    (∀ i, ((started .empty "ids" oneEach fun _ => 60).exec
        (system .plain) [.step false, .step true, .step false, .step true, .step false,
          .step true]).threads i = .ret ()) ∧
      ¬∃ i : Bool, ((CacheService.getList "ids").run (exec .plain)
        ((started .empty "ids" oneEach fun _ => 60).exec
          (system .plain) [.step false, .step true, .step false, .step true, .step false,
            .step true]).store).1 = .ok (some (oneEach i)) := by
  constructor
  · intro i
    cases i <;> rfl
  · have hlist : ((CacheService.getList "ids").run (exec .plain)
        ((started .empty "ids" oneEach fun _ => 60).exec
          (system .plain) [.step false, .step true, .step false, .step true, .step false,
            .step true]).store).1 = .ok (some ["a", "b"]) := by decide +kernel
    rw [hlist]
    decide

end ListWrites

end VoltFleet
