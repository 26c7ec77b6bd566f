import VoltFleet.Auth.Proofs.Accounts
import VoltFleet.Cache.ListMethods
import VoltFleet.Cache.Proofs.Mixtures
import VoltFleet.Misc.Fifo
import VoltFleet.Misc.Notes
import VoltFleet.PlainPlatform
import VoltFleet.Proofs.TablesOnly

/-!
# Lists as queues

`lpush` and `rpop` make a queue of a list.  In every run of calls that leave the key
otherwise alone, what is popped comes out in the order in which it has been pushed, and
every element once.
-/

namespace VoltFleet

open Awaiting

/-! ## Which key a command may write -/

/-- The key a command writes. -/
def RedisCmd.touches : RedisCmd → Option String
  | .get _ => none
  | .lrange _ => none
  | .set key _ => some key
  | .expire key _ => some key
  | .del key => some key
  | .rpush key _ => some key
  | .hset key .. => some key

/-- The key a command writes. -/
def ListCmd.touches : ListCmd → Option String
  | .lpush key _ => some key
  | .rpop key => some key
  | .ltrim key .. => some key
  | .incr key => some key
  | .expire key _ => some key
  | .llen _ => none
  | .lrange .. => none
  | .hget .. => none

/-- The key a command writes. -/
def CacheCmd.touches : CacheCmd → Option String
  | .inl (.redis c) => c.touches
  | .inl _ => none
  | .inr c => c.touches

/-- The command does not write the key. -/
def CacheCmd.Spares (key : String) (c : CacheCmd) : Prop := c.touches ≠ some key

/-- The key that a call may write. -/
def CacheMethodCall.touches (call : CacheMethodCall) : Option String :=
  if call.reads then none else some call.key

section

variable {P : Platform} {s : Store} {key : String}

theorem entry_replace_ne {m : Expiring.Cache String RedisValue} {k k' : String} (h : k' ≠ k)
    (now : Nat) (v : RedisValue) : (m.replace now k v).entry k' = m.entry k' := by
  simp [Expiring.Cache.replace, h]

theorem redis_spares {c : RedisCmd} (h : c.touches ≠ some key) :
    (c.exec s).2.cache.entry key = s.cache.entry key := by
  cases c with
  | get k => rfl
  | lrange k => rfl
  | set k value => exact Expiring.Cache.entry_set_ne _ (fun he => h (congrArg some he.symm)) _
  | expire k ttl =>
    exact Expiring.Cache.entry_expire_ne _ _ (fun he => h (congrArg some he.symm)) _
  | del k => exact Expiring.Cache.entry_del_ne _ fun he => h (congrArg some he.symm)
  | rpush k data =>
    have hne : key ≠ k := fun he => h (congrArg some he.symm)
    rw [RedisCmd.exec]
    split
    · exact entry_replace_ne hne _ _
    · exact entry_replace_ne hne _ _
    · rfl
  | hset k field value =>
    have hne : key ≠ k := fun he => h (congrArg some he.symm)
    rw [RedisCmd.exec]
    split
    · exact entry_replace_ne hne _ _
    · exact entry_replace_ne hne _ _
    · rfl

theorem entry_putList_ne {k : String} (h : key ≠ k) (l : List String) :
    (s.putList k l).cache.entry key = s.cache.entry key := by
  unfold Store.putList
  split
  · exact Expiring.Cache.entry_del_ne _ h
  · exact entry_replace_ne h _ _

theorem entry_onList_ne {α : Type} {k : String} (h : key ≠ k)
    (f : List String → α × List String) :
    (s.onList k f).2.cache.entry key = s.cache.entry key := by
  unfold Store.onList
  split
  · rfl
  · dsimp only
    split
    · rfl
    · exact entry_putList_ne h _
  · exact entry_putList_ne h _

theorem list_spares {c : ListCmd} (h : c.touches ≠ some key) :
    (c.exec s).2.cache.entry key = s.cache.entry key := by
  cases c with
  | lpush k data =>
    rw [ListCmd.exec]
    split
    · rfl
    · exact entry_onList_ne (fun he => h (congrArg some he.symm)) _
  | rpop k => exact entry_onList_ne (fun he => h (congrArg some he.symm)) _
  | ltrim k start stop => exact entry_onList_ne (fun he => h (congrArg some he.symm)) _
  | llen k => rfl
  | lrange k start stop => rfl
  | hget k field => rfl
  | expire k duration => exact redis_spares (c := .expire k duration) h
  | incr k =>
    have hne : key ≠ k := fun he => h (congrArg some he.symm)
    rw [ListCmd.exec]
    split
    · exact entry_replace_ne hne _ _
    · split
      · rfl
      · split
        · rfl
        · exact entry_replace_ne hne _ _
    · rfl

/-- A command that does not write the key leaves its entry. -/
theorem CacheCmd.Spares.entry {c : CacheCmd} (h : c.Spares key) :
    ((cacheSystem P).handler c s).2.cache.entry key = s.cache.entry key := by
  have htable : ∀ c : Cmd, OnTables c → (exec P c s).2.cache.entry key = s.cache.entry key :=
    fun _ hc => congrArg (fun m => Expiring.Cache.entry m key) ((hc.exec P).cache s)
  cases c with
  | inr c => exact list_spares h
  | inl c =>
    cases c with
    | redis c => exact redis_spares h
    | process c => cases c <;> rfl
    | users c => exact htable (.users c) trivial
    | roles c => exact htable (.roles c) trivial
    | privileges c => exact htable (.privileges c) trivial
    | fleets c => exact htable (.fleets c) trivial
    | vehicles c => exact htable (.vehicles c) trivial
    | telemetry c => exact htable (.telemetry c) trivial

/-! ## What the calls issue -/

/-- A call issues commands that leave alone what the call leaves alone. -/
theorem call_spares {call : CacheMethodCall} (h : call.touches ≠ some key) :
    call.prog.Issues (CacheCmd.Spares key) := by
  have hnone : ∀ c : CacheCmd, c.touches = none → c.Spares key := by
    intro c hc he
    rw [hc] at he
    cases he
  have hown : ∀ c : CacheCmd, c.touches = call.touches → c.Spares key := by
    intro c hc he
    exact h (hc.symm.trans he)
  have hread : ∀ c : ListCmd, c.touches = none →
      (CacheService.command c).Issues (CacheCmd.Spares key) :=
    fun c hc => .await (hnone (.inr c) hc)
  have hwrite : ∀ c : ListCmd, c.touches = call.touches →
      (CacheService.command c).Issues (CacheCmd.Spares key) :=
    fun c hc => .await (hown (.inr c) hc)
  cases call with
  | set k value ttl =>
    exact .bind (.extend (set_issues (hown _ rfl) fun _ => hown _ rfl)) fun _ => trivial
  | get k =>
    have hget : (CacheService.get k).Issues fun c => CacheCmd.Spares key (.inl c) :=
      .tryCatch (.await (hnone _ rfl)) fun _ => trivial
    exact .bind (.extend hget) fun _ => trivial
  | setList k data ttl =>
    have hexpire : ((if 0 < ttl then Service.await (.redis (.expire k ttl)) else pure ()) :
        Service Unit).Issues fun c => CacheCmd.Spares key (.inl c) := by
      split
      · exact .await (hown _ rfl)
      · trivial
    have hlist : (CacheService.setList k data ttl).Issues fun c =>
        CacheCmd.Spares key (.inl c) := by
      refine .tryCatch (.bind (.await (hown _ rfl)) fun _ => ?_) fun _ => trivial
      dsimp only
      split
      · exact .bind (.await (hown _ rfl)) fun _ => hexpire
      · exact hexpire
    exact .bind (.extend hlist) fun _ => trivial
  | getList k =>
    have hlist : (CacheService.getList k).Issues fun c => CacheCmd.Spares key (.inl c) :=
      .tryCatch (.bind (.await (hnone _ rfl)) fun _ => trivial) fun _ => trivial
    exact .bind (.extend hlist) fun _ => trivial
  | delete k =>
    have hdel : (CacheService.delete k).Issues fun c => CacheCmd.Spares key (.inl c) :=
      .tryCatch (.await (hown _ rfl)) fun _ => trivial
    exact .bind (.extend hdel) fun _ => trivial
  | lpush k data =>
    have hpush : (CacheService.lpush k data).Issues (CacheCmd.Spares key) :=
      .tryCatch (.bind (hwrite _ rfl) fun _ => trivial) fun _ => trivial
    exact .bind hpush fun _ => trivial
  | ltrim k =>
    have htrim : (CacheService.ltrim k).Issues (CacheCmd.Spares key) :=
      .tryCatch (hwrite _ rfl) fun _ => trivial
    exact .bind htrim fun _ => trivial
  | llen k =>
    have hlen : (CacheService.llen k).Issues (CacheCmd.Spares key) :=
      .tryCatch (.bind (hread _ rfl) fun _ => trivial) fun _ => trivial
    exact .bind hlen fun _ => trivial
  | rpop k =>
    have hpop : (CacheService.rpop k).Issues (CacheCmd.Spares key) :=
      .tryCatch (hwrite _ rfl) fun _ => trivial
    exact .bind hpop fun _ => trivial
  | incr k =>
    have hincr : (CacheService.incr k).Issues (CacheCmd.Spares key) :=
      .tryCatch (.bind (hwrite _ rfl) fun _ => trivial) fun _ => trivial
    exact .bind hincr fun _ => trivial
  | expire k duration =>
    have hexpire : (CacheService.expire k duration).Issues (CacheCmd.Spares key) :=
      .tryCatch (.bind (hwrite _ rfl) fun _ => trivial) fun _ => trivial
    exact .bind hexpire fun _ => trivial
  | lrange k start stop =>
    have hrange : (CacheService.lrange k start stop).Issues (CacheCmd.Spares key) :=
      .tryCatch (.bind (hread _ rfl) fun _ => trivial) fun _ => trivial
    exact .bind hrange fun _ => trivial
  | hset k field value ttl =>
    have hhset : (CacheService.hset k field value ttl).Issues fun c =>
        CacheCmd.Spares key (.inl c) :=
      .tryCatch (.bind (.await (hown _ rfl)) fun _ => .await (hown _ rfl)) fun _ => trivial
    exact .bind (.extend hhset) fun _ => trivial
  | hget k field =>
    have hhget : (CacheService.hget k field).Issues (CacheCmd.Spares key) :=
      .tryCatch (hread _ rfl) fun _ => trivial
    exact .bind hhget fun _ => trivial

end

/-! ## The queue -/

/-- The key is a queue, the oldest text first; an empty queue is no key. -/
def QueueAt (q : String) (l : List String) (s : Store) : Prop :=
  s.cache.entry q = if l = [] then none else some ⟨.list l.reverse, none⟩

/-- What a completed command does to the queue. -/
def queueEvent (q : String) : (c : CacheCmd) → Except Thrown (CacheCmd.Answer c) →
    Option (Fifo.Event String)
  | .inr (.lpush key data), .ok _ => if key = q then some (.pushed data) else none
  | .inr (.rpop key), .ok (some v) => if key = q then some (.popped v) else none
  | _, _ => none

/-- The commands on the queue, and those that leave it alone. -/
inductive QueueCmd (q : String) : CacheCmd → Prop
  | spares {c : CacheCmd} (h : c.Spares q) : QueueCmd q c
  | push (data : List String) : QueueCmd q (.inr (.lpush q data))
  | pop : QueueCmd q (.inr (.rpop q))

/-- The calls on the queue, and those that leave it alone. -/
inductive CacheMethodCall.OnQueue (q : String) : CacheMethodCall → Prop
  | spares {call : CacheMethodCall} (h : call.touches ≠ some q) : OnQueue q call
  | push (data : List String) : OnQueue q (.lpush q data)
  | pop : OnQueue q (.rpop q)

section

variable {P : Platform} {s : Store} {q : String} {l : List String}

theorem queueAt_nil (h : s.cache.entry q = none) : QueueAt q [] s := h

theorem QueueAt.listAt (h : QueueAt q l s) : s.listAt q = .ok l.reverse := by
  by_cases hl : l = []
  · subst hl
    simp [Store.listAt, Expiring.Cache.get_of_entry_none h]
  · have hget : s.cache.get s.clock q = some (.list l.reverse) := by
      simp [Expiring.Cache.get, show s.cache.entry q = _ from h, hl, Option.filter]
    simp [Store.listAt, hget]

/-- `getList` returns the queue, the newest text first. -/
theorem QueueAt.getList (h : QueueAt q l s) :
    ((CacheMethodCall.getList q).prog.run (cacheSystem P).handler s).1 =
      .ok (.list (some l.reverse)) := by
  have hextend : (CacheService.getList q).extend.run (cacheSystem P).handler s =
      (CacheService.getList q).run (exec P) s :=
    Prog.run_extend (exec P) (fun c s => ListCmd.exec s c) (CacheService.getList q) s
  have hread : ((CacheService.getList q).run (exec P) s).1 = .ok (some l.reverse) := by
    rw [run_getList, Store.read]
    by_cases hl : l = []
    · subst hl
      rw [Expiring.Cache.get_of_entry_none h]
      rfl
    · simp [Expiring.Cache.get, show s.cache.entry q = _ from h, hl, Option.filter, listOf]
  rw [CacheMethodCall.prog, Prog.run_map, hextend]
  simp only [hread]
  rfl

/-- A list that is written is the queue. -/
theorem QueueAt.putList (h : QueueAt q l s) (l' : List String) :
    QueueAt q l' (s.putList q l'.reverse) := by
  have hheld : (s.cache.held s.clock q).bind Expiring.Entry.expiresAt = none := by
    by_cases hl : l = []
    · simp [Expiring.Cache.held, show s.cache.entry q = _ from h, hl]
    · simp [Expiring.Cache.held, show s.cache.entry q = _ from h, hl, Option.filter]
  by_cases hl' : l' = []
  · subst hl'
    simp [QueueAt, Store.putList]
  · simp [QueueAt, Store.putList, hl', Expiring.Cache.replace, hheld]

/-- A command on the list does to the queue what it does to the list. -/
theorem QueueAt.onList {α : Type} (h : QueueAt q l s) (f : List String → α × List String)
    (a : α) (l' : List String) (hf : f l.reverse = (a, l'.reverse)) :
    (s.onList q f).1 = .ok a ∧ QueueAt q l' (s.onList q f).2 := by
  unfold Store.onList
  rw [h.listAt]
  cases hl : l.reverse with
  | nil =>
    rw [hl] at hf
    rw [hf]
    refine ⟨rfl, ?_⟩
    dsimp only
    split
    case isTrue hnil =>
      rw [List.reverse_eq_nil_iff.mp hnil]
      rwa [List.reverse_eq_nil_iff.mp hl] at h
    case isFalse hne => exact h.putList l'
  | cons a' m =>
    rw [hl] at hf
    dsimp only
    rw [hf]
    exact ⟨rfl, h.putList l'⟩

/-- A command that leaves the queue alone is no event of it. -/
theorem queueEvent_spares {c : CacheCmd} (h : c.Spares q)
    (r : Except Thrown (CacheCmd.Answer c)) : queueEvent q c r = none := by
  unfold queueEvent
  split
  case h_1 key data _ => exact if_neg fun he => h (congrArg some he)
  case h_2 key v => exact if_neg fun he => h (congrArg some he)
  case h_3 => rfl

/-- What one command does to the queue is its event. -/
theorem QueueCmd.exec {c : CacheCmd} (hc : QueueCmd q c) (h : QueueAt q l s) :
    ∃ l', QueueAt q l' ((cacheSystem P).handler c s).2 ∧
      Fifo.Balanced l (queueEvent q c ((cacheSystem P).handler c s).1).toList l' := by
  cases hc with
  | spares hs =>
    refine ⟨l, hs.entry.trans h, ?_⟩
    rw [queueEvent_spares hs]
    exact Fifo.balanced_nil l
  | push data =>
    by_cases hdata : data = []
    · subst hdata
      exact ⟨l, h, Fifo.balanced_nil l⟩
    · have hexec : (cacheSystem P).handler (.inr (.lpush q data)) s =
          s.onList q fun l => (l.length + data.length, data.reverse ++ l) := if_neg hdata
      obtain ⟨hok, hafter⟩ := h.onList (fun l => (l.length + data.length, data.reverse ++ l))
        (l.reverse.length + data.length) (l ++ data) (by rw [List.reverse_append])
      rw [hexec]
      refine ⟨l ++ data, hafter, ?_⟩
      have hevent : queueEvent q (.inr (.lpush q data)) (s.onList q fun l =>
          (l.length + data.length, data.reverse ++ l)).1 = some (.pushed data) := by
        rw [hok]
        exact if_pos rfl
      rw [hevent]
      exact Fifo.balanced_pushed l data
  | pop =>
    have hexec : (cacheSystem P).handler (.inr (.rpop q)) s =
        s.onList q fun l => (l.getLast?, l.dropLast) := rfl
    rw [hexec]
    cases l with
    | nil =>
      obtain ⟨hok, hafter⟩ := h.onList (fun l => (l.getLast?, l.dropLast)) none [] rfl
      have hevent : queueEvent q (.inr (.rpop q)) (s.onList q fun l =>
          (l.getLast?, l.dropLast)).1 = none := by
        rw [hok]
        rfl
      rw [hevent]
      exact ⟨[], hafter, Fifo.balanced_nil []⟩
    | cons v l =>
      obtain ⟨hok, hafter⟩ := h.onList (fun l => (l.getLast?, l.dropLast)) (some v) l
        (by simp)
      have hevent : queueEvent q (.inr (.rpop q)) (s.onList q fun l =>
          (l.getLast?, l.dropLast)).1 = some (.popped v) := by
        rw [hok]
        exact if_pos rfl
      rw [hevent]
      exact ⟨l, hafter, Fifo.balanced_popped v l⟩

theorem queueEvent_error (c : CacheCmd) (e : Thrown) : queueEvent q c (.error e) = none := by
  unfold queueEvent
  split <;> first | rfl | contradiction

end

/-! ## Runs -/

section

variable {ι : Type} [DecidableEq ι] {P : Platform} {s : Store} {q : String} {l₀ : List String}

/-- A configuration of calls. -/
abbrev CacheRun (ι : Type) : Type := Config ι CacheCmd CacheCmd.Answer Thrown CacheReply Store

/-- The events of the queue, oldest first. -/
def CacheRun.queueEvents (cfg : CacheRun ι) (q : String) : List (Fifo.Event String) :=
  ((cfg.notes (queueEvent q)).map Prod.snd).reverse

/-- The queue is what the events have made of `l₀`. -/
def CacheRun.InOrder (q : String) (l₀ : List String) (cfg : CacheRun ι) : Prop :=
  ∃ left, QueueAt q left cfg.store ∧ Fifo.Balanced l₀ (cfg.queueEvents q) left

theorem queueEvents_deliver {cfg : CacheRun ι} (i : ι) (c : CacheCmd)
    (k : Except Thrown (CacheCmd.Answer c) → CacheMethod CacheReply)
    (r : Except Thrown (CacheCmd.Answer c)) (s : Store) :
    CacheRun.queueEvents (cfg.deliver i c k r s) q =
      CacheRun.queueEvents cfg q ++ (queueEvent q c r).toList := by
  unfold CacheRun.queueEvents
  rw [Config.notes_deliver]
  cases queueEvent q c r <;> simp

theorem CacheMethodCall.OnQueue.issues {call : CacheMethodCall} (h : call.OnQueue q) :
    call.prog.Issues (QueueCmd q) := by
  cases h with
  | spares h => exact (call_spares h).mono fun _ => .spares
  | push data =>
    have hpush : (CacheService.lpush q data).Issues (QueueCmd q) :=
      .tryCatch (.bind (.await (.push data)) fun _ => trivial) fun _ => trivial
    exact .bind hpush fun _ => trivial
  | pop =>
    have hpop : (CacheService.rpop q).Issues (QueueCmd q) :=
      .tryCatch (.await .pop) fun _ => trivial
    exact .bind hpop fun _ => trivial

/-- A move keeps the queue in order. -/
theorem inOrder_move {cfg : CacheRun ι} (hcfg : cfg.Issuing (QueueCmd q))
    (h : CacheRun.InOrder q l₀ cfg) (m : Move ι Nat) :
    CacheRun.InOrder q l₀ (cfg.move (cacheSystem P) m) := by
  obtain ⟨left, hleft, hevents⟩ := h
  refine Config.move_cases (motive := CacheRun.InOrder q l₀) cfg m ⟨left, hleft, hevents⟩
    ?stepped ?faulted ?outside
  case stepped =>
    intro i c k _ hc
    have hi := hcfg i
    rw [hc] at hi
    obtain ⟨left', hleft', hevent⟩ := hi.1.exec (P := P) hleft
    refine ⟨left', hleft', ?_⟩
    rw [queueEvents_deliver]
    exact hevents.append hevent
  case faulted =>
    intro i c k e _ _ _
    refine ⟨left, hleft, ?_⟩
    rw [queueEvents_deliver, queueEvent_error]
    exact hevents.append (Fifo.balanced_nil left)
  case outside =>
    intro d _
    exact ⟨left, hleft, hevents⟩

theorem inOrder_exec {cfg : CacheRun ι} (hcfg : cfg.Issuing (QueueCmd q))
    (h : CacheRun.InOrder q l₀ cfg) (ms : List (Move ι Nat)) :
    CacheRun.InOrder q l₀ (cfg.exec (cacheSystem P) ms) := by
  have step : ∀ (cfg : CacheRun ι) (m : Move ι Nat),
      cfg.Issuing (QueueCmd q) ∧ CacheRun.InOrder q l₀ cfg →
      (cfg.move (cacheSystem P) m).Issuing (QueueCmd q) ∧
        CacheRun.InOrder q l₀ (cfg.move (cacheSystem P) m) :=
    fun _ m h => ⟨h.1.move m, inOrder_move h.1 h.2 m⟩
  exact (Config.exec_inv_all step ⟨hcfg, h⟩ ms).2

/-- What a call does to the queue: `lpush` pushes its data or fails unnoticed, `rpop` pops what
it returns, and the others do nothing. -/
inductive CacheMethodCall.Told (q : String) : CacheMethodCall → List (Fifo.Event String) →
    Option (Except Thrown CacheReply) → Prop
  | idle {call : CacheMethodCall} {o : Option (Except Thrown CacheReply)}
      (h : call = .rpop q → o = none ∨ o = some (.ok (.text none))) : Told q call [] o
  | pushed (data : List String) {o : Option (Except Thrown CacheReply)} :
      Told q (.lpush q data) [.pushed data] o
  | popped (v : String) : Told q (.rpop q) [.popped v] (some (.ok (.text (some v))))

theorem CacheMethodCall.OnQueue.tells {call : CacheMethodCall} (h : call.OnQueue q) :
    call.prog.Tells (queueEvent q) (call.Told q) := by
  cases h with
  | spares h =>
    refine ((call_spares h).tells fun c r hc => queueEvent_spares hc r).mono fun l o hl => ?_
    subst hl
    refine .idle fun hcall => ?_
    subst hcall
    exact absurd rfl h
  | push data =>
    refine ⟨.idle nofun, fun r => ?_⟩
    cases r with
    | error e => exact .idle nofun
    | ok n =>
      have hevent : queueEvent q (.inr (.lpush q data)) (.ok n) = some (.pushed data) :=
        if_pos rfl
      rw [hevent]
      exact .pushed data
  | pop =>
    refine ⟨.idle fun _ => .inl rfl, fun r => ?_⟩
    cases r with
    | error e => exact .idle fun _ => .inr rfl
    | ok v =>
      cases v with
      | none => exact .idle fun _ => .inr rfl
      | some v =>
        have hevent : queueEvent q (.inr (.rpop q)) (.ok (some v)) = some (.popped v) :=
          if_pos rfl
        rw [hevent]
        exact .popped v

end

namespace CacheService

/-- In every run of calls that write `q` by `lpush` and `rpop` only, other keys by any method,
with the commands in any order, any of them failing, what has been popped and what is left are
what was there and has been pushed, in this order; every call pushes and pops what it tells. -/
theorem queue_in_order {ι : Type} [DecidableEq ι] (P : Platform) (calls : ι → CacheMethodCall)
    (q : String) (hcalls : ∀ i, (calls i).OnQueue q) {s : Store} {l₀ : List String}
    (hs : QueueAt q l₀ s) (ms : List (Move ι Nat)) {cfg : CacheRun ι}
    (hcfg : cfg = (Config.start s fun i => (calls i).prog).exec (cacheSystem P) ms) :
    (∃ left, ((CacheMethodCall.getList q).prog.run (cacheSystem P).handler cfg.store).1 =
        .ok (.list (some left.reverse)) ∧ Fifo.Balanced l₀ (cfg.queueEvents q) left) ∧
      ∀ i, (calls i).Told q (cfg.notesOf (queueEvent q) i) (cfg.threads i).outcome := by
  subst hcfg
  constructor
  · have hstart : CacheRun.InOrder q l₀ (Config.start s fun i => (calls i).prog) :=
      ⟨l₀, hs, Fifo.balanced_nil l₀⟩
    obtain ⟨left, hleft, hevents⟩ := inOrder_exec (P := P) (fun i => (hcalls i).issues) hstart ms
    exact ⟨left, hleft.getList, hevents⟩
  · exact Config.exec_tells (Φ := fun i => (calls i).Told q) (fun i => (hcalls i).tells) ms

/-- Two calls that push jobs, and one that pops one. -/
def threeCalls : Fin 3 → CacheMethodCall
  | 0 => .lpush "jobs" ["a"]
  | 1 => .lpush "jobs" ["b", "c"]
  | 2 => .rpop "jobs"

/-- The second call is the first to push, and its first job is popped. -/
theorem queue_in_order_three_calls :
    (∃ left, Fifo.Balanced [] [.pushed ["b", "c"], .pushed ["a"], .popped "b"] left) ∧
      (CacheMethodCall.rpop "jobs").Told "jobs" [.popped "b"] (some (.ok (.text (some "b")))) := by
  have hcalls : ∀ i, (threeCalls i).OnQueue "jobs" := by
    intro i
    fin_cases i
    · exact .push ["a"]
    · exact .push ["b", "c"]
    · exact .pop
  obtain ⟨⟨left, _, hevents⟩, htold⟩ := queue_in_order .plain threeCalls "jobs" hcalls (s := .empty)
    (queueAt_nil rfl) [.step 1, .step 0, .step 2] rfl
  exact ⟨⟨left, hevents⟩, htold 2⟩

end CacheService

end VoltFleet
