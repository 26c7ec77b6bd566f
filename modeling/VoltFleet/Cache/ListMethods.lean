import VoltFleet.Cache.CacheService
import VoltFleet.Misc.Extension
import Mathlib

/-!
# The other methods of `CacheService`

Lists as queues, counters, and the fields of a hash.  No service calls these methods,
so that their commands are added to those of the services, over the same stores.  An
integer of a reply is read as a number of ECMAScript.
-/

namespace VoltFleet

open Awaiting

/-- The commands of the client that only these methods issue. -/
inductive ListCmd where
  | lpush (key : String) (data : List String)
  | rpop (key : String)
  | ltrim (key : String) (start stop : Int)
  | llen (key : String)
  | incr (key : String)
  /-- `EXPIRE` with its reply, which the other methods drop. -/
  | expire (key : String) (duration : Nat)
  | lrange (key : String) (start stop : Int)
  | hget (key field : String)
  deriving DecidableEq

/-- What a command replies. -/
abbrev ListCmd.Answer : ListCmd → Type
  | .lpush .. => Nat
  | .rpop _ => Option String
  | .ltrim .. => Unit
  | .llen _ => Nat
  | .incr _ => Int
  | .expire .. => Nat
  | .lrange .. => List String
  | .hget .. => Option String

/-- The elements from `start` to `stop`; a negative index counts from the end. -/
def listRange (start stop : Int) (l : List String) : List String :=
  let first := (if start < 0 then max (l.length + start) 0 else start).toNat
  let last := if stop < 0 then l.length + stop else stop
  (l.drop first).take (last + 1 - first).toNat

/-- The number that a text stands for, if it is how `INCR` would have written it. -/
def counterOf (text : String) : Option Int :=
  text.toInt?.filter fun n => n.repr = text ∧ -2 ^ 63 ≤ n ∧ n < 2 ^ 63

/-- Write a list; an empty one is no key. -/
def Store.putList (s : Store) (key : String) (l : List String) : Store :=
  if l = [] then { s with cache := s.cache.del key }
  else { s with cache := s.cache.replace s.clock key (.list l) }

/-- The list under a key, which is empty if there is no such key. -/
def Store.listAt (s : Store) (key : String) : Except Thrown (List String) :=
  match s.cache.get s.clock key with
  | none => .ok []
  | some (.list l) => .ok l
  | some _ => .error wrongType

/-- A command on a list that may change it. -/
def Store.onList {α : Type} (s : Store) (key : String) (f : List String → α × List String) :
    Except Thrown α × Store :=
  match s.listAt key with
  | .error e => (.error e, s)
  | .ok [] => (.ok (f []).1, if (f []).2 = [] then s else s.putList key (f []).2)
  | .ok l => (.ok (f l).1, s.putList key (f l).2)

/-- What a command does to the cache. -/
def ListCmd.exec (s : Store) : (c : ListCmd) → Except Thrown c.Answer × Store
  | .lpush key data =>
      if data = [] then (.error (.error "ERR wrong number of arguments for 'lpush' command"), s)
      else s.onList key fun l => (l.length + data.length, data.reverse ++ l)
  | .rpop key => s.onList key fun l => (l.getLast?, l.dropLast)
  | .ltrim key start stop => s.onList key fun l => ((), listRange start stop l)
  | .llen key => ((s.listAt key).map List.length, s)
  | .incr key =>
      match s.cache.get s.clock key with
      | none => (.ok 1, { s with cache := s.cache.replace s.clock key (.str (Int.repr 1)) })
      | some (.str text) =>
          match counterOf text with
          | none => (.error (.error "ERR value is not an integer or out of range"), s)
          | some n =>
              if n + 1 = 2 ^ 63 then
                (.error (.error "ERR increment or decrement would overflow"), s)
              else
                (.ok (n + 1),
                  { s with cache := s.cache.replace s.clock key (.str (Int.repr (n + 1))) })
      | some _ => (.error wrongType, s)
  | .expire key duration =>
      (.ok (if (s.cache.get s.clock key).isSome then 1 else 0),
        (RedisCmd.exec s (.expire key duration)).2)
  | .lrange key start stop => ((s.listAt key).map (listRange start stop), s)
  | .hget key field =>
      (match s.cache.get s.clock key with
        | none => .ok none
        | some (.hash fields) => .ok (fields.lookup field)
        | some _ => .error wrongType,
        s)

/-- The commands of all methods of the cache. -/
abbrev CacheCmd : Type := Cmd ⊕ ListCmd

/-- What a command replies. -/
abbrev CacheCmd.Answer : CacheCmd → Type := Sum.elim Cmd.Answer ListCmd.Answer

/-- A method of `CacheService`. -/
abbrev CacheMethod (α : Type) : Type := Prog CacheCmd CacheCmd.Answer Thrown α

/-- Every command of the client can fail. -/
def cacheFault : CacheCmd → Option Thrown
  | .inl c => canFail c
  | .inr _ => some .storeFailed

/-- The methods of `CacheService`, and time passing meanwhile. -/
def cacheSystem (P : Platform) : System CacheCmd CacheCmd.Answer Thrown Store Nat where
  handler := (exec P).sum fun c s => c.exec s
  fault := cacheFault
  env := elapse

namespace CacheService

/-- A command of a list, a counter or a hash. -/
def command (c : ListCmd) : CacheMethod c.Answer := Prog.await (Sum.inr c)

/-- The elements of an array are sent one by one, anything else as one text. -/
def lpush (key : String) (data : List String) : CacheMethod Unit := do
  try
    let _ ← command (.lpush key data)
  catch _ => pure ()

/-- `LTRIM key 1 0`, which leaves nothing of a list. -/
def ltrim (key : String) : CacheMethod Unit := do
  try command (.ltrim key 1 0)
  catch _ => pure ()

/-- The length of a list; `none` is `null`. -/
def llen (key : String) : CacheMethod (Option JsNumber) := do
  try
    let length ← command (.llen key)
    pure (some (.rounded length))
  catch _ => pure none

/-- Pops the oldest element. -/
def rpop (key : String) : CacheMethod (Option String) := do
  try command (.rpop key)
  catch _ => pure none

/-- The counter after it has been incremented; `none` is `null`. -/
def incr (key : String) : CacheMethod (Option JsNumber) := do
  try
    let n ← command (.incr key)
    pure (some (.rounded n))
  catch _ => pure none

/-- Whether there was a key to expire, as 1 or 0; `none` is `null`. -/
def expire (key : String) (duration : Nat) : CacheMethod (Option JsNumber) := do
  try
    let set ← command (.expire key duration)
    pure (some (.rounded set))
  catch _ => pure none

/-- The elements between two indices, both included. -/
def lrange (key : String) (start stop : Int) : CacheMethod (Option (List String)) := do
  try
    let data ← command (.lrange key start stop)
    pure (some data)
  catch _ => pure none

/-- The text of a field. -/
def hget (key field : String) : CacheMethod (Option String) := do
  try command (.hget key field)
  catch _ => pure none

end CacheService

/-! ## Calls -/

/-- A call of a method; `deleteByPattern` is left out. -/
inductive CacheMethodCall where
  | set (key value : String) (ttlSeconds : Option Nat)
  | get (key : String)
  | setList (key : String) (data : List String) (ttl : Nat)
  | getList (key : String)
  | delete (key : String)
  | lpush (key : String) (data : List String)
  | ltrim (key : String)
  | llen (key : String)
  | rpop (key : String)
  | incr (key : String)
  | expire (key : String) (duration : Nat)
  | lrange (key : String) (start stop : Int)
  | hset (key field value : String) (ttl : Nat)
  | hget (key field : String)
  deriving DecidableEq

/-- What a call returns. -/
inductive CacheReply where
  | done
  | text (value : Option String)
  | number (n : Option JsNumber)
  | list (data : Option (List String))
  deriving DecidableEq

namespace CacheMethodCall

/-- A call as a thread. -/
def prog : CacheMethodCall → CacheMethod CacheReply
  | set key value ttlSeconds =>
      (fun _ => .done) <$> (CacheService.set key value ttlSeconds).extend
  | get key => .text <$> (CacheService.get key).extend
  | setList key data ttl => (fun _ => .done) <$> (CacheService.setList key data ttl).extend
  | getList key => .list <$> (CacheService.getList key).extend
  | delete key => (fun _ => .done) <$> (CacheService.delete key).extend
  | lpush key data => (fun _ => .done) <$> CacheService.lpush key data
  | ltrim key => (fun _ => .done) <$> CacheService.ltrim key
  | llen key => .number <$> CacheService.llen key
  | rpop key => .text <$> CacheService.rpop key
  | incr key => .number <$> CacheService.incr key
  | expire key duration => .number <$> CacheService.expire key duration
  | lrange key start stop => .list <$> CacheService.lrange key start stop
  | hset key field value ttl => (fun _ => .done) <$> (CacheService.hset key field value ttl).extend
  | hget key field => .text <$> CacheService.hget key field

/-- The key of a call. -/
def key : CacheMethodCall → String
  | set key .. => key
  | get key => key
  | setList key .. => key
  | getList key => key
  | delete key => key
  | lpush key _ => key
  | ltrim key => key
  | llen key => key
  | rpop key => key
  | incr key => key
  | expire key _ => key
  | lrange key .. => key
  | hset key .. => key
  | hget key _ => key

/-- The call only reads. -/
def reads : CacheMethodCall → Bool
  | get _ => true
  | getList _ => true
  | llen _ => true
  | lrange .. => true
  | hget .. => true
  | _ => false

end CacheMethodCall

end VoltFleet
