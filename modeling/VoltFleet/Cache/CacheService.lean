import VoltFleet.Commands

/-!
# `CacheService`

Every method catches what the client throws and logs it, so that a failed read
is a missing key and a failed write goes unnoticed.
-/

namespace VoltFleet.CacheService

/-- Writes a text, and then its expiry if there is a lifetime. -/
def set (key value : String) (ttlSeconds : Option Nat) : Service Unit := do
  try
    Service.await (.redis (.set key value))
    match ttlSeconds with
    | none => pure ()
    | some 0 => pure ()
    | some ttl => Service.await (.redis (.expire key ttl))
  catch _ => pure ()

/-- The text of a key, or `null` where there is none or the command fails. -/
def get (key : String) : Service (Option String) := do
  try
    Service.await (.redis (.get key))
  catch _ => pure none

/-- The numbers of a list are sent as text. -/
def setList (key : String) (data : List String) (ttl : Nat) : Service Unit := do
  try
    Service.await (.redis (.del key))
    if 0 < data.length then
      Service.await (.redis (.rpush key data))
    if 0 < ttl then
      Service.await (.redis (.expire key ttl))
  catch _ => pure ()

/-- The whole list of a key. -/
def getList (key : String) : Service (Option (List String)) := do
  try
    let data ← Service.await (.redis (.lrange key))
    pure (some data)
  catch _ => pure none

/-- Writes a field, and then the expiry of the key. -/
def hset (key field value : String) (ttl : Nat) : Service Unit := do
  try
    Service.await (.redis (.hset key field value))
    Service.await (.redis (.expire key ttl))
  catch _ => pure ()

/-- Deletes a key. -/
def delete (key : String) : Service Unit := do
  try
    Service.await (.redis (.del key))
  catch _ => pure ()

end VoltFleet.CacheService
