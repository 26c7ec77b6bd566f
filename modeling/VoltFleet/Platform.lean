import VoltFleet.Common.JsNumber
import VoltFleet.Entities
import Mathlib.Data.List.Perm.Basic

/-!
# What the services take from outside

The functions of `bcryptjs`, `@nestjs/jwt`, `class-validator`, PostgreSQL and
ECMAScript that the services call, as one structure the model is parameterised
by.  Times are whole seconds, the unit of `iat`, of `exp` and of the `EXPIRE`
command.  Random choices are numbered: the `n`-th salt, key or scan order is a
function of `n`, so that a statement about every platform is one about every
outcome of them.
-/

namespace VoltFleet

/-- The payload of a token. -/
structure JwtPayload where
  email : String
  role : Option UserRole
  deriving DecidableEq

/-- A payload with the registered claims `sign` adds. -/
structure JwtClaims where
  payload : JwtPayload
  iat : Nat
  exp : Nat
  deriving DecidableEq

/-- Signing with the shared secret.  A token is accepted exactly if it was
signed: `decode` inverts `sign` and is `none` elsewhere. -/
structure JwtService where
  sign : JwtClaims → String
  decode : String → Option JwtClaims
  decode_eq_some : ∀ {t : String} {c : JwtClaims}, decode t = some c ↔ sign c = t

namespace JwtService

/-- `verify`: a signed token that has not expired. -/
def verify (J : JwtService) (now : Nat) (token : String) : Option JwtClaims :=
  (J.decode token).filter fun c => now < c.exp

theorem sign_inj {J : JwtService} {c c' : JwtClaims} (h : J.sign c = J.sign c') : c = c' := by
  have hc := J.decode_eq_some.mpr h
  rw [J.decode_eq_some.mpr (rfl : J.sign c' = J.sign c')] at hc
  exact (Option.some.inj hc).symm

theorem verify_eq_some {J : JwtService} {now : Nat} {token : String} {c : JwtClaims} :
    J.verify now token = some c ↔ J.sign c = token ∧ now < c.exp := by
  rw [verify, Option.filter_eq_some_iff, J.decode_eq_some, decide_eq_true_eq]

@[simp] theorem verify_sign (J : JwtService) (now : Nat) (c : JwtClaims) :
    J.verify now (J.sign c) = if now < c.exp then some c else none := by
  rw [verify, J.decode_eq_some.mpr rfl, Option.filter_some]
  simp

end JwtService

/-- The functions the services take from the libraries, the database and the language. -/
structure Platform where
  /-- `isEmail`. -/
  isEmail : String → Bool
  /-- `isUUID`, which also looks at the version of the key. -/
  isUUID : String → Bool
  toLowerCase : String → String
  /-- `bcrypt.hash`, with the salt first. -/
  bcryptHash : Nat → String → PasswordHash
  bcryptCompare : String → PasswordHash → Bool
  jwt : JwtService
  /-- `EXPIRESIN`, or ten hours. -/
  expiresIn : Nat
  /-- The key the `n`-th insert generates. -/
  uuid : Nat → Uuid
  /-- `Number(text)`. -/
  number : String → JsNumber
  /-- `String(number)`. -/
  numberText : JsNumber → String
  /-- The largest row count a query takes, as a `LIMIT`, an `OFFSET` or the `skip` and the
  `limit` of a `find`; `none` for a database that takes every one. -/
  countLimit : Option Nat
  /-- The texts a query takes as parameters. -/
  takesText : String → Bool
  /-- The integers an `integer` column holds. -/
  takesInteger : Int → Bool
  /-- `URLSearchParams.toString`. -/
  urlEncode : List (String × String) → String
  /-- `text ILIKE pattern`, the pattern first, of texts the database takes. -/
  ilike : String → String → Bool
  /-- The order of the database's collation. -/
  collate : String → String → Bool
  /-- A date literal, in seconds; `none` is one that the database cannot read. -/
  timestamp : String → Option Nat
  /-- Two equal rows in one insert into a join table are refused. -/
  rejectsRepeats : Bool
  /-- The order in which the `n`-th query meets the rows of a table. -/
  scan : Nat → ∀ {α : Type}, List α → List α
  scan_perm : ∀ (n : Nat) {α : Type} (l : List α), (scan n l).Perm l
  /-- Every count that a number of ECMAScript counts up to exactly is taken. -/
  countLimit_safe : ∀ m, countLimit = some m → JsNumber.maxSafeInteger ≤ m

namespace Platform

/-- A query takes this row count. -/
def takesCount (P : Platform) (n : Nat) : Bool := P.countLimit.all fun m => n ≤ m

theorem takesCount_safe (P : Platform) {n : Nat} (h : n ≤ JsNumber.maxSafeInteger) :
    P.takesCount n = true := by
  unfold takesCount
  cases hlimit : P.countLimit with
  | none => rfl
  | some m => simpa using h.trans (P.countLimit_safe m hlimit)

end Platform

end VoltFleet
