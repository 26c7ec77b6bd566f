import VoltFleet.Misc.Rounding

/-!
# Numbers of ECMAScript

Query parameters reach the services as text and are coerced where they are used
as numbers.  A number is a rational, an infinity or `NaN`, and arithmetic rounds to
53 binary digits.  The range of the exponent is left out: a number beyond it is too
large for a row count in any case, and none is small enough to vanish.
-/

namespace VoltFleet

/-- A number of ECMAScript. -/
inductive JsNumber where
  | nan
  | negInfinity
  | finite (q : ℚ)
  | posInfinity
  deriving DecidableEq

namespace JsNumber

/-- The binary digits of a number. -/
def precision : ℕ := 53

/-- `Number.MAX_SAFE_INTEGER`. -/
def maxSafeInteger : ℕ := 2 ^ 53 - 1

/-- The number an exact result is rounded to. -/
def rounded (q : ℚ) : JsNumber := .finite (Rounding.nearest precision q)

/-- The rationals that are numbers. -/
abbrev Held (q : ℚ) : Prop := Rounding.Held precision q

theorem rounded_of_held {q : ℚ} (h : Held q) : rounded q = .finite q := congrArg finite h

/-- The integers up to `2 ^ 53` are numbers. -/
theorem held_natCast {n : ℕ} (h : n ≤ 2 ^ 53) : Held n := Rounding.held_natCast (by decide) h

/-- `x - b`. -/
def sub : JsNumber → ℚ → JsNumber
  | .finite a, b => rounded (a - b)
  | x, _ => x

/-- `x > 0`, `x < 0` or neither, as `1`, `-1` and `0`. -/
def sign : JsNumber → Int
  | .nan => 0
  | .negInfinity => -1
  | .finite q => if 0 < q then 1 else if q < 0 then -1 else 0
  | .posInfinity => 1

/-- The infinity or `NaN` an operation with this sign overflows to. -/
def overflow (sign : Int) : JsNumber :=
  if 0 < sign then .posInfinity else if sign < 0 then .negInfinity else .nan

/-- `x * y`. -/
def mul : JsNumber → JsNumber → JsNumber
  | .finite a, .finite b => rounded (a * b)
  | .nan, _ => .nan
  | _, .nan => .nan
  | x, y => overflow (x.sign * y.sign)

/-- `n / x`; a quotient by zero overflows. -/
def div (n : ℚ) : JsNumber → JsNumber
  | .nan => .nan
  | .finite q => if q = 0 then overflow (sign (.finite n)) else rounded (n / q)
  | _ => .finite 0

/-- `Math.ceil`. -/
def ceil : JsNumber → JsNumber
  | .finite q => .finite q.ceil
  | x => x

/-- `x < y`, which is false if one of them is `NaN`. -/
def lt : JsNumber → JsNumber → Bool
  | .finite a, .finite b => a < b
  | .nan, _ => false
  | _, .nan => false
  | .negInfinity, y => y ≠ .negInfinity
  | .finite _, y => y = .posInfinity
  | .posInfinity, _ => false

/-- The integer PostgreSQL reads a `LIMIT` or `OFFSET` as, half a row rounded away from
zero; `none` where it is negative or no number. -/
def toCount : JsNumber → Option Nat
  | .finite q => if q ≤ -1 / 2 then none else some (q + 1 / 2).floor.toNat
  | _ => none

end JsNumber

end VoltFleet
