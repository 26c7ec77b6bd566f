import VoltFleet.Misc.Like
import VoltFleet.Misc.PrefixCode
import VoltFleet.Platform

/-!
# A platform that can be evaluated

The functions of `Platform` at their simplest: a token is the text of its claims,
a hash is the salt's number and the password, keys are numbered, and the queries
meet the rows in the order they are stored.
-/

namespace VoltFleet

instance : PrefixCode Uuid :=
  PrefixCode.ofPartialInv Uuid.text
    (fun s => if h : isUuidText s = true then some ⟨s, h⟩ else none) (fun u => by simp [u.valid])

instance : PrefixCode UserPrivilege :=
  PrefixCode.ofPartialInv (fun p => (p.id, p.name, p.comment))
    (fun (id, name, comment) => some ⟨id, name, comment⟩) (fun _ => rfl)

instance : PrefixCode UserRole :=
  PrefixCode.ofPartialInv (fun r => (r.id, r.name, r.comment, r.userPrivileges))
    (fun (id, name, comment, privileges) => some ⟨id, name, comment, privileges⟩) (fun _ => rfl)

instance : PrefixCode JwtClaims :=
  PrefixCode.ofPartialInv (fun c => (c.payload.email, c.payload.role, c.iat, c.exp))
    (fun (email, role, iat, exp) => some ⟨⟨email, role⟩, iat, exp⟩) (fun _ => rfl)

/-- Tokens are the texts of their claims. -/
def JwtService.plain : JwtService where
  sign c := String.ofList (PrefixCode.enc c)
  decode t := PrefixCode.decAll t.toList
  decode_eq_some {t c} := by
    rw [PrefixCode.decAll_eq_some]
    constructor
    · intro h
      rw [h, String.ofList_toList]
    · rintro rfl
      rw [String.toList_ofList]

/-- The last `k` hexadecimal digits of `n`. -/
def hexDigits (n : Nat) : Nat → List Char
  | 0 => []
  | k + 1 =>
      let d := n % 16
      hexDigits (n / 16) k ++ [Char.ofNat (if d < 10 then 48 + d else 87 + d)]

/-- The key with these last twelve digits. -/
def Uuid.ofNat (n : Nat) : Uuid :=
  let text := "00000000-0000-4000-8000-" ++ String.ofList (hexDigits n 12)
  if h : isUuidText text = true then ⟨text, h⟩
  else ⟨"00000000-0000-4000-8000-000000000000", by decide⟩

/-- The natural number with these decimal digits. -/
def decimal : List Char → Option Nat
  | [] => none
  | l =>
      if l.all Char.isDigit then some (l.foldl (fun n c => 10 * n + (c.toNat - 48)) 0) else none

/-- A key with hyphens, of a version and a variant that are in use. -/
def isPlainUUID (s : String) : Bool :=
  let digits := (asciiLower s).toList
  isUuidText (asciiLower s) ∧
    ((digits.getD 14 '-' ∈ "12345678".toList ∧ digits.getD 19 '-' ∈ "89ab".toList) ∨
      digits.all (· ∈ "0-".toList) ∨ digits.all (· ∈ "f-".toList))

/-- The largest `bigint`. -/
def maxBigint : Nat := 2 ^ 63 - 1

/-- A text without the character U+0000. -/
def hasNoNul (s : String) : Bool := s.toList.all (· ≠ Char.ofNat 0)

/-- Numbers as decimal integers. -/
def decimalNumber (t : String) : JsNumber :=
  match decimal t.toList with
  | none => .nan
  | some n => .rounded n

/-- The plain platform. -/
def Platform.plain : Platform where
  isEmail s := s.toList.contains '@'
  isUUID := isPlainUUID
  toLowerCase := asciiLower
  bcryptHash salt password := ⟨String.ofList (List.replicate salt '$') ++ "#" ++ password⟩
  bcryptCompare password hash := hash.digest.toList.dropWhile (· = '$') = '#' :: password.toList
  jwt := JwtService.plain
  expiresIn := 36000
  uuid := Uuid.ofNat
  number := decimalNumber
  numberText
    | .finite q => if q.den = 1 then toString q.num else toString q
    | .nan => "NaN"
    | .negInfinity => "-Infinity"
    | .posInfinity => "Infinity"
  countLimit := some maxBigint
  takesText := hasNoNul
  takesInteger n := -2 ^ 31 ≤ n ∧ n < 2 ^ 31
  urlEncode params := String.intercalate "&" (params.map fun (n, v) => n ++ "=" ++ v)
  ilike pattern text :=
    Like.like (pattern.toList.map Char.toLower) (text.toList.map Char.toLower)
  collate a b := a ≤ b
  timestamp t := decimal t.toList
  rejectsRepeats := true
  scan _ _ l := l
  scan_perm _ _ _ := .rfl
  countLimit_safe m hm := by
    cases hm
    decide

/-- A password is accepted with its own hash. -/
theorem Platform.plain_bcryptCompare (salt : Nat) (password : String) :
    plain.bcryptCompare password (plain.bcryptHash salt password) = true := by
  have hdrop : ∀ n, (List.replicate n '$' ++ '#' :: password.toList).dropWhile (· = '$') =
      '#' :: password.toList := by
    intro n
    induction n with
    | zero => rfl
    | succ n ih =>
      rw [List.replicate_succ, List.cons_append, List.dropWhile_cons_of_pos rfl]
      exact ih
  have hdigest : (plain.bcryptHash salt password).digest.toList =
      List.replicate salt '$' ++ '#' :: password.toList := by
    show (String.ofList (List.replicate salt '$') ++ "#" ++ password).toList = _
    rw [String.toList_append, String.toList_append, String.toList_ofList, List.append_assoc]
    rfl
  show decide ((plain.bcryptHash salt password).digest.toList.dropWhile (· = '$') =
    '#' :: password.toList) = true
  rw [hdigest, hdrop, decide_eq_true_eq]

end VoltFleet
