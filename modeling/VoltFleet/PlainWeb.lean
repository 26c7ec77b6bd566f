import VoltFleet.Misc.UrlEncoded
import VoltFleet.PlainPlatform
import VoltFleet.Web
import Mathlib.Algebra.Order.Field.Rat
import Mathlib.Algebra.Order.Ring.Int

/-!
# Requests that can be evaluated

The functions of `Web` at their simplest, over the plain platform: numbers are
written out in decimal digits with a point, queries are read by `UrlEncoded`, and
an expression matches the texts it is a part of.
-/

namespace VoltFleet

/-! ## Numbers as text -/

/-- Digits with a point in front of the last `j` of them; none if there are none. -/
def pointed (j : Nat) (digits : List Char) : List Char :=
  if j = 0 then digits
  else digits.take (digits.length - j) ++ '.' :: digits.drop (digits.length - j)

/-- The decimal digits of a number whose denominator is `2 ^ j`, at least `j` of them. -/
def ratDigits (j : Nat) (q : ℚ) : List Char :=
  let digits := Nat.toDigits 10 (q.num.natAbs * 5 ^ j)
  List.replicate (j - digits.length) '0' ++ digits

/-- A number with a finite decimal expansion, as text. -/
def ratText (q : ℚ) : List Char :=
  (if q.num < 0 then ['-'] else []) ++ pointed q.den.log2 (ratDigits q.den.log2 q)

/-- The value of decimal digits with or without a point. -/
def readDecimal (l : List Char) : Option ℚ :=
  let fraction := (l.dropWhile (· ≠ '.')).drop 1
  (decimal (l.takeWhile (· ≠ '.') ++ fraction)).map fun n : Nat =>
    (n : ℚ) / 10 ^ fraction.length

/-- The number a text without blanks at its ends stands for. -/
def readNumber (l : List Char) : JsNumber :=
  let value := if l.head? = some '-' then (readDecimal l.tail).map fun q => -q else readDecimal l
  if l = [] then .finite 0
  else
    match value with
    | none => .nan
    | some q => .rounded q

theorem decimal_toDigits (n : Nat) : decimal (Nat.toDigits 10 n) = some n := by
  have hne : Nat.toDigits 10 n ≠ [] := Nat.toDigits_ne_nil
  have hall : (Nat.toDigits 10 n).all Char.isDigit = true := by
    rw [List.all_eq_true]
    exact fun c hc => Nat.isDigit_of_mem_toDigits (by decide) (by decide) hc
  have hvalue := Nat.ofDigitChars_toDigits (b := 10) (n := n) (by decide) (by decide)
  rw [Nat.ofDigitChars_eq_foldl] at hvalue
  cases hl : Nat.toDigits 10 n with
  | nil => exact absurd hl hne
  | cons c l =>
    rw [hl] at hall hvalue
    rw [decimal, if_pos hall]
    · exact congrArg some hvalue
    · simp

/-- Leading zeros do not count. -/
theorem decimal_replicate (k n : Nat) :
    decimal (List.replicate k '0' ++ Nat.toDigits 10 n) = some n := by
  induction k with
  | zero => exact decimal_toDigits n
  | succ k ih =>
    rw [List.replicate_succ, List.cons_append, decimal]
    · cases hl : List.replicate k '0' ++ Nat.toDigits 10 n with
      | nil =>
        rw [hl] at ih
        cases ih
      | cons c l =>
        rw [hl, decimal] at ih
        · simpa using ih
        · simp
    · simp

/-- A digit is neither a sign, a point nor a blank. -/
theorem isDigit_ne {c : Char} (h : c.isDigit = true) :
    c ≠ '-' ∧ c ≠ '.' ∧ isBlank c = false := by
  have hbounds : 48 ≤ c.toNat ∧ c.toNat ≤ 57 := Char.isDigit_iff_toNat.mp h
  refine ⟨?_, ?_, ?_⟩
  · rintro rfl
    exact absurd hbounds.1 (by decide)
  · rintro rfl
    exact absurd hbounds.1 (by decide)
  · refine decide_eq_false ?_
    simp only [List.mem_cons, List.not_mem_nil, or_false]
    omega

theorem isDigit_of_ratDigits {j : Nat} {q : ℚ} {c : Char} (h : c ∈ ratDigits j q) :
    c.isDigit = true := by
  rcases List.mem_append.mp h with hzero | hdigit
  · rw [List.eq_of_mem_replicate hzero]
    decide
  · exact Nat.isDigit_of_mem_toDigits (by decide) (by decide) hdigit

theorem le_length_ratDigits (j : Nat) (q : ℚ) : j ≤ (ratDigits j q).length := by
  simp only [ratDigits, List.length_append, List.length_replicate]
  omega

theorem mem_pointed {j : Nat} {digits : List Char} {c : Char} (h : c ∈ pointed j digits) :
    c ∈ digits ∨ c = '.' := by
  unfold pointed at h
  split at h
  · exact .inl h
  · rcases List.mem_append.mp h with hfront | hback
    · exact .inl (List.mem_of_mem_take hfront)
    · rcases List.mem_cons.mp hback with rfl | hback
      · exact .inr rfl
      · exact .inl (List.mem_of_mem_drop hback)

/-- The point is read where it was written. -/
theorem readDecimal_pointed {j : Nat} {digits : List Char} (hj : j ≤ digits.length)
    (hdigits : ∀ c ∈ digits, c.isDigit = true) :
    readDecimal (pointed j digits) = (decimal digits).map fun n : Nat => (n : ℚ) / 10 ^ j := by
  have hpoint : ∀ l : List Char, (∀ c ∈ l, c ∈ digits) → ∀ c ∈ l, decide (c ≠ '.') = true :=
    fun l hl c hc => decide_eq_true (isDigit_ne (hdigits c (hl c hc))).2.1
  unfold readDecimal pointed
  by_cases hzero : j = 0
  · have hself := hpoint digits fun c hc => hc
    rw [if_pos hzero, List.takeWhile_eq_self_iff.mpr hself, List.dropWhile_eq_nil_iff.mpr hself,
      hzero]
    simp
  · have hfront := hpoint (digits.take (digits.length - j)) fun c hc => List.mem_of_mem_take hc
    have hlength : (digits.drop (digits.length - j)).length = j := by
      rw [List.length_drop]
      omega
    rw [if_neg hzero, takeWhile_append_cons hfront rfl, dropWhile_append_cons hfront rfl,
      List.drop_one, List.tail_cons]
    dsimp only
    rw [List.take_append_drop, hlength]

theorem isBlank_of_mem_ratText {q : ℚ} {c : Char} (h : c ∈ ratText q) : isBlank c = false := by
  unfold ratText at h
  rcases List.mem_append.mp h with hsign | h
  · split at hsign
    · rw [List.mem_singleton.mp hsign]
      rfl
    · cases hsign
  · rcases mem_pointed h with hdigit | rfl
    · exact (isDigit_ne (isDigit_of_ratDigits hdigit)).2.2
    · rfl

/-- A text without blanks is not trimmed. -/
theorem trim_of_no_blank {l : List Char} (h : ∀ c ∈ l, isBlank c = false) :
    trim (String.ofList l) = String.ofList l := by
  have hfront : l.dropWhile isBlank = l := by
    cases l with
    | nil => rfl
    | cons c l => rw [List.dropWhile_cons_of_neg (by simp [h c List.mem_cons_self])]
  have hback : l.rdropWhile isBlank = l := by
    rw [List.rdropWhile_eq_self_iff]
    intro hl
    simp [h _ (List.getLast_mem hl)]
  rw [trim, String.toList_ofList, hfront, hback]

/-- The digits of a number over a power of two are those of its size. -/
theorem readDecimal_ratDigits {j : Nat} {q : ℚ} (hden : q.den = 2 ^ j) :
    readDecimal (pointed j (ratDigits j q)) = some |q| := by
  have hvalue : ((q.num.natAbs * 5 ^ j : Nat) : ℚ) / 10 ^ j = |q| := by
    have hten : (10 : ℚ) ^ j = 5 ^ j * 2 ^ j := by rw [← mul_pow]; norm_num
    have hdiv : |q| = q.num.natAbs / q.den := by
      conv_lhs => rw [← Rat.num_div_den q]
      rw [abs_div, Nat.cast_natAbs, Int.cast_abs, abs_of_nonneg (Nat.cast_nonneg (α := ℚ) q.den)]
    rw [hdiv, hden, hten, Nat.cast_mul, Nat.cast_pow, Nat.cast_pow, Nat.cast_ofNat,
      Nat.cast_ofNat, mul_comm, mul_div_mul_left _ _ (pow_ne_zero j (by norm_num))]
  rw [readDecimal_pointed (le_length_ratDigits j q) fun c hc => isDigit_of_ratDigits hc,
    ratDigits, decimal_replicate, Option.map_some, hvalue]

/-- A number that is a number of ECMAScript is read back. -/
theorem readNumber_ratText {q : ℚ} (hq : JsNumber.Held q) : readNumber (ratText q) = .finite q := by
  obtain ⟨j, hden⟩ := Rounding.den_of_held hq
  have hlog : q.den.log2 = j := by rw [hden, Nat.log2_two_pow]
  have hread : readDecimal (pointed j (ratDigits j q)) = some |q| := readDecimal_ratDigits hden
  have hne : pointed j (ratDigits j q) ≠ [] := by
    intro hnil
    rw [hnil] at hread
    cases hread
  by_cases hneg : q.num < 0
  · have htext : ratText q = '-' :: pointed j (ratDigits j q) := by
      rw [ratText, hlog, if_pos hneg, List.singleton_append]
    have habs : -|q| = q := by rw [abs_of_neg (Rat.num_neg.mp hneg), neg_neg]
    simp only [htext, readNumber, List.head?_cons, List.tail_cons, hread, Option.map_some, habs,
      if_true, if_neg (List.cons_ne_nil _ _)]
    exact JsNumber.rounded_of_held hq
  · have htext : ratText q = pointed j (ratDigits j q) := by
      rw [ratText, hlog, if_neg hneg, List.nil_append]
    have habs : |q| = q := abs_of_nonneg (Rat.num_nonneg.mp (not_lt.mp hneg))
    have hsign : (pointed j (ratDigits j q)).head? ≠ some '-' := by
      intro hhead
      rcases mem_pointed (List.mem_of_head? hhead) with hdigit | hpoint
      · exact (isDigit_ne (isDigit_of_ratDigits hdigit)).1 rfl
      · cases hpoint
    simp only [htext, readNumber, if_neg hsign, hread, habs, if_neg hne]
    exact JsNumber.rounded_of_held hq

/-! ## The parameters of a query -/

/-- The parameters with different names; of the ones with one name the last. -/
def distinct : List (String × String) → List (String × String)
  | [] => []
  | p :: params =>
      if p.1 ∈ (distinct params).map Prod.fst then distinct params else p :: distinct params

theorem nodup_distinct (params : List (String × String)) :
    ((distinct params).map Prod.fst).Nodup := by
  induction params with
  | nil => exact List.nodup_nil
  | cons p params ih =>
    rw [distinct]
    split
    next => exact ih
    next hp => exact List.nodup_cons.mpr ⟨hp, ih⟩

theorem length_distinct_le (params : List (String × String)) :
    (distinct params).length ≤ params.length := by
  induction params with
  | nil => exact le_rfl
  | cons p params ih =>
    rw [distinct]
    split
    · exact Nat.le_succ_of_le ih
    · exact Nat.succ_le_succ ih

theorem distinct_eq_self {params : List (String × String)} (h : (params.map Prod.fst).Nodup) :
    distinct params = params := by
  induction params with
  | nil => rfl
  | cons p params ih =>
    obtain ⟨hp, hparams⟩ := List.nodup_cons.mp h
    rw [distinct, ih hparams, if_neg hp]

/-- Express's query parser, without brackets. -/
def plainQuery (text : String) : List (String × String) :=
  distinct ((UrlEncoded.parse text).take parameterLimit)

theorem plainQuery_encode {params : List (String × String)} (h : (params.map Prod.fst).Nodup) :
    plainQuery (UrlEncoded.encode params) = params.take parameterLimit := by
  rw [plainQuery, UrlEncoded.parse_encode]
  exact distinct_eq_self (h.sublist ((List.take_sublist _ _).map _))

/-! ## The platform -/

/-- `Number(text)`. -/
def plainNumber (text : String) : JsNumber := readNumber (trim text).toList

/-- `String(number)`, with all digits. -/
def plainNumberText : JsNumber → String
  | .finite q => String.ofList (ratText q)
  | .nan => "NaN"
  | .negInfinity => "-Infinity"
  | .posInfinity => "Infinity"

theorem plainNumber_trim (text : String) : plainNumber (trim text) = plainNumber text := by
  rw [plainNumber, trim_trim, plainNumber]

theorem plainNumber_plainNumberText {q : ℚ} (hq : JsNumber.Held q) :
    plainNumber (plainNumberText (.finite q)) = .finite q := by
  rw [plainNumber, plainNumberText, trim_of_no_blank fun c hc => isBlank_of_mem_ratText hc,
    String.toList_ofList, readNumber_ratText hq]

/-- A text is read as a number or as none. -/
theorem plainNumber_cases (text : String) :
    plainNumber text = .nan ∨ ∃ q, JsNumber.Held q ∧ plainNumber text = .finite q := by
  unfold plainNumber readNumber
  dsimp only
  split
  · exact .inr ⟨0, JsNumber.held_natCast (n := 0) (by decide), rfl⟩
  · split
    · exact .inl rfl
    · exact .inr ⟨_, Rounding.held_nearest (by decide), rfl⟩

theorem plainNumber_converted (text : String) :
    plainNumber (plainNumberText (plainNumber text)) = plainNumber text := by
  rcases plainNumber_cases text with hnan | ⟨q, hq, hfinite⟩
  · rw [hnan]
    decide +kernel
  · rw [hfinite, plainNumber_plainNumberText hq]

theorem plainNumber_held {text : String} {q : ℚ} (h : plainNumber text = .finite q) :
    JsNumber.Held q := by
  rcases plainNumber_cases text with hnan | ⟨q', hq', hfinite⟩
  · rw [hnan] at h
    cases h
  · rw [hfinite] at h
    cases h
    exact hq'

/-- The routes, under the global prefix. -/
def plainRoute (path : String) : Option Endpoint :=
  if path = "/api/v1/auth/users" then some .getAllUsers
  else if path = "/api/v1/auth/user/roles" then some .getAllRoles
  else if path = "/api/v1/auth/role/privileges" then some .getAllPrivileges
  else if path = "/api/v1/audit/logs" then some .getAuditLogs
  else
    let front := "/api/v1/telemetry/".toList
    let back := "/history".toList
    if front.isPrefixOf path.toList ∧ back.isSuffixOf path.toList then
      some (.history (String.ofList ((path.toList.drop front.length).rdrop back.length)))
    else none

/-- The plain platform with numbers and queries that are read back. -/
def Platform.plainWeb : Platform :=
  { Platform.plain with
    number := plainNumber
    numberText := plainNumberText
    urlEncode := UrlEncoded.encode }

@[simp] theorem plainWeb_number : Platform.plainWeb.number = plainNumber := by
  simp only [Platform.plainWeb]

@[simp] theorem plainWeb_numberText : Platform.plainWeb.numberText = plainNumberText := by
  simp only [Platform.plainWeb]

@[simp] theorem plainWeb_urlEncode : Platform.plainWeb.urlEncode = UrlEncoded.encode := by
  simp only [Platform.plainWeb]

/-- The plain functions of the list endpoints. -/
def Web.plain : Web where
  toPlatform := Platform.plainWeb
  route := plainRoute
  parseQuery := plainQuery
  isDateString text := text.toList.all fun c => c.isDigit || c == '-'
  date text := decimal (text.toList.filter Char.isDigit)
  regExp pattern :=
    some fun text => decide ((asciiLower pattern).toList <:+: (asciiLower text).toList)
  number_held h := plainNumber_held (by rwa [plainWeb_number] at h)
  number_numberText hq _ _ := by
    rw [plainWeb_number, plainWeb_numberText, plainNumber_plainNumberText hq]
  number_converted text := by
    rw [plainWeb_number, plainWeb_numberText, plainNumber_converted]
  number_trim text := by rw [plainWeb_number, plainNumber_trim]
  parseQuery_nodup _ := nodup_distinct _
  parseQuery_length _ := (length_distinct_le _).trans (List.length_take_le _ _)
  parseQuery_urlEncode h _ name := by rw [plainWeb_urlEncode, plainQuery_encode h]

end VoltFleet
