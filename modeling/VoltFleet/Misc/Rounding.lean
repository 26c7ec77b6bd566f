import Mathlib.Data.Int.Log
import Mathlib.Data.Nat.Prime.Basic
import Mathlib.Data.Rat.Floor
import Mathlib.Tactic.Linarith
import Mathlib.Tactic.Positivity

/-!
# Numbers of a limited precision

Arithmetic in numbers of `p` binary digits takes the nearest such number for an
exact result, the one whose last digit is even for a result half-way between two.
The exponent is unbounded, so that nothing overflows and nothing underflows.
-/

namespace Rounding

/-- The nearest integer, the even one of two that are equally near. -/
def toEven (q : ℚ) : ℤ :=
  if q - ⌊q⌋ < 1 / 2 then ⌊q⌋
  else if 1 / 2 < q - ⌊q⌋ then ⌊q⌋ + 1
  else ⌊q⌋ + ⌊q⌋ % 2

/-- The distance of the numbers of `p` digits that are as large as `q`. -/
def spacing (p : ℕ) (q : ℚ) : ℚ := 2 ^ (Int.log 2 |q| - (p - 1))

/-- The number of `p` digits an exact result `q` is rounded to. -/
def nearest (p : ℕ) (q : ℚ) : ℚ := toEven (q / spacing p q) * spacing p q

/-- `q` is a number of `p` digits. -/
def Held (p : ℕ) (q : ℚ) : Prop := nearest p q = q

instance (p : ℕ) (q : ℚ) : Decidable (Held p q) := inferInstanceAs (Decidable (_ = _))

/-! ## Integers -/

@[simp] theorem toEven_intCast (m : ℤ) : toEven m = m := by
  simp [toEven]

theorem abs_toEven_sub_le (q : ℚ) : |(toEven q : ℚ) - q| ≤ 1 / 2 := by
  have hlow : (⌊q⌋ : ℚ) ≤ q := Int.floor_le q
  have hhigh : q < ⌊q⌋ + 1 := Int.lt_floor_add_one q
  have hparity : (0 : ℚ) ≤ (⌊q⌋ % 2 : ℤ) ∧ ((⌊q⌋ % 2 : ℤ) : ℚ) ≤ 1 := by
    constructor
    · exact_mod_cast Int.emod_nonneg ⌊q⌋ (by decide)
    · exact_mod_cast (show ⌊q⌋ % 2 ≤ 1 by omega)
  rw [abs_le]
  unfold toEven
  split_ifs <;> push_cast <;> constructor <;> linarith

theorem toEven_le {q : ℚ} {m : ℤ} (h : q ≤ m) : toEven q ≤ m := by
  have hlt : (toEven q : ℚ) < m + 1 := by linarith [(abs_le.mp (abs_toEven_sub_le q)).2]
  have : toEven q < m + 1 := by exact_mod_cast hlt
  omega

theorem le_toEven {q : ℚ} {m : ℤ} (h : m ≤ q) : m ≤ toEven q := by
  have hlt : (m : ℚ) < toEven q + 1 := by linarith [(abs_le.mp (abs_toEven_sub_le q)).1]
  have : m < toEven q + 1 := by exact_mod_cast hlt
  omega

theorem abs_toEven_le {q : ℚ} {n : ℕ} (h : |q| ≤ n) : |toEven q| ≤ n := by
  obtain ⟨hlow, hhigh⟩ := abs_le.mp h
  exact abs_le.mpr ⟨le_toEven (by simpa using hlow), toEven_le (by simpa using hhigh)⟩

/-! ## The spacing -/

section

variable {p : ℕ} {q : ℚ}

theorem spacing_pos (p : ℕ) (q : ℚ) : 0 < spacing p q := zpow_pos (by norm_num) _

/-- The power of two a number begins with. -/
theorem zpow_log_le (hq : q ≠ 0) : (2 : ℚ) ^ Int.log 2 |q| ≤ |q| := by
  exact_mod_cast Int.zpow_log_le_self (b := 2) (by decide) (abs_pos.mpr hq)

theorem lt_zpow_log (q : ℚ) : |q| < (2 : ℚ) ^ (Int.log 2 |q| + 1) := by
  exact_mod_cast Int.lt_zpow_succ_log_self (b := 2) (by decide) |q|

theorem spacing_mul : spacing p q * 2 ^ p = 2 ^ (Int.log 2 |q| + 1) := by
  rw [spacing, ← zpow_natCast, ← zpow_add₀ (by norm_num)]
  congr 1
  ring

/-- In units of its spacing a number has at most `p` digits. -/
theorem abs_div_spacing_lt : |q / spacing p q| < 2 ^ p := by
  rw [abs_div, abs_of_pos (spacing_pos p q), div_lt_iff₀ (spacing_pos p q), mul_comm,
    spacing_mul]
  exact lt_zpow_log q

/-- The spacing is at most what the last of `p` digits counts. -/
theorem spacing_le (hq : q ≠ 0) : spacing p q ≤ 2 * (|q| / 2 ^ p) := by
  have hlog : (2 : ℚ) ^ Int.log 2 |q| ≤ |q| := zpow_log_le hq
  have hspacing : spacing p q * 2 ^ p = 2 ^ Int.log 2 |q| * 2 := by
    rw [spacing_mul, zpow_add_one₀ (by norm_num)]
  rw [← mul_div_assoc, le_div_iff₀ (by positivity), hspacing]
  linarith

/-! ## The error -/

@[simp] theorem nearest_zero : nearest p 0 = 0 := by
  have heven : toEven 0 = 0 := by simpa using toEven_intCast 0
  rw [nearest, zero_div, heven, Int.cast_zero, zero_mul]

/-- A rounded number is off by half a digit at most. -/
theorem abs_nearest_sub_le : |nearest p q - q| ≤ |q| / 2 ^ p := by
  by_cases hq : q = 0
  · simp [hq]
  · have hspacing : 0 < spacing p q := spacing_pos p q
    have herror : |(toEven (q / spacing p q) : ℚ) - q / spacing p q| ≤ 1 / 2 :=
      abs_toEven_sub_le _
    have hscaled : nearest p q - q =
        ((toEven (q / spacing p q) : ℚ) - q / spacing p q) * spacing p q := by
      rw [sub_mul, div_mul_cancel₀ q (ne_of_gt hspacing), nearest]
    calc |nearest p q - q|
        = |(toEven (q / spacing p q) : ℚ) - q / spacing p q| * spacing p q := by
          rw [hscaled, abs_mul, abs_of_pos hspacing]
      _ ≤ 1 / 2 * spacing p q := by gcongr
      _ ≤ |q| / 2 ^ p := by linarith [spacing_le (p := p) hq]

theorem nearest_pos (hp : 0 < p) (hq : 0 < q) : 0 < nearest p q := by
  have herror : |nearest p q - q| ≤ q / 2 ^ p := by
    simpa [abs_of_pos hq] using abs_nearest_sub_le (p := p) (q := q)
  have hsmall : q / 2 ^ p < q := div_lt_self hq (one_lt_pow₀ (by norm_num) (by omega))
  linarith [(abs_le.mp herror).1]

theorem nearest_nonneg (hp : 0 < p) (hq : 0 ≤ q) : 0 ≤ nearest p q := by
  rcases hq.eq_or_lt with rfl | hpos
  · exact nearest_zero.ge
  · exact (nearest_pos hp hpos).le

/-! ## The numbers that are kept -/

/-- A number of `p` digits is one whose digits before the last exponent make an integer
below `2 ^ p`. -/
theorem held_of_lt {m e : ℤ} (hm : |m| < 2 ^ p) : Held p (m * 2 ^ e) := by
  by_cases hzero : m = 0
  · simp [hzero, Held]
  · have hscale : (0 : ℚ) < 2 ^ e := zpow_pos (by norm_num) e
    have hm' : (0 : ℚ) < |(m : ℚ)| := by positivity
    have habs : |(m * 2 ^ e : ℚ)| = |(m : ℚ)| * 2 ^ e := by
      rw [abs_mul, abs_of_pos hscale]
    have hlog : Int.log 2 |(m * 2 ^ e : ℚ)| < e + p := by
      refine (Int.lt_zpow_iff_log_lt (by decide) (by rw [habs]; positivity)).mp ?_
      have hlt : |(m : ℚ)| < 2 ^ p := by exact_mod_cast hm
      rw [habs, Nat.cast_ofNat, zpow_add₀ (by norm_num), mul_comm, zpow_natCast]
      gcongr
    -- the spacing is a power of two that is at most `2 ^ e`, so it divides the number
    obtain ⟨d, hd⟩ : ∃ d : ℕ, e = Int.log 2 |(m * 2 ^ e : ℚ)| - (p - 1) + d :=
      ⟨(e - (Int.log 2 |(m * 2 ^ e : ℚ)| - (p - 1))).toNat, by omega⟩
    have hpower : (2 : ℚ) ^ e = 2 ^ d * spacing p (m * 2 ^ e) := by
      conv_lhs => rw [hd]
      rw [zpow_add₀ (by norm_num), zpow_natCast, mul_comm, spacing]
    have hquotient : (m * 2 ^ e : ℚ) / spacing p (m * 2 ^ e) = (m * 2 ^ d : ℤ) := by
      rw [div_eq_iff (ne_of_gt (spacing_pos _ _))]
      push_cast
      rw [mul_assoc, ← hpower]
    rw [Held, nearest, hquotient, toEven_intCast, ← hquotient,
      div_mul_cancel₀ _ (ne_of_gt (spacing_pos _ _))]

theorem held_of_le (hp : 0 < p) {m e : ℤ} (hm : |m| ≤ 2 ^ p) : Held p (m * 2 ^ e) := by
  rcases hm.lt_or_eq with hlt | heq
  · exact held_of_lt hlt
  · have hone : (1 : ℤ) < 2 ^ p := one_lt_pow₀ (by decide) (by omega)
    have hscale : (2 : ℚ) ^ (e + p) = 2 ^ p * 2 ^ e := by
      rw [zpow_add₀ (by norm_num), zpow_natCast, mul_comm]
    rcases abs_eq (by positivity) |>.mp heq with hpos | hneg
    · have hheld : Held p ((1 : ℤ) * 2 ^ (e + p)) := held_of_lt (by simpa using hone)
      simpa [hscale, hpos] using hheld
    · have hheld : Held p ((-1 : ℤ) * 2 ^ (e + p)) := held_of_lt (by simpa using hone)
      simpa [hscale, hneg] using hheld

theorem held_nearest (hp : 0 < p) : Held p (nearest p q) := by
  refine held_of_le hp (abs_toEven_le ?_)
  exact_mod_cast abs_div_spacing_lt.le

/-- The integers of `p` digits are kept. -/
theorem held_natCast (hp : 0 < p) {n : ℕ} (h : n ≤ 2 ^ p) : Held p n := by
  have hheld : Held p ((n : ℤ) * 2 ^ (0 : ℤ)) := held_of_le hp (by simpa using mod_cast h)
  simpa using hheld

/-- The large numbers of `p` digits are even. -/
theorem even_of_held (h : Held p q) (hlarge : 2 ^ p ≤ |q|) : ∃ m : ℤ, q = 2 * m := by
  have hq : 0 < |q| := lt_of_lt_of_le (by positivity) hlarge
  have hlog : (p : ℤ) ≤ Int.log 2 |q| := by
    refine (Int.zpow_le_iff_le_log (by decide) hq).mp ?_
    rw [zpow_natCast]
    exact_mod_cast hlarge
  obtain ⟨d, hd⟩ : ∃ d : ℕ, Int.log 2 |q| - (p - 1) = d + 1 :=
    ⟨(Int.log 2 |q| - p).toNat, by omega⟩
  refine ⟨toEven (q / spacing p q) * 2 ^ d, ?_⟩
  have hspacing : spacing p q = 2 * 2 ^ d := by
    rw [spacing, hd, zpow_add_one₀ (by norm_num), zpow_natCast, mul_comm]
  calc q = toEven (q / spacing p q) * spacing p q := h.symm
    _ = toEven (q / spacing p q) * (2 * 2 ^ d) := by rw [hspacing]
    _ = 2 * ((toEven (q / spacing p q) * 2 ^ d : ℤ) : ℚ) := by push_cast; ring

/-- A number of `p` digits is an integer over a power of two. -/
theorem den_of_held (h : Held p q) : ∃ j, q.den = 2 ^ j := by
  obtain ⟨m, e, hq⟩ : ∃ m e : ℤ, q = m * 2 ^ e :=
    ⟨toEven (q / spacing p q), Int.log 2 |q| - (p - 1), h.symm⟩
  rcases Int.le_total 0 e with he | he
  · obtain ⟨k, rfl⟩ := Int.eq_ofNat_of_zero_le he
    refine ⟨0, ?_⟩
    have hint : q = ((m * 2 ^ k : ℤ) : ℚ) := by
      rw [hq]
      push_cast
      rw [zpow_natCast]
    rw [hint, Rat.den_intCast, pow_zero]
  · obtain ⟨k, hk⟩ := Int.exists_eq_neg_ofNat he
    have hdiv : q = (m : ℚ) / ((2 ^ k : ℤ) : ℚ) := by
      rw [hq, hk, zpow_neg, zpow_natCast, div_eq_mul_inv]
      push_cast
      rfl
    have hdvd : (q.den : ℤ) ∣ 2 ^ k := by
      rw [hdiv, ← Rat.divInt_eq_div]
      exact Rat.den_dvd m (2 ^ k)
    obtain ⟨j, -, hj⟩ := (Nat.dvd_prime_pow Nat.prime_two).mp (by exact_mod_cast hdvd)
    exact ⟨j, hj⟩

/-- Where a number and its successor are both kept, the numbers have not run out of digits. -/
theorem le_of_held_add_one (hq : 1 ≤ q) (h : Held p q) (hnext : Held p (q + 1)) :
    q + 1 ≤ 2 ^ p := by
  by_contra hlarge
  have hlarge : 2 ^ p < q + 1 := not_le.mp hlarge
  obtain ⟨m, hm⟩ := even_of_held hnext (by rw [abs_of_pos (by linarith)]; exact hlarge.le)
  -- `q` is an integer, so it has reached `2 ^ p` as well and is even too
  have hinteger : q = ((2 * m - 1 : ℤ) : ℚ) := by push_cast; linarith
  have hreached : (2 : ℚ) ^ p ≤ q := by
    rw [hinteger] at hlarge ⊢
    have : (2 ^ p : ℤ) < 2 * m - 1 + 1 := by exact_mod_cast hlarge
    exact_mod_cast (show (2 ^ p : ℤ) ≤ 2 * m - 1 by omega)
  obtain ⟨n, hn⟩ := even_of_held h (by rwa [abs_of_pos (by linarith)])
  have hparity : (2 * m - 1 : ℤ) = 2 * n := by
    rw [hinteger] at hn
    exact_mod_cast hn
  omega

/-! ## Rounding keeps the order -/

/-- A multiple of the spacing that is not above a number is not above what it is rounded to. -/
theorem le_nearest_of_multiple {m : ℤ} (h : m * spacing p q ≤ q) :
    m * spacing p q ≤ nearest p q := by
  have hle : m ≤ toEven (q / spacing p q) :=
    le_toEven ((le_div_iff₀ (spacing_pos p q)).mpr h)
  have hpos := spacing_pos p q
  unfold nearest
  gcongr

theorem nearest_le_of_multiple {m : ℤ} (h : q ≤ m * spacing p q) :
    nearest p q ≤ m * spacing p q := by
  have hle : toEven (q / spacing p q) ≤ m :=
    toEven_le ((div_le_iff₀ (spacing_pos p q)).mpr h)
  have hpos := spacing_pos p q
  unfold nearest
  gcongr

/-- Numbers between the same two powers of two have one spacing. -/
theorem spacing_eq {b : ℚ} (hlow : 2 ^ Int.log 2 |q| ≤ b) (hhigh : b < 2 ^ (Int.log 2 |q| + 1)) :
    spacing p b = spacing p q := by
  have hb : 0 < b := (zpow_pos (by norm_num) _).trans_le hlow
  have hlog : Int.log 2 b = Int.log 2 |q| := by
    apply le_antisymm
    · rw [← Int.lt_add_one_iff]
      exact (Int.lt_zpow_iff_log_lt (by decide) hb).mp (by exact_mod_cast hhigh)
    · exact (Int.zpow_le_iff_le_log (by decide) hb).mp (by exact_mod_cast hlow)
  rw [spacing, spacing, abs_of_pos hb, hlog]

/-- A kept number that is not above another one is not above what that is rounded to. -/
theorem le_nearest_of_held (hp : 0 < p) {a : ℚ} (ha : Held p a) (hpos : 0 < a) (h : a ≤ q) :
    a ≤ nearest p q := by
  have habs : |q| = q := abs_of_pos (hpos.trans_le h)
  have hlow : (2 : ℚ) ^ Int.log 2 |q| ≤ q := (zpow_log_le (hpos.trans_le h).ne').trans habs.le
  have hhigh : q < (2 : ℚ) ^ (Int.log 2 |q| + 1) := habs.ge.trans_lt (lt_zpow_log q)
  by_cases hbelow : a < 2 ^ Int.log 2 |q|
  · -- the power of two between them is a multiple of the spacing
    have hpower : (2 : ℚ) ^ Int.log 2 |q| = ((2 ^ (p - 1) : ℕ) : ℤ) * spacing p q := by
      rw [spacing, Int.cast_natCast, Nat.cast_pow, Nat.cast_ofNat, ← zpow_natCast,
        ← zpow_add₀ (by norm_num)]
      congr 1
      omega
    have hmultiple : ((2 ^ (p - 1) : ℕ) : ℤ) * spacing p q ≤ nearest p q :=
      le_nearest_of_multiple (hpower.symm.trans_le hlow)
    exact hbelow.le.trans (hpower.trans_le hmultiple)
  · have hspacing : spacing p a = spacing p q := spacing_eq (not_lt.mp hbelow) (h.trans_lt hhigh)
    have hmultiple : toEven (a / spacing p q) * spacing p q = a := by
      rw [← hspacing]
      exact ha
    exact hmultiple.ge.trans (le_nearest_of_multiple (hmultiple.trans_le h))

/-- A kept number that is not below another one is not below what that is rounded to. -/
theorem nearest_le_of_held {b : ℚ} (hb : Held p b) (hq : 0 < q) (h : q ≤ b) :
    nearest p q ≤ b := by
  have habs : |q| = q := abs_of_pos hq
  have hlow : (2 : ℚ) ^ Int.log 2 |q| ≤ q := (zpow_log_le hq.ne').trans habs.le
  have hhigh : q < (2 : ℚ) ^ (Int.log 2 |q| + 1) := habs.ge.trans_lt (lt_zpow_log q)
  by_cases habove : 2 ^ (Int.log 2 |q| + 1) ≤ b
  · have hpower : ((2 ^ p : ℕ) : ℤ) * spacing p q = (2 : ℚ) ^ (Int.log 2 |q| + 1) := by
      rw [← spacing_mul, mul_comm]
      push_cast
      rfl
    have hmultiple : nearest p q ≤ ((2 ^ p : ℕ) : ℤ) * spacing p q :=
      nearest_le_of_multiple (hhigh.le.trans hpower.ge)
    exact hmultiple.trans (hpower.trans_le habove)
  · have hspacing : spacing p b = spacing p q :=
      spacing_eq (hlow.trans h) (not_le.mp habove)
    have hmultiple : toEven (b / spacing p q) * spacing p q = b := by
      rw [← hspacing]
      exact hb
    exact (nearest_le_of_multiple (h.trans hmultiple.ge)).trans hmultiple.le

/-! ## Quotients of integers -/

/-- A quotient of integers of `p` digits is rounded up to the same integer before and after it
is rounded to `p` digits. -/
theorem ceil_nearest_div {n k : ℕ} (hn : n < 2 ^ p) (hk : 0 < k) :
    ⌈nearest p (n / k)⌉ = ⌈(n / k : ℚ)⌉ := by
  have hk' : (0 : ℚ) < k := by exact_mod_cast hk
  rcases n.eq_zero_or_pos with rfl | hpos
  · simp
  have hp : 0 < p := by
    by_contra hzero
    simp only [Nat.eq_zero_of_not_pos hzero, pow_zero] at hn
    omega
  have hquotient : (0 : ℚ) < n / k := by positivity
  obtain ⟨c, hc⟩ : ∃ c : ℕ, ⌈(n / k : ℚ)⌉ = c :=
    ⟨⌈(n / k : ℚ)⌉.toNat, (Int.toNat_of_nonneg (Int.ceil_nonneg hquotient.le)).symm⟩
  obtain ⟨hbelow, habove⟩ := Int.ceil_eq_iff.mp hc
  rw [hc, Int.ceil_eq_iff]
  rw [Int.cast_natCast] at hbelow habove ⊢
  constructor
  · -- the error is below the distance of two quotients with the divisor `k`
    have herror : |nearest p (n / k) - n / k| < 1 / k := by
      calc |nearest p (n / k) - n / k|
          ≤ |(n / k : ℚ)| / 2 ^ p := abs_nearest_sub_le
        _ = n / 2 ^ p / k := by rw [abs_of_pos hquotient, div_right_comm]
        _ < 1 / k := by
          gcongr
          rw [div_lt_one (by positivity)]
          exact_mod_cast hn
    have hstep : (c - 1 : ℚ) + 1 / k ≤ n / k := by
      rw [lt_div_iff₀ hk'] at hbelow
      have hlt : ((c : ℤ) - 1) * k < n := by exact_mod_cast hbelow
      have hle : ((c - 1) * k + 1 : ℚ) ≤ n := by exact_mod_cast hlt
      rw [le_div_iff₀ hk', add_mul, one_div_mul_cancel hk'.ne']
      exact hle
    linarith [(abs_lt.mp herror).1]
  · have hcount : c ≤ 2 ^ p := by
      have hle : (c : ℚ) < n + 1 := by
        have hself : (n / k : ℚ) ≤ n := div_le_self (by positivity) (by exact_mod_cast hk)
        linarith
      have : c < n + 1 := by exact_mod_cast hle
      omega
    exact nearest_le_of_held (held_natCast hp hcount) hquotient habove

end

end Rounding
