import VoltFleet.Misc.Pages
import VoltFleet.Proofs.Listing

/-!
# The pages an endpoint answers with

Asked for page `p` with a natural number of items, an endpoint answers with that
page of its list, and its block counts the pages as `Pages.count` does.
-/

namespace VoltFleet

theorem nearest_natCast (n : Nat) : nearest n = n := by
  have hfloor : ((n : ℚ) + 1 / 2).floor = n := by
    apply le_antisymm
    · rw [← Int.lt_add_one_iff, Rat.floor_lt_iff]
      push_cast
      linarith
    · rw [Rat.le_floor_iff]
      push_cast
      linarith
  rw [nearest, hfloor, Int.toNat_natCast]

theorem le_nearest {n : Nat} {q : ℚ} (h : (n : ℚ) ≤ q) : n ≤ nearest q := by
  have hfloor : (n : Int) ≤ (q + 1 / 2).floor := by
    rw [Rat.le_floor_iff]
    push_cast
    linarith
  rw [nearest]
  omega

theorem ceil_eq (q : ℚ) : q.ceil = ⌈q⌉ := Rat.ceil_eq_neg_floor_neg q

/-- `Math.ceil(n / k)` is the number of pages, as long as the number of items is counted
exactly. -/
theorem ceil_div_natCast {n k : Nat} (hn : n ≤ JsNumber.maxSafeInteger) (hk : 0 < k) :
    (JsNumber.div n (.finite k)).ceil = .finite (Pages.count k n : ℚ) := by
  have hk' : (0 : ℚ) < k := Nat.cast_pos.mpr hk
  have hle : ∀ m : Nat, ((n : ℚ) / k).ceil ≤ m ↔ Pages.count k n ≤ m := by
    intro m
    rw [Rat.ceil_le_iff, div_le_iff₀ hk', Pages.count_le_iff hk]
    exact_mod_cast Iff.rfl
  have hnonneg : 0 ≤ ((n : ℚ) / k).ceil := by
    have hlt : (-1 : Int) < ((n : ℚ) / k).ceil := by
      rw [Rat.lt_ceil_iff]
      have hdiv : 0 ≤ (n : ℚ) / k := div_nonneg (Nat.cast_nonneg n) hk'.le
      push_cast
      linarith
    omega
  have hceil : ((n : ℚ) / k).ceil = (Pages.count k n : Int) := by
    have hupper : ((n : ℚ) / k).ceil ≤ (Pages.count k n : Int) := (hle _).mpr le_rfl
    have hlower : Pages.count k n ≤ ((n : ℚ) / k).ceil.toNat := (hle _).mp (by omega)
    omega
  have hrounded : (Rounding.nearest JsNumber.precision (n / k)).ceil = ((n : ℚ) / k).ceil := by
    have hdigits : n < 2 ^ JsNumber.precision := by
      unfold JsNumber.maxSafeInteger at hn
      unfold JsNumber.precision
      omega
    rw [ceil_eq, ceil_eq, Rounding.ceil_nearest_div hdigits hk]
  rw [JsNumber.div, if_neg hk'.ne', JsNumber.rounded, JsNumber.ceil, hrounded, hceil]
  rfl

/-- The pages of a list are counted exactly if its rows are. -/
theorem count_le_safe {size n : Nat} (hsize : 1 ≤ size) (hn : n ≤ JsNumber.maxSafeInteger) :
    Pages.count size n ≤ JsNumber.maxSafeInteger :=
  ((Pages.count_le_iff hsize).mpr (Nat.le_mul_of_pos_right n hsize)).trans hn

/-! ## The offset of a page -/

/-- Offsets that are counted exactly are not rounded. -/
theorem skipped_natCast {p k : Nat} (hp : 1 ≤ p) (hk : 1 ≤ k) (h : (p - 1) * k ≤ 2 ^ 53) :
    skipped p k = ((p - 1) * k : Nat) := by
  have hbefore : p - 1 ≤ 2 ^ 53 := (Nat.le_mul_of_pos_right _ hk).trans h
  have hpage : Rounding.nearest JsNumber.precision ((p : ℚ) - 1) = (p - 1 : Nat) := by
    rw [← Nat.cast_one, ← Nat.cast_sub hp]
    exact JsNumber.held_natCast hbefore
  rw [skipped, hpage, ← Nat.cast_mul]
  exact JsNumber.held_natCast h

/-- The offset of a page that is too far for a list is. -/
theorem le_nearest_skipped {n p : Nat} {k : ℚ} (hn : n ≤ JsNumber.maxSafeInteger) (hp : 1 ≤ p)
    (hk : 1 ≤ k) (h : (n : ℚ) ≤ (p - 1 : Nat) * k) : n ≤ nearest (skipped p k) := by
  rcases n.eq_zero_or_pos with rfl | hpos
  · exact Nat.zero_le _
  have hn' : n ≤ 2 ^ 53 := hn.trans (Nat.sub_le _ _)
  have hcast : ((p : ℚ) - 1) = (p - 1 : Nat) := by rw [Nat.cast_sub hp, Nat.cast_one]
  have hbefore : 0 < p - 1 := by
    by_contra hzero
    rw [Nat.eq_zero_of_not_pos hzero, Nat.cast_zero, zero_mul] at h
    exact absurd h (not_le.mpr (Nat.cast_pos.mpr hpos))
  -- what `p - 1` is rounded to is still enough, or it is larger than every count
  have hoffset : (n : ℚ) ≤ Rounding.nearest JsNumber.precision ((p : ℚ) - 1) * k := by
    rw [hcast]
    rcases Nat.le_total (p - 1) (2 ^ 53) with hsmall | hlarge
    · rwa [show Rounding.nearest JsNumber.precision ((p - 1 : Nat) : ℚ) = (p - 1 : Nat) from
        JsNumber.held_natCast hsmall]
    · have hfar : ((2 ^ 53 : Nat) : ℚ) ≤
          Rounding.nearest JsNumber.precision ((p - 1 : Nat) : ℚ) :=
        Rounding.le_nearest_of_held (by decide) (JsNumber.held_natCast le_rfl) (by norm_num)
          (Nat.cast_le.mpr hlarge)
      calc (n : ℚ) ≤ ((2 ^ 53 : Nat) : ℚ) := Nat.cast_le.mpr hn'
        _ ≤ Rounding.nearest JsNumber.precision ((p - 1 : Nat) : ℚ) := hfar
        _ ≤ Rounding.nearest JsNumber.precision ((p - 1 : Nat) : ℚ) * k :=
          le_mul_of_one_le_right ((Nat.cast_nonneg _).trans hfar) hk
  have hskip : (n : ℚ) ≤ skipped p k :=
    Rounding.le_nearest_of_held (by decide) (JsNumber.held_natCast hn') (Nat.cast_pos.mpr hpos)
      hoffset
  exact le_nearest hskip

section

variable {α : Type} {P : Platform} {page perPage : NumericParam} {req : Request}
  {rows : List α} {p k : Nat}

/-- A page number that can be asked for: some text is read as it. -/
def Platform.Asks (P : Platform) (p : Nat) : Prop := ∃ text, P.number text = .finite p

/-- What a client asks for page after page: each page by a text that is read as its number. -/
structure PageRequests (P : Platform) where
  page : Nat → Option String
  req : Nat → Request
  reads : ∀ p, P.Asks p → (P.param (page p) 1).value = .finite p
  asks : ∀ p, 1 ≤ p → p ≤ JsNumber.maxSafeInteger → P.Asks p

/-- Every page is asked for by its number. -/
def Web.pageRequests (W : Web) : PageRequests W.toPlatform where
  page p := some (W.numberText (.finite p))
  req _ := ⟨"http", "localhost:3000", "/api/v1/auth/role/privileges", []⟩
  reads p h := by
    obtain ⟨text, htext⟩ := h
    have hread := W.number_converted text
    rwa [htext] at hread
  asks p hp hsafe := ⟨_, W.number_numberText_natCast hp (hsafe.trans (Nat.sub_le _ _))⟩

/-- The answer to a request for page `p` with `k` items. -/
structure IsPage (k p : Nat) (rows : List α) (r : PaginationResult α) : Prop where
  data : r.data = Pages.page k (p - 1) rows
  totalItems : r.pagination.totalItems = rows.length
  totalPages : r.pagination.totalPages = .finite (Pages.count k rows.length : ℚ)
  nextUrl : r.pagination.nextUrl = none ↔ Pages.count k rows.length ≤ p

/-- The answers to requests for all pages together are the list. -/
theorem flatMap_isPage {k : Nat} (hk : 1 ≤ k) {r : Nat → PaginationResult α}
    (hr : ∀ p, 1 ≤ p → p ≤ Pages.count k rows.length → IsPage k p rows (r p)) :
    (List.range (Pages.count k rows.length)).flatMap (fun i => (r (i + 1)).data) = rows := by
  have hdata : ∀ i ∈ List.range (Pages.count k rows.length),
      (r (i + 1)).data = Pages.page k i rows := by
    intro i hi
    rw [(hr (i + 1) (Nat.le_add_left 1 i) (List.mem_range.mp hi)).data, Nat.add_sub_cancel]
  rw [List.flatMap_congr hdata, Pages.flatMap_pages hk]

/-- Every list of a length that is counted exactly answers every such request whose counts the
database takes. -/
theorem exists_page (hpage : page.value = .finite p) (hperPage : perPage.value = .finite k)
    (hp : 1 ≤ p) (hk : 1 ≤ k) (hrows : rows.length ≤ JsNumber.maxSafeInteger)
    (hskips : P.takesCount (nearest (skipped p k)) = true) (htakes : P.takesCount k = true) :
    ∃ r, listing P page perPage req rows = .ok r ∧ IsPage k p rows r := by
  have hcuts : Cuts P page.value perPage.value p k :=
    ⟨hpage, hperPage, by exact_mod_cast hp, by exact_mod_cast hk, hskips,
      by rwa [nearest_natCast]⟩
  obtain ⟨r, hr, hdata⟩ : ∃ r, listing P page perPage req rows = .ok r ∧ _ := exists_listing hcuts
  obtain ⟨-, -, htotal, -⟩ := listing_page hr
  obtain ⟨htotalPages, hnext⟩ := listing_pages hr
  rw [hperPage, ceil_div_natCast hrows hk] at htotalPages hnext
  refine ⟨r, hr, ⟨?_, htotal, htotalPages, hnext.trans ?_⟩⟩
  · rw [hdata, nearest_natCast, Pages.page]
    rcases Nat.le_total ((p - 1) * k) rows.length with hwithin | hbeyond
    · have hexact : (p - 1) * k ≤ 2 ^ 53 := hwithin.trans (hrows.trans (Nat.sub_le _ _))
      rw [skipped_natCast hp hk hexact, nearest_natCast]
    · have hfar : rows.length ≤ nearest (skipped p k) :=
        le_nearest_skipped hrows hp (by exact_mod_cast hk) (by exact_mod_cast hbeyond)
      rw [List.drop_of_length_le hfar, List.drop_of_length_le hbeyond]
  · rw [hpage, JsNumber.lt, decide_eq_false_iff_not, not_lt]
    exact Nat.cast_le

/-- The offset of a page that the list has is within the list. -/
theorem offset_le (hp : 1 ≤ p) (hk : 1 ≤ k) (hpages : p ≤ max (Pages.count k rows.length) 1) :
    (p - 1) * k ≤ rows.length := by
  rcases hp.eq_or_lt with rfl | hlater
  · rw [Nat.sub_self, Nat.zero_mul]
    exact Nat.zero_le _
  · exact ((Pages.lt_count_iff hk).mp (show p - 1 < Pages.count k rows.length by omega)).le

/-- The offset of such a page is not rounded, and taken. -/
theorem skipped_eq (hp : 1 ≤ p) (hk : 1 ≤ k) (hrows : rows.length ≤ JsNumber.maxSafeInteger)
    (hpages : p ≤ max (Pages.count k rows.length) 1) :
    skipped p k = ((p - 1) * k : Nat) ∧ P.takesCount ((p - 1) * k) = true := by
  have hsafe : (p - 1) * k ≤ JsNumber.maxSafeInteger := (offset_le hp hk hpages).trans hrows
  exact ⟨skipped_natCast hp hk (hsafe.trans (Nat.sub_le _ _)), P.takesCount_safe hsafe⟩

theorem takesCount_skipped (hp : 1 ≤ p) (hk : 1 ≤ k)
    (hrows : rows.length ≤ JsNumber.maxSafeInteger)
    (hpages : p ≤ max (Pages.count k rows.length) 1) :
    P.takesCount (nearest (skipped p k)) = true := by
  obtain ⟨hskipped, htakes⟩ := skipped_eq (P := P) hp hk hrows hpages
  rwa [hskipped, nearest_natCast]

/-- A page that is answered has a size that the database takes. -/
theorem takesCount_of_listing {r : PaginationResult α} (hperPage : perPage.value = .finite k)
    (h : listing P page perPage req rows = .ok r) : P.takesCount k = true := by
  obtain ⟨_, q, hcuts⟩ := listing_params h
  have hsize := hcuts.perPage
  rw [hperPage] at hsize
  cases hsize
  have htakes := hcuts.takes
  rwa [nearest_natCast] at htakes

/-- The block of such a page. -/
theorem exists_generatePagination_page (hpage : page.value = .finite p)
    (hperPage : perPage.value = .finite k) (hp : 1 ≤ p) (hk : 1 ≤ k)
    (hrows : rows.length ≤ JsNumber.maxSafeInteger)
    (hskips : P.takesCount (nearest (skipped p k)) = true) (htakes : P.takesCount k = true) :
    ∃ r, generatePagination P page perPage rows.length (some req) (Pages.page k (p - 1) rows) =
      .ok r ∧ IsPage k p rows r := by
  obtain ⟨r, hr, hispage⟩ : ∃ r, listing P page perPage req rows = .ok r ∧ IsPage k p rows r :=
    exists_page hpage hperPage hp hk hrows hskips htakes
  obtain ⟨⟨items, total⟩, hfind, hblock⟩ := bind_eq_ok.mp hr
  obtain ⟨items', -, hpair⟩ := bind_eq_ok.mp hfind
  cases hpair
  refine ⟨r, ?_, hispage⟩
  rw [← hispage.data, generatePagination_data hblock]
  exact hblock

/-! ## A page size that is no natural number -/

/-- A list that fits on its first page has at most one page. -/
theorem ceil_div_of_le {n : Nat} {q : ℚ} (hq : 1 ≤ q) (h : (n : ℚ) ≤ q) :
    (JsNumber.div n (.finite q)).ceil = .finite (Pages.count (max n 1) n : ℚ) := by
  have hq' : (0 : ℚ) < q := by linarith
  have hceil : (Rounding.nearest JsNumber.precision ((n : ℚ) / q)).ceil =
      (Pages.count (max n 1) n : Int) := by
    cases n with
    | zero =>
      rw [Nat.cast_zero, zero_div, Rounding.nearest_zero]
      simp only [Pages.count]
      rfl
    | succ n =>
      have hquotient : 0 < ((n + 1 : Nat) : ℚ) / q :=
        div_pos (by exact_mod_cast Nat.succ_pos n) hq'
      have hone : ((n + 1 : Nat) : ℚ) / q ≤ (1 : Nat) := by
        rw [div_le_iff₀ hq', Nat.cast_one, one_mul]
        exact h
      have hupper : (Rounding.nearest JsNumber.precision (((n + 1 : Nat) : ℚ) / q)).ceil ≤ 1 := by
        rw [Rat.ceil_le_iff]
        exact_mod_cast
          Rounding.nearest_le_of_held (JsNumber.held_natCast (by decide)) hquotient hone
      have hpositive :
          0 < (Rounding.nearest JsNumber.precision (((n + 1 : Nat) : ℚ) / q)).ceil := by
        rw [Rat.lt_ceil_iff]
        exact_mod_cast Rounding.nearest_pos (by decide) hquotient
      have hcount : Pages.count (max (n + 1) 1) (n + 1) = 1 := by
        rw [Nat.max_eq_left (by omega), Pages.count]
        exact Nat.div_eq_of_lt_le (by omega) (by omega)
      omega
  rw [JsNumber.div, if_neg hq'.ne', JsNumber.rounded, JsNumber.ceil, hceil]
  rfl

/-- The page size is a natural number, or the whole list fits on one page. -/
def Fits (k : ℚ) (n : Nat) : Prop := k.den = 1 ∨ (n : ℚ) ≤ k

/-- The natural number of items that the pages have in effect. -/
def effectiveSize (k : ℚ) (n : Nat) : Nat := if k.den = 1 then k.num.toNat else max n 1

theorem effectiveSize_of_den {k : ℚ} {n : Nat} (hk : 1 ≤ k) (hden : k.den = 1) :
    (effectiveSize k n : ℚ) = k := by
  have hnum : 0 < k.num := Rat.num_pos.mpr (by linarith)
  have hcast : ((k.num.toNat : Int) : ℚ) = (k.num : ℚ) := by
    rw [Int.toNat_of_nonneg hnum.le]
  rw [effectiveSize, if_pos hden]
  calc ((k.num.toNat : Nat) : ℚ) = ((k.num.toNat : Int) : ℚ) := by push_cast; rfl
    _ = (k.num : ℚ) := hcast
    _ = k := Rat.den_eq_one_iff k |>.mp hden

theorem effectiveSize_pos {k : ℚ} {n : Nat} (hk : 1 ≤ k) : 1 ≤ effectiveSize k n := by
  by_cases hden : k.den = 1
  · have hcast : (effectiveSize k n : ℚ) = k := effectiveSize_of_den hk hden
    rw [← hcast] at hk
    exact_mod_cast hk
  · rw [effectiveSize, if_neg hden]
    exact Nat.le_max_right n 1

theorem effectiveSize_le {k : ℚ} {n : Nat} (hk : 1 ≤ k) (hfits : Fits k n) :
    (effectiveSize k n : ℚ) ≤ k := by
  by_cases hden : k.den = 1
  · exact (effectiveSize_of_den hk hden).le
  · rw [effectiveSize, if_neg hden, Nat.cast_max, Nat.cast_one]
    exact max_le (hfits.resolve_left hden) hk

/-- Where the list has two pages, they have the size that was asked for. -/
theorem effectiveSize_eq {k : ℚ} {n : Nat} (hk : 1 ≤ k)
    (hpages : 1 < Pages.count (effectiveSize k n) n) : (effectiveSize k n : ℚ) = k := by
  by_cases hden : k.den = 1
  · exact effectiveSize_of_den hk hden
  · rw [effectiveSize, if_neg hden, Pages.lt_count_iff (by omega)] at hpages
    omega

/-- A list that fits on its first page has nothing on the others. -/
theorem slice_of_le {k : ℚ} (hk : 1 ≤ k) (hrows : rows.length ≤ JsNumber.maxSafeInteger)
    (h : (rows.length : ℚ) ≤ k) (i : Nat) :
    (rows.drop (nearest (skipped (i + 1 : Nat) k))).take (nearest k) =
      Pages.page (max rows.length 1) i rows := by
  rw [Pages.page]
  cases i with
  | zero =>
    have hzero : skipped (0 + 1 : Nat) k = (0 : Nat) := by
      simp [skipped]
    rw [hzero, nearest_natCast, Nat.zero_mul, List.drop_zero, List.take_of_length_le (le_nearest h),
      List.take_of_length_le (Nat.le_max_left _ _)]
  | succ i =>
    have hbeyond : rows.length ≤ nearest (skipped (i + 1 + 1 : Nat) k) := by
      refine le_nearest_skipped hrows (by omega) hk ?_
      have hi : (0 : ℚ) ≤ i * k := mul_nonneg (Nat.cast_nonneg i) (by linarith)
      rw [Nat.add_sub_cancel]
      push_cast
      linarith
    have hbeyond' : rows.length ≤ (i + 1) * max rows.length 1 :=
      le_trans (Nat.le_max_left _ 1) (Nat.le_mul_of_pos_left _ (Nat.succ_pos i))
    rw [List.drop_of_length_le hbeyond, List.drop_of_length_le hbeyond', List.take_nil,
      List.take_nil]

/-- With such a size every list answers with the pages of one natural size. -/
theorem exists_page_of_fits {k : ℚ} (hpage : page.value = .finite p)
    (hperPage : perPage.value = .finite k) (hp : 1 ≤ p) (hk : 1 ≤ k)
    (hrows : rows.length ≤ JsNumber.maxSafeInteger) (hfits : Fits k rows.length)
    (hskips : P.takesCount (nearest (skipped p k)) = true)
    (htakes : P.takesCount (nearest k) = true) :
    ∃ r, listing P page perPage req rows = .ok r ∧
      IsPage (effectiveSize k rows.length) p rows r := by
  by_cases hden : k.den = 1
  · have hsize : (effectiveSize k rows.length : ℚ) = k := effectiveSize_of_den hk hden
    rw [← hsize] at hperPage hskips htakes
    rw [nearest_natCast] at htakes
    exact exists_page hpage hperPage hp (effectiveSize_pos hk) hrows hskips htakes
  · have hlength : (rows.length : ℚ) ≤ k := hfits.resolve_left hden
    have hsize : effectiveSize k rows.length = max rows.length 1 := if_neg hden
    have hcuts : Cuts P page.value perPage.value p k :=
      ⟨hpage, hperPage, by exact_mod_cast hp, hk, hskips, htakes⟩
    obtain ⟨r, hr, hdata⟩ : ∃ r, listing P page perPage req rows = .ok r ∧ _ :=
      exists_listing hcuts
    obtain ⟨-, -, htotal, -⟩ := listing_page hr
    obtain ⟨htotalPages, hnext⟩ := listing_pages hr
    rw [hperPage, ceil_div_of_le hk hlength, ← hsize] at htotalPages hnext
    refine ⟨r, hr, ⟨?_, htotal, htotalPages, hnext.trans ?_⟩⟩
    · obtain ⟨i, rfl⟩ : ∃ i, p = i + 1 := ⟨p - 1, (Nat.sub_add_cancel hp).symm⟩
      rw [hdata, hsize, slice_of_le hk hrows hlength, Nat.add_sub_cancel]
    · rw [hpage, JsNumber.lt, decide_eq_false_iff_not, not_lt]
      exact Nat.cast_le

end

end VoltFleet
