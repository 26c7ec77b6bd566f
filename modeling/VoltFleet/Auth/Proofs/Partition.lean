import VoltFleet.PlainWeb
import VoltFleet.Proofs.Pages

/-!
# The pages of the auth lists partition them

While a table does not change, the pages of `getAllUsers`, `getAllRoles` and
`getAllPrivileges` are the consecutive parts of one sorted list, as long as their
size is a natural number or everything fits on the first of them.  A size with a
fraction is accepted and rounded by the database, but not in the page count.
-/

namespace VoltFleet

open Awaiting

/-- `findAndCount` returns the rows of every page that can be asked for: the database takes every
row count, and the search text. -/
structure Platform.Finds (P : Platform) (search : Option String) : Prop where
  counts : ∀ n, P.takesCount n = true
  search : P.TakesSearch search

/-- The order of the collation is total and transitive. -/
structure Platform.Collates (P : Platform) : Prop where
  total : ∀ a b, P.collate a b = true ∨ P.collate b a = true
  trans : ∀ a b c, P.collate a b = true → P.collate b c = true → P.collate a c = true

namespace AuthList

section

variable (P : Platform) (s : Store) (requests : PageRequests P) (perPage search : Option String)
  (list : AuthList)

/-- The answer to the request for page `p`. -/
def answer (p : Nat) : Except Thrown (PaginationResult list.Row) :=
  ((list.call P (requests.page p) perPage search (requests.req p)).run (exec P) s).1

/-- The pages `r` are the parts of the list of the matching rows, as far as there are numbers to ask
for them. -/
structure Partition (n m : Nat) (r : Nat → PaginationResult list.Row) : Prop where
  answers : ∀ p, 1 ≤ p → P.Asks p → list.answer P s requests perPage search p = .ok (r p)
  total : n = (list.matching P s search).length
  totals : ∀ p, 1 ≤ p → P.Asks p → (r p).pagination.totalItems = n ∧
    (r p).pagination.totalPages = .finite (m : ℚ)
  all : ((List.range m).flatMap fun i => (r (i + 1)).data).Perm (list.matching P s search)
  inOrder : ((List.range m).flatMap fun i => (r (i + 1)).data).Pairwise
    fun a b => list.inOrder P a b = true
  full : ∀ p, 1 ≤ p → p < m →
    (P.param perPage 10).value = .finite ((r p).data.length : ℚ)
  last : 1 ≤ m → 1 ≤ (r m).data.length ∧
    (JsNumber.finite ((r m).data.length : ℚ)).le (P.param perPage 10).value = true
  empty : m = 0 ↔ list.matching P s search = []
  past : ∀ p, m < p → P.Asks p → (r p).data = []
  next : ∀ p, 1 ≤ p → P.Asks p → ((r p).pagination.nextUrl = none ↔ m ≤ p)
  /-- The pages of the list can be asked for. -/
  asks : ∀ p, 1 ≤ p → p ≤ m → P.Asks p

/-- The page size is a natural number, or a fraction that no second page is needed for. -/
def SizeFits : Prop :=
  ∃ k : ℚ, (P.param perPage 10).value = .finite k ∧ Fits k (list.matching P s search).length

end

variable {P : Platform} {s : Store} {requests : PageRequests P} {perPage search : Option String}
  {list : AuthList}

theorem inOrder_total (hcollate : P.Collates) (a b : list.Row) :
    (list.inOrder P a b || list.inOrder P b a) = true := by
  rw [Bool.or_eq_true]
  cases list with
  | getAllUsers => exact hcollate.total _ _
  | getAllRoles => exact hcollate.total _ _
  | getAllPrivileges => exact hcollate.total _ _

theorem inOrder_trans (hcollate : P.Collates) (a b c : list.Row)
    (hab : list.inOrder P a b = true) (hbc : list.inOrder P b c = true) :
    list.inOrder P a c = true := by
  cases list with
  | getAllUsers => exact hcollate.trans _ _ _ hab hbc
  | getAllRoles => exact hcollate.trans _ _ _ hbc hab
  | getAllPrivileges => exact hcollate.trans _ _ _ hbc hab

/-- What is left out of a row has no part in the order. -/
theorem inOrder_sent (a b : list.Row) :
    list.inOrder P (list.sent a) (list.sent b) = list.inOrder P a b := by
  cases list <;> rfl

theorem sorted_perm : (list.sorted P s search).Perm (list.matching P s search) :=
  (List.mergeSort_perm _ _).map _

theorem sorted_pairwise (hcollate : P.Collates) :
    (list.sorted P s search).Pairwise fun a b => list.inOrder P a b = true := by
  rw [sorted, List.pairwise_map]
  simp only [inOrder_sent]
  exact List.pairwise_mergeSort (inOrder_trans hcollate) (inOrder_total hcollate) _

theorem length_sorted : (list.sorted P s search).length = (list.matching P s search).length :=
  sorted_perm.length_eq

theorem answer_eq_ok {p : Nat} {r : PaginationResult list.Row} :
    list.answer P s requests perPage search p = .ok r ↔ P.TakesSearch search ∧
      listing P (P.param (requests.page p) 1) (P.param perPage 10) (requests.req p)
        (list.sorted P s search) = .ok r := by
  rw [answer, run_call, Endpoint.mapError_eq_ok, bind_eq_ok]
  simp [sendSearch_eq_ok]

/-- Where the size fits, every answer is a page of one natural size. -/
theorem exists_answers (requests : PageRequests P) {k : ℚ} (hk : 1 ≤ k)
    (hperPage : (P.param perPage 10).value = .finite k)
    (hrows : (list.sorted P s search).length ≤ JsNumber.maxSafeInteger)
    (hfits : Fits k (list.sorted P s search).length) (hsearch : P.TakesSearch search)
    (htakes : P.takesCount (nearest k) = true) :
    ∃ r : Nat → PaginationResult list.Row, ∀ p, 1 ≤ p → P.Asks p →
      P.takesCount (nearest (skipped p k)) = true →
      list.answer P s requests perPage search p = .ok (r p) ∧
        IsPage (effectiveSize k (list.sorted P s search).length) p (list.sorted P s search)
          (r p) := by
  have hpage : ∀ p, 1 ≤ p → P.Asks p → P.takesCount (nearest (skipped p k)) = true →
      ∃ r, list.answer P s requests perPage search p = .ok r ∧
        IsPage (effectiveSize k (list.sorted P s search).length) p (list.sorted P s search) r := by
    intro p hp hasks hskips
    obtain ⟨r, hr, hpage⟩ : ∃ r, listing P (P.param (requests.page p) 1) (P.param perPage 10)
        (requests.req p) (list.sorted P s search) = .ok r ∧ _ :=
      exists_page_of_fits (requests.reads p hasks) hperPage hp hk hrows hfits hskips htakes
    exact ⟨r, answer_eq_ok.mpr ⟨hsearch, hr⟩, hpage⟩
  have hfirst : P.takesCount (nearest (skipped (1 : Nat) k)) = true := by
    have hzero : skipped (1 : Nat) k = (0 : Nat) := by simp [skipped]
    rw [hzero, nearest_natCast]
    exact P.takesCount_safe (Nat.zero_le _)
  obtain ⟨r₁, -⟩ := hpage 1 le_rfl (requests.asks 1 le_rfl (by decide)) hfirst
  have hresult : Nonempty (PaginationResult list.Row) := ⟨r₁⟩
  choose! r hr using hpage
  exact ⟨r, hr⟩

theorem partition_of_fits (hcollate : P.Collates) (hfinds : P.Finds search) {k : ℚ} (hk : 1 ≤ k)
    (hperPage : (P.param perPage 10).value = .finite k)
    (hrows : (list.matching P s search).length ≤ JsNumber.maxSafeInteger)
    (hfits : Fits k (list.matching P s search).length) :
    ∃ n m r, list.Partition P s requests perPage search n m r := by
  rw [← length_sorted] at hrows hfits
  obtain ⟨r, hr⟩ : ∃ r : Nat → PaginationResult list.Row, _ :=
    exists_answers requests hk hperPage hrows hfits hfinds.search (hfinds.counts _)
  have hsize : 1 ≤ effectiveSize k (list.sorted P s search).length := effectiveSize_pos hk
  have hasks : ∀ p, 1 ≤ p → p ≤ Pages.count (effectiveSize k (list.sorted P s search).length)
      (list.sorted P s search).length → P.Asks p :=
    fun p hp hlast => requests.asks p hp (hlast.trans (count_le_safe hsize hrows))
  have hpage : ∀ p, 1 ≤ p → P.Asks p → list.answer P s requests perPage search p = .ok (r p) ∧
      IsPage (effectiveSize k (list.sorted P s search).length) p (list.sorted P s search) (r p) :=
    fun p hp hasks => hr p hp hasks (hfinds.counts _)
  have hlisted : ∀ p, 1 ≤ p → p ≤ Pages.count (effectiveSize k (list.sorted P s search).length)
      (list.sorted P s search).length →
      IsPage (effectiveSize k (list.sorted P s search).length) p (list.sorted P s search) (r p) :=
    fun p hp hlast => (hpage p hp (hasks p hp hlast)).2
  refine ⟨(list.sorted P s search).length,
    Pages.count (effectiveSize k (list.sorted P s search).length)
      (list.sorted P s search).length, r, ?_⟩
  constructor
  case answers => exact fun p hp hasks => (hpage p hp hasks).1
  case total => exact length_sorted
  case totals =>
    exact fun p hp hasks => ⟨(hpage p hp hasks).2.totalItems, (hpage p hp hasks).2.totalPages⟩
  case all =>
    rw [flatMap_isPage hsize hlisted]
    exact sorted_perm
  case inOrder =>
    rw [flatMap_isPage hsize hlisted]
    exact sorted_pairwise hcollate
  case full =>
    intro p hp hlast
    have hfull : (Pages.page (effectiveSize k (list.sorted P s search).length) (p - 1)
        (list.sorted P s search)).length = effectiveSize k (list.sorted P s search).length :=
      Pages.length_page_of_lt_last hsize (by omega)
    rw [(hlisted p hp hlast.le).data, hfull, hperPage, effectiveSize_eq hk (by omega)]
  case last =>
    intro hpages
    rw [(hlisted _ hpages le_rfl).data, hperPage]
    refine ⟨(Pages.length_page_pos hsize).mpr (by omega), ?_⟩
    have hlength : ((Pages.page (effectiveSize k (list.sorted P s search).length)
        (Pages.count (effectiveSize k (list.sorted P s search).length)
          (list.sorted P s search).length - 1) (list.sorted P s search)).length : ℚ) ≤
        effectiveSize k (list.sorted P s search).length := by
      rw [Pages.length_page]
      exact_mod_cast Nat.min_le_left _ _
    exact JsNumber.le_finite.mpr (hlength.trans (effectiveSize_le hk hfits))
  case empty =>
    rw [Pages.count_eq_zero hsize, length_sorted, List.length_eq_zero_iff]
  case past =>
    intro p hp hasks
    rw [(hpage p (by omega) hasks).2.data, Pages.page_eq_nil hsize]
    omega
  case next => exact fun p hp hasks => (hpage p hp hasks).2.nextUrl
  case asks => exact hasks

/-- With any other size there is no such partition. -/
theorem fits_of_partition {n m : Nat} {r : Nat → PaginationResult list.Row}
    (hpartition : list.Partition P s requests perPage search n m r) :
    list.SizeFits P s perPage search := by
  have hasks : P.Asks 1 := requests.asks 1 le_rfl (by decide)
  obtain ⟨-, hfirst⟩ := answer_eq_ok.mp (hpartition.answers 1 le_rfl hasks)
  obtain ⟨_, k, hcuts⟩ := listing_params hfirst
  refine ⟨k, hcuts.perPage, ?_⟩
  by_contra hfits
  rw [Fits, not_or, not_le] at hfits
  obtain ⟨hden, hlength⟩ := hfits
  -- the first page is not full where others follow, and as the only one it is too large
  rcases Nat.lt_trichotomy m 1 with hnone | hone | hmore
  · have hempty := hpartition.empty.mp (by omega)
    rw [hempty, List.length_nil, Nat.cast_zero] at hlength
    exact absurd hcuts.one_le_perPage (by linarith)
  · subst hone
    have hlast := (hpartition.last le_rfl).2
    rw [hcuts.perPage, JsNumber.le_finite] at hlast
    have hall := hpartition.all.length_eq
    rw [List.range_one, List.flatMap_singleton, Nat.zero_add] at hall
    rw [hall] at hlast
    linarith
  · have hfull := hpartition.full 1 le_rfl hmore
    rw [hcuts.perPage] at hfull
    rw [JsNumber.finite.inj hfull] at hden
    exact hden rfl

/-- For every size that is at least one, the pages partition the matching rows exactly if the size
is a natural number or everything is on the first page. -/
theorem partition_iff (hcollate : P.Collates) (hfinds : P.Finds search)
    (hrows : (list.matching P s search).length ≤ JsNumber.maxSafeInteger)
    (hsize : (JsNumber.finite 1).le (P.param perPage 10).value = true) :
    (∃ n m r, list.Partition P s requests perPage search n m r) ↔
      list.SizeFits P s perPage search := by
  constructor
  · intro h
    obtain ⟨n, m, r, hpartition⟩ := h
    exact fits_of_partition hpartition
  · intro h
    obtain ⟨k, hperPage, hfits⟩ := h
    have hk : 1 ≤ k := by
      rw [hperPage] at hsize
      exact JsNumber.le_finite.mp hsize
    exact partition_of_fits hcollate hfinds hk hperPage hrows hfits

end AuthList

/-! ## A size with a fraction -/

theorem collates_plainWeb : Platform.plainWeb.Collates where
  total a b := by
    rcases String.le_total a b with h | h
    · exact .inl (decide_eq_true h)
    · exact .inr (decide_eq_true h)
  trans a b c hab hbc :=
    decide_eq_true (String.le_trans (of_decide_eq_true hab) (of_decide_eq_true hbc))

/-- The same over a database that takes every row count. -/
def Platform.uncapped (P : Platform) : Platform :=
  { P with
    countLimit := none
    countLimit_safe := by simp }

/-- The requests of a client do not depend on the database. -/
def PageRequests.uncapped {P : Platform} (requests : PageRequests P) : PageRequests P.uncapped :=
  ⟨requests.page, requests.req, requests.reads, requests.asks⟩

/-- Two privileges. -/
def twoPrivileges : Store :=
  { Store.empty with
    privileges := (((∅ : Keyed.Table Uuid PrivilegeRow PrivilegeRow.name).put (.ofNat 1)
      ⟨"CAN_VIEW_USERS", none⟩).bind fun t => t.put (.ofNat 2) ⟨"CAN_VIEW_ROLES", none⟩).getD ∅ }

namespace AuthList

theorem partition_iff_default :
    (∃ n m r, AuthList.getAllPrivileges.Partition Platform.plainWeb.uncapped twoPrivileges
        Web.plain.pageRequests.uncapped none none n m r) ↔
      AuthList.getAllPrivileges.SizeFits Platform.plainWeb.uncapped twoPrivileges none none :=
  partition_iff ⟨collates_plainWeb.total, collates_plainWeb.trans⟩ ⟨fun _ => rfl, nofun⟩
    (by decide +kernel) (by decide +kernel)

/-- Two privileges on pages of one and a half: the first page has both. -/
theorem not_partition_fraction :
    ¬∃ n m r, AuthList.getAllPrivileges.Partition Platform.plainWeb twoPrivileges
      Web.plain.pageRequests (some "1.5") none n m r := by
  rintro ⟨n, m, r, hpartition⟩
  obtain ⟨k, hperPage, hfits⟩ := fits_of_partition hpartition
  have hvalue : (Platform.plainWeb.param (some "1.5") 10).value = .finite (3 / 2) := by
    decide +kernel
  rw [hvalue] at hperPage
  cases hperPage
  have hlength : (AuthList.getAllPrivileges.matching Platform.plainWeb twoPrivileges none).length =
      2 := by decide +kernel
  rw [hlength] at hfits
  rcases hfits with h | h
  · exact absurd h (by decide +kernel)
  · exact absurd h (by decide +kernel)

end AuthList

end VoltFleet
