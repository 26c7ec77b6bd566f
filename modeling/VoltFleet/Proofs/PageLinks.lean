import VoltFleet.PlainWeb
import VoltFleet.Proofs.Pages

/-!
# The links of a block

Both links are written from one object, which carries `page=null` while there is no
page to link to, and are cut off the URL of the request.  Here their queries are
read back, and the pagination of the next page is asked for the page before.  Pages
and items are counted exactly up to `Number.MAX_SAFE_INTEGER`.
-/

namespace VoltFleet

/-- What ECMAScript says of the texts of numbers and the URL standard of queries. -/
structure Conversions (P : Platform) (parse : String → List (String × String)) : Prop where
  parse_urlEncode : ∀ params, parse (P.urlEncode params) = params
  number_numberText : ∀ n : Nat, 1 ≤ n → n ≤ 2 ^ 53 →
    P.number (P.numberText (.finite n)) = .finite n
  number_null : P.number "null" = .nan

/-- The two parameters are there once, with these values, and the others are as they were. -/
structure Replaced (page perPage : String) (query query' : List (String × String)) : Prop where
  page : query'.filter (·.1 = "page") = [("page", page)]
  perPage : query'.filter (·.1 = "perPage") = [("perPage", perPage)]
  others : query'.filter (fun p => p.1 ≠ "page" ∧ p.1 ≠ "perPage") =
    query.filter fun p => p.1 ≠ "page" ∧ p.1 ≠ "perPage"

/-- A link to a page of the list that was asked for. -/
structure LinkTo (P : Platform) (parse : String → List (String × String)) (req : Request)
    (page : Nat) (perPage : String) (url : String) : Prop where
  before : beforeQuery url = req.protocol ++ "://" ++ req.host ++ req.path
  query : Replaced (P.numberText (.finite page)) perPage req.query (parse (afterQuery url))
  not_null : ("page", "null") ∉ parse (afterQuery url)

/-- What a handler gets for a text: the text itself, or the number a DTO has made of it. -/
inductive NumericParam.Of (P : Platform) (text : String) : NumericParam → Prop where
  | string : Of P text ⟨text, P.number text⟩
  | number : Of P text ⟨P.numberText (P.number text), P.number text⟩

/-- What a handler gets for a parameter of the request. -/
def Request.Gives (P : Platform) (req : Request) (name : String) (p : NumericParam) : Prop :=
  ∃ text, req.param name = some text ∧ NumericParam.Of P text p

/-- The request that is made with a URL. -/
structure Request.MadeWith (parse : String → List (String × String)) (req : Request)
    (url : String) : Prop where
  baseUrl : req.baseUrl = url
  query : req.query = parse (afterQuery url)

/-- The page next to a page. -/
def Direction.step : Direction → Nat → Nat
  | .prev, page => page - 1
  | .next, page => page + 1

/-- The links of the block of page `p` with `k` items are those of the pages next to it. -/
structure PageLinks (P : Platform) (parse : String → List (String × String)) (p k : Nat)
    (perPage : NumericParam) (totalItems : Nat) (req : Request) (pagination : Pagination) :
    Prop where
  next_isSome : pagination.nextUrl.isSome = true ↔ p < ⌈(totalItems : ℚ) / k⌉₊
  prev_isSome : pagination.prevUrl.isSome = true ↔ 1 < p
  links : ∀ (d : Direction) url, d.link pagination = some url →
    LinkTo P parse req (d.step p) perPage.text url
  /-- From the next page the link to the one before leads back. -/
  back : ∀ url, pagination.nextUrl = some url → ∀ req' : Request, req'.MadeWith parse url →
    ∀ page' perPage', req'.Gives P "page" page' → req'.Gives P "perPage" perPage' →
      ∀ {α : Type} (items : List α), perPage'.value = perPage.value ∧ ∃ r' url',
        generatePagination P page' perPage' totalItems (some req') items = .ok r' ∧
          r'.pagination.prevUrl = some url' ∧
          Replaced (P.numberText (.finite p)) perPage'.text req.query (parse (afterQuery url'))

theorem replaced_linkParams (page perPage : String) (query : List (String × String)) :
    Replaced page perPage query (linkParams page perPage query) := by
  constructor
  · have hperPage : (linkParams page perPage query).filter (fun q => decide (q.1 = "page")) =
        (setParam "page" page query).filter fun q => decide (q.1 = "page") :=
      filter_setParam_of_not (p := fun n => decide (n = "page")) (by decide)
    exact hperPage.trans filter_setParam_self
  · exact filter_setParam_self
  · have hothers : ∀ name ∈ ["page", "perPage"], ∀ value params,
        (setParam name value params).filter (fun p => p.1 ≠ "page" ∧ p.1 ≠ "perPage") =
          params.filter fun p => p.1 ≠ "page" ∧ p.1 ≠ "perPage" := by
      intro name hname value params
      refine filter_setParam_of_not (p := fun n => decide (n ≠ "page" ∧ n ≠ "perPage")) ?_
      rcases List.mem_pair.mp hname with rfl | rfl <;> decide
    rw [linkParams, hothers "perPage" (by simp), hothers "page" (by simp)]

/-- The number of the page a link is to, as long as it is counted exactly. -/
theorem Direction.target_natCast {d : Direction} {p : Nat} (hp : 1 ≤ p)
    (hsafe : p ≤ JsNumber.maxSafeInteger) :
    d.target (.finite p) = .finite (d.step p : Nat) := by
  unfold JsNumber.maxSafeInteger at hsafe
  cases d with
  | prev =>
    have hshift : (p : ℚ) - 1 = (p - 1 : Nat) := by rw [Nat.cast_sub hp, Nat.cast_one]
    show JsNumber.rounded ((p : ℚ) - 1) = _
    rw [hshift]
    exact JsNumber.rounded_of_held (JsNumber.held_natCast (by omega))
  | next =>
    have hshift : (p : ℚ) - -1 = (p + 1 : Nat) := by
      push_cast
      ring
    show JsNumber.rounded ((p : ℚ) - -1) = _
    rw [hshift]
    exact JsNumber.rounded_of_held (JsNumber.held_natCast (by omega))

section

variable {α : Type} {P : Platform} {parse : String → List (String × String)}
  {page perPage : NumericParam} {totalItems p k : Nat} {req : Request} {items : List α}
  {r : PaginationResult α}

theorem NumericParam.Of.value {text : String} {p : NumericParam} (h : NumericParam.Of P text p) :
    p.value = P.number text := by
  cases h <;> rfl

/-- What is read back of the query of a link. -/
theorem parse_link (hconv : Conversions P parse)
    (h : generatePagination P page perPage totalItems (some req) items = .ok r) {d : Direction}
    {url : String} (hurl : d.link r.pagination = some url) :
    parse (afterQuery url) =
      linkParams (P.numberText (d.target page.value)) perPage.text req.query := by
  obtain ⟨rfl, -⟩ := generatePagination_link h hurl
  rw [afterQuery_append, hconv.parse_urlEncode]

/-- There is a link in the direction of every page that the list has. -/
theorem isSome_iff (hpage : page.value = .finite p) (hperPage : perPage.value = .finite k)
    (hk : 1 ≤ k) (hitems : totalItems ≤ JsNumber.maxSafeInteger)
    (h : generatePagination P page perPage totalItems (some req) items = .ok r) :
    (r.pagination.nextUrl.isSome = true ↔ p < ⌈(totalItems : ℚ) / k⌉₊) ∧
      (r.pagination.prevUrl.isSome = true ↔ 1 < p) := by
  obtain ⟨hnext, hprev⟩ := generatePagination_isSome h
  constructor
  · have hk' : (0 : ℚ) < k := Nat.cast_pos.mpr hk
    rw [hnext, hpage, hperPage, ceil_div_natCast hitems hk, JsNumber.lt, decide_eq_true_eq,
      Nat.cast_lt, Pages.lt_count_iff hk, Nat.lt_ceil, lt_div_iff₀ hk']
    exact_mod_cast Iff.rfl
  · rw [hprev, hpage, JsNumber.lt, decide_eq_true_eq, Nat.one_lt_cast]

theorem linkTo_of_link (hconv : Conversions P parse) (hprotocol : '?' ∉ req.protocol.toList)
    (hhost : '?' ∉ req.host.toList) (hpage : page.value = .finite p) (hp : 1 ≤ p)
    (hsafe : p ≤ JsNumber.maxSafeInteger)
    (h : generatePagination P page perPage totalItems (some req) items = .ok r) {d : Direction}
    {url : String} (hurl : d.link r.pagination = some url) :
    LinkTo P parse req (d.step p) perPage.text url := by
  have hparse := parse_link hconv h hurl
  rw [hpage, Direction.target_natCast hp hsafe] at hparse
  have hreplaced :=
    replaced_linkParams (P.numberText (.finite (d.step p : Nat))) perPage.text req.query
  rw [← hparse] at hreplaced
  have hrange : 1 ≤ d.step p ∧ d.step p ≤ 2 ^ 53 := by
    have hfirst := (generatePagination_link h hurl).2
    rw [hpage, JsNumber.lt, decide_eq_true_eq, Nat.one_lt_cast] at hfirst
    unfold JsNumber.maxSafeInteger at hsafe
    cases d with
    | prev =>
      have hlater : 1 < p := hfirst rfl
      simp only [Direction.step]
      omega
    | next =>
      simp only [Direction.step]
      omega
  refine ⟨?_, hreplaced, fun hnull => ?_⟩
  · obtain ⟨rfl, -⟩ := generatePagination_link h hurl
    rw [beforeQuery_append, beforeQuery_baseUrl hprotocol hhost]
  · -- the text of the page would be the one of a number that is none
    have hmem : ("page", "null") ∈ [("page", P.numberText (.finite (d.step p : Nat)))] := by
      rw [← hreplaced.page]
      exact List.mem_filter.mpr ⟨hnull, by decide⟩
    have htext : P.numberText (.finite (d.step p : Nat)) = "null" :=
      ((Prod.mk.inj (List.mem_singleton.mp hmem)).2).symm
    have hnumber := hconv.number_numberText (d.step p) hrange.1 hrange.2
    rw [htext, hconv.number_null] at hnumber
    cases hnumber

theorem back_of_next (hconv : Conversions P parse) (hpage : page.value = .finite p) (hp : 1 ≤ p)
    (hsafe : p ≤ JsNumber.maxSafeInteger)
    (hperPage : perPage.value = .finite k) (hk : 1 ≤ k)
    (hitems : totalItems ≤ JsNumber.maxSafeInteger)
    (hsize : P.number perPage.text = perPage.value)
    (h : generatePagination P page perPage totalItems (some req) items = .ok r) {url : String}
    (hurl : r.pagination.nextUrl = some url) {req' : Request} (hreq' : req'.MadeWith parse url)
    {page' perPage' : NumericParam} (hpage' : req'.Gives P "page" page')
    (hperPage' : req'.Gives P "perPage" perPage') {β : Type} (items' : List β) :
    perPage'.value = perPage.value ∧ ∃ r' url',
      generatePagination P page' perPage' totalItems (some req') items' = .ok r' ∧
        r'.pagination.prevUrl = some url' ∧
        Replaced (P.numberText (.finite p)) perPage'.text req.query (parse (afterQuery url')) := by
  have htarget : Direction.next.target page.value = .finite (p + 1 : Nat) := by
    rw [hpage]
    exact Direction.target_natCast hp hsafe
  have hquery : req'.query = linkParams (P.numberText (.finite (p + 1 : Nat))) perPage.text
      req.query := by
    rw [hreq'.query, parse_link (d := .next) hconv h hurl, htarget]
  have hcarried :=
    replaced_linkParams (P.numberText (.finite (p + 1 : Nat))) perPage.text req.query
  rw [← hquery] at hcarried
  obtain ⟨text, htext, hof⟩ := hpage'
  obtain ⟨size, hsize', hof'⟩ := hperPage'
  cases htext.symm.trans (lookup_of_filter hcarried.page)
  cases hsize'.symm.trans (lookup_of_filter hcarried.perPage)
  have hvalue : perPage'.value = perPage.value := hof'.value.trans hsize
  refine ⟨hvalue, ?_⟩
  -- there is a page after this one, so that it is counted exactly as well
  have hlast : p + 1 ≤ JsNumber.maxSafeInteger := by
    have hmore := (isSome_iff hpage hperPage hk hitems h).1.mp (by rw [hurl]; rfl)
    have hitem : ⌈(totalItems : ℚ) / k⌉₊ ≤ totalItems := by
      refine Nat.ceil_le.mpr (div_le_self (Nat.cast_nonneg _) ?_)
      exact_mod_cast hk
    omega
  have hnext : page'.value = .finite (p + 1 : Nat) := by
    rw [hof.value]
    exact hconv.number_numberText (p + 1) (Nat.le_add_left 1 p) (hlast.trans (Nat.sub_le _ _))
  have hfirst : page'.value.lt (.finite 1) = false := by
    rw [hnext, JsNumber.lt, decide_eq_false_iff_not, not_lt]
    exact_mod_cast Nat.le_add_left 1 p
  have hpositive : perPage'.value.lt (.finite 1) = false := by
    rw [hvalue, hperPage, JsNumber.lt, decide_eq_false_iff_not, not_lt]
    exact_mod_cast hk
  obtain ⟨r', hr'⟩ : ∃ r', generatePagination P page' perPage' totalItems (some req') items' =
    .ok r' := exists_generatePagination hfirst hpositive
  have hprev : r'.pagination.prevUrl.isSome = true :=
    (isSome_iff hnext (hvalue.trans hperPage) hk hitems hr').2.mpr (by omega)
  obtain ⟨url', hurl'⟩ := Option.isSome_iff_exists.mp hprev
  refine ⟨r', url', hr', hurl', ?_⟩
  have hback : Direction.prev.target page'.value = .finite p := by
    rw [hnext, Direction.target_natCast (Nat.le_add_left 1 p) hlast]
    rfl
  rw [parse_link (d := .prev) hconv hr' hurl', hback, hquery, linkParams_linkParams]
  exact replaced_linkParams _ _ _

/-- For every page, page size and number of items that are counted exactly the block is built, and
its links are those of the pages before and after. -/
theorem pagination_links (hconv : Conversions P parse) (hpage : page.value = .finite p)
    (hp : 1 ≤ p) (hsafe : p ≤ JsNumber.maxSafeInteger) (hperPage : perPage.value = .finite k)
    (hk : 1 ≤ k) (hsize : P.number perPage.text = perPage.value)
    (hitems : totalItems ≤ JsNumber.maxSafeInteger)
    (hprotocol : req.protocol = "http" ∨ req.protocol = "https")
    (hhost : '?' ∉ req.host.toList) (items : List α) :
    ∃ r, generatePagination P page perPage totalItems (some req) items = .ok r ∧
      PageLinks P parse p k perPage totalItems req r.pagination := by
  have hmark : '?' ∉ req.protocol.toList := by
    rcases hprotocol with h | h <;> rw [h] <;> decide
  have hfirst : page.value.lt (.finite 1) = false := by
    rw [hpage, JsNumber.lt, decide_eq_false_iff_not, not_lt]
    exact_mod_cast hp
  have hpositive : perPage.value.lt (.finite 1) = false := by
    rw [hperPage, JsNumber.lt, decide_eq_false_iff_not, not_lt]
    exact_mod_cast hk
  obtain ⟨r, hr⟩ : ∃ r, generatePagination P page perPage totalItems (some req) items = .ok r :=
    exists_generatePagination hfirst hpositive
  obtain ⟨hnext, hprev⟩ := isSome_iff hpage hperPage hk hitems hr
  refine ⟨r, hr, hnext, hprev, ?_, ?_⟩
  · exact fun d url hurl => linkTo_of_link hconv hmark hhost hpage hp hsafe hr hurl
  · intro url hurl req' hreq' page' perPage' hpage' hperPage' β items'
    exact back_of_next hconv hpage hp hsafe hperPage hk hitems hsize hr hurl hreq' hpage' hperPage'
      items'

end

/-! ## The first page of two -/

theorem conversions_plain : Conversions Platform.plainWeb UrlEncoded.parse where
  parse_urlEncode := UrlEncoded.parse_encode
  number_numberText n _ hsafe := by
    rw [plainWeb_number, plainWeb_numberText]
    exact plainNumber_plainNumberText (JsNumber.held_natCast hsafe)
  number_null := by decide +kernel

/-- `GET /api/v1/telemetry/:vehicleId/history?from=2024-01-01&perPage=1`. -/
def readingsRequest : Request :=
  ⟨"http", "localhost:3000",
    "/api/v1/telemetry/00000000-0000-4000-8000-000000000001/history?from=2024-01-01&perPage=1",
    [("from", "2024-01-01"), ("perPage", "1")]⟩

/-- The first of two readings, one on a page. -/
theorem pagination_links_first : ∃ r,
    generatePagination Platform.plainWeb ⟨"1", .finite 1⟩ ⟨"1", .finite 1⟩ 2
        (some readingsRequest) ["first"] = .ok r ∧
      PageLinks Platform.plainWeb UrlEncoded.parse 1 1 ⟨"1", .finite 1⟩ 2 readingsRequest
        r.pagination ∧
      r.pagination.prevUrl = none ∧
      r.pagination.nextUrl = some ("http://localhost:3000/api/v1/telemetry/" ++
        "00000000-0000-4000-8000-000000000001/history?from=2024-01-01&perPage=1&page=2") := by
  have hlinks : (generatePagination Platform.plainWeb ⟨"1", .finite 1⟩ ⟨"1", .finite 1⟩ 2
      (some readingsRequest) ["first"]).map (fun r => (r.pagination.prevUrl,
        r.pagination.nextUrl)) =
      .ok (none, some ("http://localhost:3000/api/v1/telemetry/" ++
        "00000000-0000-4000-8000-000000000001/history?from=2024-01-01&perPage=1&page=2")) := by
    decide +kernel
  obtain ⟨r, hr, hpageLinks⟩ : ∃ r, generatePagination Platform.plainWeb ⟨"1", .finite 1⟩
      ⟨"1", .finite 1⟩ 2 (some readingsRequest) ["first"] = .ok r ∧
        PageLinks Platform.plainWeb UrlEncoded.parse 1 1 ⟨"1", .finite 1⟩ 2 readingsRequest
          r.pagination :=
    pagination_links (p := 1) (k := 1) conversions_plain (by decide +kernel) (by decide)
      (by decide) (by decide +kernel) (by decide) (by decide +kernel) (by decide) (.inl rfl)
      (by decide) ["first"]
  rw [hr] at hlinks
  have hpair := Except.ok.inj hlinks
  exact ⟨r, hr, hpageLinks, congrArg Prod.fst hpair, congrArg Prod.snd hpair⟩

/-- `GET /api/v1/telemetry/:vehicleId/history?page=900000000000000000&perPage=1`. -/
def farRequest : Request :=
  ⟨"http", "localhost:3000",
    "/api/v1/telemetry/00000000-0000-4000-8000-000000000001/history" ++
      "?page=900000000000000000&perPage=1",
    [("page", "900000000000000000"), ("perPage", "1")]⟩

/-- The number before this page is none of ECMAScript: the link to the page before names the page
itself. -/
theorem prevUrl_names_same_page : ∃ r url,
    Platform.plainWeb.number "900000000000000000" = .finite (900000000000000000 : Nat) ∧
      generatePagination Platform.plainWeb ⟨"900000000000000000", .finite 900000000000000000⟩
        ⟨"1", .finite 1⟩ 1 (some farRequest) ["only"] = .ok r ∧
      r.pagination.prevUrl = some url ∧
      (UrlEncoded.parse (afterQuery url)).lookup "page" = some "900000000000000000" ∧
      ¬LinkTo Platform.plainWeb UrlEncoded.parse farRequest (900000000000000000 - 1) "1" url := by
  have hlink : (generatePagination Platform.plainWeb
      ⟨"900000000000000000", .finite 900000000000000000⟩ ⟨"1", .finite 1⟩ 1 (some farRequest)
      ["only"]).map (fun r => r.pagination.prevUrl) =
      .ok (some ("http://localhost:3000/api/v1/telemetry/" ++
        "00000000-0000-4000-8000-000000000001/history?page=900000000000000000&perPage=1")) := by
    decide +kernel
  obtain ⟨r, hr, hprev⟩ := exists_of_map_eq_ok hlink
  refine ⟨r, _, by decide +kernel, hr, hprev, by decide +kernel, fun h => ?_⟩
  have hpage := h.query.page
  revert hpage
  decide +kernel

end VoltFleet
