import VoltFleet.PlainWeb
import VoltFleet.Proofs.Listing

/-!
# Following the links of a list

The link of a block is a URL; following it makes another request to the same
route.  The endpoints that read `page` and `perPage` answer it with the
neighbouring page, and the one that reads `page` and `limit` refuses it.
-/

namespace VoltFleet

open Awaiting

/-- A URL leads to a page of the list the filter of `req` selects. -/
def LeadsTo (W : Web) (later : Site) (e : Endpoint) (req : Request) (page perPage : JsNumber)
    (url : String) : Prop :=
  ∃ req' r', W.requestTo url = some req' ∧ W.route req'.path = some e ∧
    e.respond W later req' = .ok r' ∧
    r'.pagination.currentPage.value = page ∧ r'.pagination.itemsPerPage.value = perPage ∧
    r'.pagination.totalItems = (e.selected W later req).length ∧
    slice W.toPlatform ((page.sub 1).mul perPage) perPage (e.selected W later req) = .ok r'.data

/-- The page number a request asks for. -/
def Request.page (W : Web) (req : Request) : JsNumber := (W.param (req.param "page") 1).value

/-- The page a link is to, counted from a page. -/
def Direction.shift : Direction → ℚ → ℚ
  | .prev, q => q - 1
  | .next, q => q + 1

/-- The neighbouring page; `Direction.target` is what the block computes as it. -/
def Direction.neighbour (d : Direction) : JsNumber → JsNumber
  | .finite q => .finite (d.shift q)
  | x => x

/-- The link of a list that reads `perPage`, to a page from the first one on that is a number of
ECMAScript and whose offset the database takes; not one with more parameters than the parser
reads. -/
def Followable (W : Web) (d : Direction) (e : Endpoint) (req : Request) : Prop :=
  e ≠ .getAuditLogs ∧ (req.param "page" ≠ none ∨ req.query.length < parameterLimit) ∧
    ∃ q k, req.page W = .finite q ∧ (W.param (req.param "perPage") 10).value = .finite k ∧
      1 ≤ d.shift q ∧ JsNumber.Held (d.shift q) ∧
      W.takesCount (nearest (skipped (d.shift q) k)) = true

/-! ## What the pipes let pass -/

section

variable {W : Web} {req : Request}

theorem positiveInt_iff {x : JsNumber} :
    ((JsNumber.finite 1).le x = true ∧ x.isInteger = true) ↔ x.PositiveInt := by
  constructor
  · rintro ⟨hle, hint⟩
    cases x with
    | finite q =>
      have hden : q.den = 1 := of_decide_eq_true hint
      have hq : 1 ≤ q := JsNumber.le_finite.mp hle
      have hnum : (q.num : ℚ) = q := (Rat.den_eq_one_iff q).mp hden
      have hpos : 1 ≤ q.num := by
        rw [← hnum] at hq
        exact_mod_cast hq
      refine ⟨q.num.toNat, by omega, ?_⟩
      rw [← hnum, Rat.num_intCast]
      congr 1
      exact_mod_cast (Int.toNat_of_nonneg (by omega)).symm
    | nan => cases hint
    | negInfinity => cases hint
    | posInfinity => cases hint
  · rintro ⟨n, hn, rfl⟩
    have hpos : n ≠ 0 := Nat.one_le_iff_ne_zero.mp hn
    simpa [JsNumber.le, JsNumber.lt, JsNumber.isInteger] using hpos

theorem positiveInt_valid {name isInt min text : String} :
    (∀ v ∈ (DtoField.positiveInt W name isInt min).validators, v.2 text = true) ↔
      (W.number text).PositiveInt := by
  rw [← positiveInt_iff]
  simp [DtoField.positiveInt]

/-- A declared number of a query is a positive integer. -/
theorem positiveInt_of_pipes {fields : List DtoField} {name isInt min : String} {req' : Request}
    (h : pipes fields req = .ok req') (hf : DtoField.positiveInt W name isInt min ∈ fields)
    {text : String} (htext : req.param name = some text) : (W.number text).PositiveInt := by
  obtain ⟨-, -, hvalid⟩ := pipes_eq_ok.mp h
  have hparam : req.trimmed.param name = some (trim text) := by rw [param_trimmed, htext]; rfl
  rw [← W.number_trim]
  exact positiveInt_valid.mp (hvalid _ hf _ hparam)

theorem number_trimmed {name text : String} (h : req.trimmed.param name = some text) :
    ∃ t, req.param name = some t ∧ W.number text = W.number t := by
  rw [param_trimmed, Option.map_eq_some_iff] at h
  obtain ⟨t, ht, rfl⟩ := h
  exact ⟨t, ht, W.number_trim t⟩

/-- A parameter's text denotes its value. -/
theorem number_text_param {text : Option String} {n : Nat} (hn : 1 ≤ n) (hsafe : n ≤ 2 ^ 53) :
    W.number (W.param text n).text = (W.param text n).value := by
  cases text with
  | none => exact W.number_numberText_natCast hn hsafe
  | some text => rfl

/-- A page number that is finite is a number of ECMAScript. -/
theorem held_of_page {q : ℚ} (h : req.page W = .finite q) : JsNumber.Held q := by
  rw [Request.page] at h
  cases htext : req.param "page" with
  | none =>
    rw [htext] at h
    cases h
    exact JsNumber.held_natCast (by decide)
  | some text =>
    rw [htext] at h
    exact W.number_held h

/-- The value of a number of a DTO is the one of the parameter. -/
theorem value_convertedParam {name : String} {n : Nat} :
    (W.param (req.trimmed.convertedParam W name) n).value =
      (W.param (req.param name) n).value := by
  rw [Request.convertedParam, param_trimmed]
  cases htext : req.param name with
  | none => rfl
  | some text => exact (W.number_converted _).trans (W.number_trim text)

theorem positiveInt_param {fields : List DtoField} {name isInt min : String} {req' : Request}
    (h : pipes fields req = .ok req') (hf : DtoField.positiveInt W name isInt min ∈ fields)
    {n : Nat} (hn : 1 ≤ n) : (W.param (req.param name) n).value.PositiveInt := by
  cases htext : req.param name with
  | none => exact ⟨n, hn, rfl⟩
  | some text => exact positiveInt_of_pipes h hf htext

end

/-! ## What the endpoints read -/

theorem exists_param_iff {req : Request} {name : String} :
    (∃ text, req.param name = some text) ↔ name ∈ req.query.map Prod.fst := by
  rw [← Option.isSome_iff_exists, Request.param, List.lookup_isSome_iff]
  simp

section

variable {W : Web} {site : Site} {e : Endpoint} {req : Request} {p : Paging}

/-- The two numbers of `GetHistoryDto`. -/
theorem page_mem_fields :
    DtoField.positiveInt W "page" " must be an integer" " must be at least 1" ∈
      GetHistoryDto.fields W := by
  simp [GetHistoryDto.fields]

theorem perPage_mem_fields :
    DtoField.positiveInt W "perPage" " must be an integer" " must be at least 1" ∈
      GetHistoryDto.fields W := by
  simp [GetHistoryDto.fields]

/-- The request as the handler sees it: the pipes have trimmed it or let it be. -/
theorem paging_req (h : e.paging W req = .ok p) : p.req = req ∨ p.req = req.trimmed := by
  cases e with
  | getAllUsers => cases h; exact .inl rfl
  | getAllRoles => cases h; exact .inl rfl
  | getAllPrivileges => cases h; exact .inl rfl
  | history vehicleId =>
    obtain ⟨req', hpipes, hp⟩ := bind_eq_ok.mp h
    cases hp
    exact .inr (pipes_eq_ok.mp hpipes).1
  | getAuditLogs =>
    obtain ⟨req', hpipes, hp⟩ := bind_eq_ok.mp h
    cases hp
    exact .inr (pipes_eq_ok.mp hpipes).1

theorem paging_names (h : e.paging W req = .ok p) :
    p.req.query.map Prod.fst = req.query.map Prod.fst := by
  rcases paging_req h with hreq | hreq
  · rw [hreq]
  · rw [hreq, names_trimmed]

theorem paging_baseUrl (h : e.paging W req = .ok p) : p.req.baseUrl = req.baseUrl := by
  rcases paging_req h with hreq | hreq <;> rw [hreq]
  rfl

/-- A parameter is there or missing whether the request is trimmed or not. -/
theorem paging_param_eq_none (h : e.paging W req = .ok p) {name : String} :
    p.req.param name = none ↔ req.param name = none := by
  rcases paging_req h with hreq | hreq
  · rw [hreq]
  · rw [hreq, param_trimmed, Option.map_eq_none_iff]

/-- An endpoint that reads `perPage` pages by the values of the two parameters. -/
theorem paging_values (he : e ≠ .getAuditLogs) (h : e.paging W req = .ok p) :
    p.page.value = req.page W ∧
      p.perPage.value = (W.param (req.param "perPage") 10).value := by
  cases e with
  | getAllUsers => cases h; exact ⟨rfl, rfl⟩
  | getAllRoles => cases h; exact ⟨rfl, rfl⟩
  | getAllPrivileges => cases h; exact ⟨rfl, rfl⟩
  | getAuditLogs => exact absurd rfl he
  | history vehicleId =>
    obtain ⟨req', hpipes, hp⟩ := bind_eq_ok.mp h
    cases hp
    obtain ⟨rfl, -⟩ := pipes_eq_ok.mp hpipes
    exact ⟨value_convertedParam, value_convertedParam⟩

/-- The text of the page size, which the links carry, denotes it. -/
theorem paging_perPage_text (h : e.paging W req = .ok p) :
    W.number p.perPage.text = p.perPage.value := by
  cases e with
  | getAllUsers => cases h; exact number_text_param (by decide) (by decide)
  | getAllRoles => cases h; exact number_text_param (by decide) (by decide)
  | getAllPrivileges => cases h; exact number_text_param (by decide) (by decide)
  | history vehicleId =>
    obtain ⟨req', -, hp⟩ := bind_eq_ok.mp h
    cases hp
    exact number_text_param (by decide) (by decide)
  | getAuditLogs =>
    obtain ⟨req', -, hp⟩ := bind_eq_ok.mp h
    cases hp
    exact number_text_param (by decide) (by decide)

/-- Every response carries a block built from what the endpoint has read. -/
theorem respond_block {r : PaginationResult e.Row} (h : e.respond W site req = .ok r) :
    ∃ p total items, e.paging W req = .ok p ∧
      generatePagination W.toPlatform p.page p.perPage total (some p.req) items = .ok r := by
  by_cases he : e = .getAuditLogs
  · subst he
    obtain ⟨req', hpipes, hsearch⟩ := bind_eq_ok.mp h
    obtain ⟨items, total, hblock⟩ :=
      AuditService.searchLogs_block (Endpoint.mapError_eq_ok.mp hsearch)
    exact ⟨_, total, items, bind_eq_ok.mpr ⟨req', hpipes, rfl⟩, hblock⟩
  · obtain ⟨-, p, hpaging, hlisting⟩ := (Endpoint.respond_eq_ok he).mp h
    obtain ⟨x, -, hblock⟩ := bind_eq_ok.mp hlisting
    exact ⟨p, x.2, x.1, hpaging, hblock⟩

end

/-! ## The request a link makes -/

/-- The parameters of the request that follows a link to the page `target`. -/
structure FromLink (p : Paging) (target : String) (req' : Request) : Prop where
  page : req'.param "page" =
    if p.req.param "page" ≠ none ∨ p.req.query.length < parameterLimit then some target else none
  perPage : req'.param "perPage" =
    if p.req.param "perPage" ≠ none ∨
        (setParam "page" target p.req.query).length < parameterLimit then
      some p.perPage.text else none
  other : ∀ name, name ≠ "page" → name ≠ "perPage" → req'.param name = p.req.param name

section

variable {W : Web} {site later : Site} {e : Endpoint} {url link : String} {req req' : Request}
  {p : Paging} {target : String}

/-- A link makes a request to the same path with the parameters it carries. -/
theorem exists_fromLink (hreq : W.requestTo url = some req) (hpaging : e.paging W req = .ok p)
    (hlink : link = beforeQuery p.req.baseUrl ++ "?" ++
      W.urlEncode (linkParams target p.perPage.text p.req.query)) :
    ∃ req', W.requestTo link = some req' ∧ req'.path = req.path ∧ FromLink p target req' := by
  obtain ⟨-, hquery⟩ := W.requestTo_cut hreq
  have hnames := paging_names hpaging
  have hnodup : (p.req.query.map Prod.fst).Nodup := by
    rw [hnames, hquery]
    exact W.parseQuery_nodup _
  have hlength : p.req.query.length ≤ parameterLimit := by
    have hlen := congrArg List.length hnames
    rw [List.length_map, List.length_map] at hlen
    rw [hlen, hquery]
    exact W.parseQuery_length _
  rw [paging_baseUrl hpaging] at hlink
  have hto := requestTo_link hreq (W.urlEncode (linkParams target p.perPage.text p.req.query))
  rw [← hlink] at hto
  refine ⟨_, hto, ?_, ?_⟩
  · simp only [Request.path, beforeQuery_append]
  have hcarried : ∀ name ∈ (linkParams target p.perPage.text p.req.query).map Prod.fst,
      name = "page" ∨ name = "perPage" ∨ ∃ text, name ∈ (W.parseQuery text).map Prod.fst := by
    intro name hname
    rw [mem_names_linkParams, hnames, hquery] at hname
    rcases hname with hname | hname | hname
    · exact .inr (.inl hname)
    · exact .inl hname
    · exact .inr (.inr ⟨_, hname⟩)
  have hread := W.parseQuery_urlEncode (nodup_linkParams hnodup) hcarried
  refine ⟨?_, ?_, fun name hpage hperPage => ?_⟩
  · simp only [Request.param, hread]
    exact lookup_linkParams_page hnodup hlength
  · simp only [Request.param, hread]
    exact lookup_linkParams_perPage hnodup hlength
  · simp only [Request.param, hread]
    exact lookup_linkParams_of_ne hnodup hlength hpage hperPage

namespace FromLink

theorem pageNumber (h : FromLink p target req') (hpaging : e.paging W req = .ok p) :
    req'.page W = if req.param "page" ≠ none ∨ req.query.length < parameterLimit then
      W.number target else .finite 1 := by
  have hlen := congrArg List.length (paging_names hpaging)
  rw [List.length_map, List.length_map] at hlen
  have hcond : (p.req.param "page" ≠ none ∨ p.req.query.length < parameterLimit) ↔
      (req.param "page" ≠ none ∨ req.query.length < parameterLimit) := by
    rw [ne_eq, ne_eq, paging_param_eq_none hpaging, hlen]
  unfold Request.page
  simp only [h.page, hcond]
  split
  · rfl
  · exact congrArg JsNumber.finite Nat.cast_one

/-- The page size stays what it was. -/
theorem perPageNumber (h : FromLink p target req') (he : e ≠ .getAuditLogs)
    (hpaging : e.paging W req = .ok p) :
    (W.param (req'.param "perPage") 10).value = p.perPage.value := by
  rw [h.perPage]
  split
  next => exact paging_perPage_text hpaging
  next hnone =>
    rw [not_or, ne_eq, not_not] at hnone
    rw [(paging_values he hpaging).2, (paging_param_eq_none hpaging).mp hnone.1]

/-- What the pipes leave of the other parameters is the same as before. -/
theorem trimmed_param (h : FromLink p target req') (hpaging : e.paging W req = .ok p)
    {name : String} (hpage : name ≠ "page") (hperPage : name ≠ "perPage") :
    req'.trimmed.param name = req.trimmed.param name := by
  rw [param_trimmed, param_trimmed, h.other name hpage hperPage]
  rcases paging_req hpaging with hreq | hreq
  · rw [hreq]
  · rw [hreq, param_trimmed]
    cases req.param name with
    | none => rfl
    | some text => simp only [Option.map_some, trim_trim]

/-- The filter is the same as before. -/
theorem selected_eq (h : FromLink p target req') (he : e ≠ .getAuditLogs)
    (hpaging : e.paging W req = .ok p) :
    e.selected W later req' = e.selected W later req := by
  have hsearch : p.req = req → req'.param "search" = req.param "search" := by
    intro hreq
    rw [h.other "search" (by decide) (by decide), hreq]
  cases e with
  | getAllUsers =>
    cases hpaging
    simp only [Endpoint.selected, hsearch rfl]
  | getAllRoles =>
    cases hpaging
    simp only [Endpoint.selected, hsearch rfl]
  | getAllPrivileges =>
    cases hpaging
    simp only [Endpoint.selected, hsearch rfl]
  | getAuditLogs => exact absurd rfl he
  | history vehicleId =>
    have hfrom : req'.trimmed.param "from" = req.trimmed.param "from" :=
      h.trimmed_param hpaging (by decide) (by decide)
    have hto : req'.trimmed.param "to" = req.trimmed.param "to" :=
      h.trimmed_param hpaging (by decide) (by decide)
    simp only [Endpoint.selected, Endpoint.historyOf, GetHistoryDto.ofQuery, hfrom, hto]
    split <;> rfl

/-- The route, its dates and its search text can be read as before. -/
theorem readable (h : FromLink p target req') (hpaging : e.paging W req = .ok p)
    (hreadable : e.Readable W req) : e.Readable W req' := by
  have hsearch : p.req = req → W.TakesSearch (req.param "search") →
      W.TakesSearch (req'.param "search") := by
    intro hreq htakes
    rwa [h.other "search" (by decide) (by decide), hreq]
  cases e with
  | getAllUsers =>
    cases hpaging
    exact hsearch rfl hreadable
  | getAllRoles =>
    cases hpaging
    exact hsearch rfl hreadable
  | getAllPrivileges =>
    cases hpaging
    exact hsearch rfl hreadable
  | getAuditLogs => trivial
  | history vehicleId =>
    have hfrom : req'.trimmed.param "from" = req.trimmed.param "from" :=
      h.trimmed_param hpaging (by decide) (by decide)
    have hto : req'.trimmed.param "to" = req.trimmed.param "to" :=
      h.trimmed_param hpaging (by decide) (by decide)
    obtain ⟨hid, hdates⟩ := hreadable
    refine ⟨hid, ?_⟩
    simpa only [GetHistoryDto.DatesReadable, GetHistoryDto.ofQuery, hfrom, hto] using hdates

/-- A parameter of the followed request is one of the two or was there before. -/
theorem mem_names (h : FromLink p target req') (hpaging : e.paging W req = .ok p) {name : String}
    (hname : name ∈ req'.query.map Prod.fst) :
    name = "page" ∨ name = "perPage" ∨ name ∈ req.query.map Prod.fst := by
  by_cases hpage : name = "page"
  · exact .inl hpage
  by_cases hperPage : name = "perPage"
  · exact .inr (.inl hperPage)
  rw [← paging_names hpaging]
  obtain ⟨text, htext⟩ := exists_param_iff.mpr hname
  rw [h.other name hpage hperPage] at htext
  exact .inr (.inr (exists_param_iff.mp ⟨text, htext⟩))

/-- The pipes let the followed request pass. -/
theorem exists_paging (h : FromLink p target req') (he : e ≠ .getAuditLogs)
    (hpaging : e.paging W req = .ok p)
    (htarget : ∀ id, e = .history id → (W.number target).PositiveInt) :
    ∃ p', e.paging W req' = .ok p' := by
  cases e with
  | getAllUsers => exact ⟨_, rfl⟩
  | getAllRoles => exact ⟨_, rfl⟩
  | getAllPrivileges => exact ⟨_, rfl⟩
  | getAuditLogs => exact absurd rfl he
  | history vehicleId =>
    obtain ⟨_, hpipes, -⟩ := bind_eq_ok.mp hpaging
    obtain ⟨-, hdeclared, hvalid⟩ := pipes_eq_ok.mp hpipes
    have hfrom : req'.trimmed.param "from" = req.trimmed.param "from" :=
      h.trimmed_param hpaging (by decide) (by decide)
    have hto : req'.trimmed.param "to" = req.trimmed.param "to" :=
      h.trimmed_param hpaging (by decide) (by decide)
    have hperPage : (W.number p.perPage.text).PositiveInt := by
      rw [paging_perPage_text hpaging, (paging_values he hpaging).2]
      exact positiveInt_param hpipes perPage_mem_fields (by decide)
    refine ⟨_, bind_eq_ok.mpr ⟨_, pipes_eq_ok.mpr ⟨rfl, ?_, ?_⟩, rfl⟩⟩
    · intro name hname
      rcases h.mem_names hpaging hname with rfl | rfl | hname
      · exact List.mem_map.mpr ⟨_, page_mem_fields, rfl⟩
      · exact List.mem_map.mpr ⟨_, perPage_mem_fields, rfl⟩
      · exact hdeclared name hname
    · intro f hf text htext
      have hfields := hf
      simp only [GetHistoryDto.fields, List.mem_cons, List.not_mem_nil, or_false] at hf
      rcases hf with rfl | rfl | rfl | rfl
      · exact hvalid _ hfields text (hfrom.symm.trans htext)
      · exact hvalid _ hfields text (hto.symm.trans htext)
      · obtain ⟨t, ht, hnumber⟩ := number_trimmed (W := W) htext
        have hpage := h.page.symm.trans ht
        split at hpage
        · cases hpage
          rw [positiveInt_valid, hnumber]
          exact htarget vehicleId rfl
        · cases hpage
      · obtain ⟨t, ht, hnumber⟩ := number_trimmed (W := W) htext
        have hsize := h.perPage.symm.trans ht
        split at hsize
        · cases hsize
          rw [positiveInt_valid, hnumber]
          exact hperPage
        · cases hsize

end FromLink

end

/-! ## Where a link leads -/

theorem Direction.target_of_held {d : Direction} {q : ℚ} (h : JsNumber.Held (d.shift q)) :
    d.target (.finite q) = .finite (d.shift q) := by
  cases d with
  | prev => exact JsNumber.rounded_of_held h
  | next =>
    have hshift : q - -1 = Direction.next.shift q := sub_neg_eq_add q 1
    rw [← hshift] at h ⊢
    exact JsNumber.rounded_of_held h

/-- Where a page and its neighbour are numbers, the neighbour is written so that it is read
back. -/
theorem Direction.number_shift {W : Web} {d : Direction} {q : ℚ} (hq : 1 ≤ q)
    (hheld : JsNumber.Held q) (hpos : 1 ≤ d.shift q) (hshift : JsNumber.Held (d.shift q)) :
    W.number (W.numberText (.finite (d.shift q))) = .finite (d.shift q) := by
  refine W.number_numberText hshift hpos ?_
  cases d with
  | prev =>
    have hback : Direction.prev.shift q + 1 = q := sub_add_cancel q 1
    rw [← hback] at hheld
    have hle := Rounding.le_of_held_add_one hpos hshift hheld
    simp only [JsNumber.precision] at hle
    linarith
  | next => exact Rounding.le_of_held_add_one hq hheld hshift

theorem Direction.positiveInt_shift {d : Direction} {q : ℚ}
    (hq : (JsNumber.finite q).PositiveInt) (h : 1 ≤ d.shift q) :
    (JsNumber.finite (d.shift q)).PositiveInt := by
  obtain ⟨n, hn, heq⟩ := hq
  cases JsNumber.finite.inj heq
  cases d with
  | prev =>
    have hpos : 1 ≤ n - 1 := by
      have htwo : (2 : ℚ) ≤ n := by
        simp only [shift] at h
        linarith
      have : 2 ≤ n := by exact_mod_cast htwo
      omega
    exact ⟨n - 1, hpos, by simp only [shift, Nat.cast_sub hn, Nat.cast_one]⟩
  | next => exact ⟨n + 1, by omega, by simp only [shift, Nat.cast_succ]⟩

section

variable {W : Web} {site later : Site} {e : Endpoint} {url link : String} {req req' : Request}
  {p : Paging} {target : String}

/-- The search of the audit log refuses the page size of its own links. -/
theorem auditLogs_refuses (h : FromLink p target req')
    (hpaging : Endpoint.paging W req .getAuditLogs = .ok p)
    (hnodup : (req.query.map Prod.fst).Nodup) {r' : PaginationResult AuditLog} :
    Endpoint.respond W later req' .getAuditLogs ≠ .ok r' := by
  intro hr
  obtain ⟨_, hpipes', -⟩ := bind_eq_ok.mp hr
  obtain ⟨_, hpipes, -⟩ := bind_eq_ok.mp hpaging
  obtain ⟨-, hdeclared', -⟩ := pipes_eq_ok.mp hpipes'
  obtain ⟨-, hdeclared, -⟩ := pipes_eq_ok.mp hpipes
  -- the query has at most the eight parameters of the DTO, so that none is cut off
  have hlength : (req.query.map Prod.fst).length ≤ 8 := (hnodup.subperm hdeclared).length_le
  rw [← paging_names hpaging, List.length_map] at hlength
  have hfew : (setParam "page" target p.req.query).length < parameterLimit := by
    have hset : (setParam "page" target p.req.query).length ≤ p.req.query.length + 1 :=
      length_setParam_le
    unfold parameterLimit
    omega
  have hperPage := h.perPage
  rw [if_pos (.inr hfew)] at hperPage
  have hname := hdeclared' _ (exists_param_iff.mp ⟨_, hperPage⟩)
  simp [SearchAuditDto.fields, DtoField.string, DtoField.dateString, DtoField.positiveInt,
    DtoField.object] at hname

/-- A link to a page that is there for the pipes and for the parser leads to it. -/
theorem leadsTo_of_fromLink {q k : ℚ} (hto : W.requestTo link = some req')
    (hroute : W.route req'.path = some e) (h : FromLink p (W.numberText (.finite q)) req')
    (he : e ≠ .getAuditLogs) (hpaging : e.paging W req = .ok p) (hreadable : e.Readable W req)
    (hread : req.param "page" ≠ none ∨ req.query.length < parameterLimit)
    (hcuts : Cuts W.toPlatform (.finite q) p.perPage.value q k)
    (hnumber : W.number (W.numberText (.finite q)) = .finite q)
    (hinteger : ∀ id, e = .history id → (JsNumber.finite q).PositiveInt) :
    LeadsTo W later e req (.finite q) (.finite k) link := by
  have hpositive : ∀ id, e = .history id →
      (W.number (W.numberText (.finite q))).PositiveInt := by
    intro id hid
    rw [hnumber]
    exact hinteger id hid
  obtain ⟨p', hpaging'⟩ := h.exists_paging he hpaging hpositive
  obtain ⟨hpage, hperPage⟩ := paging_values he hpaging'
  rw [h.pageNumber hpaging, if_pos hread, hnumber] at hpage
  rw [h.perPageNumber he hpaging] at hperPage
  have hcuts' : Cuts W.toPlatform p'.page.value p'.perPage.value q k := by
    rw [hpage, hperPage]
    exact hcuts
  obtain ⟨r', hr', -⟩ : ∃ r', listing W.toPlatform p'.page p'.perPage p'.req
      (e.selected W later req') = .ok r' ∧ _ := exists_listing hcuts'
  obtain ⟨hcurrent, hitems, htotal, hslice⟩ := listing_page hr'
  have hselected : e.selected W later req' = e.selected W later req := h.selected_eq he hpaging
  have hreadable' : e.Readable W req' := h.readable hpaging hreadable
  refine ⟨req', r', hto, hroute,
    (Endpoint.respond_eq_ok he).mpr ⟨hreadable', p', hpaging', hr'⟩, ?_, ?_, ?_, ?_⟩
  · rw [hcurrent, hpage]
  · rw [hitems, hcuts'.perPage]
  · rw [htotal, hselected]
  · rw [← hselected, ← hslice, skipOf, hpage, hcuts'.perPage]

/-- A link that asks for the neighbouring page has kept its page: without it both requests ask for
the first one. -/
theorem read_of_shift {d : Direction} {q : ℚ} (h : FromLink p target req')
    (hpaging : e.paging W req = .ok p) (hpage : req.page W = .finite q)
    (hpage' : req'.page W = .finite (d.shift q)) :
    req.param "page" ≠ none ∨ req.query.length < parameterLimit := by
  by_contra hcut
  have hfirst' : req'.page W = .finite 1 := by rw [h.pageNumber hpaging, if_neg hcut]
  rw [not_or, ne_eq, not_not] at hcut
  have hfirst : req.page W = .finite 1 := by
    rw [Request.page, hcut.1]
    exact congrArg JsNumber.finite Nat.cast_one
  have hq : q = 1 := JsNumber.finite.inj (hpage.symm.trans hfirst)
  have hone : d.shift q = 1 := JsNumber.finite.inj (hpage'.symm.trans hfirst')
  rw [hq] at hone
  cases d <;> norm_num [Direction.shift] at hone

/-- The links of every list that reads `perPage` lead to the neighbouring page of the same list
in pages of the same size, whatever the databases hold by then, except for a page below the
first one, one that is no number of ECMAScript, one whose offset the database does not take and a
query the parser cuts; the links of the audit log lead nowhere. -/
theorem link_leads_iff {d : Direction} {r : PaginationResult e.Row}
    (hreq : W.requestTo url = some req) (hroute : W.route req.path = some e)
    (hr : e.respond W site req = .ok r) (hlink : d.link r.pagination = some link)
    (later : Site) :
    LeadsTo W later e req (d.neighbour r.pagination.currentPage.value)
        r.pagination.itemsPerPage.value link ↔
      Followable W d e req := by
  obtain ⟨p, total, items, hpaging, hblock⟩ := respond_block hr
  obtain ⟨hurl, -⟩ := generatePagination_link hblock hlink
  obtain ⟨-, -, hcurrent, hitems, -⟩ := generatePagination_params hblock
  obtain ⟨req', hto, hpath, hfrom⟩ := exists_fromLink hreq hpaging hurl
  rw [hcurrent, hitems]
  have hnodup : (req.query.map Prod.fst).Nodup := by
    rw [(W.requestTo_cut hreq).2]
    exact W.parseQuery_nodup _
  by_cases he : e = .getAuditLogs
  · subst he
    constructor
    · rintro ⟨req'', r', hto', -, hr', -⟩
      cases hto.symm.trans hto'
      exact absurd hr' (auditLogs_refuses hfrom hpaging hnodup)
    · intro hfollowable
      exact absurd rfl hfollowable.1
  · obtain ⟨hreadable, p₀, hpaging₀, hlisting⟩ := (Endpoint.respond_eq_ok he).mp hr
    cases hpaging.symm.trans hpaging₀
    obtain ⟨q, k, hcuts⟩ := listing_params hlisting
    obtain ⟨hpageValue, hperPageValue⟩ := paging_values he hpaging
    have hpage : req.page W = .finite q := hpageValue.symm.trans hcuts.page
    have hsize : (W.param (req.param "perPage") 10).value = .finite k :=
      hperPageValue.symm.trans hcuts.perPage
    rw [hcuts.page] at hfrom ⊢
    rw [hcuts.perPage]
    show LeadsTo W later e req (.finite (d.shift q)) (.finite k) link ↔ _
    constructor
    · rintro ⟨req'', r', hto', -, hr', hcurrent', -⟩
      cases hto.symm.trans hto'
      obtain ⟨-, p', hpaging', hlisting'⟩ := (Endpoint.respond_eq_ok he).mp hr'
      obtain ⟨q', k', hcuts'⟩ := listing_params hlisting'
      rw [(listing_page hlisting').1, hcuts'.page] at hcurrent'
      cases hcurrent'
      obtain ⟨hpageValue', hperPageValue'⟩ := paging_values he hpaging'
      have hpage' : req'.page W = .finite (d.shift q) := hpageValue'.symm.trans hcuts'.page
      have hsame : (JsNumber.finite k') = .finite k := by
        rw [← hcuts'.perPage, hperPageValue', hfrom.perPageNumber he hpaging, hcuts.perPage]
      cases hsame
      exact ⟨he, read_of_shift hfrom hpaging hpage hpage', q, k, hpage, hsize, hcuts'.one_le_page,
        held_of_page hpage', hcuts'.skips⟩
    · rintro ⟨-, hread, q', k', hpage', hsize', hpos, hshift, hskips⟩
      cases hpage.symm.trans hpage'
      cases hsize.symm.trans hsize'
      rw [Direction.target_of_held hshift] at hfrom
      have hnumber : W.number (W.numberText (.finite (d.shift q))) = .finite (d.shift q) :=
        Direction.number_shift hcuts.one_le_page (held_of_page hpage) hpos hshift
      refine leadsTo_of_fromLink hto (hpath ▸ hroute) hfrom he hpaging hreadable hread
        ⟨rfl, hcuts.perPage, hpos, hcuts.one_le_perPage, hskips, hcuts.takes⟩ hnumber ?_
      rintro id rfl
      obtain ⟨_, hpipes, -⟩ := bind_eq_ok.mp hpaging
      have hpositive : (req.page W).PositiveInt :=
        positiveInt_param hpipes page_mem_fields (by decide)
      rw [hpage] at hpositive
      exact Direction.positiveInt_shift hpositive hpos

end

/-! ## Two logs and two readings -/

/-- Two audit logs, the later one first. -/
def twoLogs : Site where
  store := Store.empty
  audit :=
    { logs :=
        { rows := [⟨2, "PushNotificationSent", "device-2", "Charged", 20⟩,
            ⟨1, "PushNotificationFailed", "device-1", "Unregistered", 10⟩]
          nodup := by decide }
      clock := 30
      draws := 0 }

/-- `GET /api/v1/audit/logs?limit=1`. -/
def logsRequest : Request :=
  ⟨"http", "localhost:3000", "/api/v1/audit/logs?limit=1", [("limit", "1")]⟩

/-- The link to the second log carries a `perPage`, which `SearchAuditDto` does not declare. -/
theorem auditLogs_link_refused :
    ∃ r link, Web.plain.requestTo "http://localhost:3000/api/v1/audit/logs?limit=1" =
        some logsRequest ∧
      Web.plain.route logsRequest.path = some .getAuditLogs ∧
      Endpoint.respond Web.plain twoLogs logsRequest .getAuditLogs = .ok r ∧
      r.pagination.nextUrl = some link ∧
      link = "http://localhost:3000/api/v1/audit/logs?limit=1&page=2&perPage=1" ∧
      ¬LeadsTo Web.plain twoLogs .getAuditLogs logsRequest
        (Direction.next.neighbour r.pagination.currentPage.value)
        r.pagination.itemsPerPage.value link := by
  have hfirst : (Endpoint.respond Web.plain twoLogs logsRequest .getAuditLogs).map
      (fun r => r.pagination.nextUrl) =
      .ok (some "http://localhost:3000/api/v1/audit/logs?limit=1&page=2&perPage=1") := by
    decide +kernel
  have hnext : (Web.plain.requestTo
      "http://localhost:3000/api/v1/audit/logs?limit=1&page=2&perPage=1").map (fun req =>
        (Endpoint.respond Web.plain twoLogs req .getAuditLogs).map fun r =>
          r.pagination.nextUrl) =
      some (.error (.invalid ["property perPage should not exist"])) := by
    decide +kernel
  obtain ⟨r, hr, hlink⟩ := exists_of_map_eq_ok hfirst
  refine ⟨r, _, by decide +kernel, by decide +kernel, hr, hlink, rfl, ?_⟩
  rintro ⟨req', r', hto, -, hr', -⟩
  rw [hto, Option.map_some, hr'] at hnext
  cases hnext

/-- The key of a vehicle. -/
def vehicleOne : Uuid := ⟨"00000000-0000-4000-8000-000000000001", by decide⟩

/-- The key of a reading. -/
def readingOne : Uuid := ⟨"00000000-0000-4000-8000-000000000002", by decide⟩

/-- The key of another reading. -/
def readingTwo : Uuid := ⟨"00000000-0000-4000-8000-000000000003", by decide⟩

/-- Two readings of the vehicle. -/
def twoReadings : Site where
  store :=
    { Store.empty with
      telemetry :=
        { rows := [⟨readingTwo, vehicleOne, 52, 13, 40, 80, 20, some "north", 20⟩,
            ⟨readingOne, vehicleOne, 52, 13, 50, 81, 21, some "north", 10⟩]
          nodup := by decide } }
  audit := ⟨∅, 30, 0⟩

/-- `GET /api/v1/telemetry/:vehicleId/history?perPage=1`. -/
def historyRequest : Request :=
  ⟨"http", "localhost:3000",
    "/api/v1/telemetry/00000000-0000-4000-8000-000000000001/history?perPage=1",
    [("perPage", "1")]⟩

/-- The readings are stored in the order in which they are listed. -/
theorem selected_twoReadings :
    Endpoint.selected Web.plain twoReadings historyRequest (.history vehicleOne.text) =
      twoReadings.store.telemetry.rows := by
  have hid : Uuid.ofString? vehicleOne.text = some vehicleOne := by decide +kernel
  rw [Endpoint.selected_history hid]
  have hsorted : twoReadings.store.telemetry.rows.Pairwise
      fun a b => decide (b.createdAt ≤ a.createdAt) = true := by
    decide +kernel
  exact List.mergeSort_of_pairwise hsorted

/-- The link to the second reading leads to it. -/
theorem history_link_leads :
    LeadsTo Web.plain twoReadings (.history vehicleOne.text) historyRequest
      (.finite 2) (.finite 1) ("http://localhost:3000/api/v1/telemetry/" ++
        "00000000-0000-4000-8000-000000000001/history?perPage=1&page=2") := by
  have hpaging : Endpoint.paging Web.plain historyRequest (.history vehicleOne.text) =
      .ok ⟨⟨"1", .finite 1⟩, ⟨"1", .finite 1⟩, historyRequest⟩ := by
    decide +kernel
  have hlisting : (listing Platform.plainWeb ⟨"1", .finite 1⟩ ⟨"1", .finite 1⟩ historyRequest
      twoReadings.store.telemetry.rows).map (fun r => (Direction.next.link r.pagination,
        Direction.next.neighbour r.pagination.currentPage.value,
        r.pagination.itemsPerPage.value)) =
      .ok (some ("http://localhost:3000/api/v1/telemetry/" ++
        "00000000-0000-4000-8000-000000000001/history?perPage=1&page=2"), .finite 2,
        .finite 1) := by
    decide +kernel
  obtain ⟨r, hr, hblock⟩ := exists_of_map_eq_ok hlisting
  rw [← selected_twoReadings] at hr
  have hreadable : (Endpoint.history vehicleOne.text).Readable Web.plain historyRequest := by
    refine ⟨by decide +kernel, ?_⟩
    simp [GetHistoryDto.DatesReadable, GetHistoryDto.ofQuery, historyRequest, Request.trimmed,
      Request.param]
  have hresponse : Endpoint.respond Web.plain twoReadings historyRequest
      (.history vehicleOne.text) = .ok r :=
    (Endpoint.respond_eq_ok (by decide)).mpr ⟨hreadable, _, hpaging, hr⟩
  have hreq : Web.plain.requestTo ("http://localhost:3000/api/v1/telemetry/" ++
      "00000000-0000-4000-8000-000000000001/history?perPage=1") = some historyRequest := by
    decide +kernel
  have hroute : Web.plain.route historyRequest.path = some (.history vehicleOne.text) := by
    decide +kernel
  rw [Prod.mk.injEq, Prod.mk.injEq] at hblock
  have hleads := (link_leads_iff hreq hroute hresponse hblock.1 twoReadings).mpr
    ⟨by decide, .inr (by decide), 1, 1, by decide +kernel, by decide +kernel,
      by decide +kernel, by decide +kernel, by decide +kernel⟩
  rw [hblock.2.1, hblock.2.2] at hleads
  exact hleads

end VoltFleet
