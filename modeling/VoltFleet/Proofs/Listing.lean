import VoltFleet.Endpoints
import Mathlib.Tactic.Linarith

/-!
# The page a list endpoint answers with

Each endpoint reads a page and a page size of the request, takes that page of the
list its filter selects, and builds the pagination block from them.
-/

namespace VoltFleet

open Awaiting

/-- One of the two links of a block. -/
inductive Direction where
  | prev
  | next
  deriving DecidableEq

namespace Direction

/-- The URL in this direction, if there is one. -/
def link : Direction → Pagination → Option String
  | .prev, p => p.prevUrl
  | .next, p => p.nextUrl

/-- The number of the page the link is to. -/
def target : Direction → JsNumber → JsNumber
  | .prev, page => page.sub 1
  | .next, page => page.sub (-1)

end Direction

/-! ## `generatePagination` -/

section

variable {α : Type} {P : Platform} {page perPage : NumericParam} {totalItems : Nat}
  {req : Request} {items : List α} {r : PaginationResult α}

theorem generatePagination_params
    (h : generatePagination P page perPage totalItems (some req) items = .ok r) :
    page.value.lt (.finite 1) = false ∧ perPage.value.lt (.finite 1) = false ∧
      r.pagination.currentPage = page ∧ r.pagination.itemsPerPage = perPage ∧
      r.pagination.totalItems = totalItems := by
  unfold generatePagination at h
  dsimp only at h
  split at h
  next => cases h
  next hparams =>
    cases h
    rw [Bool.or_eq_true, not_or, Bool.not_eq_true, Bool.not_eq_true] at hparams
    exact ⟨hparams.1, hparams.2, rfl, rfl, rfl⟩

/-- Each link is there exactly if there is a page to link to. -/
theorem generatePagination_isSome
    (h : generatePagination P page perPage totalItems (some req) items = .ok r) :
    r.pagination.nextUrl.isSome = page.value.lt (JsNumber.div totalItems perPage.value).ceil ∧
      r.pagination.prevUrl.isSome = (JsNumber.finite 1).lt page.value := by
  unfold generatePagination at h
  dsimp only at h
  split at h
  next => cases h
  next =>
    cases h
    constructor
    · cases page.value.lt (JsNumber.div totalItems perPage.value).ceil <;> rfl
    · cases (JsNumber.finite 1).lt page.value <;> rfl

theorem generatePagination_pages
    (h : generatePagination P page perPage totalItems (some req) items = .ok r) :
    r.pagination.totalPages = (JsNumber.div totalItems perPage.value).ceil ∧
      (r.pagination.nextUrl = none ↔
        page.value.lt (JsNumber.div totalItems perPage.value).ceil = false) := by
  constructor
  · unfold generatePagination at h
    dsimp only at h
    split at h
    next => cases h
    next =>
      cases h
      rfl
  · rw [← (generatePagination_isSome h).1, Option.isSome_eq_false_iff, Option.isNone_iff_eq_none]

theorem exists_generatePagination (hpage : page.value.lt (.finite 1) = false)
    (hperPage : perPage.value.lt (.finite 1) = false) :
    ∃ r, generatePagination P page perPage totalItems (some req) items = .ok r := by
  unfold generatePagination
  simp [hpage, hperPage]

/-- Both links carry the query of the request with another page. -/
theorem generatePagination_link
    (h : generatePagination P page perPage totalItems (some req) items = .ok r)
    {d : Direction} {url : String} (hurl : d.link r.pagination = some url) :
    url = beforeQuery req.baseUrl ++ "?" ++
        P.urlEncode (linkParams (P.numberText (d.target page.value)) perPage.text req.query) ∧
      (d = .prev → (JsNumber.finite 1).lt page.value = true) := by
  unfold generatePagination at h
  dsimp only at h
  split at h
  next => cases h
  next =>
    cases h
    cases d with
    | prev =>
      by_cases hprev : (JsNumber.finite 1).lt page.value = true
      · simp only [Direction.link, if_pos hprev] at hurl
        cases hurl
        exact ⟨rfl, fun _ => hprev⟩
      · simp [Direction.link, hprev] at hurl
    | next =>
      simp only [Direction.link, ← linkParams.eq_1, setParam_linkParams] at hurl
      split at hurl
      · cases hurl
        exact ⟨rfl, fun hd => by cases hd⟩
      · cases hurl

end

/-! ## One page of a list -/

/-- A number that passes `@IsInt() @Min(1)`. -/
def JsNumber.PositiveInt (x : JsNumber) : Prop := ∃ n : Nat, 1 ≤ n ∧ x = .finite n

/-- The page of the rows, and the block built from it. -/
def listing {α : Type} (P : Platform) (page perPage : NumericParam) (req : Request)
    (rows : List α) : Except Thrown (PaginationResult α) := do
  let (items, total) ← findAndCount P (skipOf page perPage) perPage.value rows
  generatePagination P page perPage total (some req) items

/-- The nearest natural number, as a `LIMIT` or an `OFFSET` is read. -/
def nearest (q : ℚ) : Nat := (q + 1 / 2).floor.toNat

/-- The offset of a page, as it is computed. -/
def skipped (p k : ℚ) : ℚ :=
  Rounding.nearest JsNumber.precision (Rounding.nearest JsNumber.precision (p - 1) * k)

theorem skipped_nonneg {p k : ℚ} (hp : 1 ≤ p) (hk : 1 ≤ k) : 0 ≤ skipped p k := by
  have hpage : 0 ≤ Rounding.nearest JsNumber.precision (p - 1) :=
    Rounding.nearest_nonneg (by decide) (by linarith)
  exact Rounding.nearest_nonneg (by decide) (mul_nonneg hpage (by linarith))

theorem rowCount_finite {P : Platform} {q : ℚ} (hq : 0 ≤ q) :
    rowCount P (.finite q) = takeCount P (nearest q) := by
  have hcount : (JsNumber.finite q).toCount = some (nearest q) := if_neg (by linarith)
  simp only [rowCount, hcount]

theorem finite_of_rowCount {P : Platform} {x : JsNumber} {n : Nat} (h : rowCount P x = .ok n) :
    ∃ q, x = .finite q := by
  cases x with
  | finite q => exact ⟨q, rfl⟩
  | nan => cases h
  | negInfinity => cases h
  | posInfinity => cases h

/-- A number whose skip is finite is finite. -/
theorem finite_of_mul {x : JsNumber} {k q : ℚ} (h : (x.sub 1).mul (.finite k) = .finite q) :
    ∃ p, x = .finite p := by
  have hinfinite : ∀ y : JsNumber, (y = .posInfinity ∨ y = .negInfinity) →
      y.mul (.finite k) ≠ .finite q := by
    intro y hy
    unfold JsNumber.mul JsNumber.overflow
    rcases hy with rfl | rfl <;> simp only <;> split_ifs <;> simp
  cases x with
  | finite p => exact ⟨p, rfl⟩
  | nan => cases h
  | negInfinity => exact absurd h (hinfinite _ (.inr rfl))
  | posInfinity => exact absurd h (hinfinite _ (.inl rfl))

/-- The numbers a list is cut by: they are not below one, and the database takes the counts they
come to. -/
structure Cuts (P : Platform) (page perPage : JsNumber) (p k : ℚ) : Prop where
  page : page = .finite p
  perPage : perPage = .finite k
  one_le_page : 1 ≤ p
  one_le_perPage : 1 ≤ k
  skips : P.takesCount (nearest (skipped p k)) = true
  takes : P.takesCount (nearest k) = true

section

variable {α : Type} {P : Platform} {page perPage : NumericParam} {req : Request}
  {rows : List α} {r : PaginationResult α}

/-- A list is paged only by numbers that it can be cut by. -/
theorem listing_params (h : listing P page perPage req rows = .ok r) :
    ∃ p k : ℚ, Cuts P page.value perPage.value p k := by
  obtain ⟨⟨items, total⟩, hfind, hblock⟩ := bind_eq_ok.mp h
  obtain ⟨hpage, hperPage, -⟩ := generatePagination_params hblock
  obtain ⟨items', hslice, -⟩ := bind_eq_ok.mp hfind
  obtain ⟨offset, hoffset, hlimit⟩ := bind_eq_ok.mp hslice
  obtain ⟨limit, hlimit, -⟩ := bind_eq_ok.mp hlimit
  obtain ⟨k, hk⟩ := finite_of_rowCount hlimit
  obtain ⟨q, hq⟩ := finite_of_rowCount hoffset
  rw [skipOf, hk] at hq
  obtain ⟨p, hp⟩ := finite_of_mul hq
  rw [hp] at hpage
  rw [hk] at hperPage
  have hp1 : 1 ≤ p := not_lt.mp (of_decide_eq_false hpage)
  have hk1 : 1 ≤ k := not_lt.mp (of_decide_eq_false hperPage)
  rw [skipOf, hp, hk] at hoffset
  rw [hk] at hlimit
  have hskips := (rowCount_finite (skipped_nonneg hp1 hk1)).symm.trans hoffset
  have htakes := (rowCount_finite (by linarith)).symm.trans hlimit
  exact ⟨p, k, hp, hk, hp1, hk1, (takeCount_eq_ok.mp hskips).2, (takeCount_eq_ok.mp htakes).2⟩

/-- The block of a page, and the rows on it. -/
theorem listing_page (h : listing P page perPage req rows = .ok r) :
    r.pagination.currentPage = page ∧ r.pagination.itemsPerPage = perPage ∧
      r.pagination.totalItems = rows.length ∧
      slice P (skipOf page perPage) perPage.value rows = .ok r.data := by
  obtain ⟨⟨items, total⟩, hfind, hblock⟩ := bind_eq_ok.mp h
  obtain ⟨items', hslice, hpair⟩ := bind_eq_ok.mp hfind
  cases hpair
  obtain ⟨-, -, hpage, hperPage, htotal⟩ := generatePagination_params hblock
  exact ⟨hpage, hperPage, htotal, by rw [generatePagination_data hblock, hslice]⟩

theorem listing_pages (h : listing P page perPage req rows = .ok r) :
    r.pagination.totalPages = (JsNumber.div rows.length perPage.value).ceil ∧
      (r.pagination.nextUrl = none ↔
        page.value.lt (JsNumber.div rows.length perPage.value).ceil = false) := by
  obtain ⟨⟨items, total⟩, hfind, hblock⟩ := bind_eq_ok.mp h
  obtain ⟨items', hslice, hpair⟩ := bind_eq_ok.mp hfind
  cases hpair
  exact generatePagination_pages hblock

/-- Every list has a page for such numbers. -/
theorem exists_listing {p k : ℚ} (h : Cuts P page.value perPage.value p k) :
    ∃ r, listing P page perPage req rows = .ok r ∧
      r.data = (rows.drop (nearest (skipped p k))).take (nearest k) := by
  have hskip : 0 ≤ skipped p k := skipped_nonneg h.one_le_page h.one_le_perPage
  have hlimit : 0 ≤ k := zero_le_one.trans h.one_le_perPage
  have hslice : slice P (skipOf page perPage) perPage.value rows =
      .ok ((rows.drop (nearest (skipped p k))).take (nearest k)) := by
    have htake : JsNumber.finite k ≠ .finite 0 := by
      intro hzero
      cases hzero
      exact absurd h.one_le_perPage (by norm_num)
    rw [skipOf, h.page, h.perPage]
    refine bind_eq_ok.mpr ⟨_, (rowCount_finite hskip).trans (takeCount_eq_ok.mpr ⟨rfl, h.skips⟩),
      bind_eq_ok.mpr ⟨_, (rowCount_finite hlimit).trans (takeCount_eq_ok.mpr ⟨rfl, h.takes⟩), ?_⟩⟩
    exact congrArg Except.ok (if_neg htake)
  have hpage : page.value.lt (.finite 1) = false := by
    rw [h.page]
    exact decide_eq_false (not_lt.mpr h.one_le_page)
  have hperPage : perPage.value.lt (.finite 1) = false := by
    rw [h.perPage]
    exact decide_eq_false (not_lt.mpr h.one_le_perPage)
  obtain ⟨r, hr⟩ : ∃ r, generatePagination P page perPage rows.length (some req)
      ((rows.drop (nearest (skipped p k))).take (nearest k)) = .ok r :=
    exists_generatePagination hpage hperPage
  exact ⟨r, bind_eq_ok.mpr ⟨(_, rows.length), bind_eq_ok.mpr ⟨_, hslice, rfl⟩, hr⟩,
    generatePagination_data hr⟩

end

/-- A list whose rows are sent in another form. -/
theorem findAndCount_map {α β : Type} (P : Platform) (f : α → β) (skip take : JsNumber)
    (rows : List α) :
    findAndCount P skip take (rows.map f) =
      (findAndCount P skip take rows).map fun page => (page.1.map f, page.2) := by
  unfold findAndCount slice
  cases rowCount P skip with
  | error e => rfl
  | ok offset =>
    cases rowCount P take with
    | error e => rfl
    | ok limit =>
      by_cases htake : take = .finite 0 <;>
        simp [bind, Except.bind, pure, Except.pure, Except.map, htake, List.map_drop, List.map_take]

/-! ## What a list method answers -/

section

variable {P : Platform} {s : Store}

/-- A catch-all renames every exception. -/
theorem run_catch {α : Type} {p : Service α} {e : Thrown} :
    ((MonadExcept.tryCatch p fun _ => throw e : Service α).run (exec P) s).1 =
      ((p.run (exec P) s).1).mapError fun _ => e := by
  rw [Prog.run_tryCatch]
  rcases p.run (exec P) s with ⟨r, s'⟩
  cases r <;> rfl

/-- A method that awaits one command and computes its result from the answer. -/
theorem run_await_lift {β : Type} {c : Cmd} {g : c.Answer → Except Thrown β} :
    ((Service.await c >>= fun x => Service.lift (g x)).run (exec P) s).1 =
      (exec P c s).1 >>= g := by
  rw [Prog.run_bind, Service.await, Prog.run_await]
  rcases exec P c s with ⟨r, s'⟩
  cases r with
  | error e => rfl
  | ok x => exact congrArg Prod.fst (Prog.run_ofExcept _ _ _)

theorem run_await_lift_store {β : Type} {c : Cmd} {g : c.Answer → Except Thrown β} :
    ((Service.await c >>= fun x => Service.lift (g x)).run (exec P) s).2 = (exec P c s).2 := by
  rw [Prog.run_bind, Service.await, Prog.run_await]
  rcases exec P c s with ⟨r, s'⟩
  cases r with
  | error e => rfl
  | ok x => exact congrArg Prod.snd (Prog.run_ofExcept _ _ _)

theorem exists_of_map_eq_ok {ε α β : Type} {x : Except ε α} {f : α → β} {b : β}
    (h : x.map f = .ok b) : ∃ a, x = .ok a ∧ f a = b := by
  cases x with
  | error e => cases h
  | ok a => exact ⟨a, rfl, Except.ok.inj h⟩

theorem map_bind {α β γ ε : Type} {f : α → β} {g : β → Except ε γ} {x : Except ε α} :
    (x.map f >>= g) = x >>= fun a => g (f a) := by
  cases x <;> rfl

end

/-- The lists of the auth module. -/
inductive AuthList where
  | getAllUsers
  | getAllRoles
  | getAllPrivileges
  deriving DecidableEq

namespace AuthList

/-- What the list is of. -/
abbrev Row : AuthList → Type
  | .getAllUsers => User
  | .getAllRoles => UserRole
  | .getAllPrivileges => UserPrivilege

/-- The method that answers with a page. -/
def call (P : Platform) (page perPage search : Option String) (req : Request) :
    (list : AuthList) → Service (PaginationResult list.Row)
  | .getAllUsers => AuthService.getAllUsers P page perPage search (some req)
  | .getAllRoles => UserRoleRepository.getAllRoles P page perPage search (some req)
  | .getAllPrivileges => UserPrivilegeRepository.getAllPrivileges P page perPage search (some req)

/-- The rows of the table, as entities. -/
def rows (s : Store) : (list : AuthList) → List list.Row
  | .getAllUsers => s.userList
  | .getAllRoles => s.roleList
  | .getAllPrivileges => s.privilegeList

/-- The unique column, which is searched and sorted by. -/
def column : (list : AuthList) → list.Row → String
  | .getAllUsers => User.email
  | .getAllRoles => UserRole.name
  | .getAllPrivileges => UserPrivilege.name

/-- Users are sorted by ascending email, roles and privileges by descending name. -/
def inOrder (P : Platform) : (list : AuthList) → list.Row → list.Row → Bool
  | .getAllUsers, a, b => P.collate a.email b.email
  | .getAllRoles, a, b => P.collate b.name a.name
  | .getAllPrivileges, a, b => P.collate b.name a.name

/-- A user is sent without the password. -/
def sent : (list : AuthList) → list.Row → list.Row
  | .getAllUsers, user => { user with password := none }
  | .getAllRoles, role => role
  | .getAllPrivileges, privilege => privilege

/-- The message of the catch-all. -/
def failure : AuthList → String
  | .getAllUsers => "Some thing went wrong: AS-ERROR"
  | .getAllRoles => "Some thing went wrong: UPR-ERROR"
  | .getAllPrivileges => "Some thing went wrong: UPR-ERROR"

/-- What is sent of the rows that match the search. -/
def matching (P : Platform) (s : Store) (search : Option String) (list : AuthList) :
    List list.Row :=
  (searchBy P list.column search (list.rows s)).map list.sent

/-- The same in the order of the pages. -/
def sorted (P : Platform) (s : Store) (search : Option String) (list : AuthList) :
    List list.Row :=
  ((searchBy P list.column search (list.rows s)).mergeSort (list.inOrder P)).map list.sent

section

variable {P : Platform} {s : Store} {page perPage search : Option String} {req : Request}

theorem sorted_getAllRoles : sorted P s search .getAllRoles =
    (searchBy P UserRole.name search s.roleList).mergeSort fun a b => P.collate b.name a.name :=
  List.map_id _

theorem sorted_getAllPrivileges : sorted P s search .getAllPrivileges =
    (searchBy P UserPrivilege.name search s.privilegeList).mergeSort fun a b =>
      P.collate b.name a.name :=
  List.map_id _

/-- A call sends the search text, pages through the sorted rows and renames every
exception. -/
theorem run_call (list : AuthList) :
    ((list.call P page perPage search req).run (exec P) s).1 =
      (sendSearch P search >>= fun _ =>
        listing P (P.param page 1) (P.param perPage 10) req (list.sorted P s search)).mapError
        fun _ => .internalServerError list.failure := by
  cases list with
  | getAllUsers =>
    refine run_catch.trans (congrArg _ ?_)
    have hrun := run_await_lift (P := P) (s := s)
      (c := .users (.findAndCount search (skipOf (P.param page 1) (P.param perPage 10))
        (P.param perPage 10).value))
      (g := fun x => generatePagination P (P.param page 1) (P.param perPage 10) x.2
        (some req) (x.1.map fun user => { user with password := none }))
    have hsorted : sorted P s search .getAllUsers =
        ((searchBy P User.email search s.userList).mergeSort fun a b =>
          P.collate a.email b.email).map fun user => { user with password := none } := rfl
    refine hrun.trans ((bind_assoc _ _ _).trans ?_)
    rw [hsorted, listing, findAndCount_map, map_bind]
  | getAllRoles =>
    rw [sorted_getAllRoles]
    exact run_catch.trans (congrArg _ (run_await_lift.trans (bind_assoc _ _ _)))
  | getAllPrivileges =>
    rw [sorted_getAllPrivileges]
    exact run_catch.trans (congrArg _ (run_await_lift.trans (bind_assoc _ _ _)))

end

end AuthList

/-! ## What an endpoint reads of a request -/

/-- The page, its size, and the request as the handler sees it. -/
structure Paging where
  page : NumericParam
  perPage : NumericParam
  req : Request
  deriving DecidableEq

/-- A number of a DTO. -/
def Request.convertedParam (W : Web) (req : Request) (name : String) : Option String :=
  (req.param name).map W.converted

namespace Endpoint

/-- The page, the size and the request that the endpoint hands to the pagination. -/
def paging (W : Web) (req : Request) : Endpoint → Except Refusal Paging
  | .history _ => do
      let req ← pipes (GetHistoryDto.fields W) req
      return ⟨W.param (req.convertedParam W "page") 1, W.param (req.convertedParam W "perPage") 10,
        req⟩
  | .getAuditLogs => do
      let req ← pipes (SearchAuditDto.fields W) req
      return ⟨W.param (req.convertedParam W "page") 1, W.param (req.convertedParam W "limit") 10,
        req⟩
  | _ => .ok ⟨W.param (req.param "page") 1, W.param (req.param "perPage") 10, req⟩

/-- The path names a key that the database can read, and the query such dates and such a search
text. -/
def Readable (W : Web) (req : Request) : Endpoint → Prop
  | .history vehicleId => (Uuid.ofString? vehicleId).isSome ∧
      (GetHistoryDto.ofQuery W req.trimmed).DatesReadable W.toPlatform
  | .getAuditLogs => True
  | _ => W.TakesSearch (req.param "search")

section

variable {P : Platform} {W : Web} {s : Store} {site : Site} {req : Request}
  {page perPage search : Option String}

theorem mapError_eq_ok {α ε ε' : Type} {f : ε → ε'} {x : Except ε α} {a : α} :
    x.mapError f = .ok a ↔ x = .ok a := by
  cases x <;> simp [Except.mapError]

theorem answer_getAll_eq_ok (list : AuthList) {r : PaginationResult list.Row} :
    answer W s (list.call W.toPlatform page perPage search req) = .ok r ↔
      W.TakesSearch search ∧ listing W.toPlatform (W.param page 1) (W.param perPage 10) req
        (list.sorted W.toPlatform s search) = .ok r := by
  rw [answer, mapError_eq_ok, AuthList.run_call, mapError_eq_ok, bind_eq_ok]
  simp [sendSearch_eq_ok]

theorem selected_history {vehicleId : String} {id : Uuid}
    (hid : Uuid.ofString? vehicleId = some id) :
    selected W site req (.history vehicleId) =
      historyOf W site.store id (.ofQuery W req.trimmed) := by
  simp only [selected, hid]

/-- A date of a filter is read, or there is none. -/
theorem mapM_dateParam {date : Option String} {time : Option Nat} :
    date.mapM (dateParam P) = .ok time ↔
      (∀ text, date = some text → (P.timestamp text).isSome) ∧ time = date.bind P.timestamp := by
  cases date with
  | none =>
    constructor
    · intro h
      cases h
      refine ⟨fun text hnone => ?_, rfl⟩
      cases hnone
    · rintro ⟨-, rfl⟩
      rfl
  | some text =>
    have hmap : (some text).mapM (dateParam P) = (dateParam P text).map some := by
      show (do let t ← dateParam P text; pure (some t)) = _
      cases dateParam P text <;> rfl
    rw [hmap, dateParam, Option.bind_some]
    cases htext : P.timestamp text with
    | none =>
      constructor
      · intro h
        cases h
      · rintro ⟨hread, -⟩
        have hsome := hread text rfl
        rw [htext] at hsome
        cases hsome
    | some t =>
      constructor
      · intro h
        cases h
        refine ⟨fun text' heq => ?_, rfl⟩
        cases heq
        rw [htext]
        rfl
      · rintro ⟨-, rfl⟩
        rfl

theorem getHistory_eq_ok {vehicleId : String} {dto : GetHistoryDto}
    {r : PaginationResult TelemetryRow} :
    answer W s (TelemetryService.getHistory W.toPlatform vehicleId dto (some req)) = .ok r ↔
      dto.DatesReadable W.toPlatform ∧ ∃ id, Uuid.ofString? vehicleId = some id ∧
        listing W.toPlatform (W.param dto.page 1) (W.param dto.perPage 10) req
          (historyOf W s id dto) = .ok r := by
  have hrun : ((TelemetryService.getHistory W.toPlatform vehicleId dto (some req)).run
      (exec W.toPlatform) s).1 =
      (uuidParam vehicleId >>= fun id =>
        (dto.from?.filter (· ≠ "")).mapM (dateParam W.toPlatform) >>= fun from? =>
        (dto.to?.filter (· ≠ "")).mapM (dateParam W.toPlatform) >>= fun to? =>
        findAndCount W.toPlatform (skipOf (W.param dto.page 1) (W.param dto.perPage 10))
          (W.param dto.perPage 10).value
          (VoltFleet.history W.toPlatform s id fun row =>
            from?.all (· ≤ row.createdAt) ∧ to?.all (row.createdAt ≤ ·))) >>= fun x =>
        generatePagination W.toPlatform (W.param dto.page 1) (W.param dto.perPage 10) x.2
          (some req) x.1 :=
    run_await_lift
  rw [answer, mapError_eq_ok, hrun]
  constructor
  · intro h
    obtain ⟨page, hpage, hblock⟩ := bind_eq_ok.mp h
    obtain ⟨id, hid, hdates⟩ := bind_eq_ok.mp hpage
    obtain ⟨from?, hfrom, hrest⟩ := bind_eq_ok.mp hdates
    obtain ⟨to?, hto, hfind⟩ := bind_eq_ok.mp hrest
    obtain ⟨hfromRead, hfromTime⟩ := mapM_dateParam.mp hfrom
    obtain ⟨htoRead, htoTime⟩ := mapM_dateParam.mp hto
    subst hfromTime htoTime
    exact ⟨⟨hfromRead, htoRead⟩, id, uuidParam_eq_ok.mp hid,
      bind_eq_ok.mpr ⟨page, hfind, hblock⟩⟩
  · rintro ⟨hdates, id, hid, hlisting⟩
    obtain ⟨page, hfind, hblock⟩ := bind_eq_ok.mp hlisting
    refine bind_eq_ok.mpr ⟨page, ?_, hblock⟩
    refine bind_eq_ok.mpr ⟨id, uuidParam_eq_ok.mpr hid, ?_⟩
    refine bind_eq_ok.mpr ⟨_, mapM_dateParam.mpr ⟨hdates.1, rfl⟩, ?_⟩
    exact bind_eq_ok.mpr ⟨_, mapM_dateParam.mpr ⟨hdates.2, rfl⟩, hfind⟩

/-- An endpoint other than the audit log's answers with the page it reads of the list its
filter selects. -/
theorem respond_eq_ok {e : Endpoint} (he : e ≠ .getAuditLogs) {r : PaginationResult e.Row} :
    e.respond W site req = .ok r ↔
      e.Readable W req ∧ ∃ p, e.paging W req = .ok p ∧
        listing W.toPlatform p.page p.perPage p.req (e.selected W site req) = .ok r := by
  cases e with
  | getAllUsers =>
    have hanswer : respond W site req .getAllUsers = .ok r ↔ _ ∧ listing W.toPlatform
        (W.param (req.param "page") 1) (W.param (req.param "perPage") 10) req
        (selected W site req .getAllUsers) = .ok r := answer_getAll_eq_ok .getAllUsers
    simpa [paging, Readable] using hanswer
  | getAllRoles =>
    have hselected : AuthList.sorted W.toPlatform site.store (req.param "search") .getAllRoles =
        selected W site req .getAllRoles := AuthList.sorted_getAllRoles
    have hanswer : respond W site req .getAllRoles = .ok r ↔ _ ∧ listing W.toPlatform
        (W.param (req.param "page") 1) (W.param (req.param "perPage") 10) req
        (AuthList.sorted W.toPlatform site.store (req.param "search") .getAllRoles) = .ok r :=
      answer_getAll_eq_ok .getAllRoles
    rw [hselected] at hanswer
    simpa [paging, Readable] using hanswer
  | getAllPrivileges =>
    have hselected : AuthList.sorted W.toPlatform site.store (req.param "search")
        .getAllPrivileges = selected W site req .getAllPrivileges :=
      AuthList.sorted_getAllPrivileges
    have hanswer : respond W site req .getAllPrivileges = .ok r ↔ _ ∧ listing W.toPlatform
        (W.param (req.param "page") 1) (W.param (req.param "perPage") 10) req
        (AuthList.sorted W.toPlatform site.store (req.param "search") .getAllPrivileges) = .ok r :=
      answer_getAll_eq_ok .getAllPrivileges
    rw [hselected] at hanswer
    simpa [paging, Readable] using hanswer
  | getAuditLogs => exact absurd rfl he
  | history vehicleId =>
    constructor
    · intro h
      obtain ⟨req', hpipes, hanswer⟩ := bind_eq_ok.mp h
      obtain ⟨hdates, id, hid, hlisting⟩ := getHistory_eq_ok.mp hanswer
      obtain ⟨rfl, -⟩ := pipes_eq_ok.mp hpipes
      refine ⟨⟨Option.isSome_of_eq_some hid, hdates⟩, _, bind_eq_ok.mpr ⟨_, hpipes, rfl⟩, ?_⟩
      rw [selected_history hid]
      exact hlisting
    · rintro ⟨hreadable, p, hpaging, hlisting⟩
      obtain ⟨id, hid⟩ := Option.isSome_iff_exists.mp hreadable.1
      obtain ⟨req', hpipes, hp⟩ := bind_eq_ok.mp hpaging
      cases hp
      obtain ⟨rfl, -⟩ := pipes_eq_ok.mp hpipes
      refine bind_eq_ok.mpr ⟨_, hpipes, getHistory_eq_ok.mpr ⟨hreadable.2, id, hid, ?_⟩⟩
      rw [selected_history hid] at hlisting
      exact hlisting

end

end Endpoint

end VoltFleet
