import VoltFleet.Misc.Ties
import VoltFleet.PlainWeb
import VoltFleet.Proofs.Pages

/-!
# The pages of the lists that are sorted by time

`getHistory` and `searchLogs` sort by `createdAt` alone, so that the databases may
return records of one time in any order, another one for each page.  Reading all
pages gives every record once exactly if no two pages share a time.
-/

namespace VoltFleet

open Awaiting

/-- An order in which the databases meet the rows, for each query. -/
structure ScanOrder where
  scan : Nat → ∀ {α : Type}, List α → List α
  scan_perm : ∀ (n : Nat) {α : Type} (l : List α), (scan n l).Perm l

/-- The same over databases with another order. -/
def Web.scanning (W : Web) (o : ScanOrder) : Web :=
  { W with
    scan := o.scan
    scan_perm := o.scan_perm }

/-- The two lists, with their filters. -/
inductive TimedList where
  | getHistory (vehicleId : String) (from? to? : Option String)
  | searchLogs (event target message dateFrom dateTo : Option String)

namespace TimedList

/-- What the list is of. -/
abbrev Row : TimedList → Type
  | .getHistory .. => TelemetryRow
  | .searchLogs .. => AuditLog

/-- The time the list is sorted by. -/
def createdAt : (list : TimedList) → list.Row → Nat
  | .getHistory .. => TelemetryRow.createdAt
  | .searchLogs .. => AuditLog.createdAt

/-- The stored records. -/
def rows (site : Site) : (list : TimedList) → List list.Row
  | .getHistory .. => site.store.telemetry.rows
  | .searchLogs .. => site.audit.logs.rows

/-- The number of random choices the database has made. -/
def draws (site : Site) : TimedList → Nat
  | .getHistory .. => site.store.draws
  | .searchLogs .. => site.audit.draws

/-- A call, and what it leaves of the stores. -/
def call (W : Web) (site : Site) (size page : Option String) (req : Request) :
    (list : TimedList) → Except Thrown (PaginationResult list.Row) × Site
  | .getHistory vehicleId from? to? =>
      let (r, store) := (TelemetryService.getHistory W.toPlatform vehicleId
        ⟨from?, to?, page, size⟩ (some req)).run (exec W.toPlatform) site.store
      (r, { site with store := store })
  | .searchLogs event target message dateFrom dateTo =>
      let (r, audit) := (AuditService.searchLogs W
        ⟨event, target, message, dateFrom, dateTo, page, size⟩ (some req)).run
        (AuditCmd.exec W.toPlatform) site.audit
      (r, { site with audit := audit })

/-- The filter of the logs, without a page. -/
def query (event target message dateFrom dateTo : Option String) : SearchAuditDto :=
  ⟨event, target, message, dateFrom, dateTo, none, none⟩

/-- What the filter selects. -/
def keep (W : Web) : (list : TimedList) → list.Row → Bool
  | .getHistory vehicleId from? to?, row =>
      Uuid.ofString? vehicleId = some row.vehicleId ∧
        ((from?.filter (· ≠ "")).bind W.timestamp).all (· ≤ row.createdAt) ∧
        ((to?.filter (· ≠ "")).bind W.timestamp).all (row.createdAt ≤ ·)
  | .searchLogs event target message dateFrom dateTo, row =>
      match AuditService.filterQuery W (query event target message dateFrom dateTo) >>=
        AuditFilter.selects with
      | .ok keep => keep row
      | .error _ => false

/-- The databases can read the filter. -/
def Accepted (W : Web) : TimedList → Prop
  | .getHistory vehicleId from? to? => (Uuid.ofString? vehicleId).isSome ∧
      GetHistoryDto.DatesReadable W.toPlatform ⟨from?, to?, none, none⟩
  | .searchLogs event target message dateFrom dateTo =>
      ∃ keep, (AuditService.filterQuery W (query event target message dateFrom dateTo) >>=
        AuditFilter.selects) = .ok keep

/-- The matching records. -/
def matching (W : Web) (site : Site) (list : TimedList) : List list.Row :=
  (list.rows site).filter (list.keep W)

/-- The same in the order in which the `i`-th query from now on returns them. -/
def sorted (W : Web) (site : Site) (list : TimedList) (i : Nat) : List list.Row :=
  ((W.scan (list.draws site + i) (list.rows site)).filter (list.keep W)).mergeSort
    fun a b => list.createdAt b ≤ list.createdAt a

/-- The pages of `k` records can be read: the databases take the filter and the page size, and the
records can be counted. -/
structure Pageable (W : Web) (site : Site) (size : Option String) (k : Nat) (list : TimedList) :
    Prop where
  accepted : list.Accepted W
  size : (W.param size 10).value = .finite k
  one_le : 1 ≤ k
  takes : W.takesCount k = true
  rows : (list.matching W site).length ≤ JsNumber.maxSafeInteger

variable {W : Web} {site : Site} {list : TimedList} {size page : Option String} {req : Request}
  {i k p : Nat}

instance : (list : TimedList) → DecidableEq list.Row
  | .getHistory .. => inferInstanceAs (DecidableEq TelemetryRow)
  | .searchLogs .. => inferInstanceAs (DecidableEq AuditLog)

theorem rows_nodup : (list.rows site).Nodup := by
  cases list with
  | getHistory => exact site.store.telemetry.rows_nodup
  | searchLogs => exact site.audit.logs.rows_nodup

theorem matching_nodup : (list.matching W site).Nodup := rows_nodup.filter _

theorem sorted_perm : (list.sorted W site i).Perm (list.matching W site) :=
  (List.mergeSort_perm _ _).trans ((W.scan_perm _ _).filter _)

theorem sorted_descending : Pages.Descending list.createdAt (list.sorted W site i) :=
  Pages.descending_mergeSort _ _

/-! ## One call -/

/-- What a search whose filter can be read answers with, as long as its offset is counted
exactly. -/
theorem run_searchLogs {dto : SearchAuditDto} {s : AuditStore} {filter : AuditFilter}
    {keep : AuditLog → Bool} (hfilter : AuditService.filterQuery W dto = .ok filter)
    (hkeep : filter.selects = .ok keep) (hpage : (W.param dto.page 1).value = .finite p)
    (hlimit : (W.param dto.limit 10).value = .finite k) (hk : 1 ≤ k)
    (hskipped : skipped p k = ((p - 1) * k : Nat)) (hskips : W.takesCount ((p - 1) * k) = true)
    (htakes : W.takesCount k = true) :
    (AuditService.searchLogs W dto (some req)).run (AuditCmd.exec W.toPlatform) s =
      (generatePagination W.toPlatform (W.param dto.page 1) (W.param dto.limit 10)
        (s.logs.rows.filter keep).length (some req)
        (Pages.page k (p - 1) (s.sorted W.toPlatform keep)),
      { s with draws := s.draws + 1 }) := by
  have hskip : ((W.param dto.page 1).value.sub 1).mul (.finite k) =
      .finite ((p - 1) * k : Nat) := by
    rw [hpage, ← hskipped]
    rfl
  have hoffset : findCount W.toPlatform (.finite ((p - 1) * k : Nat)) = .ok ((p - 1) * k) :=
    findCount_eq_ok.mpr ⟨rfl, hskips⟩
  have hcount : findCount W.toPlatform (.finite (k : Nat)) = .ok k :=
    findCount_eq_ok.mpr ⟨rfl, htakes⟩
  have hfind : AuditCmd.exec W.toPlatform
      (.find filter (((W.param dto.page 1).value.sub 1).mul (W.param dto.limit 10).value)
        (W.param dto.limit 10).value) s =
      (.ok (Pages.page k (p - 1) (s.sorted W.toPlatform keep)),
        { s with draws := s.draws + 1 }) := by
    have hsize : k ≠ 0 := Nat.one_le_iff_ne_zero.mp hk
    rw [hlimit, hskip]
    simp only [AuditCmd.exec, hkeep, hoffset, hcount, bind, Except.bind, pure, Except.pure,
      if_neg hsize]
    rfl
  have htotal : AuditCmd.exec W.toPlatform (.countDocuments filter)
      { s with draws := s.draws + 1 } =
      (.ok (s.logs.rows.filter keep).length, { s with draws := s.draws + 1 }) := by
    simp only [AuditCmd.exec, hkeep, bind, Except.bind, pure, Except.pure]
  unfold AuditService.searchLogs
  dsimp only
  rw [hfilter, Prog.ofExcept_ok, Prog.ret_bind, Prog.run_bind, Prog.run_await, hfind]
  dsimp only
  rw [Prog.run_bind, Prog.run_await, htotal]
  exact Prog.run_ofExcept _ _ _

theorem exists_filter {event target message dateFrom dateTo : Option String}
    (haccepted : (TimedList.searchLogs event target message dateFrom dateTo).Accepted W) :
    ∃ filter, AuditService.filterQuery W (query event target message dateFrom dateTo) =
        .ok filter ∧
      filter.selects =
        .ok ((TimedList.searchLogs event target message dateFrom dateTo).keep W) := by
  obtain ⟨keep, hkeep⟩ := haccepted
  obtain ⟨filter, hfilter, hselects⟩ := bind_eq_ok.mp hkeep
  refine ⟨filter, hfilter, hselects.trans (congrArg Except.ok ?_)⟩
  funext row
  simp only [TimedList.keep, hkeep]

theorem historyOf_eq_sorted {vehicleId : String} {from? to? : Option String} {vehicle : Uuid}
    (hid : Uuid.ofString? vehicleId = some vehicle) :
    Endpoint.historyOf W site.store vehicle ⟨from?, to?, page, size⟩ =
      (TimedList.getHistory vehicleId from? to?).sorted W site 0 := by
  unfold Endpoint.historyOf history sorted
  refine congrArg (List.mergeSort · _) (List.filter_congr fun row _ => ?_)
  refine decide_eq_decide.mpr ?_
  rw [hid, Option.some.injEq, eq_comm, decide_eq_true_eq]

/-- A page of the list that is asked for by its number is that page of the sorted records; the
call only takes the next random choice. -/
theorem exists_call (h : list.Pageable W site size k)
    (hpage : (W.param page 1).value = .finite p) (hp : 1 ≤ p)
    (hlast : p ≤ max (Pages.count k (list.matching W site).length) 1) :
    ∃ r site', list.call W site size page req = (.ok r, site') ∧
      IsPage k p (list.sorted W site 0) r ∧ list.rows site' = list.rows site ∧
      list.draws site' = list.draws site + 1 := by
  obtain ⟨haccepted, hsize, hk, htakes, hrows⟩ := h
  have hlength : (list.matching W site).length = (list.sorted W site 0).length :=
    sorted_perm.length_eq.symm
  rw [hlength] at hrows hlast
  have hskips : W.takesCount (nearest (skipped p k)) = true :=
    takesCount_skipped hp hk hrows hlast
  cases list with
  | getHistory vehicleId from? to? =>
    obtain ⟨hid, hdates⟩ := haccepted
    obtain ⟨vehicle, hvehicle⟩ := Option.isSome_iff_exists.mp hid
    obtain ⟨r, hr, hispage⟩ : ∃ r, listing W.toPlatform (W.param page 1) (W.param size 10) req
        ((TimedList.getHistory vehicleId from? to?).sorted W site 0) = .ok r ∧ _ :=
      exists_page hpage hsize hp hk hrows hskips htakes
    have hsorted : Endpoint.historyOf W site.store vehicle ⟨from?, to?, page, size⟩ =
        (TimedList.getHistory vehicleId from? to?).sorted W site 0 := historyOf_eq_sorted hvehicle
    rw [← hsorted] at hr
    have hreadable : GetHistoryDto.DatesReadable W.toPlatform ⟨from?, to?, page, size⟩ := hdates
    have hanswer := Endpoint.mapError_eq_ok.mp
      (Endpoint.getHistory_eq_ok.mpr ⟨hreadable, vehicle, hvehicle, hr⟩)
    have hstore : ((TelemetryService.getHistory W.toPlatform vehicleId ⟨from?, to?, page, size⟩
        (some req)).run (exec W.toPlatform) site.store).2 =
        { site.store with draws := site.store.draws + 1 } := run_await_lift_store
    refine ⟨r, { site with store := { site.store with draws := site.store.draws + 1 } }, ?_,
      hispage, rfl, rfl⟩
    rw [call, ← hanswer, ← hstore]
  | searchLogs event target message dateFrom dateTo =>
    obtain ⟨filter, hfilter, hselects⟩ := exists_filter haccepted
    obtain ⟨hskipped, hoffset⟩ := skipped_eq (P := W.toPlatform) hp hk hrows hlast
    have hrun : (AuditService.searchLogs W ⟨event, target, message, dateFrom, dateTo, page, size⟩
        (some req)).run (AuditCmd.exec W.toPlatform) site.audit = _ :=
      run_searchLogs hfilter hselects hpage hsize hk hskipped hoffset htakes
    obtain ⟨r, hr, hispage⟩ : ∃ r, generatePagination W.toPlatform (W.param page 1)
        (W.param size 10)
        ((TimedList.searchLogs event target message dateFrom dateTo).sorted W site 0).length
        (some req) (Pages.page k (p - 1)
          ((TimedList.searchLogs event target message dateFrom dateTo).sorted W site 0)) = .ok r ∧
        _ := exists_generatePagination_page hpage hsize hp hk hrows hskips htakes
    refine ⟨r, { site with audit := { site.audit with draws := site.audit.draws + 1 } }, ?_,
      hispage, rfl, rfl⟩
    have hlength : ((TimedList.searchLogs event target message dateFrom dateTo).sorted W
        site 0).length = (site.audit.logs.rows.filter _).length := sorted_perm.length_eq
    rw [hlength] at hr
    rw [call, hrun]
    exact congrArg (Prod.mk · _) hr

/-! ## Reading all pages -/

section

variable (W : Web) (site : Site) {P : Platform} (requests : PageRequests P)
  (size : Option String) (list : TimedList)

/-- The stores after the first `i` pages have been read; nothing is written meanwhile. -/
def siteAfter : Nat → Site
  | 0 => site
  | i + 1 => (list.call W (siteAfter i) size (requests.page (i + 1)) (requests.req (i + 1))).2

/-- The answer to the request for page `i + 1`. -/
def answer (i : Nat) : Except Thrown (PaginationResult list.Row) :=
  (list.call W (list.siteAfter W site requests size i) size (requests.page (i + 1))
    (requests.req (i + 1))).1

/-- Pages `1` to `totalPages` are there and have every matching record once. -/
def ReadsOnce : Prop :=
  ∃ (m : Nat) (r : Nat → PaginationResult list.Row),
    (∀ i < max m 1, list.answer W site requests size i = .ok (r i) ∧
      (r i).pagination.totalPages = .finite (m : ℚ)) ∧
    ((List.range m).flatMap fun i => (r i).data).Perm (list.matching W site)

end

variable {P : Platform} {requests : PageRequests P}

/-- The pages of the list are pages of the records in the order of the query at hand. -/
theorem exists_answers (h : list.Pageable W site size k)
    (hreads : ∀ p, 1 ≤ p → p ≤ JsNumber.maxSafeInteger →
      (W.param (requests.page p) 1).value = .finite p) :
    ∃ r : Nat → PaginationResult list.Row,
      ∀ i < max (Pages.count k (list.matching W site).length) 1,
        list.answer W site requests size i = .ok (r i) ∧
          IsPage k (i + 1) (list.sorted W site i) (r i) := by
  have hcall : ∀ i < max (Pages.count k (list.matching W site).length) 1,
      list.rows (list.siteAfter W site requests size i) = list.rows site →
      ∃ r site', list.call W (list.siteAfter W site requests size i) size
        (requests.page (i + 1)) (requests.req (i + 1)) = (.ok r, site') ∧
        IsPage k (i + 1) (list.sorted W (list.siteAfter W site requests size i) 0) r ∧
        list.rows site' = list.rows (list.siteAfter W site requests size i) ∧
        list.draws site' = list.draws (list.siteAfter W site requests size i) + 1 := by
    intro i hi hsame
    have hmatching : list.matching W (list.siteAfter W site requests size i) =
        list.matching W site := by rw [matching, matching, hsame]
    have hpageable : list.Pageable W (list.siteAfter W site requests size i) size k :=
      { h with rows := hmatching ▸ h.rows }
    have hsafe : i + 1 ≤ JsNumber.maxSafeInteger := by
      have hcount : Pages.count k (list.matching W site).length ≤ JsNumber.maxSafeInteger :=
        count_le_safe h.one_le h.rows
      have hone : 1 ≤ JsNumber.maxSafeInteger := by decide
      omega
    exact exists_call hpageable (hreads (i + 1) (Nat.le_add_left 1 i) hsafe) (Nat.le_add_left 1 i)
      (hmatching ▸ hi)
  have hsite : ∀ i ≤ max (Pages.count k (list.matching W site).length) 1,
      list.rows (list.siteAfter W site requests size i) = list.rows site ∧
        list.draws (list.siteAfter W site requests size i) = list.draws site + i := by
    intro i
    induction i with
    | zero => exact fun _ => ⟨rfl, rfl⟩
    | succ i ih =>
      intro hi
      have hbefore := ih (Nat.le_of_succ_le hi)
      obtain ⟨r, site', hsite', -, hrows, hdraws⟩ := hcall i hi hbefore.1
      rw [siteAfter, hsite', hrows, hdraws, hbefore.1, hbefore.2]
      exact ⟨rfl, rfl⟩
  have hanswer : ∀ i < max (Pages.count k (list.matching W site).length) 1,
      ∃ r, list.answer W site requests size i = .ok r ∧
        IsPage k (i + 1) (list.sorted W site i) r := by
    intro i hi
    obtain ⟨hsame, hdrawn⟩ := hsite i hi.le
    obtain ⟨r, site', hsite', hispage, -⟩ := hcall i hi hsame
    rw [sorted, hsame, hdrawn, Nat.add_zero] at hispage
    exact ⟨r, by rw [answer, hsite'], hispage⟩
  obtain ⟨r₀, -⟩ := hanswer 0 (Nat.lt_of_lt_of_le Nat.one_pos (Nat.le_max_right _ _))
  have hresult : Nonempty (PaginationResult list.Row) := ⟨r₀⟩
  choose! r hr using hanswer
  exact ⟨r, hr⟩

/-! ## What the databases can choose -/

theorem keep_scanning (o : ScanOrder) : list.keep (W.scanning o) = list.keep W := by
  cases list <;> rfl

theorem accepted_scanning (o : ScanOrder) (haccepted : list.Accepted W) :
    list.Accepted (W.scanning o) := by
  cases list <;> exact haccepted

theorem matching_scanning (o : ScanOrder) :
    list.matching (W.scanning o) site = list.matching W site := by
  rw [matching, matching, keep_scanning]

theorem pageable_scanning (o : ScanOrder) (h : list.Pageable W site size k) :
    list.Pageable (W.scanning o) site size k where
  accepted := accepted_scanning o h.accepted
  size := h.size
  one_le := h.one_le
  takes := h.takes
  rows := by
    rw [matching_scanning]
    exact h.rows

/-- Whatever the orders, the databases can meet the rows so that the queries return the matching
records in them. -/
theorem exists_scanning {order : Nat → List list.Row}
    (horder : ∀ i, (order i).Perm (list.matching W site) ∧
      Pages.Descending list.createdAt (order i)) :
    ∃ o : ScanOrder, ∀ i, list.sorted (W.scanning o) site i = order i := by
  have hall : ∀ i, (order i ++ (list.rows site).filter fun row => !list.keep W row).Perm
      (list.rows site) := by
    intro i
    exact ((horder i).1.append_right _).trans (List.filter_append_perm _ _)
  have hplaces : ∀ i, ∃ places, Pages.reorder places (list.rows site) =
      order i ++ (list.rows site).filter fun row => !list.keep W row :=
    fun i => Pages.exists_reorder rows_nodup (hall i)
  choose places hplaces using hplaces
  refine ⟨⟨fun n _ l => Pages.reorder (places (n - list.draws site)) l,
    fun n _ l => Pages.reorder_perm _ l⟩, fun i => ?_⟩
  have hkept : (order i).filter (list.keep W) = order i := by
    refine List.filter_eq_self.mpr fun row hrow => ?_
    exact (List.mem_filter.mp ((horder i).1.mem_iff.mp hrow)).2
  have hdropped : ((list.rows site).filter fun row => !list.keep W row).filter (list.keep W) =
      [] := by
    refine List.filter_eq_nil_iff.mpr fun row hrow => ?_
    simpa using (List.mem_filter.mp hrow).2
  have hscan : list.sorted (W.scanning ⟨fun n _ l => Pages.reorder (places (n - list.draws site)) l,
      fun n _ l => Pages.reorder_perm _ l⟩) site i =
      ((Pages.reorder (places (list.draws site + i - list.draws site)) (list.rows site)).filter
        (list.keep W)).mergeSort fun a b => list.createdAt b ≤ list.createdAt a := by
    rw [sorted, keep_scanning]
    rfl
  rw [hscan, Nat.add_sub_cancel_left, hplaces, List.filter_append, hkept, hdropped, List.append_nil]
  exact List.mergeSort_of_pairwise ((horder i).2.imp fun h => decide_eq_true h)

theorem sorted_scanning_perm (o : ScanOrder) :
    (list.sorted (W.scanning o) site i).Perm (list.matching W site) := by
  rw [← matching_scanning o]
  exact sorted_perm

/-- What is read, whatever order the databases choose. -/
theorem exists_pages (h : list.Pageable W site size k) (requests : PageRequests W.toPlatform)
    (o : ScanOrder) :
    ∃ r : Nat → PaginationResult list.Row,
      (∀ i < max (Pages.count k (list.matching W site).length) 1,
        list.answer (W.scanning o) site requests size i = .ok (r i) ∧
          (r i).pagination.totalPages =
            .finite (Pages.count k (list.matching W site).length : ℚ)) ∧
      ∀ i < max (Pages.count k (list.matching W site).length) 1,
        (r i).data = Pages.page k i (list.sorted (W.scanning o) site i) := by
  have hreads : ∀ p, 1 ≤ p → p ≤ JsNumber.maxSafeInteger →
      ((W.scanning o).param (requests.page p) 1).value = .finite p :=
    fun p hp hsafe => requests.reads p (requests.asks p hp hsafe)
  obtain ⟨r, hr⟩ := exists_answers (pageable_scanning o h) hreads
  rw [matching_scanning] at hr
  refine ⟨r, fun i hi => ⟨(hr i hi).1, ?_⟩, fun i hi => ?_⟩
  · rw [(hr i hi).2.totalPages, (sorted_scanning_perm o).length_eq]
  · rw [(hr i hi).2.data, Nat.add_sub_cancel]

/-- Where the records of each time are on one page, the pages have every record once. -/
theorem readsOnce_of_onOnePage (h : list.Pageable W site size k)
    (requests : PageRequests W.toPlatform)
    (hpages : ∀ a ∈ list.matching W site,
      Pages.OnOnePage list.createdAt k (list.matching W site) a) (o : ScanOrder) :
    list.ReadsOnce (W.scanning o) site requests size := by
  obtain ⟨r, hr, hdata⟩ := exists_pages h requests o
  refine ⟨_, r, hr, ?_⟩
  have hread : ∀ i ∈ List.range (Pages.count k (list.matching W site).length),
      (r i).data = Pages.page k i (list.sorted (W.scanning o) site i) :=
    fun i hi => hdata i ((List.mem_range.mp hi).trans_le (Nat.le_max_left _ _))
  rw [matching_scanning, List.flatMap_congr hread]
  exact Pages.perm_of_onOnePage h.one_le matching_nodup
    (fun i => ⟨sorted_scanning_perm o, sorted_descending⟩) hpages

/-- A record whose time is on one page is on a page that is read. -/
theorem exists_on_page (h : list.Pageable W site size k) (requests : PageRequests W.toPlatform)
    {a : list.Row} (ha : a ∈ list.matching W site)
    (hpage : Pages.OnOnePage list.createdAt k (list.matching W site) a) (o : ScanOrder) :
    ∃ (m : Nat) (r : Nat → PaginationResult list.Row),
      (∀ i < max m 1, list.answer (W.scanning o) site requests size i = .ok (r i) ∧
        (r i).pagination.totalPages = .finite (m : ℚ)) ∧
      ∃ i < m, a ∈ (r i).data := by
  obtain ⟨r, hr, hdata⟩ := exists_pages h requests o
  have hplace : Pages.ahead list.createdAt (list.matching W site) a / k <
      Pages.count k (list.matching W site).length := Pages.ahead_lt_count h.one_le ha
  refine ⟨_, r, hr, _, hplace, ?_⟩
  rw [hdata _ (hplace.trans_le (Nat.le_max_left _ _))]
  exact (Pages.mem_page_of_onOnePage h.one_le (sorted_scanning_perm o) sorted_descending hpage).mpr
    ⟨ha, rfl⟩

/-- Where the records of one time are on two pages, the databases can return them so that one
of them is on no page that is read. -/
theorem exists_missing (h : list.Pageable W site size k) (requests : PageRequests W.toPlatform)
    {a : list.Row} (ha : a ∈ list.matching W site)
    (hpages : ¬Pages.OnOnePage list.createdAt k (list.matching W site) a) :
    ∃ o : ScanOrder, ∀ i < Pages.count k (list.matching W site).length, ∀ r,
      list.answer (W.scanning o) site requests size i = .ok r → a ∉ r.data := by
  have hperm : (list.sorted W site 0).Perm (list.matching W site) := sorted_perm
  obtain ⟨order, horder, hmissed⟩ : ∃ order : Nat → List list.Row,
      (∀ i, (order i).Perm (list.sorted W site 0) ∧ Pages.Descending list.createdAt (order i)) ∧
        ∀ i, a ∉ Pages.page k i (order i) :=
    Pages.exists_missed h.one_le (hperm.nodup_iff.mpr matching_nodup) sorted_descending
      (hperm.mem_iff.mpr ha) ((Pages.onOnePage_perm hperm).not.mpr hpages)
  obtain ⟨o, ho⟩ := exists_scanning (fun i => ⟨(horder i).1.trans hperm, (horder i).2⟩)
  obtain ⟨r, hr, hdata⟩ := exists_pages h requests o
  refine ⟨o, fun i hi r' hr' => ?_⟩
  have hi' : i < max (Pages.count k (list.matching W site).length) 1 :=
    hi.trans_le (Nat.le_max_left _ _)
  cases (hr i hi').1.symm.trans hr'
  rw [hdata i hi', ho i]
  exact hmissed i

/-- Every answer counts the pages in the same way. -/
theorem totalPages_of_answer (h : list.Pageable W site size k)
    {requests : PageRequests W.toPlatform} {o : ScanOrder} {m : Nat} {r : PaginationResult list.Row}
    (hr : list.answer (W.scanning o) site requests size 0 = .ok r)
    (hm : r.pagination.totalPages = .finite (m : ℚ)) :
    m = Pages.count k (list.matching W site).length := by
  obtain ⟨r', hr', -⟩ := exists_pages h requests o
  obtain ⟨hanswer, htotal⟩ := hr' 0 (Nat.lt_of_lt_of_le Nat.one_pos (Nat.le_max_right _ _))
  cases hanswer.symm.trans hr
  rw [htotal] at hm
  exact_mod_cast (JsNumber.finite.inj hm).symm

theorem onOnePage_of_readsOnce (hpageable : list.Pageable W site size k)
    (requests : PageRequests W.toPlatform)
    (h : ∀ o : ScanOrder, list.ReadsOnce (W.scanning o) site requests size) :
    ∀ a ∈ list.matching W site,
      Pages.OnOnePage list.createdAt k (list.matching W site) a := by
  intro a ha
  by_contra hpages
  obtain ⟨o, hmissing⟩ := exists_missing hpageable requests ha hpages
  obtain ⟨m, r, hr, hall⟩ := h o
  obtain ⟨hfirst, htotal⟩ := hr 0 (Nat.lt_of_lt_of_le Nat.one_pos (Nat.le_max_right _ _))
  have hm : m = Pages.count k (list.matching W site).length :=
    totalPages_of_answer hpageable hfirst htotal
  rw [matching_scanning] at hall
  obtain ⟨i, hi, hmem⟩ := List.mem_flatMap.mp (hall.mem_iff.mpr ha)
  have hi : i < m := List.mem_range.mp hi
  exact hmissing i (hm ▸ hi) (r i) (hr i (hi.trans_le (Nat.le_max_left _ _))).1 hmem

/-- A page that is answered has a size that the databases take. -/
theorem takesCount_of_answer {requests : PageRequests W.toPlatform} {r : PaginationResult list.Row}
    (hsize : (W.param size 10).value = .finite k)
    (h : list.answer W site requests size i = .ok r) : W.takesCount k = true := by
  cases list with
  | getHistory vehicleId from? to? =>
    obtain ⟨-, vehicle, -, hlisting⟩ :=
      Endpoint.getHistory_eq_ok.mp (Endpoint.mapError_eq_ok.mpr h)
    exact takesCount_of_listing hsize hlisting
  | searchLogs event target message dateFrom dateTo =>
    unfold answer call at h
    obtain ⟨filter, -, h⟩ := (Prog.run_bind_eq_ok _).mp h
    obtain ⟨items, hfind, -⟩ := (Prog.run_bind_eq_ok _).mp h
    rw [Prog.run_await] at hfind
    obtain ⟨keep, -, hfind⟩ := bind_eq_ok.mp hfind
    obtain ⟨offset, -, hfind⟩ := bind_eq_ok.mp hfind
    obtain ⟨limit, hlimit, -⟩ := bind_eq_ok.mp hfind
    obtain ⟨hvalue, htakes⟩ := findCount_eq_ok.mp hlimit
    have hlimit : (JsNumber.finite (k : ℚ)) = .finite (limit : ℚ) := hsize.symm.trans hvalue
    rw [Nat.cast_injective (JsNumber.finite.inj hlimit)]
    exact htakes

/-- Reading all pages gives every matching record once, whatever order the databases choose among
the records of one time, exactly if they take the page size and the records of each time are on one
page. -/
theorem readsOnce_iff (list : TimedList) (W : Web) (site : Site)
    (requests : PageRequests W.toPlatform) (size : Option String) {k : Nat} (hk : 1 ≤ k)
    (hsize : (W.param size 10).value = .finite k) (haccepted : list.Accepted W)
    (hrows : (list.matching W site).length ≤ JsNumber.maxSafeInteger) :
    (∀ o : ScanOrder, list.ReadsOnce (W.scanning o) site requests size) ↔
      W.takesCount k = true ∧ ∀ a ∈ list.matching W site,
        Pages.OnOnePage list.createdAt k (list.matching W site) a := by
  constructor
  · intro h
    have htakes : W.takesCount k = true := by
      obtain ⟨m, r, hr, -⟩ := h ⟨W.scan, W.scan_perm⟩
      exact takesCount_of_answer hsize
        (hr 0 (Nat.lt_of_lt_of_le Nat.one_pos (Nat.le_max_right _ _))).1
    exact ⟨htakes, onOnePage_of_readsOnce ⟨haccepted, hsize, hk, htakes, hrows⟩ requests h⟩
  · rintro ⟨htakes, hpages⟩ o
    exact readsOnce_of_onOnePage ⟨haccepted, hsize, hk, htakes, hrows⟩ requests hpages o

end TimedList

/-! ## Two readings of one time -/

/-- Two readings of a vehicle, stored at the same time. -/
def tiedSite : Site where
  store :=
    { Store.empty with
      telemetry :=
        { rows := [⟨.ofNat 2, .ofNat 1, 52, 13, 50, 81, 21, some "north", 10⟩,
            ⟨.ofNat 3, .ofNat 1, 52, 13, 40, 80, 20, some "north", 10⟩]
          nodup := by decide } }
  audit := ⟨∅, 30, 0⟩

namespace TimedList

/-- All readings of the vehicle. -/
abbrev tiedList : TimedList := .getHistory (Uuid.ofNat 1).text none none

theorem tiedList_accepted : tiedList.Accepted Web.plain := by
  refine ⟨by decide +kernel, ?_⟩
  constructor <;> intro text htext <;> cases htext

/-- On one page of ten they are read once. -/
theorem readsOnce_iff_tens :
    (∀ o : ScanOrder, tiedList.ReadsOnce (Web.plain.scanning o) tiedSite
        Web.plain.pageRequests (some "10")) ↔
      Web.plain.takesCount 10 = true ∧ ∀ a ∈ tiedList.matching Web.plain tiedSite,
        Pages.OnOnePage tiedList.createdAt 10 (tiedList.matching Web.plain tiedSite) a :=
  readsOnce_iff _ _ _ _ _ (by decide) (by decide +kernel) tiedList_accepted (by decide +kernel)

/-- On two pages of one, the databases can return the same reading twice. -/
theorem not_readsOnce_ones : ¬∀ o : ScanOrder,
    tiedList.ReadsOnce (Web.plain.scanning o) tiedSite Web.plain.pageRequests (some "1") := by
  intro h
  have hsize : (Web.plain.param (some "1") 10).value = .finite (1 : Nat) := by decide +kernel
  have hmatching : tiedList.matching Web.plain tiedSite = tiedSite.store.telemetry.rows := by
    decide +kernel
  have hrows : (tiedList.matching Web.plain tiedSite).length ≤ JsNumber.maxSafeInteger := by
    rw [hmatching]
    decide
  have hpages := onOnePage_of_readsOnce
    ⟨tiedList_accepted, hsize, le_rfl, by decide, hrows⟩ Web.plain.pageRequests h
  rw [hmatching] at hpages
  exact absurd (hpages _ (List.mem_cons_self ..)) (by decide)

end TimedList

end VoltFleet
