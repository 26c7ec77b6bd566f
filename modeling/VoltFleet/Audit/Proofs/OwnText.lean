import VoltFleet.Proofs.TimedLists

/-!
# Finding a log by its own text

`log` stores plain text, and `searchLogs` reads the text it is given as a regular
expression.  A log is found by its own texts exactly if each of them is an
expression that matches itself, and no other page has a log of the same time.
-/

namespace VoltFleet

open Awaiting

/-- The texts of a log by which it is searched. -/
structure OwnTexts where
  event : Bool
  target : Bool
  message : Bool

/-- The text is an expression that matches itself; the empty text is no filter. -/
def MatchesItself (W : Web) (text : String) : Prop :=
  text = "" ∨ ∃ matchesText, W.regExp text = some matchesText ∧ matchesText text = true

namespace AuditLog

variable (W : Web) (site : Site) (log : AuditLog) (own : OwnTexts)

/-- The search for a log by its own texts. -/
abbrev ownSearch : TimedList :=
  .searchLogs (if own.event then some log.event else none)
    (if own.target then some log.target else none)
    (if own.message then some log.message else none) none none

/-- Each of the texts matches itself. -/
structure TextsMatch : Prop where
  event : own.event = true → MatchesItself W log.event
  target : own.target = true → MatchesItself W log.target
  message : own.message = true → MatchesItself W log.message

/-- Whatever order the databases choose, the search answers with every page of its list, and one
of them has the log. -/
def FindsItself {P : Platform} (requests : PageRequests P) (limit : Option String) : Prop :=
  ∀ o : ScanOrder, ∃ (m : Nat) (r : Nat → PaginationResult AuditLog),
    (∀ i < max m 1, (log.ownSearch own).answer (W.scanning o) site requests limit i = .ok (r i) ∧
      (r i).pagination.totalPages = .finite (m : ℚ)) ∧
    ∃ i < m, log ∈ (r i).data

variable {W site log own}

/-! ## What is saved -/

/-- A log with a message is saved as it is, at the time of the server. -/
theorem mem_logs_of_log {P : Platform} {s : AuditStore} {event target message : String}
    (hmessage : message ≠ "") (hfresh : s.draws ∉ s.logs.rows.map AuditLog.id) :
    ⟨s.draws, event, target, message, s.clock⟩ ∈
      ((AuditService.log event target message).run (AuditCmd.exec P) s).2.logs.rows := by
  rw [AuditService.run_log hmessage hfresh]
  exact List.mem_cons_self ..

/-! ## The filter -/

theorem pattern_own {text : String} {b : Bool} :
    (∃ m, AuditService.pattern W (if b then some text else none) = .ok m ∧
        m.all (fun matchesText => matchesText text) = true) ↔
      (b = true → MatchesItself W text) := by
  cases b with
  | false => simp [AuditService.pattern]
  | true =>
    rw [if_pos rfl, forall_prop_of_true rfl, MatchesItself]
    by_cases htext : text = ""
    · subst htext
      have hnone : AuditService.pattern W (some "") = .ok none := rfl
      simp [hnone]
    · have hfilter : (some text).filter (· ≠ "") = some text := by
        rw [Option.filter_some, if_pos (decide_eq_true htext)]
      simp only [AuditService.pattern, hfilter, htext, false_or]
      cases W.regExp text <;> simp

/-- Without dates a filter selects by the three texts. -/
theorem selects_texts {event target message : Option (String → Bool)} :
    AuditFilter.selects ⟨event, target, message, none, none⟩ = .ok fun log =>
      event.all (fun matchesText => matchesText log.event) ∧
        target.all (fun matchesText => matchesText log.target) ∧
        message.all (fun matchesText => matchesText log.message) ∧
        (none : Option Nat).all (· ≤ log.createdAt) ∧
        (none : Option Nat).all (log.createdAt ≤ ·) := rfl

/-- The search accepts the texts and selects the log exactly if they match themselves. -/
theorem keep_ownSearch :
    ((log.ownSearch own).Accepted W ∧ (log.ownSearch own).keep W log = true) ↔
      log.TextsMatch W own := by
  constructor
  · rintro ⟨haccepted, hkeep⟩
    obtain ⟨filter, hfilter, hselects⟩ := TimedList.exists_filter haccepted
    obtain ⟨event, hevent, h⟩ := bind_eq_ok.mp hfilter
    obtain ⟨target, htarget, h⟩ := bind_eq_ok.mp h
    obtain ⟨message, hmessage, h⟩ := bind_eq_ok.mp h
    cases h
    rw [← Except.ok.inj (selects_texts.symm.trans hselects)] at hkeep
    obtain ⟨heventLog, htargetLog, hmessageLog, -⟩ := of_decide_eq_true hkeep
    exact ⟨pattern_own.mp ⟨event, hevent, heventLog⟩, pattern_own.mp ⟨target, htarget, htargetLog⟩,
      pattern_own.mp ⟨message, hmessage, hmessageLog⟩⟩
  · intro h
    obtain ⟨event, hevent, heventLog⟩ := pattern_own.mpr h.event
    obtain ⟨target, htarget, htargetLog⟩ := pattern_own.mpr h.target
    obtain ⟨message, hmessage, hmessageLog⟩ := pattern_own.mpr h.message
    have hfilter : AuditService.filterQuery W (TimedList.query
        (if own.event then some log.event else none) (if own.target then some log.target else none)
        (if own.message then some log.message else none) none none) =
        .ok ⟨event, target, message, none, none⟩ :=
      bind_eq_ok.mpr ⟨event, hevent, bind_eq_ok.mpr ⟨target, htarget,
        bind_eq_ok.mpr ⟨message, hmessage, rfl⟩⟩⟩
    have haccepted : (log.ownSearch own).Accepted W :=
      ⟨_, bind_eq_ok.mpr ⟨_, hfilter, selects_texts⟩⟩
    refine ⟨haccepted, ?_⟩
    obtain ⟨filter, hfilter', hselects⟩ := TimedList.exists_filter haccepted
    cases hfilter.symm.trans hfilter'
    rw [← Except.ok.inj (selects_texts.symm.trans hselects)]
    exact decide_eq_true ⟨heventLog, htargetLog, hmessageLog, rfl, rfl⟩

/-! ## Finding it -/

/-- A search that returns has read its filter. -/
theorem exists_keep_of_searchLogs {dto : SearchAuditDto} {req : Request} {s : AuditStore}
    {r : PaginationResult AuditLog}
    (h : ((AuditService.searchLogs W dto (some req)).run (AuditCmd.exec W.toPlatform) s).1 =
      .ok r) :
    ∃ keep, (AuditService.filterQuery W dto >>= AuditFilter.selects) = .ok keep := by
  obtain ⟨filter, hfilter, h⟩ := (Prog.run_bind_eq_ok _).mp h
  obtain ⟨items, hitems, -⟩ := (Prog.run_bind_eq_ok _).mp h
  rw [Prog.run_ofExcept] at hfilter
  rw [Prog.run_await] at hitems
  obtain ⟨keep, hkeep, -⟩ := bind_eq_ok.mp hitems
  exact ⟨keep, bind_eq_ok.mpr ⟨filter, hfilter, hkeep⟩⟩

theorem accepted_of_answer {P : Platform} {requests : PageRequests P} {limit : Option String}
    {i : Nat} {r : PaginationResult AuditLog}
    (h : (log.ownSearch own).answer W site requests limit i = .ok r) :
    (log.ownSearch own).Accepted W := by
  unfold TimedList.answer TimedList.call at h
  obtain ⟨keep, hkeep⟩ := exists_keep_of_searchLogs h
  exact ⟨keep, hkeep⟩

/-- A search that answers takes its texts and its page size. -/
theorem pageable_of_findsItself {requests : PageRequests W.toPlatform} {limit : Option String}
    {k : Nat} (hk : 1 ≤ k) (hlimit : (W.param limit 10).value = .finite k)
    (hrows : ((log.ownSearch own).matching W site).length ≤ JsNumber.maxSafeInteger)
    (h : log.FindsItself W site own requests limit) :
    (log.ownSearch own).Pageable W site limit k := by
  obtain ⟨m, r, hr, -⟩ := h ⟨W.scan, W.scan_perm⟩
  have hfirst := (hr 0 (Nat.lt_of_lt_of_le Nat.one_pos (Nat.le_max_right _ _))).1
  exact ⟨accepted_of_answer hfirst, hlimit, hk, TimedList.takesCount_of_answer hlimit hfirst, hrows⟩

theorem textsMatch_of_findsItself {requests : PageRequests W.toPlatform} {limit : Option String}
    {k : Nat} (hpageable : (log.ownSearch own).Pageable W site limit k)
    (h : log.FindsItself W site own requests limit) : log.TextsMatch W own := by
  obtain ⟨m, r, hr, i, hi, hmem⟩ := h ⟨W.scan, W.scan_perm⟩
  have hone : 0 < max m 1 := Nat.lt_of_lt_of_le Nat.one_pos (Nat.le_max_right _ _)
  have hm : m = Pages.count k ((log.ownSearch own).matching W site).length :=
    TimedList.totalPages_of_answer hpageable (hr 0 hone).1 (hr 0 hone).2
  obtain ⟨r', hr', hdata⟩ := TimedList.exists_pages hpageable requests ⟨W.scan, W.scan_perm⟩
  have hlast : i < max m 1 := hi.trans_le (Nat.le_max_left _ _)
  have heq : r i = r' i := Except.ok.inj ((hr i hlast).1.symm.trans (hr' i (hm ▸ hlast)).1)
  rw [heq, hdata i (hm ▸ hlast)] at hmem
  have hsorted : log ∈ (log.ownSearch own).sorted W site i :=
    List.mem_of_mem_drop (List.mem_of_mem_take hmem)
  have hmatching : log ∈ (log.ownSearch own).matching W site :=
    TimedList.sorted_perm.mem_iff.mp hsorted
  exact keep_ownSearch.mp ⟨hpageable.accepted, (List.mem_filter.mp hmatching).2⟩

/-- A log is found by its own texts exactly if they match themselves, the database takes the page
size and the selected logs of its time are on one page. -/
theorem findsItself_iff (W : Web) (site : Site) (log : AuditLog) (own : OwnTexts)
    (requests : PageRequests W.toPlatform) (limit : Option String) {k : Nat} (hk : 1 ≤ k)
    (hlimit : (W.param limit 10).value = .finite k) (hlog : log ∈ site.audit.logs.rows)
    (hrows : ((log.ownSearch own).matching W site).length ≤ JsNumber.maxSafeInteger) :
    log.FindsItself W site own requests limit ↔
      log.TextsMatch W own ∧ W.takesCount k = true ∧ Pages.OnOnePage AuditLog.createdAt k
        ((log.ownSearch own).matching W site) log := by
  have hmatching : log.TextsMatch W own → log ∈ (log.ownSearch own).matching W site :=
    fun htexts => List.mem_filter.mpr ⟨hlog, (keep_ownSearch.mpr htexts).2⟩
  constructor
  · intro h
    have hpageable : (log.ownSearch own).Pageable W site limit k :=
      pageable_of_findsItself hk hlimit hrows h
    have htexts : log.TextsMatch W own := textsMatch_of_findsItself hpageable h
    refine ⟨htexts, hpageable.takes, ?_⟩
    by_contra hpage
    obtain ⟨o, hmissing⟩ :=
      TimedList.exists_missing hpageable requests (hmatching htexts) hpage
    obtain ⟨m, r, hr, i, hi, hmem⟩ := h o
    have hone : 0 < max m 1 := Nat.lt_of_lt_of_le Nat.one_pos (Nat.le_max_right _ _)
    have hm : m = Pages.count k ((log.ownSearch own).matching W site).length :=
      TimedList.totalPages_of_answer hpageable (hr 0 hone).1 (hr 0 hone).2
    exact hmissing i (hm ▸ hi) (r i) (hr i (hi.trans_le (Nat.le_max_left _ _))).1 hmem
  · rintro ⟨htexts, htakes, hpage⟩
    intro o
    exact TimedList.exists_on_page
      ⟨(keep_ownSearch.mpr htexts).1, hlimit, hk, htakes, hrows⟩ requests (hmatching htexts) hpage o

end AuditLog

/-! ## A message that is no expression -/

/-- The log of a push message, saved into an empty collection. -/
def pushAudit : AuditStore :=
  ((AuditService.log "PushNotificationSent" "device-1" "Battery low :(").run
    (AuditCmd.exec Web.plain.toPlatform) ⟨∅, 10, 0⟩).2

/-- A message with a bracket that is never closed. -/
def pushLog : AuditLog := ⟨0, "PushNotificationSent", "device-1", "Battery low :(", 10⟩

/-- A group that is opened and never closed is no expression. -/
def strictRegExp (pattern : String) : Option (String → Bool) :=
  if '(' ∈ pattern.toList ∧ ')' ∉ pattern.toList then none else Web.plain.regExp pattern

/-- The plain functions, with a `RegExp` that throws on such a bracket. -/
def Web.strict : Web := { Web.plain with regExp := strictRegExp }

namespace AuditLog

theorem pushLog_mem : pushLog ∈ pushAudit.logs.rows :=
  mem_logs_of_log (by decide) (by decide)

/-- It is found by its target as far as that matches itself. -/
theorem findsItself_iff_target :
    pushLog.FindsItself Web.strict ⟨Store.empty, pushAudit⟩ ⟨false, true, false⟩
        Web.strict.pageRequests none ↔
      pushLog.TextsMatch Web.strict ⟨false, true, false⟩ ∧ Web.strict.takesCount 10 = true ∧
        Pages.OnOnePage AuditLog.createdAt 10
          ((pushLog.ownSearch ⟨false, true, false⟩).matching Web.strict ⟨Store.empty, pushAudit⟩)
          pushLog :=
  findsItself_iff _ _ _ _ _ _ (by decide) (by decide +kernel) pushLog_mem (by decide +kernel)

/-- By its message it is not found. -/
theorem not_findsItself_message :
    pushLog ∈ pushAudit.logs.rows ∧
      ¬pushLog.FindsItself Web.strict ⟨Store.empty, pushAudit⟩ ⟨false, false, true⟩
        Web.strict.pageRequests none := by
  refine ⟨pushLog_mem, fun h => ?_⟩
  have hlimit : (Web.strict.param none 10).value = .finite (10 : Nat) := by decide +kernel
  have hpageable := pageable_of_findsItself (by decide) hlimit (by decide +kernel) h
  have htexts := textsMatch_of_findsItself hpageable h
  rcases htexts.message rfl with hempty | ⟨matchesText, hregExp, -⟩
  · exact absurd hempty (by decide)
  · change strictRegExp "Battery low :(" = some matchesText at hregExp
    rw [strictRegExp, if_pos (by decide)] at hregExp
    cases hregExp

end AuditLog

end VoltFleet
