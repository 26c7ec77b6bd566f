import VoltFleet.Auth.Proofs.Users
import VoltFleet.Misc.Ties
import VoltFleet.PlainWeb
import VoltFleet.Proofs.Pages
import VoltFleet.Vehicle.Proofs.Writes
import Mathlib.Logic.Relation

/-!
# Paging through a history that grows

The latest reading is listed first, so that new readings push the others to later
pages.  A client that reads page after page until there is no next one meets every
reading that was stored when it began.
-/

namespace VoltFleet

open Awaiting

/-- The stored readings of a vehicle. -/
def readingsOf (s : Store) (vehicle : Uuid) : List TelemetryRow :=
  s.telemetry.rows.filter (·.vehicleId = vehicle)

/-- No two readings of the vehicle have been stored at one time. -/
def DistinctTimes (s : Store) (vehicle : Uuid) : Prop :=
  ((readingsOf s vehicle).map TelemetryRow.createdAt).Nodup

/-- A step of the stores that keeps the readings of a vehicle, or adds one that is later than
all of them. -/
inductive HistoryStep (vehicle : Uuid) (s s' : Store) : Prop
  | kept (hrows : (readingsOf s' vehicle).Perm (readingsOf s vehicle))
  | stored (row : TelemetryRow)
      (hlater : ∀ r ∈ readingsOf s vehicle, r.createdAt < row.createdAt)
      (hrows : (readingsOf s' vehicle).Perm (row :: readingsOf s vehicle))

/-- Any number of such steps. -/
abbrev Grows (vehicle : Uuid) : Store → Store → Prop :=
  Relation.ReflTransGen (HistoryStep vehicle)

section

variable {P : Platform} {s s' : Store} {vehicle : Uuid}

/-! ## What is stored between two calls -/

theorem commit_telemetry {β : Type} {r : Except Thrown (β × Store)}
    (h : ∀ b s', r = .ok (b, s') → s'.telemetry = s.telemetry) :
    (commit s r).2.telemetry = s.telemetry :=
  commit_snd (p := fun s' => s'.telemetry = s.telemetry) rfl h

/-- The writes of the auth module leave the readings alone. -/
theorem exec_users_telemetry (c : UserCmd) : (c.exec P s).2.telemetry = s.telemetry := by
  cases c with
  | insert u =>
    refine commit_telemetry fun v s' h => ?_
    obtain ⟨status, users, -, -, -, -, rfl⟩ := insertUser_ok h
    rfl
  | save u =>
    refine commit_telemetry fun v s' h => ?_
    obtain ⟨row, users, -, -, -, rfl⟩ := saveUser_ok h
    rfl
  | _ => rfl

theorem exec_roles_telemetry (c : RoleCmd) : (c.exec P s).2.telemetry = s.telemetry := by
  cases c with
  | insert dto =>
    refine commit_telemetry fun v s' h => ?_
    obtain ⟨-, roles, -, -, rfl⟩ := insertRole_ok h
    rfl
  | save role =>
    refine commit_telemetry fun v s' h => ?_
    obtain ⟨roles, -, rfl⟩ := saveRole_ok h
    rfl
  | _ => rfl

theorem exec_privileges_telemetry (c : PrivilegeCmd) :
    (c.exec P s).2.telemetry = s.telemetry := by
  cases c with
  | insert dto =>
    refine commit_telemetry fun v s' h => ?_
    obtain ⟨-, privileges, -, -, rfl⟩ := insertPrivilege_ok h
    rfl
  | _ => rfl

/-- So do those of the vehicle module; a vehicle that has readings is not removed. -/
theorem exec_fleets_telemetry (c : FleetCmd) : (c.exec P s).2.telemetry = s.telemetry := by
  cases c with
  | insert name manager =>
    refine commit_telemetry fun f s' h => ?_
    obtain ⟨-, -, fleets, -, -, rfl⟩ := insertFleet_ok h
    rfl
  | save f =>
    refine commit_telemetry fun f' s' h => ?_
    obtain ⟨row, fleets, -, -, rfl⟩ := saveFleet_ok h
    rfl
  | remove f =>
    refine commit_telemetry fun u s' h => ?_
    cases removeFleet_ok h
    rfl
  | _ => rfl

theorem exec_vehicles_telemetry (c : VehicleCmd) : (c.exec P s).2.telemetry = s.telemetry := by
  cases c with
  | insert dto =>
    refine commit_telemetry fun v s' h => ?_
    obtain ⟨row, vehicles, -, -, -, rfl⟩ := insertVehicle_ok h
    rfl
  | save v =>
    refine commit_telemetry fun v' s' h => ?_
    obtain ⟨row, vehicles, -, -, -, rfl⟩ := saveVehicle_ok h
    rfl
  | remove v =>
    refine commit_telemetry fun u s' h => ?_
    cases removeVehicle_ok h
    rfl
  | _ => rfl

theorem historyStep_insertTelemetry {rec : NewTelemetry} {row : TelemetryRow}
    (hclock : ∀ r ∈ readingsOf s vehicle, r.createdAt < s.clock)
    (h : insertTelemetry P s rec = .ok (row, s')) : HistoryStep vehicle s s' := by
  obtain ⟨-, -, htime, telemetry, hrows, rfl⟩ := insertTelemetry_ok h
  by_cases hvehicle : row.vehicleId = vehicle
  · refine .stored row (fun r hr => htime ▸ hclock r hr) ?_
    rw [readingsOf, hrows, List.filter_cons_of_pos (by simpa using hvehicle)]
    exact List.Perm.refl _
  · refine .kept ?_
    rw [readingsOf, hrows, List.filter_cons_of_neg (by simpa using hvehicle)]
    exact List.Perm.refl _

/-- Whatever a service awaits is a step of the history of every vehicle, as long as the clock is
past the readings the vehicle has. -/
theorem historyStep_exec (c : Cmd) (hclock : ∀ r ∈ readingsOf s vehicle, r.createdAt < s.clock) :
    HistoryStep vehicle s (exec P c s).2 := by
  have hsame : (exec P c s).2.telemetry = s.telemetry →
      HistoryStep vehicle s (exec P c s).2 := by
    intro htelemetry
    refine .kept ?_
    rw [readingsOf, htelemetry]
    exact List.Perm.refl _
  cases c with
  | users c => exact hsame (exec_users_telemetry c)
  | roles c => exact hsame (exec_roles_telemetry c)
  | privileges c => exact hsame (exec_privileges_telemetry c)
  | fleets c => exact hsame (exec_fleets_telemetry c)
  | vehicles c => exact hsame (exec_vehicles_telemetry c)
  | telemetry c =>
    cases c with
    | insert rec =>
      exact commit_snd (r := insertTelemetry P s rec) (p := HistoryStep vehicle s)
        (.kept (List.Perm.refl _)) fun row s' h => historyStep_insertTelemetry hclock h
    | _ => exact hsame rfl
  | redis c =>
    obtain ⟨cache, hstore⟩ : ∃ cache, (exec P (.redis c) s).2 = { s with cache := cache } :=
      c.exec_store s
    exact hsame (by rw [hstore])
  | process c => cases c <;> exact hsame rfl

/-! ## The sorted history -/

theorem history_perm : (history P s vehicle fun _ => true).Perm (readingsOf s vehicle) := by
  refine (List.mergeSort_perm _ _).trans ?_
  simpa [readingsOf] using (P.scan_perm s.draws s.telemetry.rows).filter _

theorem history_descending {keep : TelemetryRow → Bool} :
    Pages.Descending TelemetryRow.createdAt (history P s vehicle keep) :=
  Pages.descending_mergeSort _ _

/-- With distinct times, a descending list is determined by its members. -/
theorem eq_of_descending {l l' : List TelemetryRow} (hperm : l.Perm l')
    (hnodup : (l.map TelemetryRow.createdAt).Nodup)
    (hl : Pages.Descending TelemetryRow.createdAt l)
    (hl' : Pages.Descending TelemetryRow.createdAt l') : l = l' := by
  refine hperm.eq_of_pairwise (fun a b ha hb hba hab => ?_) hl hl'
  have htime : a.createdAt = b.createdAt := Nat.le_antisymm hab hba
  exact List.inj_on_of_nodup_map hnodup ha (hperm.mem_iff.mpr hb) htime

/-- A step of the history keeps the times distinct and adds in front. -/
theorem HistoryStep.suffix (h : HistoryStep vehicle s s') (hdistinct : DistinctTimes s vehicle) :
    DistinctTimes s' vehicle ∧
      (history P s vehicle fun _ => true) <:+ (history P s' vehicle fun _ => true) := by
  have hperm : (history P s vehicle fun _ => true).Perm (readingsOf s vehicle) := history_perm
  have hperm' : (history P s' vehicle fun _ => true).Perm (readingsOf s' vehicle) := history_perm
  cases h with
  | kept hrows =>
    have hdistinct' : DistinctTimes s' vehicle := (hrows.map _).nodup_iff.mpr hdistinct
    refine ⟨hdistinct', ?_⟩
    have heq : (history P s' vehicle fun _ => true) = history P s vehicle fun _ => true :=
      eq_of_descending (hperm'.trans (hrows.trans hperm.symm))
        ((hperm'.map _).nodup_iff.mpr hdistinct') history_descending history_descending
    rw [heq]
  | stored row hlater hrows =>
    have hnew : row.createdAt ∉ (readingsOf s vehicle).map TelemetryRow.createdAt := by
      intro hmem
      obtain ⟨r, hr, htime⟩ := List.mem_map.mp hmem
      have hlt := hlater r hr
      omega
    have hdistinct' : DistinctTimes s' vehicle :=
      (hrows.map _).nodup_iff.mpr (List.nodup_cons.mpr ⟨hnew, hdistinct⟩)
    refine ⟨hdistinct', [row], ?_⟩
    have hfront : Pages.Descending TelemetryRow.createdAt
        (row :: history P s vehicle fun _ => true) :=
      List.pairwise_cons.mpr
        ⟨fun r hr => (hlater r (hperm.mem_iff.mp hr)).le, history_descending⟩
    exact (eq_of_descending (hperm'.trans (hrows.trans (hperm.cons row).symm))
      ((hperm'.map _).nodup_iff.mpr hdistinct') history_descending hfront).symm

/-- However many readings are stored, the history keeps what it has at its end. -/
theorem suffix_of_grows (h : Grows vehicle s s') (hdistinct : DistinctTimes s vehicle) :
    DistinctTimes s' vehicle ∧
      (history P s vehicle fun _ => true) <:+ (history P s' vehicle fun _ => true) := by
  induction h with
  | refl => exact ⟨hdistinct, List.suffix_rfl⟩
  | tail _ hstep ih =>
    obtain ⟨hdistinct', hsuffix⟩ := hstep.suffix ih.1
    exact ⟨hdistinct', ih.2.trans hsuffix⟩

end

/-! ## A client that reads page after page -/

/-- The texts a client sends: always the same vehicle and page size, and no dates. -/
structure HistoryClient (P : Platform) where
  vehicleId : String
  perPage : Option String
  requests : PageRequests P

namespace HistoryClient

section

variable {W : Web} (client : HistoryClient W.toPlatform)

/-- The query for page `p`, without dates. -/
def query (p : Nat) : GetHistoryDto where
  from? := none
  to? := none
  page := client.requests.page p
  perPage := client.perPage

/-- The call for page `p`. -/
def getHistory (p : Nat) : Service (PaginationResult TelemetryRow) :=
  TelemetryService.getHistory W.toPlatform client.vehicleId (client.query p)
    (some (client.requests.req p))

/-- What the call for page `p` returns or throws when it finds the stores as they are at `s`. -/
def answer (p : Nat) (s : Store) : Except Thrown (PaginationResult TelemetryRow) :=
  ((client.getHistory p).run (exec W.toPlatform) s).1

/-- The stores after that call. -/
def after (p : Nat) (s : Store) : Store := ((client.getHistory p).run (exec W.toPlatform) s).2

variable {client} {s : Store} {vehicle : Uuid} {k p : Nat}

/-- A call reads. -/
theorem readingsOf_after : readingsOf (client.after p s) vehicle = readingsOf s vehicle := by
  have hafter : client.after p s = { s with draws := s.draws + 1 } := run_await_lift_store
  rw [hafter]
  rfl

/-- A call whose offset is counted exactly answers with its page of the history as it is then. -/
theorem exists_answer (hvehicle : Uuid.ofString? client.vehicleId = some vehicle)
    (hperPage : (W.param client.perPage 10).value = .finite k) (hk : 1 ≤ k)
    (htakes : W.takesCount k = true) (hp : 1 ≤ p) (hsafe : p ≤ JsNumber.maxSafeInteger)
    (hoffset : (p - 1) * k ≤ JsNumber.maxSafeInteger)
    (hrows : (readingsOf s vehicle).length ≤ JsNumber.maxSafeInteger) :
    ∃ r, client.answer p s = .ok r ∧
      IsPage k p (history W.toPlatform s vehicle fun _ => true) r := by
  have hlength : (history W.toPlatform s vehicle fun _ => true).length ≤
      JsNumber.maxSafeInteger := history_perm.length_eq.le.trans hrows
  have hskips : W.takesCount (nearest (skipped p k)) = true := by
    rw [skipped_natCast hp hk (hoffset.trans (Nat.sub_le _ _)), nearest_natCast]
    exact W.takesCount_safe hoffset
  have hpage := client.requests.reads p (client.requests.asks p hp hsafe)
  obtain ⟨r, hlisting, hpage⟩ : ∃ r, listing W.toPlatform (W.param (client.requests.page p) 1)
      (W.param client.perPage 10) (client.requests.req p)
      (history W.toPlatform s vehicle fun _ => true) = .ok r ∧ _ :=
    exists_page hpage hperPage hp hk hlength hskips htakes
  refine ⟨r, ?_, hpage⟩
  have hdates : (client.query p).DatesReadable W.toPlatform := by
    constructor <;> intro text htext <;> cases htext
  have hanswer := Endpoint.getHistory_eq_ok.mpr ⟨hdates, vehicle, hvehicle, hlisting⟩
  exact Endpoint.mapError_eq_ok.mp hanswer

/-- A call that answers has a page size that the database takes. -/
theorem takesCount_of_answer {r : PaginationResult TelemetryRow}
    (hperPage : (W.param client.perPage 10).value = .finite k)
    (h : client.answer p s = .ok r) : W.takesCount k = true := by
  obtain ⟨-, _, -, hlisting⟩ := Endpoint.getHistory_eq_ok.mp (Endpoint.mapError_eq_ok.mpr h)
  exact takesCount_of_listing hperPage hlisting

/-- The client's calls find the stores as they are at `stores 1`, `stores 2` and so on; between
two of them the history of the vehicle may have grown. -/
def Reads (client : HistoryClient W.toPlatform) (vehicle : Uuid) (stores : Nat → Store) : Prop :=
  ∀ p, 1 ≤ p → Grows vehicle (client.after p (stores p)) (stores (p + 1))

theorem distinct_of_reads {stores : Nat → Store} (hreads : client.Reads vehicle stores)
    (hdistinct : DistinctTimes (stores 1) vehicle) (i : Nat) :
    DistinctTimes (stores (i + 1)) vehicle := by
  induction i with
  | zero => exact hdistinct
  | succ i ih =>
    have hafter : DistinctTimes (client.after (i + 1) (stores (i + 1))) vehicle := by
      rw [DistinctTimes, readingsOf_after]
      exact ih
    have hgrows : Grows vehicle _ (stores (i + 2)) := hreads (i + 1) (Nat.le_add_left 1 i)
    exact (suffix_of_grows (P := W.toPlatform) hgrows hafter).1

theorem suffix_of_reads {stores : Nat → Store} (hreads : client.Reads vehicle stores)
    (hdistinct : DistinctTimes (stores 1) vehicle) (i : Nat) :
    (history W.toPlatform (stores (i + 1)) vehicle fun _ => true) <:+
      (history W.toPlatform (stores (i + 2)) vehicle fun _ => true) := by
  have hbefore : DistinctTimes (stores (i + 1)) vehicle := distinct_of_reads hreads hdistinct i
  have hstep : Grows vehicle (stores (i + 1)) (client.after (i + 1) (stores (i + 1))) := by
    refine .single (.kept ?_)
    rw [readingsOf_after]
  have hgrows : Grows vehicle (stores (i + 1)) (stores (i + 2)) :=
    hstep.trans (hreads (i + 1) (Nat.le_add_left 1 i))
  exact (suffix_of_grows hgrows hbefore).2

/-- The client gets to page `p`: the pages before it have a next one. -/
def Reaches (r : Nat → PaginationResult TelemetryRow) (p : Nat) : Prop :=
  ∀ i, 1 ≤ i → i < p → (r i).pagination.nextUrl ≠ none

/-- The client gets an answer to every call it makes, and where it stops it has read every reading
that was stored before its first call. -/
def ReadsAll (client : HistoryClient W.toPlatform) (vehicle : Uuid) (stores : Nat → Store) : Prop :=
  ∃ r : Nat → PaginationResult TelemetryRow,
    (∀ p, 1 ≤ p → Reaches r p → client.answer p (stores p) = .ok (r p)) ∧
    ∀ n, 1 ≤ n → Reaches r n → (r n).pagination.nextUrl = none →
      ∀ row ∈ readingsOf (stores 1) vehicle, ∃ p, 1 ≤ p ∧ p ≤ n ∧ row ∈ (r p).data

/-- Each page that the client reaches is a page of the history as it is then. -/
theorem isPage_of_reaches {stores : Nat → Store} {r : Nat → PaginationResult TelemetryRow}
    (hvehicle : Uuid.ofString? client.vehicleId = some vehicle)
    (hperPage : (W.param client.perPage 10).value = .finite k) (hk : 1 ≤ k)
    (htakes : W.takesCount k = true)
    (hrows : ∀ p, 1 ≤ p → (readingsOf (stores p) vehicle).length ≤ JsNumber.maxSafeInteger)
    (hr : ∀ p x, client.answer p (stores p) = .ok x → r p = x) (i : Nat)
    (hreaches : Reaches r (i + 1)) :
    client.answer (i + 1) (stores (i + 1)) = .ok (r (i + 1)) ∧
      IsPage k (i + 1) (history W.toPlatform (stores (i + 1)) vehicle fun _ => true)
        (r (i + 1)) := by
  have hfound : ∀ j, j + 1 ≤ JsNumber.maxSafeInteger → j * k ≤ JsNumber.maxSafeInteger →
      client.answer (j + 1) (stores (j + 1)) = .ok (r (j + 1)) ∧
        IsPage k (j + 1) (history W.toPlatform (stores (j + 1)) vehicle fun _ => true)
          (r (j + 1)) := by
    intro j hsafe hoffset
    obtain ⟨x, hx, hpage⟩ := exists_answer hvehicle hperPage hk htakes (Nat.le_add_left 1 j) hsafe
      (by rwa [Nat.add_sub_cancel]) (hrows (j + 1) (Nat.le_add_left 1 j))
    rw [hr (j + 1) x hx]
    exact ⟨hx, hpage⟩
  induction i with
  | zero => exact hfound 0 (by decide) (by rw [Nat.zero_mul]; exact Nat.zero_le _)
  | succ i ih =>
    -- the page before has a next one, so that the history goes on behind it
    have hbefore : Reaches r (i + 1) := fun j hj hlt => hreaches j hj (Nat.lt_succ_of_lt hlt)
    have hpage : IsPage k (i + 1)
        (history W.toPlatform (stores (i + 1)) vehicle fun _ => true) (r (i + 1)) :=
      (ih hbefore).2
    have hmore : i + 1 < Pages.count k
        (history W.toPlatform (stores (i + 1)) vehicle fun _ => true).length := by
      have hnext :=
        hpage.nextUrl.not.mp (hreaches (i + 1) (Nat.le_add_left 1 i) (Nat.lt_succ_self _))
      omega
    have hoffset := (Pages.lt_count_iff hk).mp hmore
    rw [history_perm.length_eq] at hoffset
    have hlength := hrows (i + 1) (Nat.le_add_left 1 i)
    refine hfound (i + 1) ?_ (hoffset.le.trans hlength)
    have hle : i + 1 ≤ (i + 1) * k := Nat.le_mul_of_pos_right _ hk
    omega

/-- A client whose page size the database takes gets an answer to every call until it stops, and
has then read every reading that was stored before its first call. -/
theorem reads_all {stores : Nat → Store}
    (hvehicle : Uuid.ofString? client.vehicleId = some vehicle) (hk : 1 ≤ k)
    (hperPage : (W.param client.perPage 10).value = .finite k) (htakes : W.takesCount k = true)
    (hrows : ∀ p, 1 ≤ p → (readingsOf (stores p) vehicle).length ≤ JsNumber.maxSafeInteger)
    (hdistinct : DistinctTimes (stores 1) vehicle) (hreads : client.Reads vehicle stores) :
    client.ReadsAll vehicle stores := by
  obtain ⟨r₁, -⟩ := exists_answer (s := stores 1) hvehicle hperPage hk htakes le_rfl (by decide)
    (by rw [Nat.sub_self, Nat.zero_mul]; exact Nat.zero_le _) (hrows 1 le_rfl)
  have hanswers : ∀ p, ∃ r, ∀ x, client.answer p (stores p) = .ok x → r = x := by
    intro p
    cases hanswer : client.answer p (stores p) with
    | error e => exact ⟨r₁, nofun⟩
    | ok x => exact ⟨x, fun y hy => Except.ok.inj hy⟩
  choose r hr using hanswers
  have hpages : ∀ i, Reaches r (i + 1) → _ ∧ _ :=
    fun i => isPage_of_reaches hvehicle hperPage hk htakes hrows hr i
  refine ⟨r, ?_, ?_⟩
  · intro p hp hreaches
    obtain ⟨i, rfl⟩ : ∃ i, p = i + 1 := ⟨p - 1, (Nat.sub_add_cancel hp).symm⟩
    exact (hpages i hreaches).1
  · intro n hn hreaches hlast row hrow
    obtain ⟨i, rfl⟩ : ∃ i, n = i + 1 := ⟨n - 1, (Nat.sub_add_cancel hn).symm⟩
    have hcount := (hpages i hreaches).2.nextUrl.mp hlast
    have hstop := (Pages.count_le_iff hk).mp hcount
    have hfirst : row ∈ history W.toPlatform (stores 1) vehicle fun _ => true :=
      history_perm.mem_iff.mpr hrow
    obtain ⟨p, hp, hpage⟩ : ∃ p ≤ i, row ∈ Pages.page k p
        (history W.toPlatform (stores (p + 1)) vehicle fun _ => true) :=
      Pages.mem_page_of_growing hk (suffix_of_reads hreads hdistinct) hstop hfirst
    have hreached : Reaches r (p + 1) :=
      fun j hj hlt => hreaches j hj (hlt.trans_le (Nat.succ_le_succ hp))
    refine ⟨p + 1, Nat.le_add_left 1 p, Nat.succ_le_succ hp, ?_⟩
    rw [(hpages p hreached).2.data, Nat.add_sub_cancel]
    exact hpage

end

/-! ## A reading that comes in while the client reads -/

/-- One reading of the vehicle. -/
def earlier : Store :=
  { Store.empty with
    telemetry :=
      { rows := [⟨.ofNat 2, .ofNat 1, 52, 13, 50, 81, 21, some "north", 10⟩]
        nodup := by decide } }

/-- A second one, stored before the client asks for page 2. -/
def later : Store :=
  { Store.empty with
    telemetry :=
      { rows := ⟨.ofNat 3, .ofNat 1, 52, 13, 40, 80, 20, some "north", 20⟩ ::
          earlier.telemetry.rows
        nodup := by decide } }

/-- A client that reads one reading a page. -/
def byOne : HistoryClient Web.plain.toPlatform where
  vehicleId := (Uuid.ofNat 1).text
  perPage := some "1"
  requests := Web.plain.pageRequests

/-- The history has grown by the second call. -/
def lateStores (p : Nat) : Store := if p ≤ 1 then earlier else later

theorem byOne_reads : byOne.Reads (.ofNat 1) lateStores := by
  intro p hp
  have hafter : ∀ s, HistoryStep (.ofNat 1) (byOne.after p s) s := by
    intro s
    refine .kept ?_
    rw [readingsOf_after]
  by_cases hfirst : p = 1
  · subst hfirst
    refine .tail (.single (hafter earlier)) ?_
    exact .stored _ (by decide) (List.Perm.refl _)
  · have hlate : lateStores p = later := if_neg (by omega)
    have hnext : lateStores (p + 1) = later := if_neg (by omega)
    rw [hlate, hnext]
    exact .single (hafter later)

theorem reads_all_byOne : byOne.ReadsAll (.ofNat 1) lateStores := by
  refine reads_all (by decide +kernel) (le_refl 1) (by decide +kernel) (by decide) ?_
    (by unfold DistinctTimes; decide) byOne_reads
  intro p hp
  unfold lateStores
  split <;> decide

/-- A client that asks for more than a `LIMIT` can be. -/
def byTooMany : HistoryClient Web.plain.toPlatform where
  vehicleId := (Uuid.ofNat 1).text
  perPage := some "10000000000000000000"
  requests := Web.plain.pageRequests

/-- Its size is a positive integer, and its first call fails. -/
theorem not_readsAll_byTooMany :
    Uuid.ofString? byTooMany.vehicleId = some (.ofNat 1) ∧
      (Web.plain.param byTooMany.perPage 10).value.PositiveInt ∧
      DistinctTimes earlier (.ofNat 1) ∧ byTooMany.Reads (.ofNat 1) (fun _ => earlier) ∧
      readingsOf earlier (.ofNat 1) ≠ [] ∧
      ¬byTooMany.ReadsAll (.ofNat 1) fun _ => earlier := by
  have hsize : (Web.plain.param byTooMany.perPage 10).value =
      .finite ((10000000000000000000 : Nat) : ℚ) := by decide +kernel
  refine ⟨by decide +kernel, ⟨_, by decide, hsize⟩, by unfold DistinctTimes; decide, ?_, by decide,
    ?_⟩
  · intro p hp
    refine .single (.kept ?_)
    rw [readingsOf_after]
  · intro h
    obtain ⟨r, hanswers, -⟩ := h
    have hfirst := hanswers 1 le_rfl fun i hi hlt => absurd hi (Nat.not_le.mpr hlt)
    exact absurd (takesCount_of_answer hsize hfirst) (by decide)

end HistoryClient

end VoltFleet
