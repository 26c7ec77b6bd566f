import VoltFleet.Misc.Notes
import VoltFleet.Proofs.Escalation
import VoltFleet.Proofs.RouteCommands
import VoltFleet.Proofs.TablesOnly
import VoltFleet.Telemetry.Proofs.History

/-!
# The ledger of the readings

Each stored reading is entered under the request that has stored it, and each
message under the request that has sent it.  No request is entered twice, and a
request for an ingestion that has returned has sent its message, unless the fleet
is the empty text, and has tried to store its reading once.
-/

namespace VoltFleet

open Awaiting

/-- What is stored of a body. -/
def CreateTelemetryDto.record (dto : CreateTelemetryDto) : NewTelemetry where
  vehicleId := dto.vehicleId
  latitude := dto.latitude
  longitude := dto.longitude
  speed := dto.speed
  soc := dto.soc
  temperature := dto.temperature
  fleetId := dto.room

/-- A row with the values of a body. -/
structure TelemetryRow.Of (row : TelemetryRow) (dto : CreateTelemetryDto) : Prop where
  vehicle : Uuid.ofString? dto.vehicleId = some row.vehicleId
  latitude : row.latitude = dto.latitude
  longitude : row.longitude = dto.longitude
  speed : row.speed = dto.speed
  soc : row.soc = dto.soc
  temperature : row.temperature = dto.temperature
  fleet : row.fleetId = some dto.room

/-- What is noted of a command: a message, or the outcome of a save. -/
inductive ReadingNote where
  | sent (telemetry : TelemetryPayload)
  | saved (rec : NewTelemetry) (row : Option TelemetryRow)

namespace ReadingNote

/-- What is noted of a completed command. -/
def ofCmd : (c : Cmd) → Except Thrown c.Answer → Option ReadingNote
  | .process (.broadcast _ telemetry), _ => some (.sent telemetry)
  | .telemetry (.insert rec), r => some (.saved rec r.toOption)
  | _, _ => none

/-- The message, if it is one. -/
def message? : ReadingNote → Option TelemetryPayload
  | .sent telemetry => some telemetry
  | .saved .. => none

/-- The stored row, if the save has succeeded. -/
def row? : ReadingNote → Option TelemetryRow
  | .sent _ => none
  | .saved _ row => row

end ReadingNote

/-- The notes that an ingestion leaves which returns. -/
def CreateTelemetryDto.told (dto : CreateTelemetryDto) (receivedAt : Nat)
    (row : Option TelemetryRow) : List ReadingNote :=
  (if dto.room = "" then [] else [.sent (LiveOp.reading dto receivedAt)]) ++
    [.saved dto.record row]

/-- `l` are the notes so far of a call that leaves `all` when it returns and nothing when it
throws. -/
structure Telling {α : Type} (all l : List ReadingNote) (o : Option (Except Thrown α)) : Prop where
  part : l <+: all
  returned : ∀ a, o = some (.ok a) → l = all
  threw : ∀ e, o = some (.error e) → l = []

/-- The notes of a request so far, with its outcome. -/
def Route.Told {α : Type} : Route → List ReadingNote → Option (Except Thrown α) → Prop
  | .ingest dto, l, o => ∃ receivedAt row, Telling (dto.told receivedAt row) l o
  | _, l, _ => l = []

section

variable {P : Platform} {s : Store}

/-! ## What a command enters -/

/-- A row is stored, and a message sent, when a command notes it. -/
structure Entered (c : Cmd) (r : Except Thrown c.Answer) (s s' : Store) : Prop where
  rows : s'.telemetry.rows =
    ((ReadingNote.ofCmd c r).bind ReadingNote.row?).toList ++ s.telemetry.rows
  emitted : s'.gateway.emitted.map Delivery.telemetry =
    ((ReadingNote.ofCmd c r).bind ReadingNote.message?).toList ++
      s.gateway.emitted.map Delivery.telemetry

theorem Entered.of_same {c : Cmd} {r : Except Thrown c.Answer} {s' : Store}
    (hnote : ReadingNote.ofCmd c r = none) (hrows : s'.telemetry = s.telemetry)
    (hgateway : s'.gateway = s.gateway) : Entered c r s s' := by
  refine ⟨?_, ?_⟩
  · rw [hnote, hrows]
    rfl
  · rw [hnote, hgateway]
    rfl

theorem entered_insert (rec : NewTelemetry) :
    Entered (.telemetry (.insert rec)) (exec P (.telemetry (.insert rec)) s).1 s
      (exec P (.telemetry (.insert rec)) s).2 := by
  show Entered (.telemetry (.insert rec)) (commit s (insertTelemetry P s rec)).1 s
    (commit s (insertTelemetry P s rec)).2
  cases hinsert : insertTelemetry P s rec with
  | error e => exact ⟨rfl, rfl⟩
  | ok stored =>
    obtain ⟨row, s'⟩ := stored
    obtain ⟨-, -, -, telemetry, hrows, rfl⟩ := insertTelemetry_ok hinsert
    exact ⟨hrows, rfl⟩

theorem entered_exec (c : Cmd) : Entered c (exec P c s).1 s (exec P c s).2 := by
  have tables : ∀ c, OnTables c → (∀ r, ReadingNote.ofCmd c r = none) →
      (exec P c s).2.telemetry = s.telemetry → Entered c (exec P c s).1 s (exec P c s).2 :=
    fun c hc hnote hrows => .of_same (hnote _) hrows ((hc.exec P).gateway s)
  cases c with
  | users c => exact tables (.users c) trivial (fun _ => rfl) (exec_users_telemetry c)
  | roles c => exact tables (.roles c) trivial (fun _ => rfl) (exec_roles_telemetry c)
  | privileges c =>
    exact tables (.privileges c) trivial (fun _ => rfl) (exec_privileges_telemetry c)
  | fleets c => exact tables (.fleets c) trivial (fun _ => rfl) (exec_fleets_telemetry c)
  | vehicles c => exact tables (.vehicles c) trivial (fun _ => rfl) (exec_vehicles_telemetry c)
  | telemetry c =>
    cases c with
    | findLatest vehicleId => exact ⟨rfl, rfl⟩
    | getManyAndCount vehicleId from? to? skip take => exact ⟨rfl, rfl⟩
    | insert rec => exact entered_insert rec
  | redis c =>
    obtain ⟨cache, hstore⟩ : ∃ cache, (exec P (.redis c) s).2 = { s with cache := cache } :=
      c.exec_store s
    exact .of_same rfl (by rw [hstore]) (by rw [hstore])
  | process c => cases c <;> exact ⟨rfl, rfl⟩

/-- A row that is noted has the values of what was to be saved. -/
theorem insert_of {dto : CreateTelemetryDto} {row : TelemetryRow} {s' : Store}
    (h : insertTelemetry P s dto.record = .ok (row, s')) : row.Of dto := by
  obtain ⟨hvehicle, hfleet, -, -⟩ := insertTelemetry_ok h
  obtain ⟨_, -, h⟩ := bind_eq_ok.mp h
  obtain ⟨u, -, h⟩ := bind_eq_ok.mp h
  obtain ⟨_, -, h⟩ := bind_eq_ok.mp h
  dsimp only at h
  split at h
  · cases h
  · cases h
    exact ⟨hvehicle, rfl, rfl, rfl, rfl, rfl, hfleet⟩

/-! ## What a request tells -/

theorem Telling.nothing {α : Type} {all : List ReadingNote} {o : Option (Except Thrown α)}
    (ho : ∀ a, o ≠ some (.ok a)) : Telling all [] o :=
  ⟨List.nil_prefix, fun a ha => absurd ha (ho a), fun _ _ => rfl⟩

theorem Telling.all {α : Type} (all : List ReadingNote) (a : α) :
    Telling all all (some (.ok a : Except Thrown α)) :=
  ⟨List.prefix_refl _, fun _ _ => rfl, fun e he => (by cases he)⟩

/-- The save is noted, whatever its outcome, and nothing is thrown. -/
theorem ingestStore_tells (dto : CreateTelemetryDto) (payload : TelemetryPayload) :
    (LiveOp.ingestStore dto payload).Tells ReadingNote.ofCmd fun l o =>
      (∃ row, Telling [.saved dto.record row] l o) ∧ ∀ e, o ≠ some (.error e) := by
  refine ⟨⟨⟨none, .nothing fun a ha => (by cases ha)⟩, fun e he => (by cases he)⟩, fun r => ?_⟩
  cases r with
  | error e => exact ⟨⟨none, .all _ payload⟩, fun e he => (by cases he)⟩
  | ok row => exact ⟨⟨some row, .all _ payload⟩, fun e he => (by cases he)⟩

theorem ingestSend_tells (dto : CreateTelemetryDto) (receivedAt : Nat) (hroom : dto.room ≠ "") :
    (LiveOp.ingestSend dto (LiveOp.reading dto receivedAt)).Tells ReadingNote.ofCmd fun l o =>
      ∃ row, Telling (dto.told receivedAt row) l o := by
  have htold : ∀ row, dto.told receivedAt row =
      .sent (LiveOp.reading dto receivedAt) :: [.saved dto.record row] := fun row => by
    rw [CreateTelemetryDto.told, if_neg hroom]
    rfl
  have hstore : (LiveOp.ingestStore dto (LiveOp.reading dto receivedAt)).Tells ReadingNote.ofCmd
      fun l o => ∃ row, Telling (dto.told receivedAt row)
        (.sent (LiveOp.reading dto receivedAt) :: l) o := by
    refine (ingestStore_tells dto _).mono fun l o ⟨⟨row, hl⟩, hnot⟩ => ⟨row, ?_⟩
    rw [htold]
    refine ⟨List.cons_prefix_cons.mpr ⟨rfl, hl.part⟩, fun a ha => ?_,
      fun e he => absurd he (hnot e)⟩
    rw [hl.returned a ha]
  refine ⟨⟨none, .nothing fun a ha => (by cases ha)⟩, fun r => ?_⟩
  cases r with
  | error e => exact hstore
  | ok u => exact hstore

theorem ingestTelemetry_tells (dto : CreateTelemetryDto) :
    (TelemetryService.ingestTelemetry dto).Tells ReadingNote.ofCmd (Route.ingest dto).Told := by
  have nothing : ∀ o : Option (Except Thrown TelemetryPayload), (∀ a, o ≠ some (.ok a)) →
      (Route.ingest dto).Told [] o := fun o ho => ⟨0, none, .nothing ho⟩
  have hfound : ∀ receivedAt, (if dto.room ≠ "" then
      LiveOp.ingestSend dto (LiveOp.reading dto receivedAt)
      else LiveOp.ingestStore dto (LiveOp.reading dto receivedAt)).Tells ReadingNote.ofCmd
        (Route.ingest dto).Told := by
    intro receivedAt
    by_cases hroom : dto.room ≠ ""
    · rw [if_pos hroom]
      exact (ingestSend_tells dto receivedAt hroom).mono fun l o ⟨row, h⟩ => ⟨receivedAt, row, h⟩
    · have htold : ∀ row, dto.told receivedAt row = [.saved dto.record row] := fun row => by
        rw [CreateTelemetryDto.told, if_pos (not_not.mp hroom)]
        rfl
      rw [if_neg hroom]
      refine (ingestStore_tells dto _).mono fun l o ⟨⟨row, hl⟩, _⟩ => ⟨receivedAt, row, ?_⟩
      rw [htold]
      exact hl
  refine ⟨nothing _ fun a ha => (by cases ha), fun r => ?_⟩
  rcases r with e | (_ | vehicle)
  · exact nothing _ fun a ha => (by cases ha)
  · exact nothing _ fun a ha => (by cases ha)
  · refine ⟨nothing _ fun a ha => (by cases ha), fun r => ?_⟩
    cases r with
    | error e => exact nothing _ fun a ha => (by cases ha)
    | ok receivedAt => exact hfound receivedAt

/-- A command that notes something is one of an ingestion. -/
theorem ofCmd_none {route : Route} (h : ∀ dto, route ≠ .ingest dto) {c : Cmd}
    (hc : route.Commands c) (r : Except Thrown c.Answer) : ReadingNote.ofCmd c r = none := by
  rcases hc with hplain | ⟨-, haccount⟩ | ⟨dto, rfl, -⟩
  · cases hplain with
    | fleets c => rfl
    | vehicles c => rfl
    | _ => rfl
  · cases haccount <;> rfl
  · exact absurd rfl (h dto)

theorem prog_tells (request : HttpRequest) :
    (request.prog P).Tells ReadingNote.ofCmd request.route.Told := by
  by_cases h : ∃ dto, request.route = .ingest dto
  · obtain ⟨dto, hroute⟩ := h
    have hprog : request.prog P = request.handle P := by
      unfold HttpRequest.prog
      rw [hroute]
      rfl
    rw [hprog, HttpRequest.handle, hroute]
    cases request.proceeds with
    | false => exact ⟨0, none, .nothing fun a ha => (by cases ha)⟩
    | true =>
      refine (ingestTelemetry_tells dto).bind (fun l a hl => ?_) (fun l e hl => ?_) fun l hl => ?_
      · obtain ⟨receivedAt, row, hl⟩ := hl
        refine ⟨receivedAt, row, ?_⟩
        rw [List.append_nil, hl.returned a rfl]
        exact .all _ ()
      · obtain ⟨receivedAt, row, hl⟩ := hl
        refine ⟨receivedAt, row, ?_⟩
        rw [hl.threw e rfl]
        exact .nothing fun a ha => (by cases ha)
      · obtain ⟨receivedAt, row, hl⟩ := hl
        exact ⟨receivedAt, row, hl.part, fun a ha => (by cases ha), fun e he => (by cases he)⟩
  · have hroute : ∀ dto, request.route ≠ .ingest dto := fun dto he => h ⟨dto, he⟩
    refine ((prog_commands request).tells fun c r hc => ofCmd_none hroute hc r).mono ?_
    intro l o hl
    cases hr : request.route with
    | ingest dto => exact absurd hr (hroute dto)
    | _ => exact hl

end

/-! ## The ledger -/

section

variable {ι : Type} [DecidableEq ι]

/-- The stored readings with the requests that have stored them, newest first. -/
def storedBy (cfg : Serving ι Unit) : List (ι × TelemetryRow) :=
  (cfg.notes ReadingNote.ofCmd).filterMap fun n => n.2.row?.map (Prod.mk n.1)

/-- The messages with the requests that have sent them, newest first. -/
def sentBy (cfg : Serving ι Unit) : List (ι × TelemetryPayload) :=
  (cfg.notes ReadingNote.ofCmd).filterMap fun n => n.2.message?.map (Prod.mk n.1)

/-- Each new row and each new message is entered under one request, each request at most once,
and what a request has entered is what its body says. -/
structure ReadingsLedger (requests : ι → HttpRequest) (s₀ : Store) (cfg : Serving ι Unit) :
    Prop where
  rows : cfg.store.telemetry.rows = (storedBy cfg).map Prod.snd ++ s₀.telemetry.rows
  messages : cfg.store.gateway.emitted.map Delivery.telemetry =
    (sentBy cfg).map Prod.snd ++ s₀.gateway.emitted.map Delivery.telemetry
  storedOnce : ((storedBy cfg).map Prod.fst).Nodup
  sentOnce : ((sentBy cfg).map Prod.fst).Nodup
  /-- A reading is that of an ingestion, and has been sent before. -/
  stored : ∀ i row, (i, row) ∈ storedBy cfg → ∃ dto, (requests i).route = .ingest dto ∧
    row.Of dto ∧ (dto.room ≠ "" → ∃ receivedAt, (i, LiveOp.reading dto receivedAt) ∈ sentBy cfg)
  sent : ∀ i telemetry, (i, telemetry) ∈ sentBy cfg → ∃ dto receivedAt,
    (requests i).route = .ingest dto ∧ dto.room ≠ "" ∧ telemetry = LiveOp.reading dto receivedAt
  /-- An ingestion that has returned has sent its reading, and has stored it unless its save has
  failed. -/
  returned : ∀ i dto, (requests i).route = .ingest dto → cfg.threads i = .ret () →
    (dto.room ≠ "" → ∃ receivedAt, (i, LiveOp.reading dto receivedAt) ∈ sentBy cfg) ∧
      ((∃ row, (i, row) ∈ storedBy cfg) ∨
        ∃ e, ⟨i, .telemetry (.insert dto.record), .error e⟩ ∈ cfg.trace)
  threw : ∀ i e, cfg.threads i = .fail e →
    (∀ row, (i, row) ∉ storedBy cfg) ∧ ∀ telemetry, (i, telemetry) ∉ sentBy cfg

variable {P : Platform} {s₀ : Store} {requests : ι → HttpRequest} {cfg : Serving ι Unit}

theorem mem_storedBy {i : ι} {row : TelemetryRow} : (i, row) ∈ storedBy cfg ↔
    ∃ rec, .saved rec (some row) ∈ cfg.notesOf ReadingNote.ofCmd i := by
  unfold storedBy
  constructor
  · intro h
    obtain ⟨⟨j, n⟩, hmem, hn⟩ := List.mem_filterMap.mp h
    cases n with
    | sent telemetry => cases hn
    | saved rec row' =>
      cases row' with
      | none => cases hn
      | some row' =>
        cases hn
        exact ⟨rec, Config.mem_notesOf.mpr hmem⟩
  · intro ⟨rec, h⟩
    exact List.mem_filterMap.mpr ⟨_, Config.mem_notesOf.mp h, rfl⟩

theorem mem_sentBy {i : ι} {telemetry : TelemetryPayload} : (i, telemetry) ∈ sentBy cfg ↔
    .sent telemetry ∈ cfg.notesOf ReadingNote.ofCmd i := by
  unfold sentBy
  constructor
  · intro h
    obtain ⟨⟨j, n⟩, hmem, hn⟩ := List.mem_filterMap.mp h
    cases n with
    | saved rec row => cases hn
    | sent telemetry' =>
      cases hn
      exact Config.mem_notesOf.mpr hmem
  · intro h
    exact List.mem_filterMap.mpr ⟨_, Config.mem_notesOf.mp h, rfl⟩

/-- What has been stored and sent so far is what is noted. -/
def Recorded (s₀ : Store) (cfg : Serving ι Unit) : Prop :=
  cfg.store.telemetry.rows = (storedBy cfg).map Prod.snd ++ s₀.telemetry.rows ∧
    cfg.store.gateway.emitted.map Delivery.telemetry =
      (sentBy cfg).map Prod.snd ++ s₀.gateway.emitted.map Delivery.telemetry

theorem recorded_deliver (h : Recorded s₀ cfg) (i : ι) {c : Cmd}
    (k : Except Thrown c.Answer → Service Unit) {r : Except Thrown c.Answer} {s : Store}
    (hentered : Entered c r cfg.store s) : Recorded s₀ (cfg.deliver i c k r s) := by
  have hstored : (storedBy (cfg.deliver i c k r s)).map Prod.snd =
      ((ReadingNote.ofCmd c r).bind ReadingNote.row?).toList ++ (storedBy cfg).map Prod.snd := by
    unfold storedBy
    rw [Config.notes_deliver, List.filterMap_append, List.map_append]
    cases ReadingNote.ofCmd c r with
    | none => rfl
    | some n => cases hn : n.row? <;> simp [hn]
  have hsent : (sentBy (cfg.deliver i c k r s)).map Prod.snd =
      ((ReadingNote.ofCmd c r).bind ReadingNote.message?).toList ++ (sentBy cfg).map Prod.snd := by
    unfold sentBy
    rw [Config.notes_deliver, List.filterMap_append, List.map_append]
    cases ReadingNote.ofCmd c r with
    | none => rfl
    | some n => cases hn : n.message? <;> simp [hn]
  refine ⟨?_, ?_⟩
  · rw [hstored, List.append_assoc, ← h.1]
    exact hentered.rows
  · rw [hsent, List.append_assoc, ← h.2]
    exact hentered.emitted

/-- A call that fails enters nothing. -/
theorem entered_fault {c : Cmd} {e : Thrown} (h : canFail c = some e) (s : Store) :
    Entered c (.error e) s s := by
  cases c with
  | process c => cases h
  | telemetry c => cases c <;> exact ⟨rfl, rfl⟩
  | _ => exact ⟨rfl, rfl⟩

theorem recorded_exec (P : Platform) (s₀ : Store) (requests : ι → HttpRequest)
    (ms : List (Move ι Nat)) :
    Recorded s₀ ((HttpRequest.started P s₀ requests).exec (system P) ms) := by
  have hstart : Recorded s₀ (HttpRequest.started P s₀ requests) := ⟨rfl, rfl⟩
  refine Config.exec_inv_all (fun cfg m h => ?_) hstart ms
  refine Config.move_cases (motive := Recorded s₀) cfg m h ?stepped ?faulted fun _ _ => h
  case stepped =>
    intro i c k _ _
    exact recorded_deliver h i k (entered_exec c)
  case faulted =>
    intro i c k e _ _ hf
    exact recorded_deliver h i k (entered_fault hf _)

/-! ## The notes of one request -/

theorem told_length_row (dto : CreateTelemetryDto) (receivedAt : Nat) (row : Option TelemetryRow) :
    ((dto.told receivedAt row).filterMap ReadingNote.row?).length ≤ 1 := by
  unfold CreateTelemetryDto.told
  split <;> cases row <;> simp [List.filterMap_cons, ReadingNote.row?]

theorem told_length_message (dto : CreateTelemetryDto) (receivedAt : Nat)
    (row : Option TelemetryRow) :
    ((dto.told receivedAt row).filterMap ReadingNote.message?).length ≤ 1 := by
  unfold CreateTelemetryDto.told
  split <;> simp [List.filterMap_cons, ReadingNote.message?]

/-- Of the notes of a request at most one is picked if this is so of what an ingestion leaves. -/
theorem told_picked {β : Type} {route : Route} {l : List ReadingNote}
    {o : Option (Except Thrown Unit)} (h : route.Told l o) {pick : ReadingNote → Option β}
    (hpick : ∀ dto receivedAt row, (CreateTelemetryDto.told dto receivedAt row |>.filterMap
      pick).length ≤ 1) : (l.filterMap pick).length ≤ 1 := by
  by_cases hingest : ∃ dto, route = .ingest dto
  · obtain ⟨dto, rfl⟩ := hingest
    obtain ⟨receivedAt, row, hl⟩ := h
    exact (hl.part.filterMap pick).length_le.trans (hpick dto receivedAt row)
  · have hnil : l = [] := by
      cases route with
      | ingest dto => exact absurd ⟨dto, rfl⟩ hingest
      | _ => exact h
    rw [hnil]
    exact Nat.zero_le 1

theorem mem_told_saved {dto : CreateTelemetryDto} {receivedAt : Nat} {rec : NewTelemetry}
    {row row' : Option TelemetryRow} :
    .saved rec row' ∈ dto.told receivedAt row ↔ rec = dto.record ∧ row' = row := by
  unfold CreateTelemetryDto.told
  split <;> simp

theorem mem_told_sent {dto : CreateTelemetryDto} {receivedAt : Nat} {telemetry : TelemetryPayload}
    {row : Option TelemetryRow} : .sent telemetry ∈ dto.told receivedAt row ↔
      dto.room ≠ "" ∧ telemetry = LiveOp.reading dto receivedAt := by
  unfold CreateTelemetryDto.told
  split <;> simp_all

/-- Where the save is noted, all that is told before is noted. -/
theorem told_of_saved {dto : CreateTelemetryDto} {receivedAt : Nat} {row row' : Option TelemetryRow}
    {rec : NewTelemetry} {l : List ReadingNote} (h : l <+: dto.told receivedAt row)
    (hsaved : .saved rec row' ∈ l) : l = dto.told receivedAt row := by
  rcases List.prefix_concat_iff.mp h with hall | hpart
  · exact hall
  · have hmem := hpart.subset hsaved
    split at hmem <;> simp at hmem

/-- What is noted of an ingestion. -/
theorem told_ingest {route : Route} {l : List ReadingNote} {o : Option (Except Thrown Unit)}
    (h : route.Told l o) {n : ReadingNote} (hn : n ∈ l) : ∃ dto receivedAt row,
      route = .ingest dto ∧ Telling (dto.told receivedAt row) l o := by
  cases route with
  | ingest dto =>
    obtain ⟨receivedAt, row, hl⟩ := h
    exact ⟨dto, receivedAt, row, rfl, hl⟩
  | _ =>
    have hnil : l = [] := h
    rw [hnil] at hn
    exact absurd hn List.not_mem_nil

theorem notes_told (P : Platform) (s₀ : Store) (requests : ι → HttpRequest)
    (ms : List (Move ι Nat)) (i : ι) :
    (requests i).route.Told
      (((HttpRequest.started P s₀ requests).exec (system P) ms).notesOf ReadingNote.ofCmd i)
      (((HttpRequest.started P s₀ requests).exec (system P) ms).threads i).outcome :=
  Config.exec_tells (Φ := fun i l o => (requests i).route.Told l o)
    (fun i => prog_tells (requests i)) ms i

/-- A save that is noted has been answered by the store. -/
theorem saved_answered (requests : ι → HttpRequest) (ms : List (Move ι Nat)) {i : ι}
    {rec : NewTelemetry} {row : Option TelemetryRow}
    (h : .saved rec row ∈ ((HttpRequest.started P s₀ requests).exec (system P) ms).notesOf
      ReadingNote.ofCmd i) :
    (∃ row' s s', row = some row' ∧ insertTelemetry P s rec = .ok (row', s')) ∨
      row = none ∧ ∃ e, ⟨i, .telemetry (.insert rec), .error e⟩ ∈
        ((HttpRequest.started P s₀ requests).exec (system P) ms).trace := by
  obtain ⟨⟨j, c, r⟩, hmem, hnote⟩ := List.mem_filterMap.mp (Config.mem_notesOf.mp h)
  obtain ⟨n, hn, hpair⟩ := Option.map_eq_some_iff.mp hnote
  cases hpair
  cases c with
  | telemetry c =>
    cases c with
    | insert rec' =>
      cases hn
      cases r with
      | error e => exact .inr ⟨rfl, e, hmem⟩
      | ok row =>
        have hempty : (HttpRequest.started P s₀ requests).Answered (system P) :=
          fun e he => absurd he List.not_mem_nil
        rcases hempty.exec ms _ hmem with ⟨s, hs⟩ | ⟨err, -, herr⟩
        · obtain ⟨s', hs', -⟩ := commit_fst_eq_ok (r := insertTelemetry P s rec) hs.symm
          exact .inl ⟨row, s, s', rfl, hs'⟩
        · cases herr
    | _ => cases hn
  | process c => cases c <;> cases hn
  | _ => cases hn

end

namespace HttpRequest

variable {ι : Type} [DecidableEq ι]

/-- No reading is lost or doubled: in every run of requests the new rows and the new messages are
those of distinct ingestions, and carry their bodies. -/
theorem readings_ledger (P : Platform) (s₀ : Store) (requests : ι → HttpRequest)
    (ms : List (Move ι Nat)) :
    ReadingsLedger requests s₀ ((started P s₀ requests).exec (system P) ms) := by
  have htold := notes_told P s₀ requests ms
  obtain ⟨hrows, hmessages⟩ := recorded_exec P s₀ requests ms
  constructor
  case rows => exact hrows
  case messages => exact hmessages
  case storedOnce =>
    exact Config.nodup_picked _ fun i => told_picked (htold i) told_length_row
  case sentOnce =>
    exact Config.nodup_picked _ fun i => told_picked (htold i) told_length_message
  case stored =>
    intro i row h
    obtain ⟨rec, hsaved⟩ := mem_storedBy.mp h
    obtain ⟨dto, receivedAt, row', hroute, htelling⟩ := told_ingest (htold i) hsaved
    have hall := told_of_saved htelling.part hsaved
    refine ⟨dto, hroute, ?_, fun hroom => ⟨receivedAt, mem_sentBy.mpr ?_⟩⟩
    · obtain ⟨rfl, -⟩ := mem_told_saved.mp (hall ▸ hsaved)
      rcases saved_answered requests ms hsaved with ⟨row'', s, s', hrow, hinsert⟩ | ⟨hnone, -⟩
      · cases hrow
        exact insert_of hinsert
      · cases hnone
    · rw [hall]
      exact mem_told_sent.mpr ⟨hroom, rfl⟩
  case sent =>
    intro i telemetry h
    have hsent := mem_sentBy.mp h
    obtain ⟨dto, receivedAt, row, hroute, htelling⟩ := told_ingest (htold i) hsent
    exact ⟨dto, receivedAt, hroute, mem_told_sent.mp (htelling.part.subset hsent)⟩
  case returned =>
    intro i dto hroute hret
    have hi := htold i
    rw [hroute, hret] at hi
    obtain ⟨receivedAt, row, hl⟩ := hi
    have hall := hl.returned () rfl
    refine ⟨fun hroom => ⟨receivedAt, mem_sentBy.mpr ?_⟩, ?_⟩
    · rw [hall]
      exact mem_told_sent.mpr ⟨hroom, rfl⟩
    · have hsaved : .saved dto.record row ∈ dto.told receivedAt row :=
        mem_told_saved.mpr ⟨rfl, rfl⟩
      rw [← hall] at hsaved
      rcases saved_answered requests ms hsaved with ⟨row', s, s', rfl, -⟩ | ⟨rfl, hfailed⟩
      · exact .inl ⟨row', mem_storedBy.mpr ⟨_, hsaved⟩⟩
      · exact .inr hfailed
  case threw =>
    intro i e hfail
    have hi := htold i
    rw [hfail] at hi
    have hnil : ∀ n,
        n ∉ ((started P s₀ requests).exec (system P) ms).notesOf ReadingNote.ofCmd i := by
      intro n hn
      obtain ⟨dto, receivedAt, row, -, hl⟩ := told_ingest hi hn
      rw [hl.threw e rfl] at hn
      exact absurd hn List.not_mem_nil
    refine ⟨fun row h => ?_, fun telemetry h => hnil _ (mem_sentBy.mp h)⟩
    obtain ⟨rec, hsaved⟩ := mem_storedBy.mp h
    exact hnil _ hsaved

end HttpRequest

end VoltFleet
