import VoltFleet.Common.Validation
import VoltFleet.Misc.Program
import VoltFleet.Misc.Table

/-!
# `AuditService`

The collection of audit logs and the service that writes and searches it.  The
`metadata` of a log is stored and sent, and read by nothing.
-/

namespace VoltFleet

open Awaiting

/-- A stored document; `createdAt` is the timestamp Mongoose adds. -/
structure AuditLog where
  /-- The number of the `_id`. -/
  id : Nat
  event : String
  target : String
  message : String
  createdAt : Nat
  deriving DecidableEq

/-- The collection, with the clock of its server. -/
structure AuditStore where
  logs : Keyed.Records Nat AuditLog AuditLog.id
  clock : Nat
  /-- The number of random choices made so far. -/
  draws : Nat

/-- `SearchAuditDto`; no code reads its `metadata`. -/
structure SearchAuditDto where
  event : Option String
  target : Option String
  message : Option String
  dateFrom : Option String
  dateTo : Option String
  page : Option String
  limit : Option String
  deriving DecidableEq

namespace SearchAuditDto

/-- The checks of `SearchAuditDto`. -/
def fields (W : Web) : List DtoField :=
  [.string "event", .string "target", .string "message", .dateString W "dateFrom",
    .dateString W "dateTo",
    .positiveInt W "page" " must be an integer number" " must not be less than 1",
    .positiveInt W "limit" " must be an integer number" " must not be less than 1",
    .object "metadata"]

/-- The DTO of a query that has passed the pipes. -/
def ofQuery (W : Web) (req : Request) : SearchAuditDto where
  event := req.param "event"
  target := req.param "target"
  message := req.param "message"
  dateFrom := req.param "dateFrom"
  dateTo := req.param "dateTo"
  page := (req.param "page").map W.converted
  limit := (req.param "limit").map W.converted

end SearchAuditDto

/-- A `FilterQuery`: the expressions the texts have to match and the bounds of `createdAt`. -/
structure AuditFilter where
  event : Option (String → Bool)
  target : Option (String → Bool)
  message : Option (String → Bool)
  /-- The date is `none` where it is invalid. -/
  gte : Option (Option Nat)
  lte : Option (Option Nat)

/-- A date mongoose casts for a query. -/
def castDate : Option Nat → Except Thrown Nat
  | none => .error (.error "Cast to date failed")
  | some t => .ok t

/-- The logs a filter selects. -/
def AuditFilter.selects (f : AuditFilter) : Except Thrown (AuditLog → Bool) := do
  let gte ← f.gte.mapM castDate
  let lte ← f.lte.mapM castDate
  return fun log =>
    f.event.all (fun matchesText => matchesText log.event) ∧
      f.target.all (fun matchesText => matchesText log.target) ∧
      f.message.all (fun matchesText => matchesText log.message) ∧
      gte.all (· ≤ log.createdAt) ∧ lte.all (log.createdAt ≤ ·)

/-- A count of the `find` command. -/
def findCount (P : Platform) : JsNumber → Except Thrown Nat
  | .finite q =>
      if q.den = 1 ∧ 0 ≤ q ∧ P.takesCount q.num.toNat then .ok q.num.toNat
      else .error (.error "Expected a non-negative 64-bit integer")
  | _ => .error (.error "Expected a non-negative 64-bit integer")

/-- The counts that a `find` takes. -/
theorem findCount_eq_ok {P : Platform} {x : JsNumber} {n : Nat} :
    findCount P x = .ok n ↔ x = .finite n ∧ P.takesCount n = true := by
  cases x with
  | finite q =>
    simp only [findCount, JsNumber.finite.injEq]
    constructor
    · intro h
      split at h
      next hq =>
        cases h
        have hnum : ((q.num.toNat : Int) : ℚ) = (q.num : ℚ) := by
          rw [Int.toNat_of_nonneg (Rat.num_nonneg.mpr hq.2.1)]
        have hint : (q.num : ℚ) = q := Rat.den_eq_one_iff q |>.mp hq.1
        exact ⟨by rw [← hint, ← hnum]; push_cast; rfl, hq.2.2⟩
      next => cases h
    · rintro ⟨rfl, htakes⟩
      have hn : (n : ℚ).num.toNat = n := by rw [Rat.num_natCast, Int.toNat_natCast]
      rw [hn, if_pos ⟨Rat.den_natCast n, Nat.cast_nonneg n, htakes⟩]
  | _ => simp [findCount]

/-- The calls of the audit model. -/
inductive AuditCmd where
  | save (event target message : String)
  | find (filter : AuditFilter) (skip limit : JsNumber)
  | countDocuments (filter : AuditFilter)

/-- What a call returns. -/
abbrev AuditCmd.Answer : AuditCmd → Type
  | .save .. => Unit
  | .find .. => List AuditLog
  | .countDocuments _ => Nat

/-- The selected logs, the latest first. -/
def AuditStore.sorted (P : Platform) (s : AuditStore) (keep : AuditLog → Bool) : List AuditLog :=
  ((P.scan s.draws s.logs.rows).filter keep).mergeSort fun a b => b.createdAt ≤ a.createdAt

/-- `save` requires a message; a `limit` of zero is none. -/
def AuditCmd.exec (P : Platform) :
    (c : AuditCmd) → AuditStore → Except Thrown c.Answer × AuditStore
  | .save event target message, s =>
      if message = "" then
        (.error (.error "AuditLog validation failed: message: Path `message` is required."), s)
      else
        match s.logs.insert? ⟨s.draws, event, target, message, s.clock⟩ with
        | none => (.error .duplicateKey, s)
        | some logs => (.ok (), { s with logs := logs, draws := s.draws + 1 })
  | .find filter skip limit, s =>
      (do
        let keep ← filter.selects
        let offset ← findCount P skip
        let size ← findCount P limit
        let rest := (s.sorted P keep).drop offset
        return if size = 0 then rest else rest.take size,
        { s with draws := s.draws + 1 })
  | .countDocuments filter, s =>
      (do
        let keep ← filter.selects
        return (s.logs.rows.filter keep).length, s)

/-- A method of the audit service. -/
abbrev AuditMethod (α : Type) : Type := Prog AuditCmd AuditCmd.Answer Thrown α

namespace AuditService

/-- Saves a document; a save that fails is swallowed. -/
def log (event target message : String) : AuditMethod Unit := do
  try Prog.await (AuditCmd.save event target message)
  catch _ => pure ()

/-- `if (text) filterQuery.field = new RegExp(text, 'i')`. -/
def pattern (W : Web) (text : Option String) : Except Thrown (Option (String → Bool)) :=
  match text.filter (· ≠ "") with
  | none => .ok none
  | some text =>
      match W.regExp text with
      | none => .error (.error "Invalid regular expression")
      | some matchesText => .ok (some matchesText)

/-- The filter of a query, as `searchLogs` builds it field by field. -/
def filterQuery (W : Web) (query : SearchAuditDto) : Except Thrown AuditFilter := do
  let event ← pattern W query.event
  let target ← pattern W query.target
  let message ← pattern W query.message
  return { event := event
           target := target
           message := message
           gte := (query.dateFrom.filter (· ≠ "")).map W.date
           lte := (query.dateTo.filter (· ≠ "")).map W.date }

/-- The page of the logs that the filter selects, latest first. -/
def searchLogs (W : Web) (query : SearchAuditDto) (req : Option Request) :
    AuditMethod (PaginationResult AuditLog) := do
  let page := W.param query.page 1
  let limit := W.param query.limit 10
  let filterQuery ← Prog.ofExcept (filterQuery W query)
  -- `Promise.all`: the two queries are sent one after the other
  let items ← Prog.await
    (AuditCmd.find filterQuery ((page.value.sub 1).mul limit.value) limit.value)
  let totalItems ← Prog.await (AuditCmd.countDocuments filterQuery)
  Prog.ofExcept (generatePagination W.toPlatform page limit totalItems req items)

/-- A log that cannot be saved is dropped without an error. -/
theorem log_returns (P : Platform) (event target message : String) (s : AuditStore) :
    ((log event target message).run (AuditCmd.exec P) s).1 = .ok () := by
  unfold log
  rw [Prog.run_tryCatch, Prog.run_await]
  split
  next a s' h => rfl
  next e s' h => rfl

/-- A log with a message is saved in front of the others. -/
theorem run_log {P : Platform} {event target message : String} {s : AuditStore}
    (hmessage : message ≠ "") (hfresh : s.draws ∉ s.logs.rows.map AuditLog.id) :
    (log event target message).run (AuditCmd.exec P) s =
      (.ok (), { s with
        logs := ⟨⟨s.draws, event, target, message, s.clock⟩ :: s.logs.rows,
          List.nodup_cons.mpr ⟨hfresh, s.logs.nodup⟩⟩
        draws := s.draws + 1 }) := by
  have hsave : AuditCmd.exec P (.save event target message) s =
      (.ok (), { s with
        logs := ⟨⟨s.draws, event, target, message, s.clock⟩ :: s.logs.rows,
          List.nodup_cons.mpr ⟨hfresh, s.logs.nodup⟩⟩
        draws := s.draws + 1 }) := by
    rw [AuditCmd.exec, if_neg hmessage, Keyed.Records.insert?, dif_neg hfresh]
  unfold log
  rw [Prog.run_tryCatch, Prog.run_await, hsave]

/-- What a search returns has been built by `generatePagination`. -/
theorem searchLogs_block {W : Web} {query : SearchAuditDto} {req : Option Request} {s : AuditStore}
    {r : PaginationResult AuditLog}
    (h : ((searchLogs W query req).run (AuditCmd.exec W.toPlatform) s).1 = .ok r) :
    ∃ items total, generatePagination W.toPlatform (W.param query.page 1) (W.param query.limit 10)
      total req items = .ok r := by
  obtain ⟨filter, -, hfilter⟩ := (Prog.run_bind_eq_ok _).mp h
  obtain ⟨items, -, hitems⟩ := (Prog.run_bind_eq_ok _).mp hfilter
  obtain ⟨total, -, htotal⟩ := (Prog.run_bind_eq_ok _).mp hitems
  rw [Prog.run_ofExcept] at htotal
  exact ⟨items, total, htotal⟩

end AuditService

end VoltFleet
