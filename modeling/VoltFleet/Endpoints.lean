import VoltFleet.Audit.AuditService
import VoltFleet.Auth.AuthService
import VoltFleet.Telemetry.TelemetryService

/-!
# The list endpoints

What the handlers of the paginated routes answer to a request, past the guards.
The routes of the auth module read single parameters, so that the pipes let any
query pass; the two others have a query DTO.
-/

namespace VoltFleet

/-- The contents of the databases. -/
structure Site where
  store : Store
  audit : AuditStore

namespace GetHistoryDto

/-- The checks of `GetHistoryDto`. -/
def fields (W : Web) : List DtoField :=
  [.dateString W "from", .dateString W "to",
    .positiveInt W "page" " must be an integer" " must be at least 1",
    .positiveInt W "perPage" " must be an integer" " must be at least 1"]

/-- The DTO of a query that has passed the pipes. -/
def ofQuery (W : Web) (req : Request) : GetHistoryDto where
  from? := req.param "from"
  to? := req.param "to"
  page := (req.param "page").map W.converted
  perPage := (req.param "perPage").map W.converted

/-- The database can read the dates of the filter. -/
def DatesReadable (P : Platform) (dto : GetHistoryDto) : Prop :=
  (∀ text, dto.from?.filter (· ≠ "") = some text → (P.timestamp text).isSome) ∧
    ∀ text, dto.to?.filter (· ≠ "") = some text → (P.timestamp text).isSome

end GetHistoryDto

namespace Endpoint

/-- What the pages of an endpoint list. -/
abbrev Row : Endpoint → Type
  | .getAllUsers => User
  | .getAllRoles => UserRole
  | .getAllPrivileges => UserPrivilege
  | .history _ => TelemetryRow
  | .getAuditLogs => AuditLog

/-- What a method returns or throws when it runs by itself. -/
def answer {α : Type} (W : Web) (store : Store) (p : Service α) : Except Refusal α :=
  (p.run (exec W.toPlatform) store).1.mapError .thrown

/-- What a handler answers, behind the pipes where it has a DTO. -/
def respond (W : Web) (site : Site) (req : Request) :
    (e : Endpoint) → Except Refusal (PaginationResult e.Row)
  | .getAllUsers =>
      answer W site.store (AuthService.getAllUsers W.toPlatform (req.param "page")
        (req.param "perPage") (req.param "search") (some req))
  | .getAllRoles =>
      answer W site.store (UserRoleRepository.getAllRoles W.toPlatform (req.param "page")
        (req.param "perPage") (req.param "search") (some req))
  | .getAllPrivileges =>
      answer W site.store (UserPrivilegeRepository.getAllPrivileges W.toPlatform
        (req.param "page") (req.param "perPage") (req.param "search") (some req))
  | .history vehicleId => do
      let req ← pipes (GetHistoryDto.fields W) req
      answer W site.store
        (TelemetryService.getHistory W.toPlatform vehicleId (.ofQuery W req) (some req))
  | .getAuditLogs => do
      let req ← pipes (SearchAuditDto.fields W) req
      ((AuditService.searchLogs W (.ofQuery W req) (some req)).run
        (AuditCmd.exec W.toPlatform) site.audit).1.mapError .thrown

/-! ## The list behind the pages -/

/-- The readings `getHistory` counts. -/
def historyOf (W : Web) (s : Store) (vehicleId : Uuid) (dto : GetHistoryDto) : List TelemetryRow :=
  VoltFleet.history W.toPlatform s vehicleId fun r =>
    ((dto.from?.filter (· ≠ "")).bind W.timestamp).all (· ≤ r.createdAt) ∧
      ((dto.to?.filter (· ≠ "")).bind W.timestamp).all (r.createdAt ≤ ·)

/-- The logs `searchLogs` counts; none where the filter cannot be built. -/
def logsOf (W : Web) (s : AuditStore) (dto : SearchAuditDto) : List AuditLog :=
  match AuditService.filterQuery W dto >>= AuditFilter.selects with
  | .ok keep => s.sorted W.toPlatform keep
  | .error _ => []

/-- Everything the filter of a request selects, in the order of the pages. -/
def selected (W : Web) (site : Site) (req : Request) : (e : Endpoint) → List e.Row
  | .getAllUsers =>
      ((searchBy W.toPlatform User.email (req.param "search") site.store.userList).mergeSort
        fun a b => W.collate a.email b.email).map fun user => { user with password := none }
  | .getAllRoles =>
      (searchBy W.toPlatform UserRole.name (req.param "search") site.store.roleList).mergeSort
        fun a b => W.collate b.name a.name
  | .getAllPrivileges =>
      (searchBy W.toPlatform UserPrivilege.name (req.param "search")
        site.store.privilegeList).mergeSort fun a b => W.collate b.name a.name
  | .history vehicleId =>
      match Uuid.ofString? vehicleId with
      | none => []
      | some id => historyOf W site.store id (.ofQuery W req.trimmed)
  | .getAuditLogs => logsOf W site.audit (.ofQuery W req.trimmed)

end Endpoint

end VoltFleet
