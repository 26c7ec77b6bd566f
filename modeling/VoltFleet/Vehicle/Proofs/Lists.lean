import VoltFleet.PlainWeb
import VoltFleet.Proofs.Listing
import VoltFleet.Vehicle.ListControllers

/-!
# The list routes of vehicles and fleets never answer

`generatePagination` reads the query of a request that is `undefined`, and the
catch-all of the service turns the exception into a generic error.
-/

namespace VoltFleet

open Awaiting

/-- There is no block without a request. -/
theorem generatePagination_none {α : Type} {P : Platform} {page perPage : NumericParam}
    {totalItems : Nat} {items : List α} {r : PaginationResult α} :
    generatePagination P page perPage totalItems none items ≠ .ok r := by
  intro h
  unfold generatePagination at h
  dsimp only at h
  split at h <;> cases h

theorem lift_generatePagination_none {α : Type} {P P' : Platform} {page perPage : NumericParam}
    {totalItems : Nat} {items : List α} {s : Store} {r : PaginationResult α} :
    ((Service.lift (generatePagination P page perPage totalItems none items)).run
      (exec P') s).1 ≠ .ok r := by
  have hnone : ∀ r, generatePagination P page perPage totalItems none items ≠ .ok r :=
    fun _ => generatePagination_none
  rw [Service.lift, Prog.run_ofExcept]
  exact hnone r

/-- A catch-all replaces whatever a body throws that does not return. -/
theorem run_catch_eq_error {α : Type} {P : Platform} {s : Store} {p : Service α} {e : Thrown}
    (h : ∀ a, (p.run (exec P) s).1 ≠ .ok a) :
    ((MonadExcept.tryCatch p fun _ => throw e : Service α).run (exec P) s).1 = .error e := by
  rw [run_catch]
  cases hp : (p.run (exec P) s).1 with
  | ok a => exact absurd hp (h a)
  | error e' => rfl

namespace ListRoute

/-- Without a request a call throws, whatever the store holds. -/
theorem call_without_request (W : Web) (s : Store) (query : Request) (route : ListRoute) :
    ((route.call W query none).run (exec W.toPlatform) s).1 =
      .error (.internalServerError route.failure) := by
  cases route with
  | getAllVehicles =>
    apply run_catch_eq_error
    intro r hr
    obtain ⟨⟨data, total⟩, -, hblock⟩ := (Prog.run_bind_eq_ok _).mp hr
    exact lift_generatePagination_none hblock
  | getAllFleets =>
    apply run_catch_eq_error
    intro r hr
    obtain ⟨⟨data, total⟩, -, hblock⟩ := (Prog.run_bind_eq_ok _).mp hr
    exact lift_generatePagination_none hblock

theorem respond_of_accepted {W : Web} {s : Store} {req query : Request} {route : ListRoute}
    (h : pipes (route.fields W) req = .ok query) :
    route.respond W s req = .error (.thrown (.internalServerError route.failure)) := by
  unfold respond
  rw [h]
  show Endpoint.answer W s (route.call W query none) = _
  rw [Endpoint.answer, call_without_request]
  rfl

/-- Both list routes fail on every request that the pipes let pass. -/
theorem respond_fails {W : Web} {s : Store} {req query : Request} {route : ListRoute}
    (h : pipes (route.fields W) req = .ok query) :
    route.respond W s req = .error (.thrown (.internalServerError route.failure)) ∧
      ¬ ∃ r, route.respond W s req = .ok r := by
  refine ⟨respond_of_accepted h, ?_⟩
  rintro ⟨r, hr⟩
  rw [respond_of_accepted h] at hr
  cases hr

/-- `GET /vehicles` without parameters. -/
def vehiclesRequest : Request := ⟨"http", "localhost:3000", "/api/v1/vehicles", []⟩

theorem respond_fails_empty :
    ListRoute.respond Web.plain Store.empty vehiclesRequest .getAllVehicles =
        .error (.thrown (.internalServerError "Failed to retrieve vehicles")) ∧
      ¬ ∃ r, ListRoute.respond Web.plain Store.empty vehiclesRequest .getAllVehicles = .ok r :=
  respond_fails (show pipes (fields Web.plain .getAllVehicles) vehiclesRequest =
    .ok vehiclesRequest from rfl)

/-- Not every accepted query is answered with a page. -/
theorem not_respond_returns :
    ¬ ∀ (W : Web) (s : Store) (req query : Request) (route : ListRoute),
      pipes (route.fields W) req = .ok query → ∃ r, route.respond W s req = .ok r := by
  intro h
  obtain ⟨r, hr⟩ := h Web.plain Store.empty vehiclesRequest vehiclesRequest .getAllVehicles rfl
  rw [respond_of_accepted (show pipes (fields Web.plain .getAllVehicles) vehiclesRequest =
    .ok vehiclesRequest from rfl)] at hr
  cases hr

end ListRoute

end VoltFleet
