import VoltFleet.Auth.Proofs.Accounts
import VoltFleet.Controllers
import VoltFleet.Vehicle.Proofs.Commands

/-!
# Routes that leave the accounts alone

All routes but the sign-ups, the password reset and the writes of roles and
privileges.
-/

namespace VoltFleet

open Awaiting

variable {P : Platform}

theorem lift_issues {α : Type} {Q : Cmd → Prop} (r : Except Thrown α) :
    (Service.lift r).Issues Q := Prog.issues_ofExcept r

/-! ## The lists -/

theorem getAllUsers_issues (page perPage search : Option String) (req : Option Request) :
    (AuthService.getAllUsers P page perPage search req).Issues LeavesAccounts :=
  .tryCatch (.bind (.await trivial) fun _ => lift_issues _) fun _ => trivial

theorem getAllRoles_issues (page perPage search : Option String) (req : Option Request) :
    (UserRoleRepository.getAllRoles P page perPage search req).Issues LeavesAccounts :=
  .tryCatch (.bind (.await trivial) fun _ => lift_issues _) fun _ => trivial

theorem getAllPrivileges_issues (page perPage search : Option String) (req : Option Request) :
    (UserPrivilegeRepository.getAllPrivileges P page perPage search req).Issues LeavesAccounts :=
  .tryCatch (.bind (.await trivial) fun _ => lift_issues _) fun _ => trivial

theorem getAllVehicles_issues (dto : GetVehiclesDto) (req : Option Request) :
    (VehicleService.getAllVehicles P dto req).Issues LeavesAccounts :=
  .tryCatch (.bind (.await trivial) fun _ => lift_issues _) fun _ => trivial

theorem getAllFleets_issues (dto : GetFleetsDto) (req : Option Request) :
    (FleetService.getAllFleets P dto req).Issues LeavesAccounts :=
  .tryCatch (.bind (.await trivial) fun _ => lift_issues _) fun _ => trivial

theorem getHistory_issues (vehicleId : String) (dto : GetHistoryDto) (req : Option Request) :
    (TelemetryService.getHistory P vehicleId dto req).Issues LeavesAccounts :=
  .bind (.await trivial) fun _ => lift_issues _

/-! ## Roles -/

theorem findRole_issues (id : String) :
    (UserRoleRepository.getRoleById id).Issues LeavesAccounts := by
  unfold UserRoleRepository.getRoleById
  by_cases h : id = ""
  · rw [if_pos h]
    trivial
  · rw [if_neg h]
    refine ⟨trivial, fun r => ?_⟩
    rcases r with e | (_ | role) <;> trivial

theorem getRoleById_issues (id : String) :
    (AuthService.getRoleById P id).Issues LeavesAccounts := by
  unfold AuthService.getRoleById
  by_cases h : P.isUUID id = true
  · simp only [h, Bool.not_true, Bool.false_eq_true, if_false]
    exact findRole_issues id
  · simp only [h, Bool.not_false, if_true]
    trivial

/-! ## The routes -/

theorem FleetCmds.leavesAccounts (c : Cmd) (h : FleetCmds c) : LeavesAccounts c := by
  cases c with
  | users c => cases c <;> first | exact h.elim | trivial
  | roles c => exact h.elim
  | privileges c => exact h.elim
  | redis c => exact h.elim
  | _ => trivial

/-- The route writes a user, a role or a privilege. -/
def Route.WritesAccounts : Route → Prop
  | .resetPassword .. => True
  | .createRole _ => True
  | .createPrivilege _ => True
  | .assignPrivilege .. => True
  | .registerAdmin _ => True
  | .signUpAsAStaff _ => True
  | _ => False

theorem handler_issues {route : Route} (h : ¬ route.WritesAccounts) :
    (route.handler P).Issues LeavesAccounts := by
  have ofFleet : ∀ {α : Type} {p : Service α}, p.Issues FleetCmds → p.Issues LeavesAccounts :=
    fun hp => hp.mono FleetCmds.leavesAccounts
  cases route with
  | getAllUsers page perPage search req =>
    exact dropResult_issues (getAllUsers_issues page perPage search _)
  | getAllRoles page perPage search req =>
    exact dropResult_issues (getAllRoles_issues page perPage search _)
  | getAllPrivileges page perPage search req =>
    exact dropResult_issues (getAllPrivileges_issues page perPage search _)
  | getRoleById id => exact dropResult_issues (getRoleById_issues id.text)
  | validateLoginOtp dto session =>
    exact dropResult_issues ((signIn_issues dto session).mono SessionCmd.leavesAccounts)
  | refreshAccessToken token =>
    exact dropResult_issues (((refreshAccessToken_issues token).mono RefreshCmd.sessionCmd).mono
      SessionCmd.leavesAccounts)
  | logout token =>
    exact ((logout_issues token).mono RefreshCmd.sessionCmd).mono SessionCmd.leavesAccounts
  | createVehicle dto => exact dropResult_issues (.await trivial)
  | getAllVehicles dto => exact dropResult_issues (getAllVehicles_issues dto none)
  | getVehicleById id => exact dropResult_issues (ofFleet (getVehicleById_issues id))
  | updateVehicle id dto => exact dropResult_issues (ofFleet (updateVehicle_issues id dto))
  | deleteVehicle id => exact ofFleet (deleteVehicle_issues id)
  | createFleet dto => exact dropResult_issues (ofFleet (createFleet_issues dto))
  | getAllFleets dto => exact dropResult_issues (getAllFleets_issues dto none)
  | getFleetById id => exact dropResult_issues (ofFleet (getFleetById_issues id))
  | updateFleet id dto => exact dropResult_issues (ofFleet (updateFleet_issues id dto))
  | deleteFleet id => exact ofFleet (deleteFleet_issues id)
  | ingest dto => exact dropResult_issues (ofFleet (ingestTelemetry_issues dto))
  | latest vehicleId => exact dropResult_issues (.await trivial)
  | history vehicleId dto req => exact dropResult_issues (getHistory_issues vehicleId dto _)
  | resetPassword dto newPassword => exact absurd trivial h
  | createRole dto => exact absurd trivial h
  | createPrivilege dto => exact absurd trivial h
  | assignPrivilege dto answered => exact absurd trivial h
  | registerAdmin dto => exact absurd trivial h
  | signUpAsAStaff dto => exact absurd trivial h

end VoltFleet
