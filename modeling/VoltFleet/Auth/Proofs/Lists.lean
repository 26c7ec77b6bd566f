import VoltFleet.PlainPlatform
import VoltFleet.Proofs.Pages

/-!
# The lists of the auth module

`getAllUsers`, `getAllRoles` and `getAllPrivileges` are one method for three tables:
it reads a page of the rows that match the search, sorted by the unique column, and
turns whatever is thrown meanwhile into an `InternalServerErrorException`.
-/

namespace VoltFleet

open Awaiting

/-! ## Errors of the client -/

/-- The role with this id, if there is one. -/
def Store.roleWithId (s : Store) (id : String) : Option UserRole :=
  (Uuid.ofString? id).bind s.role?

/-- Whatever goes wrong in the lookup is one message, a missing role included. -/
theorem run_findRole {P : Platform} {s : Store} {id : String} (hid : id ≠ "") :
    ((UserRoleRepository.getRoleById id).run (exec P) s).1 =
      (s.roleWithId id).elim (.error (.internalServerError "Something went wrong")) .ok := by
  have hfind : (exec P (.roles (.findOneById id)) s).1 = (uuidParam id).map s.role? := by
    show (uuidParam id >>= fun u => .ok (s.role? u)) = _
    cases uuidParam id <;> rfl
  unfold UserRoleRepository.getRoleById
  rw [if_neg hid]
  change (Prog.run (exec P) (Prog.call (.roles (.findOneById id)) _) s).1 = _
  rw [Prog.run_call, hfind, Store.roleWithId]
  cases hkey : Uuid.ofString? id with
  | none =>
    have hparam : uuidParam id = .error .invalidText := by
      simp only [uuidParam, hkey]
    rw [hparam]
    rfl
  | some u =>
    rw [uuidParam_eq_ok.mpr hkey, Option.bind_some, Except.map]
    cases s.role? u with
    | none => rfl
    | some role => rfl

/-- The reads of the auth module that take their input from the client. -/
inductive AuthRead where
  | getAll (list : AuthList) (page perPage search : Option String) (req : Request)
  | getRoleById (id : String)

namespace AuthRead

/-- The call. -/
def prog (P : Platform) : AuthRead → Service Unit
  | .getAll list page perPage search req =>
      Service.dropResult (list.call P page perPage search req)
  | .getRoleById id => Service.dropResult (AuthService.getRoleById P id)

/-- The outcome of a read. -/
def outcome (P : Platform) (s : Store) (read : AuthRead) : Except Thrown Unit :=
  ((read.prog P).run (exec P) s).1

/-- The input is not to be rejected. -/
def Valid (P : Platform) (s : Store) : AuthRead → Prop
  | .getAll _ page perPage _ _ =>
      (JsNumber.finite 1).le (P.param page 1).value = true ∧
        (JsNumber.finite 1).le (P.param perPage 10).value = true
  | .getRoleById id => (s.roleWithId id).isSome

/-- The outcome is a `BadRequestException`. -/
def Rejected (r : Except Thrown Unit) : Prop := ∃ message, r = .error (.badRequest message)

/-- A read returns or rejects its input, and it rejects what is not valid. -/
def KeepsClientErrors (P : Platform) (s : Store) (read : AuthRead) : Prop :=
  (read.outcome P s = .ok () ∨ Rejected (read.outcome P s)) ∧
    (¬read.Valid P s → Rejected (read.outcome P s))

/-- The parameters are finite numbers that are at least one, and the database takes the counts they
come to and the search text; the id is not that of a role which only the lookup can tell to be
missing. -/
def Handled (P : Platform) (s : Store) : AuthRead → Prop
  | .getAll _ page perPage search _ => P.TakesSearch search ∧
      ∃ p k : ℚ, Cuts P (P.param page 1).value (P.param perPage 10).value p k
  | .getRoleById id => P.isUUID id = false ∨ id = "" ∨ (s.roleWithId id).isSome

section

variable {P : Platform} {s : Store}

theorem not_rejected_internal {message : String} :
    ¬Rejected (.error (.internalServerError message)) := by
  rintro ⟨message', h⟩
  cases h

theorem outcome_getAll (list : AuthList) (page perPage search : Option String) (req : Request) :
    (getAll list page perPage search req).outcome P s =
      ((sendSearch P search >>= fun _ =>
        listing P (P.param page 1) (P.param perPage 10) req (list.sorted P s search)).mapError
        fun _ => .internalServerError list.failure).map fun _ => () := by
  rw [← AuthList.run_call]
  exact congrArg Prod.fst (Service.run_dropResult _ _ _)

theorem outcome_getRoleById (id : String) :
    (getRoleById id).outcome P s =
      if P.isUUID id = false then .error (.badRequest "Invalid Role ID")
      else if id = "" then .error (.badRequest "Role name cannot be empty")
      else (s.roleWithId id).elim (.error (.internalServerError "Something went wrong"))
        fun _ => .ok () := by
  have hdrop : (getRoleById id).outcome P s =
      ((AuthService.getRoleById P id).run (exec P) s).1.map fun _ => () :=
    congrArg Prod.fst (Service.run_dropResult _ _ _)
  rw [hdrop]
  unfold AuthService.getRoleById
  cases P.isUUID id with
  | false => rfl
  | true =>
    simp only [Bool.not_true, Bool.false_eq_true, if_false, Bool.true_eq_false]
    by_cases hid : id = ""
    · subst hid
      rfl
    · rw [if_neg hid]
      show ((UserRoleRepository.getRoleById id).run (exec P) s).1.map _ = _
      rw [run_findRole hid]
      cases s.roleWithId id <;> rfl

/-- Everything that is not handled is answered as a failure of the server. -/
theorem outcome_of_not_handled {read : AuthRead} (h : ¬read.Handled P s) :
    ∃ message, read.outcome P s = .error (.internalServerError message) := by
  cases read with
  | getAll list page perPage search req =>
    refine ⟨list.failure, ?_⟩
    rw [outcome_getAll]
    cases hread : sendSearch P search >>= fun _ =>
        listing P (P.param page 1) (P.param perPage 10) req (list.sorted P s search) with
    | ok r =>
      obtain ⟨_, hsearch, hlisting⟩ := bind_eq_ok.mp hread
      exact absurd ⟨sendSearch_eq_ok.mp hsearch, listing_params hlisting⟩ h
    | error e => rfl
  | getRoleById id =>
    refine ⟨"Something went wrong", ?_⟩
    rw [Handled, not_or, not_or, Bool.not_eq_false, Bool.not_eq_true, Option.isSome_eq_false_iff,
      Option.isNone_iff_eq_none] at h
    obtain ⟨huuid, hid, hrole⟩ := h
    rw [outcome_getRoleById, if_neg (by simp [huuid]), if_neg hid, hrole, Option.elim_none]

theorem not_keeps_of_not_handled {read : AuthRead} (h : ¬read.Handled P s) :
    ¬read.KeepsClientErrors P s := by
  obtain ⟨message, houtcome⟩ := outcome_of_not_handled h
  rintro ⟨hreturns, -⟩
  rw [houtcome] at hreturns
  rcases hreturns with hok | hrejected
  · cases hok
  · exact not_rejected_internal hrejected

/-- An error of the client is answered as one exactly if the parameters are finite numbers that
are at least one and that the database takes with the search text, and if it is not the lookup
that finds the role to be missing. -/
theorem keepsClientErrors_iff (read : AuthRead) :
    read.KeepsClientErrors P s ↔ read.Handled P s := by
  refine ⟨fun hkeeps => by_contra fun h => not_keeps_of_not_handled h hkeeps, fun h => ?_⟩
  cases read with
  | getAll list page perPage search req =>
    obtain ⟨hsearch, p, k, hcuts⟩ := h
    obtain ⟨r, hr, -⟩ : ∃ r, listing P (P.param page 1) (P.param perPage 10) req
        (list.sorted P s search) = .ok r ∧ _ := exists_listing hcuts
    have hread : (sendSearch P search >>= fun _ => listing P (P.param page 1)
        (P.param perPage 10) req (list.sorted P s search)) = .ok r :=
      bind_eq_ok.mpr ⟨(), sendSearch_eq_ok.mpr hsearch, hr⟩
    rw [KeepsClientErrors, outcome_getAll, hread]
    refine ⟨.inl rfl, fun hinvalid => absurd ?_ hinvalid⟩
    rw [Valid, hcuts.page, hcuts.perPage]
    simp [hcuts.one_le_page, hcuts.one_le_perPage]
  | getRoleById id =>
    rw [KeepsClientErrors, outcome_getRoleById, Valid]
    cases huuid : P.isUUID id with
    | false => simp [Rejected]
    | true =>
      by_cases hid : id = ""
      · simp [hid, Rejected]
      · have hrole : (s.roleWithId id).isSome := by simpa [Handled, huuid, hid] using h
        obtain ⟨role, hrole⟩ := Option.isSome_iff_exists.mp hrole
        simp [hid, hrole]

end

/-- The first page of the users, but counted from zero. -/
def pageZero : AuthRead :=
  .getAll .getAllUsers (some "0") none none ⟨"http", "localhost:3000", "/api/v1/auth/users", []⟩

/-- Page zero and an unknown role are both answered as failures of the server. -/
theorem not_keepsClientErrors :
    ¬KeepsClientErrors .plain .empty pageZero ∧
      ¬KeepsClientErrors .plain .empty (getRoleById (Uuid.ofNat 1).text) := by
  constructor
  · apply not_keeps_of_not_handled
    rintro ⟨-, p, k, hcuts⟩
    have hzero : (Platform.plain.param (some "0") 1).value = .finite 0 := by decide +kernel
    have hpage := hcuts.page
    rw [hzero] at hpage
    cases hpage
    exact absurd hcuts.one_le_page (by decide)
  · apply not_keeps_of_not_handled
    show ¬(isPlainUUID (Uuid.ofNat 1).text = false ∨ (Uuid.ofNat 1).text = "" ∨
      (Store.empty.roleWithId (Uuid.ofNat 1).text).isSome = true)
    rw [Store.roleWithId, Uuid.ofString?_text]
    decide

end AuthRead

end VoltFleet
