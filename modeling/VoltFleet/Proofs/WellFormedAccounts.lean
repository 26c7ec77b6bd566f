import VoltFleet.Auth.Proofs.Bodies
import VoltFleet.Proofs.AccountRuns

/-!
# Accounts from received bodies

A request that reaches its handler has passed the pipes.  In a run of such requests
every account that comes about has names and an email as the DTO declares them, and
every password that is set meets the policy.
-/

namespace VoltFleet

open Awaiting

/-- The bodies of sign-ups and resets have passed the pipes. -/
def Route.Received (K : Checks) : Route → Prop
  | .registerAdmin dto => ∃ body, CreateUserDto.receive K body = .ok dto
  | .signUpAsAStaff dto => ∃ body, CreateUserDto.receive K body = .ok dto
  | .resetPassword dto newPassword =>
      (∃ query, ResetPasswordDto.receive query = .ok dto) ∧
        ∃ body, NewPasswordDto.receive K body = .ok newPassword
  | _ => True

/-- A request whose body has passed the pipes. -/
structure ReceivedRequest (K : Checks) extends HttpRequest where
  received : route.Received K

/-- The hash of a password that meets the policy. -/
def PolicyHash (P : Platform) (password : PasswordHash) : Prop :=
  ∃ salt text, MeetsPolicy text ∧ password = P.bcryptHash salt text

/-- The texts of an account are as the DTO declares them. -/
structure WellFormedRow (K : Checks) (row : UserRow) : Prop where
  firstName : Sized K 2 30 row.firstName
  lastName : Sized K 2 30 row.lastName
  email : ∃ email, K.isEmail email = true ∧ row.email = K.toLowerCase email

/-- Every password is that of the start or has been set according to the policy, and every new
account is well formed. -/
structure AccountsWellFormed (K : Checks) (s₀ s : Store) : Prop where
  passwords : ∀ u row, s.users.find? u = some row →
    (∃ row₀, s₀.users.find? u = some row₀ ∧ row.password = row₀.password) ∨
      PolicyHash K.toPlatform row.password
  created : ∀ u row, s₀.users.find? u = none → s.users.find? u = some row → WellFormedRow K row

section

variable {K : Checks} {s₀ s : Store} {ι : Type} {requests : ι → ReceivedRequest K}

theorem registers_wellFormed {route : Route} (h : route.Received K) {dto : CreateUserDto}
    {name : RolesConstant} (hregisters : route.registers = some (dto, name)) :
    dto.WellFormed K := by
  cases route with
  | registerAdmin dto' =>
    obtain ⟨body, hbody⟩ := h
    cases hregisters
    exact CreateUserDto.wellFormed hbody
  | signUpAsAStaff dto' =>
    obtain ⟨body, hbody⟩ := h
    cases hregisters
    exact CreateUserDto.wellFormed hbody
  | _ => cases hregisters

theorem policyHash_reset {u : Uuid} {password : PasswordHash}
    (h : ResetTo K.toPlatform s₀ (fun i => (requests i).toHttpRequest) u password) :
    PolicyHash K.toPlatform password := by
  obtain ⟨i, dto, newPassword, salt, hroute, -, -, -, rfl⟩ := h
  have hreceived := (requests i).received
  rw [hroute] at hreceived
  obtain ⟨-, body, hbody⟩ := hreceived
  exact ⟨salt, _, (NewPasswordDto.wellFormed hbody).newPassword.2, rfl⟩

theorem Booked.wellFormed
    (h : Booked K.toPlatform s₀ (fun i => (requests i).toHttpRequest) s) :
    AccountsWellFormed K s₀ s := by
  constructor
  case passwords =>
    intro u row hrow
    cases hrow₀ : s₀.users.find? u with
    | some row₀ =>
      rcases h.kept u row₀ row hrow₀ hrow with hsame | hreset
      · exact .inl ⟨row₀, rfl, hsame⟩
      · exact .inr (policyHash_reset hreset)
    | none =>
      obtain ⟨i, dto, name, hregisters, -, hpassword⟩ := h.created u row hrow₀ hrow
      rcases hpassword with ⟨salt, hhash⟩ | hreset
      · have hdto := registers_wellFormed (requests i).received hregisters
        exact .inr ⟨salt, dto.password, hdto.password.2, hhash⟩
      · exact .inr (policyHash_reset hreset)
  case created =>
    intro u row hrow₀ hrow
    obtain ⟨i, dto, name, hregisters, has, -⟩ := h.created u row hrow₀ hrow
    have hdto := registers_wellFormed (requests i).received hregisters
    refine ⟨?_, ?_, dto.email, hdto.email.2, has.email⟩
    · rw [has.firstName]
      exact hdto.firstName
    · rw [has.lastName]
      exact hdto.lastName

end

namespace HttpRequest

/-- In every run of requests whose bodies have passed the pipes, each password that is set meets
the policy, and each account that comes about is well formed. -/
theorem accounts_well_formed {ι : Type} [DecidableEq ι] (K : Checks) (s₀ : Store)
    (h₀ : AccountsLinked s₀) (requests : ι → ReceivedRequest K) (ms : List (Move ι Nat)) :
    AccountsWellFormed K s₀
      ((started K.toPlatform s₀ fun i => (requests i).toHttpRequest).exec
        (system K.toPlatform) ms).store :=
  (booked_exec K.toPlatform h₀ _ ms).wellFormed

/-! ## A reset -/

/-- The checks of the plain platform. -/
def plainChecks : Checks := { Platform.plain with length := String.length }

/-- The reset of `oneReset`, with the query and the body it comes from. -/
def receivedReset : Unit → ReceivedRequest plainChecks := fun _ =>
  { oneReset () with
    received := ⟨⟨[("userId", .string (Uuid.ofNat 1).text), ("token", .string "token")], by rfl⟩,
      ⟨[("newPassword", .string "P@ssw0rd")], by rfl⟩⟩ }

/-- The password that is set meets the policy. -/
theorem accounts_well_formed_reset :
    AccountsWellFormed plainChecks AccountOp.resettable
      ((started .plain AccountOp.resettable fun i => (receivedReset i).toHttpRequest).exec
        (system .plain) [.step (), .step (), .step (), .step (), .step ()]).store :=
  accounts_well_formed plainChecks AccountOp.resettable resettable_linked receivedReset _

end HttpRequest

end VoltFleet
