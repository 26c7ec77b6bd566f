import VoltFleet.Auth.Proofs.ResetToken
import VoltFleet.Auth.Proofs.SignUp
import VoltFleet.Proofs.AccountRequests

/-!
# Accounts over whole runs

What every run of requests leaves of the accounts, the roles and the keys of the
cache, from any state without dangling references, in every interleaving and
whichever calls fail.
-/

namespace VoltFleet

open Awaiting AuthService

/-- An account of the start has kept every column but its password, which is either the same or
one that a reset with a token of the start has chosen; every other account is that of a sign-up
among the requests; and no reset token has come about. -/
structure AccountsKept (P : Platform) {ι : Type} (requests : ι → HttpRequest)
    (s₀ s : Store) : Prop where
  kept : ∀ u row₀, s₀.users.find? u = some row₀ → ∃ password,
    s.users.find? u = some { row₀ with password := password } ∧
      (password = row₀.password ∨ ResetTo P s₀ requests u password)
  created : ∀ u row, s₀.users.find? u = none → s.users.find? u = some row →
    SignedUp P s₀ requests s u row
  tokens : ∀ userId, s.cache.entry (resetPasswordKey userId) = none ∨
    s.cache.entry (resetPasswordKey userId) = s₀.cache.entry (resetPasswordKey userId)

/-- Every role has kept its name and its comment, every privilege is as it was, and the
references of the accounts and of the roles are to stored rows. -/
structure RolesKept (s₀ s : Store) : Prop where
  roles : ∀ r row₀, s₀.roles.find? r = some row₀ → ∃ privilegeIds,
    s.roles.find? r = some { row₀ with privilegeIds := privilegeIds }
  privileges : ∀ p row₀, s₀.privileges.find? p = some row₀ → s.privileges.find? p = some row₀
  linked : AccountsLinked s

/-- Nobody has signed in as `u`: it has no new refresh key, no new session object, and no new
session key unless it could refresh at the start. -/
structure SignsNobodyIn (s₀ s : Store) (u : Uuid) : Prop where
  refresh : ∀ token, s.cache.entry (refreshKey u token) = none ∨
    s.cache.entry (refreshKey u token) = s₀.cache.entry (refreshKey u token)
  session : (∀ t, s₀.cache.get s₀.clock (refreshKey u t) = none) → ∀ token,
    s.cache.entry (sessionKey u token) = none ∨
      s.cache.entry (sessionKey u token) = s₀.cache.entry (sessionKey u token)
  currentUser : ∀ n user, s.sessions n = some user → user.id = u → s₀.sessions n = some user

section

variable {P : Platform} {s₀ s : Store} {ι : Type} {requests : ι → HttpRequest}

theorem Booked.accountsKept (h : Booked P s₀ requests s) : AccountsKept P requests s₀ s := by
  refine ⟨fun u row₀ hrow₀ => ?_, h.created, fun userId => ?_⟩
  · obtain ⟨password, hrow⟩ := h.grown.users u row₀ hrow₀
    exact ⟨password, hrow, h.kept u row₀ _ hrow₀ hrow⟩
  · rcases h.keys (resetPasswordKey userId) with hnone | hsame | hsigned
    · exact .inl hnone
    · exact .inr hsame
    · exact absurd hsigned (not_signedKey_reset userId)

theorem Booked.signsNobodyIn (h : Booked P s₀ requests s) {u : Uuid}
    (hu : ¬∃ row, Cleared s₀ u row) : SignsNobodyIn s₀ s u := by
  refine ⟨fun token => ?_, fun hstart token => ?_, fun n user huser hid => ?_⟩
  · rcases h.keys (refreshKey u token) with hnone | hsame | ⟨u', t, ⟨hkey, hcleared⟩ | ⟨hkey, -⟩⟩
    · exact .inl hnone
    · exact .inr hsame
    · obtain ⟨rfl, -⟩ := refreshKey_inj.mp hkey
      exact absurd hcleared hu
    · exact absurd hkey (refreshKey_ne_sessionKey u u' token t)
  · rcases h.keys (sessionKey u token) with hnone | hsame | ⟨u', t, ⟨hkey, -⟩ | ⟨hkey, hmay⟩⟩
    · exact .inl hnone
    · exact .inr hsame
    · exact absurd hkey.symm (refreshKey_ne_sessionKey u' u t token)
    · obtain ⟨rfl, -⟩ := userKey_inj hkey
      rcases hmay with hcleared | ⟨t', ht'⟩
      · exact absurd hcleared hu
      · exact absurd (hstart t') ht'
  · rcases h.sessions n with hsame | ⟨user', huser', hcleared, -⟩
    · exact hsame.symm.trans huser
    · rw [huser] at huser'
      cases huser'
      rw [hid] at hcleared
      exact absurd hcleared hu

end

namespace HttpRequest

variable {ι : Type} [DecidableEq ι]

/-- In every run of requests a password changes only by a reset that presents a token stored
before the run; nothing else of an account changes, and no request stores a reset token. -/
theorem accounts_kept (P : Platform) (s₀ : Store) (h₀ : AccountsLinked s₀)
    (requests : ι → HttpRequest) (ms : List (Move ι Nat)) :
    AccountsKept P requests s₀ ((started P s₀ requests).exec (system P) ms).store :=
  (booked_exec P h₀ requests ms).accountsKept

/-- In every run of requests the roles keep their names, the privileges stay, and no reference
is left dangling. -/
theorem roles_kept (P : Platform) (s₀ : Store) (h₀ : AccountsLinked s₀)
    (requests : ι → HttpRequest) (ms : List (Move ι Nat)) :
    RolesKept s₀ ((started P s₀ requests).exec (system P) ms).store :=
  have h := booked_exec P h₀ requests ms
  ⟨h.grown.roles, h.grown.privileges, h.linked⟩

/-- Whoever was not confirmed before a run, or had an admin role, is not signed in by it; this
includes every account that the run registers. -/
theorem only_cleared_sign_in (P : Platform) (s₀ : Store) (h₀ : AccountsLinked s₀)
    (requests : ι → HttpRequest) (ms : List (Move ι Nat)) {u : Uuid}
    (hu : ¬∃ row, Cleared s₀ u row) :
    SignsNobodyIn s₀ ((started P s₀ requests).exec (system P) ms).store u :=
  (booked_exec P h₀ requests ms).signsNobodyIn hu

/-! ## A reset and a sign-up -/

/-- The user of `resettable` sets a new password. -/
def oneReset : Unit → HttpRequest := fun _ =>
  { bearer := none
    route := .resetPassword ⟨(Uuid.ofNat 1).text, "token"⟩ ⟨"P@ssw0rd"⟩
    proceeds := true }

theorem resettable_linked : AccountsLinked AccountOp.resettable := by
  refine ⟨fun u row r hrow hr => ?_, fun r row p hrow => by cases hrow⟩
  have hput : (∅ : Keyed.Table Uuid UserRow UserRow.email).put (.ofNat 1)
      ⟨"Ada", "Byron", "ada@example.com", ⟨"old"⟩, .ACTIVE, true, none⟩ =
        some AccountOp.resettable.users := by rfl
  rw [Keyed.Table.find?_put hput] at hrow
  split at hrow
  · cases hrow
    cases hr
  · cases hrow

/-- The reset goes through, and the account is otherwise as it was. -/
theorem accounts_kept_reset :
    let cfg := (started .plain AccountOp.resettable oneReset).exec (system .plain)
      [.step (), .step (), .step (), .step (), .step ()]
    cfg.threads () = .ret () ∧ AccountsKept .plain oneReset AccountOp.resettable cfg.store := by
  intro cfg
  exact ⟨by rfl, accounts_kept .plain AccountOp.resettable resettable_linked oneReset _⟩

/-- A stranger registers and signs in. -/
def twoStrangers : Bool → HttpRequest
  | false =>
      { bearer := none
        route := .signUpAsAStaff ⟨"Eve", "Doe", "eve@example.com", .value .ACTIVE, .undefined,
          "P@ssw0rd"⟩
        proceeds := true }
  | true =>
      { bearer := none
        route := .validateLoginOtp ⟨"eve@example.com", "P@ssw0rd"⟩ 0
        proceeds := true }

theorem staffRoleStore_linked : AccountsLinked SignUp.staffRoleStore := by
  refine ⟨fun u row r hrow => (by cases hrow), fun r row p hrow hp => ?_⟩
  have hput : (∅ : Keyed.Table Uuid RoleRow RoleRow.name).put (.ofNat 7)
      ⟨"OTHER_STAFF", none, []⟩ = some SignUp.staffRoleStore.roles := by rfl
  rw [Keyed.Table.find?_put hput] at hrow
  split at hrow
  · cases hrow
    exact absurd hp List.not_mem_nil
  · cases hrow

/-- The stranger is registered but not signed in. -/
theorem only_cleared_sign_in_stranger :
    let cfg := (started .plain SignUp.staffRoleStore twoStrangers).exec (system .plain)
      [.step false, .step false, .step false, .step false, .step true]
    cfg.threads false = .ret () ∧
      (∃ e, cfg.threads true = .fail (.forbidden e)) ∧
      SignsNobodyIn SignUp.staffRoleStore cfg.store (.ofNat 1) := by
  intro cfg
  refine ⟨by rfl, ⟨_, by rfl⟩, only_cleared_sign_in .plain SignUp.staffRoleStore
    staffRoleStore_linked twoStrangers _ ?_⟩
  rintro ⟨row, hcleared⟩
  cases hcleared.stored

/-- The role and its privileges are as they were. -/
theorem roles_kept_stranger :
    RolesKept SignUp.staffRoleStore ((started .plain SignUp.staffRoleStore twoStrangers).exec
      (system .plain) [.step false, .step false, .step false, .step false, .step true]).store :=
  roles_kept .plain SignUp.staffRoleStore staffRoleStore_linked twoStrangers _

end HttpRequest

end VoltFleet
