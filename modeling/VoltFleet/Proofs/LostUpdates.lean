import VoltFleet.Auth.Proofs.Updates
import VoltFleet.Vehicle.Proofs.Membership
import VoltFleet.Vehicle.Proofs.Updates

/-!
# Read, modify, write

Nothing in the services locks a row or numbers its versions: a save writes what
its entity holds.  Two operations on one row keep each other's values in the
runs in which every save finds, in the columns its operation does not set, what
the operation has read; an operation that has read before the other saved, and
saves after it, takes the other's values back.
-/

namespace VoltFleet

open Awaiting

/-- What two operations on one row set in different columns is there when both have
returned, if no save among theirs takes a column back: for `updateVehicle` and
`assignVehicleToFleet`, and for `resetPassword` and `confirmAccount`. -/
theorem both_updates_carried (P : Platform) (s : Store) :
    (∀ (ops : Bool → FleetOp) (ms : List (Move Bool Nat)),
      (∀ i, (ops i).updatesVehicle = true) →
      (∀ col, (ops false).sets col = true → (ops true).sets col = false) →
      Config.Along (system P) (fun cfg m => FleetOp.savesKeepOthers ops cfg m = true)
        (FleetOp.started s ops) ms →
      (∀ i, ((FleetOp.started s ops).exec (system P) ms).threads i = .ret ()) →
      ∀ i, FleetOp.CarriedIn (ops i) ((FleetOp.started s ops).exec (system P) ms).store) ∧
    (∀ (dto : ResetPasswordDto) (newPassword : NewPasswordDto) (u : Uuid) (row₀ : UserRow)
      (ms : List (Move Bool Nat)),
      Uuid.ofString? dto.userId = some u → s.users.find? u = some row₀ →
      Config.Along (system P)
        (fun cfg m => AccountOp.savesKeepOthers
          (AccountOp.resetAndConfirm dto newPassword row₀.email) cfg m = true)
        (AccountOp.started P s (AccountOp.resetAndConfirm dto newPassword row₀.email)) ms →
      (∀ i, ((AccountOp.started P s (AccountOp.resetAndConfirm dto newPassword row₀.email)).exec
        (system P) ms).threads i = .ret ()) →
      ∃ row, ((AccountOp.started P s
          (AccountOp.resetAndConfirm dto newPassword row₀.email)).exec
            (system P) ms).store.users.find? u = some row ∧
        (∃ salt, row.password = P.bcryptHash salt newPassword.newPassword) ∧
        row.accountStatus = .ACTIVE ∧ row.isEmailVerified = true) := by
  constructor
  · intro ops ms hops hdisj hkeep hret i
    have hdisj' : ∀ i j, i ≠ j → (ops i).vehicle? = (ops j).vehicle? →
        ∀ col, (ops i).sets col = true → (ops j).sets col = false := by
      intro i j hij _ col hi
      cases i with
      | false =>
        obtain rfl : j = true := by simpa using hij.symm
        exact hdisj col hi
      | true =>
        obtain rfl : j = false := by simpa using hij.symm
        by_contra hj
        rw [hdisj col (by simpa using hj)] at hi
        cases hi
    exact FleetOp.carriedIn_exec hops hdisj' s ms hkeep (hret i)
  · intro dto newPassword u row₀ ms hdto hrow hkeep hret
    obtain ⟨row, hrow', hcarried⟩ := AccountOp.carried_exec hdto hrow rfl hkeep
    exact ⟨row, hrow', hcarried true (hret true), hcarried false (hret false)⟩

/-! ## Runs -/

/-- `updateVehicle` with a new model, and `assignVehicleToFleet`. -/
def remodelAndAssign (assigns : Bool) : FleetOp :=
  if assigns then .assignVehicleToFleet (Uuid.ofNat 2).text (Uuid.ofNat 1).text
  else .updateVehicle (Uuid.ofNat 1).text
    ⟨.undefined, .value "Leaf 2", .undefined, .undefined, .undefined, .undefined⟩

/-- A user who waits for confirmation, with a token to reset the password. -/
def waitingUser : UserRow :=
  ⟨"Ada", "Byron", "ada@example.com", ⟨"old"⟩, .INACTIVE, false, none⟩

/-- The store with this user and the token. -/
def waitingUserStore : Store :=
  { Store.empty with
    users := ((∅ : Keyed.Table Uuid UserRow UserRow.email).put (.ofNat 1) waitingUser).getD ∅
    cache := Store.empty.cache.set (AuthService.resetPasswordKey (Uuid.ofNat 1).text)
      (.str "token") }

/-- The update loads the vehicle before the assignment and saves it after, and the
confirmation follows the reset. -/
theorem both_updates_carried_in_order :
    FleetOp.CarriedIn (remodelAndAssign true)
        ((FleetOp.started FleetOp.vehicleAndFleet remodelAndAssign).exec (system .plain)
          [.step false, .step true, .step true, .step true, .step false]).store ∧
      ∃ row, ((AccountOp.started .plain waitingUserStore
          (AccountOp.resetAndConfirm ⟨(Uuid.ofNat 1).text, "token"⟩ ⟨"new"⟩
            waitingUser.email)).exec (system .plain)
          [.step true, .step true, .step true, .step true, .step true, .step false,
            .step false]).store.users.find? (.ofNat 1) = some row ∧
        (∃ salt, row.password = Platform.plain.bcryptHash salt "new") ∧
        row.accountStatus = .ACTIVE ∧ row.isEmailVerified = true := by
  constructor
  · refine (both_updates_carried .plain FleetOp.vehicleAndFleet).1 remodelAndAssign
      [.step false, .step true, .step true, .step true, .step false] (by decide +kernel) ?_
      (by decide +kernel) ?_ true
    · intro col
      cases col <;> decide +kernel
    · intro i
      cases i <;> rfl
  · refine (both_updates_carried .plain waitingUserStore).2 ⟨(Uuid.ofNat 1).text, "token"⟩ ⟨"new"⟩
      (.ofNat 1) waitingUser
      [.step true, .step true, .step true, .step true, .step true, .step false, .step false]
      (by decide +kernel) (by decide +kernel) (by decide +kernel) ?_
    intro i
    cases i <;> rfl

/-- `updateVehicle` with a new model, and `updateVehicle` with a new status. -/
def remodelAndRetire (retires : Bool) : FleetOp :=
  .updateVehicle (Uuid.ofNat 1).text
    (if retires then
      ⟨.undefined, .undefined, .undefined, .undefined, .value .INACTIVE, .undefined⟩
    else ⟨.undefined, .value "Leaf 2", .undefined, .undefined, .undefined, .undefined⟩)

/-- Both load the vehicle before either saves it: both return, and the new model is gone. -/
theorem model_lost_to_status :
    (∀ col, (remodelAndRetire false).sets col = true →
        (remodelAndRetire true).sets col = false) ∧
      (∀ i, ((FleetOp.started FleetOp.vehicleAndFleet remodelAndRetire).exec (system .plain)
        [.step false, .step true, .step false, .step true]).threads i = .ret ()) ∧
      ¬ FleetOp.CarriedIn (remodelAndRetire false)
        ((FleetOp.started FleetOp.vehicleAndFleet remodelAndRetire).exec (system .plain)
          [.step false, .step true, .step false, .step true]).store := by
  refine ⟨fun col => by cases col <;> decide +kernel, fun i => by cases i <;> rfl, ?_⟩
  rintro ⟨u, row, hu, hrow, hcarried⟩
  have hmodel := hcarried .model (by decide +kernel)
  obtain rfl : Uuid.ofNat 1 = u := Option.some.inj (by rw [← hu]; decide +kernel)
  have hstored : ((FleetOp.started FleetOp.vehicleAndFleet remodelAndRetire).exec (system .plain)
      [.step false, .step true, .step false, .step true]).store.vehicles.find? (.ofNat 1) =
      some ⟨"VIN-1", "Leaf", "Nissan", 2020, .INACTIVE, none, 0⟩ := by decide +kernel
  rw [hstored] at hrow
  cases hrow
  exact absurd (show Property.value "Leaf 2" = .value "Leaf" from hmodel) (by decide +kernel)

end VoltFleet
