import VoltFleet.Auth.Proofs.Operations

/-!
# `resetPassword` and `confirmAccount` side by side

Both load a user and save it whole.  Where each save finds, in the columns its
call does not set, what the call has loaded, the user ends with the new password
and confirmed.
-/

namespace VoltFleet

open Awaiting

namespace AccountOp

/-- The row holds what the call sets. -/
def Carried (P : Platform) : AccountOp → UserRow → Prop
  | .resetPassword _ newPassword, row =>
      ∃ salt, row.password = P.bcryptHash salt newPassword.newPassword
  | .confirmAccount _, row => row.accountStatus = .ACTIVE ∧ row.isEmailVerified = true

/-- The row a save writes is the stored one in every column the call does not set. -/
def keepsOthers : AccountOp → User → UserRow → Bool
  | .resetPassword .., user, row => { user.row row.password with password := row.password } = row
  | .confirmAccount _, user, row =>
      { user.row row.password with
        accountStatus := row.accountStatus
        isEmailVerified := row.isEmailVerified } = row

/-- The move is no save of a user, or one that keeps the columns its call does not set. -/
def savesKeepOthers {ι : Type} (ops : ι → AccountOp) (cfg : Serving ι Unit) : Move ι Nat → Bool
  | .step i =>
      match cfg.threads i with
      | .call (.users (.save user)) _ =>
          (cfg.store.users.find? user.id).all (keepsOthers (ops i) user)
      | _ => true
  | _ => true

/-- Writing back the email of a stored user is a save of that user. -/
theorem id_eq_of_saveUser {s s' : Store} {user user' : User} (h : saveUser s user = .ok (user', s'))
    {u : Uuid} {row : UserRow} (hrow : s.users.find? u = some row)
    (hemail : user.email = row.email) : user.id = u := by
  obtain ⟨row', users, hrow', -, hput, -⟩ := saveUser_ok h
  obtain ⟨password, rfl⟩ := savedRow_eq_row hrow'
  by_contra hne
  have htaken : s.users.Taken user.id (user.row password).email :=
    Keyed.Table.taken_iff.mpr ⟨u, row, hrow, Ne.symm hne, hemail.symm⟩
  rw [Keyed.Table.put_eq_none.mpr htaken] at hput
  cases hput

/-- The save of a stored user. -/
theorem find?_saveUser {s s' : Store} {user user' : User} (h : saveUser s user = .ok (user', s'))
    {row : UserRow} (hrow : s.users.find? user.id = some row) :
    s'.users.find? user.id = some (user.row row.password) := by
  obtain ⟨row', users, hrow', -, hput, rfl⟩ := saveUser_ok h
  rw [User.savedRow, hrow] at hrow'
  cases hrow'
  exact Keyed.Table.find?_put_self hput

variable {P : Platform}

/-- The row of a save carries what its call sets. -/
theorem Saves.carried {op : AccountOp} {user : User} (h : Saves P op (.users (.save user)))
    (password : PasswordHash) : op.Carried P (user.row password) := by
  cases h with
  | resetPassword newPassword user salt hid => exact ⟨salt, rfl⟩
  | confirmAccount user hemail => exact ⟨rfl, rfl⟩

/-- `resetPassword` (`true`) and `confirmAccount`. -/
def resetAndConfirm (dto : ResetPasswordDto) (newPassword : NewPasswordDto) (email : String)
    (resets : Bool) : AccountOp :=
  if resets then .resetPassword dto newPassword else .confirmAccount email

/-- A save that keeps the other columns leaves carried what the other call has set. -/
theorem Carried.row {dto : ResetPasswordDto} {newPassword : NewPasswordDto} {email : String}
    {user : User} {row : UserRow} {i j : Bool} (hij : i ≠ j)
    (hkeep : keepsOthers (resetAndConfirm dto newPassword email i) user row = true)
    (h : (resetAndConfirm dto newPassword email j).Carried P row) :
    (resetAndConfirm dto newPassword email j).Carried P (user.row row.password) := by
  cases i with
  | true =>
    obtain rfl : j = false := by simpa using hij.symm
    have hrow : { user.row row.password with password := row.password } = row :=
      of_decide_eq_true hkeep
    obtain ⟨hstatus, hverified⟩ := h
    rw [← hrow] at hstatus hverified
    exact ⟨hstatus, hverified⟩
  | false =>
    obtain rfl : j = true := by simpa using hij.symm
    have hrow : { user.row row.password with
        accountStatus := row.accountStatus
        isEmailVerified := row.isEmailVerified } = row := of_decide_eq_true hkeep
    obtain ⟨salt, hsalt⟩ := h
    refine ⟨salt, ?_⟩
    rw [← hsalt]
    have hpassword := congrArg UserRow.password hrow
    exact hpassword

theorem row_email {op : AccountOp} {user : User} {row : UserRow}
    (hkeep : op.keepsOthers user row = true) : (user.row row.password).email = row.email := by
  cases op with
  | resetPassword dto newPassword =>
    have hrow : { user.row row.password with password := row.password } = row :=
      of_decide_eq_true hkeep
    have hemail := congrArg UserRow.email hrow
    exact hemail
  | confirmAccount email =>
    have hrow : { user.row row.password with
        accountStatus := row.accountStatus
        isEmailVerified := row.isEmailVerified } = row := of_decide_eq_true hkeep
    have hemail := congrArg UserRow.email hrow
    exact hemail

section

variable {dto : ResetPasswordDto} {newPassword : NewPasswordDto} {email : String} {u : Uuid}

/-- The user is stored, and each of the two calls that has saved is carried by the row. -/
def BothCarried (P : Platform) (dto : ResetPasswordDto) (newPassword : NewPasswordDto)
    (email : String) (u : Uuid) (cfg : Serving Bool Unit) : Prop :=
  ∃ row, cfg.store.users.find? u = some row ∧ row.email = email ∧
    ∀ i, At P ((resetAndConfirm dto newPassword email i).Carried P row)
      (resetAndConfirm dto newPassword email i) (cfg.threads i)

/-- The user the two calls save is `u`. -/
theorem Saves.id_eq {i : Bool} {user : User}
    (h : Saves P (resetAndConfirm dto newPassword email i) (.users (.save user)))
    (hdto : Uuid.ofString? dto.userId = some u) {s s' : Store} {user' : User}
    (hsave : saveUser s user = .ok (user', s')) {row : UserRow}
    (hrow : s.users.find? u = some row) (hemail : row.email = email) : user.id = u := by
  cases i with
  | true =>
    cases h with
    | resetPassword newPassword user salt hid => exact Option.some.inj (hid.symm.trans hdto)
  | false =>
    cases h with
    | confirmAccount user he => exact id_eq_of_saveUser hsave hrow (he.trans hemail.symm)

theorem bothCarried_move (hdto : Uuid.ofString? dto.userId = some u) {cfg : Serving Bool Unit}
    (h : BothCarried P dto newPassword email u cfg) (m : Move Bool Nat)
    (hm : savesKeepOthers (resetAndConfirm dto newPassword email) cfg m = true) :
    BothCarried P dto newPassword email u (cfg.move (system P) m) := by
  refine Config.move_cases cfg m h ?stepped ?faulted fun x _ => h
  case faulted =>
    rintro i c k e - hc -
    obtain ⟨row, hrow, hemail, hat⟩ := h
    refine ⟨row, hrow, hemail, ?_⟩
    exact Config.threads_deliver (T := fun j =>
        At P ((resetAndConfirm dto newPassword email j).Carried P row)
          (resetAndConfirm dto newPassword email j))
      (At.fault (hc ▸ hat i) e) fun j _ => hat j
  case stepped =>
    rintro i c k rfl hc
    obtain ⟨row, hrow, hemail, hat⟩ := h
    have hi := hat i
    rw [hc] at hi
    -- what is left to show once the row after the command is known
    have deliver : ∀ row', (exec P c cfg.store).2.users.find? u = some row' →
        row'.email = email →
        (∀ j, j ≠ i → (resetAndConfirm dto newPassword email j).Carried P row →
          (resetAndConfirm dto newPassword email j).Carried P row') →
        At P ((resetAndConfirm dto newPassword email i).Carried P row')
          (resetAndConfirm dto newPassword email i) (k (exec P c cfg.store).1) →
        BothCarried P dto newPassword email u
          (cfg.deliver i c k (exec P c cfg.store).1 (exec P c cfg.store).2) := by
      intro row' hrow' hemail' hother hself
      refine ⟨row', hrow', hemail', ?_⟩
      exact Config.threads_deliver (T := fun j =>
          At P ((resetAndConfirm dto newPassword email j).Carried P row')
            (resetAndConfirm dto newPassword email j))
        hself fun j hj => (hat j).mono (hother j hj)
    rcases hi.awaits.save_or_users_eq with ⟨⟨user, rfl⟩, hs⟩ | ⟨husers, hs⟩
    · cases hr : saveUser cfg.store user with
      | error e =>
        have he : exec P (.users (.save user)) cfg.store = (.error e, cfg.store) := by
          rw [exec_saveUser, hr]
          rfl
        apply deliver row (by rw [he]; exact hrow) hemail fun _ _ hj => hj
        refine hi.answer cfg.store id fun a _ ha => ?_
        rw [he] at ha
        cases ha
      | ok r =>
        obtain ⟨user', s'⟩ := r
        have he : exec P (.users (.save user)) cfg.store = (.ok user', s') := by
          rw [exec_saveUser, hr]
          rfl
        have hu : user.id = u := hs.id_eq hdto hr hrow hemail
        subst hu
        have hkeep : keepsOthers (resetAndConfirm dto newPassword email i) user row = true := by
          rw [savesKeepOthers, hc] at hm
          simpa [hrow] using hm
        apply deliver (user.row row.password) (by rw [he]; exact find?_saveUser hr hrow)
          ((row_email hkeep).trans hemail) fun j hj hcar => hcar.row (Ne.symm hj) hkeep
        exact hi.answer cfg.store (fun _ => hs.carried _) fun _ _ _ => hs.carried _
    · apply deliver row (by rw [husers]; exact hrow) hemail fun _ _ hj => hj
      exact hi.answer cfg.store id fun _ hs' _ => absurd hs' hs

/-- In a run of `resetPassword` and `confirmAccount` on one user in which no save
reverts a column, the row carries what the calls that have returned have set. -/
theorem carried_exec {s : Store} (hdto : Uuid.ofString? dto.userId = some u) {row₀ : UserRow}
    (hrow : s.users.find? u = some row₀) (hemail : row₀.email = email)
    {ms : List (Move Bool Nat)}
    (hkeep : Config.Along (system P)
      (fun cfg m => savesKeepOthers (resetAndConfirm dto newPassword email) cfg m = true)
      (started P s (resetAndConfirm dto newPassword email)) ms) :
    ∃ row, ((started P s (resetAndConfirm dto newPassword email)).exec
        (system P) ms).store.users.find? u = some row ∧
      ∀ i, ((started P s (resetAndConfirm dto newPassword email)).exec (system P) ms).threads i =
          .ret () →
        (resetAndConfirm dto newPassword email i).Carried P row := by
  have step : ∀ cfg m, BothCarried P dto newPassword email u cfg →
      savesKeepOthers (resetAndConfirm dto newPassword email) cfg m = true →
      BothCarried P dto newPassword email u (cfg.move (system P) m) :=
    fun _ m h hm => bothCarried_move hdto h m hm
  have init : BothCarried P dto newPassword email u
      (started P s (resetAndConfirm dto newPassword email)) :=
    ⟨row₀, hrow, hemail, fun i => .start _⟩
  obtain ⟨row, hrow', -, hat⟩ := Config.exec_inv step init hkeep
  refine ⟨row, hrow', fun i hi => ?_⟩
  have hret := hat i
  rw [hi] at hret
  exact hret.saved_of_ret

end

end AccountOp

end VoltFleet
