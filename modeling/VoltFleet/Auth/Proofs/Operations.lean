import VoltFleet.Auth.AuthService
import VoltFleet.Auth.Proofs.Users
import VoltFleet.Misc.Contract

/-!
# `resetPassword` and `confirmAccount` as threads

`AccountOp.At` lists the points of such a call.  A call that has saved its user
carries a proof of `saved`, a proposition each development chooses for itself.
-/

namespace VoltFleet

open Awaiting Service

/-- The operations that load an account and save it. -/
inductive AccountOp where
  | resetPassword (dto : ResetPasswordDto) (newPassword : NewPasswordDto)
  | confirmAccount (email : String)

namespace AccountOp

/-- A call as a thread. -/
def prog (P : Platform) : AccountOp → Service Unit
  | .resetPassword dto newPassword => dropResult (AuthService.resetPassword P dto newPassword)
  | .confirmAccount email => dropResult (UserRepository.confirmAccount email)

/-- `resetPassword` after the save. -/
def resetDelete (dto : ResetPasswordDto) : Service String := do
  CacheService.delete (AuthService.resetPasswordKey dto.userId)
  return "Password has been reset successfully"

/-- The user `resetPassword` saves. -/
def resetUser (P : Platform) (newPassword : NewPasswordDto) (user : User) (salt : Nat) : User :=
  { user with password := some (P.bcryptHash salt newPassword.newPassword) }

/-- `resetPassword` after it has hashed the new password. -/
def resetSave (dto : ResetPasswordDto) (user : User) : Service String := do
  let _ ← Service.await (.users (.save user))
  resetDelete dto

/-- `resetPassword` after it has loaded the user. -/
def resetHash (P : Platform) (dto : ResetPasswordDto) (newPassword : NewPasswordDto)
    (user : User) : Service String := do
  let salt ← Service.await (.process .genSalt)
  resetSave dto (resetUser P newPassword user salt)

/-- `resetPassword` after it has checked the token. -/
def resetLoad (P : Platform) (dto : ResetPasswordDto) (newPassword : NewPasswordDto) :
    Service String := do
  match ← UserRepository.findUserById dto.userId with
  | none => throw (.notFound "User not found")
  | some user => resetHash P dto newPassword user

/-- The user `confirmAccount` saves. -/
def confirmedUser (user : User) : User :=
  { user with isEmailVerified := true, accountStatus := .ACTIVE }

/-- `confirmAccount` after it has loaded the user. -/
def confirmSave (user : User) : Service User := do
  let _ ← Service.await (.users (.save user))
  return user

theorem resetPassword_eq (P : Platform) (dto : ResetPasswordDto) (newPassword : NewPasswordDto) :
    AuthService.resetPassword P dto newPassword = (do
      let storedToken ← CacheService.get (AuthService.resetPasswordKey dto.userId)
      if storedToken.getD "" = "" ∨ storedToken ≠ some dto.token then
        throw (.badRequest "Invalid or expired reset token")
      else
        resetLoad P dto newPassword) := rfl

/-- A contract that lets a call save the user it has loaded, with the new password, is met by
`resetPassword`. -/
theorem resetPassword_meets_of {K : Contract Cmd Cmd.Answer Thrown} {P : Platform}
    {dto : ResetPasswordDto} {newPassword : NewPasswordDto}
    (hget : ∀ key, K.allows (.redis (.get key))) (hdel : ∀ key, K.allows (.redis (.del key)))
    (hfind : K.allows (.users (.findOneById dto.userId))) (hsalt : K.allows (.process .genSalt))
    (hsave : ∀ user salt, K.answers (.users (.findOneById dto.userId)) (.ok (some user)) →
      K.allows (.users (.save (resetUser P newPassword user salt)))) :
    (AuthService.resetPassword P dto newPassword).Meets K fun _ => True := by
  have hstored : (CacheService.get (AuthService.resetPasswordKey dto.userId)).Meets K
      fun _ => True := .tryCatch (.await (hget _) fun _ _ => trivial) fun _ => trivial
  have hdelete : (resetDelete dto).Meets K fun _ => True :=
    .bind (Q := fun _ => True)
      (.tryCatch (.await (hdel _) fun _ _ => trivial) fun _ => trivial) fun _ _ => trivial
  have hfound : (UserRepository.findUserById dto.userId).Meets K fun found => ∀ user,
      found = some user → K.answers (.users (.findOneById dto.userId)) (.ok (some user)) := by
    refine .tryCatch (.await hfind ?_) fun _ => trivial
    rintro found hfound user rfl
    exact hfound
  have hload : (resetLoad P dto newPassword).Meets K fun _ => True := by
    refine .bind hfound fun found hfound => ?_
    cases found with
    | none => trivial
    | some user =>
      refine .bind (Q := fun _ => True) (.await hsalt fun _ _ => trivial) fun salt _ => ?_
      have hsaved := hsave user salt (hfound user rfl)
      exact .bind (Q := fun _ => True) (.await hsaved fun _ _ => trivial) fun _ _ => hdelete
  rw [resetPassword_eq]
  refine .bind hstored fun storedToken _ => ?_
  split
  · trivial
  · exact hload

/-- The token check of `resetPassword`, given the answer of the cache. -/
def resetCheck (P : Platform) (dto : ResetPasswordDto) (newPassword : NewPasswordDto)
    (r : Except Thrown (Option String)) : Service Unit :=
  if r = .ok (some dto.token) ∧ dto.token ≠ "" then dropResult (resetLoad P dto newPassword)
  else .fail (.badRequest "Invalid or expired reset token")

theorem prog_resetPassword (P : Platform) (dto : ResetPasswordDto)
    (newPassword : NewPasswordDto) :
    (AccountOp.resetPassword dto newPassword).prog P =
      .call (.redis (.get (AuthService.resetPasswordKey dto.userId)))
        (resetCheck P dto newPassword) := by
  show dropResult (AuthService.resetPassword P dto newPassword) = _
  rw [resetPassword_eq]
  refine congrArg (Prog.call _) (funext fun r => ?_)
  cases r with
  | error e => rfl
  | ok stored =>
    have refused : (stored.getD "" = "" ∨ stored ≠ some dto.token) ↔
        ¬ ((Except.ok stored : Except Thrown _) = .ok (some dto.token) ∧ dto.token ≠ "") := by
      cases stored with
      | none => simp
      | some token => by_cases ht : token = dto.token <;> simp [ht]
    unfold resetCheck
    by_cases h : (Except.ok stored : Except Thrown _) = .ok (some dto.token) ∧ dto.token ≠ ""
    · rw [if_pos h]
      exact congrArg dropResult (if_neg fun hr => refused.mp hr h)
    · rw [if_neg h]
      exact congrArg dropResult (if_pos (refused.mpr h))

/-- The points of a call. -/
inductive At (P : Platform) (saved : Prop) : AccountOp → Service Unit → Prop where
  | start (op : AccountOp) : At P saved op (op.prog P)
  | checked (dto : ResetPasswordDto) (newPassword : NewPasswordDto) :
      At P saved (.resetPassword dto newPassword) (dropResult (resetLoad P dto newPassword))
  | loaded {dto : ResetPasswordDto} (newPassword : NewPasswordDto) (user : User)
      (hid : Uuid.ofString? dto.userId = some user.id) :
      At P saved (.resetPassword dto newPassword) (dropResult (resetHash P dto newPassword user))
  | hashed {dto : ResetPasswordDto} (newPassword : NewPasswordDto) (user : User) (salt : Nat)
      (hid : Uuid.ofString? dto.userId = some user.id) :
      At P saved (.resetPassword dto newPassword)
        (dropResult (resetSave dto (resetUser P newPassword user salt)))
  | resetSaved (dto : ResetPasswordDto) (newPassword : NewPasswordDto) (h : saved) :
      At P saved (.resetPassword dto newPassword) (dropResult (resetDelete dto))
  | confirming {email : String} (user : User) (hemail : user.email = email) :
      At P saved (.confirmAccount email) (dropResult (confirmSave (confirmedUser user)))
  | returned (op : AccountOp) (h : saved) : At P saved op (.ret ())
  | threw (op : AccountOp) (e : Thrown) : At P saved op (.fail e)

/-- The save of a call. -/
inductive Saves (P : Platform) : AccountOp → Cmd → Prop where
  | resetPassword {dto : ResetPasswordDto} (newPassword : NewPasswordDto) (user : User)
      (salt : Nat) (hid : Uuid.ofString? dto.userId = some user.id) :
      Saves P (.resetPassword dto newPassword)
        (.users (.save (resetUser P newPassword user salt)))
  | confirmAccount {email : String} (user : User) (hemail : user.email = email) :
      Saves P (.confirmAccount email) (.users (.save (confirmedUser user)))

/-- The command a call awaits. -/
inductive Awaits (P : Platform) : AccountOp → Cmd → Prop where
  | get (dto : ResetPasswordDto) (newPassword : NewPasswordDto) :
      Awaits P (.resetPassword dto newPassword)
        (.redis (.get (AuthService.resetPasswordKey dto.userId)))
  | findOneById (dto : ResetPasswordDto) (newPassword : NewPasswordDto) :
      Awaits P (.resetPassword dto newPassword) (.users (.findOneById dto.userId))
  | findOneByEmail (email : String) :
      Awaits P (.confirmAccount email) (.users (.findOneByEmail email))
  | genSalt (dto : ResetPasswordDto) (newPassword : NewPasswordDto) :
      Awaits P (.resetPassword dto newPassword) (.process .genSalt)
  | save {op : AccountOp} {c : Cmd} (h : Saves P op c) : Awaits P op c
  | del (dto : ResetPasswordDto) (newPassword : NewPasswordDto) :
      Awaits P (.resetPassword dto newPassword)
        (.redis (.del (AuthService.resetPasswordKey dto.userId)))

section

variable {P : Platform} {saved saved' : Prop} {op : AccountOp} {c : Cmd}
  {k : Except Thrown c.Answer → Service Unit}

theorem At.awaits (h : At P saved op (.call c k)) : Awaits P op c := by
  generalize hp : Prog.call c k = p at h
  cases h with
  | start op =>
    cases op with
    | resetPassword dto newPassword =>
      rw [prog_resetPassword] at hp
      cases hp
      exact .get dto newPassword
    | confirmAccount email =>
      cases hp
      exact .findOneByEmail email
  | checked dto newPassword =>
    cases hp
    exact .findOneById dto newPassword
  | loaded newPassword user hid =>
    cases hp
    exact .genSalt _ newPassword
  | hashed newPassword user salt hid =>
    cases hp
    exact .save (.resetPassword newPassword user salt hid)
  | resetSaved dto newPassword h =>
    cases hp
    exact .del dto newPassword
  | confirming user hemail =>
    cases hp
    exact .save (.confirmAccount user hemail)
  | returned op h => cases hp
  | threw op e => cases hp

/-- A command of a call is its save, or leaves the users alone. -/
theorem Awaits.save_or_users_eq (h : Awaits P op c) :
    (∃ user, c = .users (.save user)) ∧ Saves P op c ∨
      (∀ s, (exec P c s).2.users = s.users) ∧ ¬ Saves P op c := by
  cases h with
  | get dto newPassword => exact .inr ⟨fun _ => rfl, nofun⟩
  | findOneById dto newPassword => exact .inr ⟨fun _ => rfl, nofun⟩
  | findOneByEmail email => exact .inr ⟨fun _ => rfl, nofun⟩
  | genSalt dto newPassword => exact .inr ⟨fun _ => rfl, nofun⟩
  | del dto newPassword => exact .inr ⟨fun _ => rfl, nofun⟩
  | save hs =>
    refine .inl ⟨?_, hs⟩
    cases hs with
    | resetPassword newPassword user salt hid => exact ⟨_, rfl⟩
    | confirmAccount user hemail => exact ⟨_, rfl⟩

/-- A thread whose command has been answered is at the next point. -/
theorem At.answer (h : At P saved op (.call c k)) (s : Store) (keep : saved → saved')
    (save : ∀ a, Saves P op c → (exec P c s).1 = .ok a → saved') :
    At P saved' op (k (exec P c s).1) := by
  generalize hp : Prog.call c k = p at h
  cases h with
  | start op =>
    cases op with
    | resetPassword dto newPassword =>
      rw [prog_resetPassword] at hp
      cases hp
      unfold resetCheck
      split
      · exact .checked dto newPassword
      · exact .threw _ _
    | confirmAccount email =>
      cases hp
      rcases findOneByEmail_cases P email s with h | ⟨u, row, -, hemail, h⟩ <;> rw [h]
      · exact .threw _ _
      · exact .confirming (s.userEntity u row) hemail
  | checked dto newPassword =>
    cases hp
    rcases findOneById_cases P dto.userId s with ⟨e, h⟩ | h | ⟨u, row, hid, -, h⟩ <;> rw [h]
    · exact .threw _ _
    · exact .threw _ _
    · exact .loaded newPassword (s.userEntity u row) hid
  | loaded newPassword user hid =>
    cases hp
    exact .hashed newPassword user s.draws hid
  | hashed newPassword user salt hid =>
    cases hp
    cases hr : (exec P (.users (.save (resetUser P newPassword user salt))) s).1 with
    | error e => exact .threw _ e
    | ok a => exact .resetSaved _ newPassword (save a (.resetPassword _ _ _ hid) hr)
  | resetSaved dto newPassword h =>
    cases hp
    exact .returned _ (keep h)
  | confirming user hemail =>
    cases hp
    cases hr : (exec P (.users (.save (confirmedUser user))) s).1 with
    | error e => exact .threw _ _
    | ok a => exact .returned _ (save a (.confirmAccount _ hemail) hr)
  | returned op h => cases hp
  | threw op e => cases hp

/-- A thread whose command has failed: the failed delete of a token goes unnoticed, any
other failure is thrown. -/
theorem At.fault_cases (h : At P saved op (.call c k)) (e : Thrown) :
    (∃ e', k (.error e) = .fail e') ∨
      k (.error e) = .ret () ∧ saved ∧ ∃ key, c = .redis (.del key) := by
  generalize hp : Prog.call c k = p at h
  cases h with
  | start op =>
    cases op with
    | resetPassword dto newPassword =>
      rw [prog_resetPassword] at hp
      cases hp
      exact .inl ⟨_, rfl⟩
    | confirmAccount email =>
      cases hp
      exact .inl ⟨_, rfl⟩
  | checked dto newPassword =>
    cases hp
    exact .inl ⟨_, rfl⟩
  | loaded newPassword user hid =>
    cases hp
    exact .inl ⟨_, rfl⟩
  | hashed newPassword user salt hid =>
    cases hp
    exact .inl ⟨_, rfl⟩
  | resetSaved dto newPassword h =>
    cases hp
    exact .inr ⟨rfl, h, _, rfl⟩
  | confirming user hemail =>
    cases hp
    exact .inl ⟨_, rfl⟩
  | returned op h => cases hp
  | threw op e' => cases hp

theorem At.fault (h : At P saved op (.call c k)) (e : Thrown) : At P saved op (k (.error e)) := by
  rcases h.fault_cases e with ⟨e', he⟩ | ⟨hret, hs, -⟩
  · rw [he]
    exact .threw op e'
  · rw [hret]
    exact .returned op hs

theorem At.mono {p : Service Unit} (h : At P saved op p) (keep : saved → saved') :
    At P saved' op p := by
  cases h with
  | start op => exact .start op
  | checked dto newPassword => exact .checked dto newPassword
  | loaded newPassword user hid => exact .loaded newPassword user hid
  | hashed newPassword user salt hid => exact .hashed newPassword user salt hid
  | resetSaved dto newPassword h => exact .resetSaved dto newPassword (keep h)
  | confirming user hemail => exact .confirming user hemail
  | returned op h => exact .returned op (keep h)
  | threw op e => exact .threw op e

/-- A call that has returned has saved. -/
theorem At.saved_of_ret (h : At P saved op (.ret ())) : saved := by
  generalize hp : (Prog.ret () : Service Unit) = p at h
  cases h with
  | start op =>
    cases op with
    | resetPassword dto newPassword =>
      rw [prog_resetPassword] at hp
      cases hp
    | confirmAccount email => cases hp
  | checked dto newPassword => cases hp
  | loaded newPassword user hid => cases hp
  | hashed newPassword user salt hid => cases hp
  | resetSaved dto newPassword h => exact h
  | confirming user hemail => cases hp
  | returned op h => exact h
  | threw op e => cases hp

end

section

variable {ι : Type}

/-- The calls are about to start. -/
def started (P : Platform) (s : Store) (ops : ι → AccountOp) : Serving ι Unit :=
  .start s fun i => (ops i).prog P

end

end AccountOp

end VoltFleet
