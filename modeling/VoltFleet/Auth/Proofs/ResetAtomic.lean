import VoltFleet.Auth.Proofs.ResetToken
import VoltFleet.Auth.Proofs.TokenGate
import VoltFleet.Misc.Triple

/-!
# A reset takes place or does not

The four calls of `resetPassword` go to two stores without a transaction.  Only
the save of the user writes before the call is sure to return: what is read
before it leaves both stores, and a delete of the token that fails is not noticed.
-/

namespace VoltFleet

open Awaiting AuthService

/-- Time has passed, and random numbers may have been drawn. -/
structure Intact (s s' : Store) : Prop where
  users : s'.users = s.users
  roles : s'.roles = s.roles
  cache : s'.cache = s.cache
  clock : s.clock ≤ s'.clock

/-- The stored token was presented, and the row of its user has the new password.  No other
row has changed, and no other key. -/
structure PasswordReset (P : Platform) (dto : ResetPasswordDto) (newPassword : NewPasswordDto)
    (s s' : Store) : Prop where
  token : dto.token ≠ "" ∧
    s.cache.get s.clock (resetPasswordKey dto.userId) = some (.str dto.token)
  row : ∃ u row salt, Uuid.ofString? dto.userId = some u ∧ s.users.find? u = some row ∧
    s'.users.find? u = some { row with password := P.bcryptHash salt newPassword.newPassword } ∧
    ∀ u', u' ≠ u → s'.users.find? u' = s.users.find? u'
  cache : ∀ key, key ≠ resetPasswordKey dto.userId → s'.cache.entry key = s.cache.entry key

theorem Intact.refl (s : Store) : Intact s s :=
  ⟨rfl, rfl, rfl, le_rfl⟩

/-- What is read after a while was there before. -/
theorem Intact.get {s s' : Store} (h : Intact s s') {key : String} {value : RedisValue}
    (hget : s'.cache.get s'.clock key = some value) : s.cache.get s.clock key = some value := by
  obtain ⟨e, hentry, hlive, hvalue⟩ := Expiring.Cache.get_eq_some.mp hget
  obtain ⟨d, hd⟩ := Nat.exists_eq_add_of_le h.clock
  rw [h.cache] at hentry
  rw [hd] at hlive
  exact Expiring.Cache.get_eq_some.mpr ⟨e, hentry, Expiring.Entry.live_of_live_add hlive, hvalue⟩

/-- A loaded user is saved as it is stored. -/
theorem userEntity_row {s : Store} (hroles : RolesFound s) {u : Uuid} {row : UserRow}
    (hrow : s.users.find? u = some row) (password : PasswordHash) :
    (s.userEntity u row).row password = row := by
  have hrole := userEntity_role_id (hroles u row · hrow) u
  cases row
  rw [User.row, hrole]
  rfl

namespace ResetPassword

open AccountOp

variable {P : Platform} {s : Store} {dto : ResetPasswordDto} {newPassword : NewPasswordDto}

theorem stable_intact (s : Store) : (system P).Stable (Intact s) :=
  fun d _ h => ⟨h.users, h.roles, h.cache, h.clock.trans (Nat.le_add_right _ d)⟩

theorem stable_passwordReset : (system P).Stable (PasswordReset P dto newPassword s) :=
  fun _ _ h => ⟨h.token, h.row, h.cache⟩

/-- The stored token, or `null` when it cannot be read. -/
theorem get_triple (key : String) :
    Triple (system P) (Intact s) (CacheService.get key)
      (fun stored s' => Intact s s' ∧
        ∀ token, stored = some token → s.cache.get s.clock key = some (.str token))
      fun _ _ => False := by
  have hstable : ∀ stored : Option String, (system P).Stable fun s' => Intact s s' ∧
      ∀ token, stored = some token → s.cache.get s.clock key = some (.str token) :=
    fun _ d s' h => ⟨stable_intact s d s' h.1, h.2⟩
  refine .tryCatch (E := fun _ => Intact s)
    (.await (stable_intact s) hstable (fun _ => stable_intact s) ?_ fun _ _ _ h => h) fun e => ?_
  · intro s' h
    show Leaves _ _ (exec P (.redis (.get key)) s').1 s'
    cases hr : (exec P (.redis (.get key)) s').1 with
    | error e => exact h
    | ok stored =>
      refine ⟨h, ?_⟩
      rintro token rfl
      exact h.get (exec_get_token hr)
  · refine .ret (hstable none) fun s' h => ⟨h, ?_⟩
    intro token ht
    cases ht

/-- The user whose key the request has, as it is stored. -/
theorem findUserById_triple (hroles : RolesFound s) (id : String) :
    Triple (system P) (Intact s) (UserRepository.findUserById id)
      (fun found s' => Intact s s' ∧ ∀ user, found = some user → ∃ row,
        Uuid.ofString? id = some user.id ∧ s.users.find? user.id = some row ∧
          ∀ password, user.row password = row)
      fun _ => Intact s := by
  have hstable : ∀ found : Option User, (system P).Stable fun s' => Intact s s' ∧ ∀ user,
      found = some user → ∃ row, Uuid.ofString? id = some user.id ∧
        s.users.find? user.id = some row ∧ ∀ password, user.row password = row :=
    fun _ d s' h => ⟨stable_intact s d s' h.1, h.2⟩
  refine .tryCatch (E := fun _ => Intact s)
    (.await (stable_intact s) hstable (fun _ => stable_intact s) ?_ fun _ _ _ h => h)
    fun e => .fail (stable_intact s) fun _ h => h
  intro s' h
  show Leaves _ _ (exec P (.users (.findOneById id)) s').1 s'
  rcases findOneById_cases P id s' with ⟨e, hr⟩ | hr | ⟨u, row, hid, hrow, hr⟩ <;> rw [hr]
  · exact h
  · refine ⟨h, fun user hu => ?_⟩
    cases hu
  · refine ⟨h, fun user hu => ?_⟩
    cases hu
    have hroles' : RolesFound s' := by
      intro u row r hrow hr
      rw [h.roles]
      rw [h.users] at hrow
      exact hroles u row r hrow hr
    have hsame := userEntity_row hroles' hrow
    rw [h.users] at hrow
    exact ⟨row, hid, hrow, hsame⟩

/-- The salt of the new hash. -/
theorem genSalt_triple :
    Triple (system P) (Intact s) (Service.await (.process .genSalt)) (fun _ => Intact s)
      fun _ => Intact s := by
  refine .await (stable_intact s) (fun _ => stable_intact s) (fun _ => stable_intact s) ?_ ?_
  · intro s' h
    exact ⟨h.users, h.roles, h.cache, h.clock⟩
  · intro e s' hf
    cases hf

/-- The one write that can fail, and then has written nothing. -/
theorem save_triple (htoken : dto.token ≠ "" ∧
      s.cache.get s.clock (resetPasswordKey dto.userId) = some (.str dto.token))
    {user : User} {row : UserRow} (hid : Uuid.ofString? dto.userId = some user.id)
    (hrow : s.users.find? user.id = some row) (hsame : ∀ password, user.row password = row)
    (salt : Nat) :
    Triple (system P) (Intact s)
      (Service.await (.users (.save (resetUser P newPassword user salt))))
      (fun _ => PasswordReset P dto newPassword s) fun _ => Intact s := by
  refine .await (stable_intact s) (fun _ => stable_passwordReset) (fun _ => stable_intact s) ?_
    fun _ _ _ h => h
  intro s' h
  show Leaves _ _ (commit s' (saveUser s' (resetUser P newPassword user salt))).1
    (commit s' (saveUser s' (resetUser P newPassword user salt))).2
  cases hr : saveUser s' (resetUser P newPassword user salt) with
  | error e => exact h
  | ok saved =>
    obtain ⟨user', s''⟩ := saved
    obtain ⟨row', users, hrow', -, hput, rfl⟩ := saveUser_ok hr
    obtain ⟨password, rfl⟩ := savedRow_eq_row hrow'
    have hnew : (resetUser P newPassword user salt).row password =
        { row with password := P.bcryptHash salt newPassword.newPassword } := by
      rw [← hsame password]
      rfl
    rw [h.users, hnew] at hput
    refine ⟨htoken, ⟨user.id, row, salt, hid, hrow, ?_, ?_⟩, ?_⟩
    · exact Keyed.Table.find?_put_self hput
    · intro u' hu'
      exact Keyed.Table.find?_put_ne hput hu'
    · intro key _
      exact congrFun (congrArg Expiring.Cache.entry h.cache) key

/-- Whether or not the token can be removed, the call returns. -/
theorem resetDelete_triple :
    Triple (system P) (PasswordReset P dto newPassword s) (resetDelete dto)
      (fun _ => PasswordReset P dto newPassword s) fun _ => Intact s := by
  have hstable : (system P).Stable (PasswordReset P dto newPassword s) := stable_passwordReset
  have hdelete : Triple (system P) (PasswordReset P dto newPassword s)
      (CacheService.delete (resetPasswordKey dto.userId))
      (fun _ => PasswordReset P dto newPassword s) fun _ => Intact s := by
    refine .tryCatch (E := fun _ => PasswordReset P dto newPassword s)
      (.await hstable (fun _ => hstable) (fun _ => hstable) ?_ fun _ _ _ h => h)
      fun _ => .ret hstable fun _ h => h
    intro s' h
    refine ⟨h.token, h.row, fun key hkey => ?_⟩
    have hentry : (s'.cache.del (resetPasswordKey dto.userId)).entry key = s'.cache.entry key :=
      Expiring.Cache.entry_del_ne s'.cache hkey
    exact hentry.trans (h.cache key hkey)
  exact hdelete.bind fun _ => .ret hstable fun _ h => h

/-- `resetPassword` once the token has been found to be the stored one. -/
theorem resetLoad_triple (hroles : RolesFound s) (htoken : dto.token ≠ "" ∧
      s.cache.get s.clock (resetPasswordKey dto.userId) = some (.str dto.token)) :
    Triple (system P) (Intact s) (resetLoad P dto newPassword)
      (fun _ => PasswordReset P dto newPassword s) fun _ => Intact s := by
  refine (findUserById_triple hroles dto.userId).bind fun found => ?_
  cases found with
  | none => exact .fail (stable_intact s) fun _ h => h.1
  | some user =>
    refine .assuming (fun _ h => h.2 user rfl) fun ⟨row, hid, hrow, hsame⟩ => ?_
    refine Triple.imp (A := Intact s) ?_ (fun _ h => h.1) (fun _ _ h => h) fun _ _ h => h
    refine genSalt_triple.bind fun salt => ?_
    exact (save_triple htoken hid hrow hsame salt).bind fun _ => resetDelete_triple

theorem resetPassword_triple (hroles : RolesFound s) :
    Triple (system P) (Intact s) (AuthService.resetPassword P dto newPassword)
      (fun _ => PasswordReset P dto newPassword s) fun _ => Intact s := by
  rw [resetPassword_eq]
  refine .bind (Q := fun stored s' => Intact s s' ∧ ∀ token, stored = some token →
      s.cache.get s.clock (resetPasswordKey dto.userId) = some (.str token))
    ((get_triple _).imp (fun _ h => h) (fun _ _ h => h) fun _ _ h => h.elim) fun stored => ?_
  split
  · exact .fail (stable_intact s) fun _ h => h.1
  · rename_i haccepted
    rw [not_or, not_not] at haccepted
    obtain ⟨hnonempty, rfl⟩ := haccepted
    refine .assuming (fun _ h => h.2 dto.token rfl) fun hstored => ?_
    exact (resetLoad_triple hroles ⟨hnonempty, hstored⟩).imp (fun _ h => h.1) (fun _ _ h => h)
      fun _ _ h => h

end ResetPassword

/-- A reset that throws has changed neither store.  One that returns was given the stored
token, and has changed the password of the user and nothing else but the stored token. -/
theorem resetPassword_atomic {P : Platform} {dto : ResetPasswordDto}
    {newPassword : NewPasswordDto} {s s' : Store} {r : Except Thrown String}
    (hroles : RolesFound s)
    (h : Completes (system P) (AuthService.resetPassword P dto newPassword) s r s') :
    (∀ e, r = .error e → s'.users = s.users ∧ s'.cache = s.cache) ∧
      ∀ message, r = .ok message → PasswordReset P dto newPassword s s' := by
  have hleaves := ResetPassword.resetPassword_triple hroles s r s' (.refl s) h
  constructor
  · rintro e rfl
    exact ⟨hleaves.users, hleaves.cache⟩
  · rintro message rfl
    exact hleaves

/-- The one account has no role. -/
theorem rolesFound_resettable : RolesFound AccountOp.resettable := by
  intro u row r hrow hr
  have hput : (∅ : Keyed.Table Uuid UserRow UserRow.email).put (.ofNat 1)
      ⟨"Ada", "Byron", "ada@example.com", ⟨"old"⟩, .ACTIVE, true, none⟩ =
        some AccountOp.resettable.users := by rfl
  rw [Keyed.Table.find?_put hput] at hrow
  split at hrow
  · cases hrow
    cases hr
  · cases hrow

/-- A reset with the stored token. -/
theorem resetPassword_atomic_resettable : ∃ s',
    Completes (system .plain) (AuthService.resetPassword .plain
      ⟨(Uuid.ofNat 1).text, "token"⟩ ⟨"new"⟩) AccountOp.resettable
        (.ok "Password has been reset successfully") s' ∧
      PasswordReset .plain ⟨(Uuid.ofNat 1).text, "token"⟩ ⟨"new"⟩ AccountOp.resettable s' := by
  have hcompletes := Completes.of_run (S := system .plain) (AuthService.resetPassword .plain
    ⟨(Uuid.ofNat 1).text, "token"⟩ ⟨"new"⟩) AccountOp.resettable
  have hok : ((AuthService.resetPassword .plain ⟨(Uuid.ofNat 1).text, "token"⟩ ⟨"new"⟩).run
      (system .plain).handler AccountOp.resettable).1 =
        .ok "Password has been reset successfully" := by rfl
  rw [hok] at hcompletes
  exact ⟨_, hcompletes, (resetPassword_atomic rolesFound_resettable hcompletes).2 _ rfl⟩

end VoltFleet
