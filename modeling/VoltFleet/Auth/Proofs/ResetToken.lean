import VoltFleet.Auth.Proofs.Operations
import VoltFleet.PlainPlatform

/-!
# How often a reset token is used

`resetPassword` deletes the stored token after it has saved the password.  A call
that checks the token while another call is between its check and its delete
passes as well, and so does any call after a delete that has failed.  In a run
without either the token is used at most once.
-/

namespace VoltFleet

open Awaiting Service

namespace AccountOp

/-- A call of `resetPassword` that has passed the check and is still running. -/
def passed : Service Unit → Bool
  | .call (.redis (.get _)) _ => false
  | .call _ _ => true
  | _ => false

section

variable {ι : Type}

/-- A check is made only while no call that has passed it is running, and no delete fails. -/
def checksAlone (cfg : Serving ι Unit) : Move ι Nat → Prop
  | .step i =>
      match cfg.threads i with
      | .call (.redis (.get _)) _ => ∀ j, passed (cfg.threads j) = false
      | _ => True
  | .fault i =>
      match cfg.threads i with
      | .call (.redis (.del _)) _ => False
      | _ => True
  | .env _ => True

end

/-- What a command does to a call of `resetPassword` and to the stored token. -/
inductive ResetStep (dto : ResetPasswordDto) (s s' : Store) (p' : Service Unit) : Cmd → Prop where
  /-- The check; the call goes on only if the token is stored. -/
  | check (hs : s' = s) (hret : p' ≠ .ret ())
      (htoken : passed p' = true → s.cache.get s.clock
        (AuthService.resetPasswordKey dto.userId) = some (.str dto.token)) :
      ResetStep dto s s' p' (.redis (.get (AuthService.resetPasswordKey dto.userId)))
  /-- A command between the check and the delete. -/
  | between {c : Cmd} (hc : ∀ key, c ≠ .redis (.get key)) (hs : s'.cache = s.cache)
      (hret : p' ≠ .ret ()) : ResetStep dto s s' p' c
  /-- The delete, with which the call returns. -/
  | delete (hs : s'.cache.entry (AuthService.resetPasswordKey dto.userId) = none)
      (hret : p' = .ret ()) :
      ResetStep dto s s' p' (.redis (.del (AuthService.resetPasswordKey dto.userId)))

theorem exec_get_token {P : Platform} {s : Store} {key token : String}
    (h : (exec P (.redis (.get key)) s).1 = .ok (some token)) :
    s.cache.get s.clock key = some (.str token) := by
  simp only [exec, RedisCmd.exec] at h
  split at h
  · cases h
  · rename_i value hget
    cases h
    exact hget
  · cases h

theorem exec_save_cache (P : Platform) (s : Store) (user : User) :
    (exec P (.users (.save user)) s).2.cache = s.cache := by
  refine commit_snd (p := fun s' => s'.cache = s.cache) rfl fun user' s' h => ?_
  obtain ⟨row, users, -, -, -, rfl⟩ := saveUser_ok h
  rfl

theorem At.resetStep {P : Platform} {dto : ResetPasswordDto} {newPassword : NewPasswordDto}
    {c : Cmd} {k : Except Thrown c.Answer → Service Unit}
    (h : At P True (.resetPassword dto newPassword) (.call c k)) (s : Store) :
    ResetStep dto s (exec P c s).2 (k (exec P c s).1) c := by
  generalize hp : Prog.call c k = p at h
  cases h with
  | start op =>
    rw [prog_resetPassword] at hp
    cases hp
    unfold resetCheck
    split
    · rename_i hr
      exact .check rfl nofun fun _ => exec_get_token hr.1
    · exact .check rfl nofun nofun
  | checked dto newPassword =>
    cases hp
    rcases findOneById_cases P dto.userId s with ⟨e, h⟩ | h | ⟨u, row, hid, -, h⟩ <;> rw [h]
    · exact .between nofun rfl nofun
    · exact .between nofun rfl nofun
    · exact .between nofun rfl nofun
  | loaded newPassword user hid =>
    cases hp
    exact .between nofun rfl nofun
  | hashed newPassword user salt hid =>
    cases hp
    refine .between nofun (exec_save_cache P s _) ?_
    cases hr : (exec P (.users (.save (resetUser P newPassword user salt))) s).1 with
    | error e => exact nofun
    | ok a => exact nofun
  | resetSaved dto newPassword h =>
    cases hp
    exact .delete (Expiring.Cache.entry_del_self _ _) rfl
  | returned op h => cases hp
  | threw op e => cases hp

section

variable {ι : Type} [DecidableEq ι] {P : Platform} {dto : ResetPasswordDto}
  {newPassword : ι → NewPasswordDto}

/-- A call that has passed the check or has returned. -/
def Used (p : Service Unit) : Prop := passed p = true ∨ p = .ret ()

/-- At most one call has used the token, and once it has returned the token is not stored. -/
structure UsedOnce (P : Platform) (dto : ResetPasswordDto) (newPassword : ι → NewPasswordDto)
    (cfg : Serving ι Unit) : Prop where
  points : ∀ i, At P True (.resetPassword dto (newPassword i)) (cfg.threads i)
  unique : ∀ i j, Used (cfg.threads i) → Used (cfg.threads j) → i = j
  deleted : ∀ i, cfg.threads i = .ret () →
    cfg.store.cache.entry (AuthService.resetPasswordKey dto.userId) = none

/-- One call goes on, while the others stay where they are. -/
theorem UsedOnce.deliver {cfg : Serving ι Unit} (h : UsedOnce P dto newPassword cfg) {i : ι}
    {c : Cmd} {k : Except Thrown c.Answer → Service Unit} (r : Except Thrown c.Answer) (s : Store)
    (hpoint : At P True (.resetPassword dto (newPassword i)) (k r))
    (hunique : Used (k r) → ∀ j, j ≠ i → ¬ Used (cfg.threads j))
    (hdeleted : (k r = .ret () ∨ ∃ j, j ≠ i ∧ cfg.threads j = .ret ()) →
      s.cache.entry (AuthService.resetPasswordKey dto.userId) = none) :
    UsedOnce P dto newPassword (cfg.deliver i c k r s) := by
  refine ⟨?_, fun j₁ j₂ h₁ h₂ => ?_, ?_⟩
  · exact Config.threads_deliver (T := fun j => At P True (.resetPassword dto (newPassword j)))
      hpoint fun j _ => h.points j
  · by_cases e₁ : j₁ = i <;> by_cases e₂ : j₂ = i
    · rw [e₁, e₂]
    · subst e₁
      rw [Config.deliver_threads_self] at h₁
      rw [Config.deliver_threads_ne _ e₂] at h₂
      exact absurd h₂ (hunique h₁ j₂ e₂)
    · subst e₂
      rw [Config.deliver_threads_self] at h₂
      rw [Config.deliver_threads_ne _ e₁] at h₁
      exact absurd h₁ (hunique h₂ j₁ e₁)
    · rw [Config.deliver_threads_ne _ e₁] at h₁
      rw [Config.deliver_threads_ne _ e₂] at h₂
      exact h.unique j₁ j₂ h₁ h₂
  · exact Config.threads_deliver
      (T := fun _ p => p = .ret () → s.cache.entry (AuthService.resetPasswordKey dto.userId) = none)
      (fun hret => hdeleted (.inl hret)) fun j hj hret => hdeleted (.inr ⟨j, hj, hret⟩)

theorem usedOnce_move {cfg : Serving ι Unit} (h : UsedOnce P dto newPassword cfg)
    (m : Move ι Nat) (hm : checksAlone cfg m) :
    UsedOnce P dto newPassword (cfg.move (system P) m) := by
  -- while `i` has used the token no other call has
  have alone : ∀ i, Used (cfg.threads i) → ∀ j, j ≠ i → ¬ Used (cfg.threads j) :=
    fun i hi j hj hu => hj (h.unique j i hu hi)
  refine Config.move_cases cfg m h ?stepped ?faulted ?outside
  case stepped =>
    rintro i c k rfl hc
    have hat : At P True (.resetPassword dto (newPassword i)) (.call c k) := hc ▸ h.points i
    have hpoint := hat.answer cfg.store id fun _ _ _ => trivial
    rw [checksAlone, hc] at hm
    have hi : passed (cfg.threads i) = passed (.call c k) := by rw [hc]
    cases hat.resetStep cfg.store with
    | check hs hret htoken =>
      refine h.deliver _ _ hpoint ?_ ?_
      · rintro (hp | hp) j hj (hu | hu)
        · rw [hm j] at hu
          cases hu
        · obtain ⟨e, he, -⟩ := Expiring.Cache.get_eq_some.mp (htoken hp)
          rw [h.deleted j hu] at he
          cases he
        · exact hret hp
        · exact hret hp
      · rintro (hp | ⟨j, -, hj⟩)
        · exact absurd hp hret
        · change (exec P _ cfg.store).2.cache.entry _ = none
          rw [hs]
          exact h.deleted j hj
    | between hget hs hret =>
      have hused : Used (cfg.threads i) := by
        refine .inl (hi.trans ?_)
        unfold passed
        split
        · rename_i key _ heq
          cases heq
          exact absurd rfl (hget key)
        · rfl
        · rename_i h₁ h₂
          exact absurd rfl (h₂ _ _)
      refine h.deliver _ _ hpoint (fun _ => alone i hused) ?_
      rintro (hp | ⟨j, hj, hu⟩)
      · exact absurd hp hret
      · exact absurd (.inr hu) (alone i hused j hj)
    | delete hs hret =>
      have hused : Used (cfg.threads i) := .inl hi
      exact h.deliver _ _ hpoint (fun _ => alone i hused) fun _ => hs
  case faulted =>
    rintro i c k e rfl hc -
    have hat : At P True (.resetPassword dto (newPassword i)) (.call c k) := hc ▸ h.points i
    rw [checksAlone, hc] at hm
    rcases hat.fault_cases e with ⟨e', he⟩ | ⟨-, -, key, rfl⟩
    · refine h.deliver _ _ (hat.fault e) ?_ ?_
      · rw [he]
        rintro (hp | hp) <;> cases hp
      · rintro (hp | ⟨j, -, hj⟩)
        · rw [he] at hp
          cases hp
        · exact h.deleted j hj
    · exact hm.elim
  case outside =>
    rintro x rfl
    exact ⟨h.points, h.unique, h.deleted⟩

/-- No two calls have returned. -/
def SucceedsAtMostOnce (cfg : Serving ι Unit) : Prop :=
  ∀ i j, cfg.threads i = .ret () → cfg.threads j = .ret () → i = j

/-- In a run of calls with one token in which every check is made alone and no delete
fails, at most one call succeeds. -/
theorem token_used_once (P : Platform) (s : Store) (dto : ResetPasswordDto)
    (newPassword : ι → NewPasswordDto) (ms : List (Move ι Nat))
    (halone : Config.Along (system P) checksAlone
      (started P s fun i => .resetPassword dto (newPassword i)) ms) :
    SucceedsAtMostOnce
      ((started P s fun i => .resetPassword dto (newPassword i)).exec (system P) ms) := by
  have init : UsedOnce P dto newPassword
      (started P s fun i => .resetPassword dto (newPassword i)) := by
    have hstart : ∀ i,
        ¬ Used ((started P s fun i => .resetPassword dto (newPassword i)).threads i) := by
      intro i hu
      change Used ((AccountOp.resetPassword dto (newPassword i)).prog P) at hu
      rw [prog_resetPassword] at hu
      rcases hu with hu | hu <;> cases hu
    exact ⟨fun i => .start _, fun i _ h₁ _ => absurd h₁ (hstart i),
      fun i h => absurd (.inr h) (hstart i)⟩
  have step : ∀ cfg m, UsedOnce P dto newPassword cfg → checksAlone cfg m →
      UsedOnce P dto newPassword (cfg.move (system P) m) := fun _ m h hm => usedOnce_move h m hm
  have hinv := Config.exec_inv step init halone
  exact fun i j hi hj => hinv.unique i j (.inr hi) (.inr hj)

end

/-! ## A token that is used twice -/

/-- A user with a stored reset token. -/
def resettable : Store :=
  { Store.empty with
    users := ((∅ : Keyed.Table Uuid UserRow UserRow.email).put (.ofNat 1)
      ⟨"Ada", "Byron", "ada@example.com", ⟨"old"⟩, .ACTIVE, true, none⟩).getD ∅
    cache := Store.empty.cache.set (AuthService.resetPasswordKey (Uuid.ofNat 1).text)
      (.str "token") }

/-- Two calls that present the token. -/
def twoResets : Serving Bool Unit :=
  started .plain resettable fun second =>
    .resetPassword ⟨(Uuid.ofNat 1).text, "token"⟩ ⟨if second then "second" else "first"⟩

/-- One call after the other: the first succeeds. -/
theorem token_used_once_in_turn :
    (twoResets.exec (system .plain) [.step false, .step false, .step false, .step false,
        .step false, .step true]).threads false = .ret () ∧
      SucceedsAtMostOnce (twoResets.exec (system .plain) [.step false, .step false, .step false,
        .step false, .step false, .step true]) := by
  refine ⟨by rfl, token_used_once .plain resettable ⟨(Uuid.ofNat 1).text, "token"⟩ _ _ ?_⟩
  refine ⟨fun j => ?_, trivial, trivial, trivial, trivial, fun j => ?_, trivial⟩ <;>
    cases j <;> rfl

/-- Both calls check the token before either deletes it, and both succeed. -/
theorem token_used_twice :
    ¬ SucceedsAtMostOnce (twoResets.exec (system .plain) [.step false, .step true, .step false,
      .step false, .step false, .step false, .step true, .step true, .step true, .step true]) :=
  fun h => absurd (h false true (by rfl) (by rfl)) (by decide)

end AccountOp

end VoltFleet
