import VoltFleet.Proofs.AccountBook
import VoltFleet.Proofs.Escalation

/-!
# Requests keep the book

Every command that a request may issue keeps `Booked`, and every handler issues
such commands only, relying on what it has loaded before.
-/

namespace VoltFleet

open Awaiting AuthService

section

variable {P : Platform} {s₀ s s' : Store} {ι : Type} {requests : ι → HttpRequest}

/-! ## The commands -/

theorem Booked.insertUser (h : Booked P s₀ requests s) {user : NewUser}
    (huser : NewAccount P requests s user) :
    Booked P s₀ requests (commit s (insertUser P s user)).2 ∧
      Grown s (commit s (insertUser P s user)).2 := by
  refine commit_snd (p := fun s' => Booked P s₀ requests s' ∧ Grown s s') ⟨h, .refl s⟩ ?_
  intro v s' hinsert
  obtain ⟨status, users, hstatus, href, hfree, hput, rfl⟩ := insertUser_ok hinsert
  obtain ⟨i, dto, name, salt, role, hroute, ⟨row, hrole, hname, -, -⟩, hrolename, rfl⟩ := huser
  refine h.putUser hput ?_ (checkReference_eq_ok.mp href) ?_ ?_
  · intro old hold
    rw [hfree] at hold
    cases hold
  · intro row₀ hrow₀
    obtain ⟨password, hrow⟩ := h.grown.users _ row₀ hrow₀
    rw [hfree] at hrow
    cases hrow
  · intro _
    refine ⟨i, dto, name, hroute, ⟨rfl, rfl, rfl, hstatus, rfl, ?_⟩, .inl ⟨salt, rfl⟩⟩
    exact ⟨role.id, row, rfl, hrole, hname.symm.trans hrolename⟩

theorem Booked.saveUser (h : Booked P s₀ requests s) {user : User}
    (huser : Rewrites P s₀ requests s user) :
    Booked P s₀ requests (commit s (saveUser s user)).2 ∧
      Grown s (commit s (saveUser s user)).2 := by
  refine commit_snd (p := fun s' => Booked P s₀ requests s' ∧ Grown s s') ⟨h, .refl s⟩ ?_
  intro v s' hsave
  obtain ⟨row, users, hrow, href, hput, rfl⟩ := saveUser_ok hsave
  obtain ⟨old, password, hold, hrows, hreset⟩ := huser
  obtain ⟨password', rfl⟩ := savedRow_eq_row hrow
  rw [hrows] at hput href
  refine h.putUser hput ?_ (checkReference_eq_ok.mp href) ?_ ?_
  · intro old' hold'
    rw [hold] at hold'
    cases hold'
    exact ⟨password, rfl⟩
  · intro row₀ hrow₀
    exact .inr hreset
  · intro hnone
    exact (h.created user.id old hnone hold).reset hreset

theorem Booked.saveRole (h : Booked P s₀ requests s) {role : UserRole} (hrole : KnownRole s role) :
    Booked P s₀ requests (commit s (saveRole P s role)).2 ∧
      Grown s (commit s (saveRole P s role)).2 := by
  refine commit_snd (p := fun s' => Booked P s₀ requests s' ∧ Grown s s') ⟨h, .refl s⟩ ?_
  intro v s' hsave
  obtain ⟨roles, hput, rfl⟩ := saveRole_ok hsave
  obtain ⟨row, hrow, hname, hcomment, hprivileges⟩ := hrole
  refine h.putRole hput ?_ ?_
  · intro old hold
    rw [hrow] at hold
    cases hold
    exact ⟨hname, hcomment⟩
  · intro p hp
    obtain ⟨privilege, hmem, rfl⟩ := List.mem_map.mp (List.mem_dedup.mp hp)
    exact hprivileges privilege hmem

theorem Booked.insertRole (h : Booked P s₀ requests s) (dto : AccessDto) :
    Booked P s₀ requests (commit s (insertRole P s dto)).2 ∧
      Grown s (commit s (insertRole P s dto)).2 := by
  refine commit_snd (p := fun s' => Booked P s₀ requests s' ∧ Grown s s') ⟨h, .refl s⟩ ?_
  intro v s' hinsert
  obtain ⟨-, roles, hfree, hput, rfl⟩ := insertRole_ok hinsert
  refine h.putRole hput ?_ ?_
  · intro old hold
    rw [hfree] at hold
    cases hold
  · intro p hp
    exact absurd hp List.not_mem_nil

theorem Booked.insertPrivilege (h : Booked P s₀ requests s) (dto : AccessDto) :
    Booked P s₀ requests (commit s (insertPrivilege P s dto)).2 ∧
      Grown s (commit s (insertPrivilege P s dto)).2 := by
  refine commit_snd (p := fun s' => Booked P s₀ requests s' ∧ Grown s s') ⟨h, .refl s⟩ ?_
  intro v s' hinsert
  obtain ⟨-, privileges, hfree, hput, rfl⟩ := insertPrivilege_ok hinsert
  exact h.putPrivilege hfree hput

/-- A command of a repository that writes no account. -/
theorem Booked.tables (h : Booked P s₀ requests s) {c : Cmd} (hc : OnTables c)
    (hleaves : LeavesAccounts c) :
    Booked P s₀ requests (exec P c s).2 ∧ Grown s (exec P c s).2 := by
  have hsame : SameAccounts s (exec P c s).2 := hleaves.exec P s
  have hclock : s.clock ≤ (exec P c s).2.clock := ((hc.exec P).clock s).ge
  exact ⟨h.of_same hsame hclock ((hc.exec P).cache s) ((hc.exec P).sessions s),
    .of_same hsame hclock⟩

theorem Booked.redis (h : Booked P s₀ requests s) {c : RedisCmd}
    (hc : (bookAccord P s₀ requests).allows s (.redis c)) :
    Booked P s₀ requests (c.exec s).2 ∧ Grown s (c.exec s).2 := by
  have written : ∀ cache : Expiring.Cache String RedisValue,
      (∀ key, cache.entry key = s.cache.entry key ∨ cache.entry key = none ∨ SignedKey s₀ key) →
      Booked P s₀ requests { s with cache := cache } ∧ Grown s { s with cache := cache } :=
    fun cache hcache => ⟨h.of_entry hcache, .of_same ⟨rfl, rfl, rfl⟩ le_rfl⟩
  cases c with
  | get key => exact ⟨h, .refl s⟩
  | lrange key => exact ⟨h, .refl s⟩
  | rpush key data => exact hc.elim
  | hset key field value => exact hc.elim
  | set key value =>
    apply written
    intro key'
    by_cases he : key' = key
    · subst he
      exact .inr (.inr hc)
    · exact .inl (Expiring.Cache.entry_set_ne _ he _)
  | expire key ttl =>
    apply written
    intro key'
    by_cases he : key' = key
    · subst he
      exact .inr (.inr hc)
    · exact .inl (Expiring.Cache.entry_expire_ne _ _ he _)
  | del key =>
    apply written
    intro key'
    by_cases he : key' = key
    · subst he
      exact .inr (.inl (Expiring.Cache.entry_del_self ..))
    · exact .inl (Expiring.Cache.entry_del_ne _ he)

theorem Booked.process (h : Booked P s₀ requests s) {c : ProcessCmd}
    (hc : (bookAccord P s₀ requests).allows s (.process c)) :
    Booked P s₀ requests (c.exec s).2 ∧ Grown s (c.exec s).2 := by
  have hgrown : Grown s (c.exec s).2 := by
    cases c <;> exact .of_same ⟨rfl, rfl, rfl⟩ le_rfl
  refine ⟨?_, hgrown⟩
  cases c with
  | now => exact h
  | genSalt => exact h.of_same ⟨rfl, rfl, rfl⟩ le_rfl rfl rfl
  | broadcast fleetId telemetry => exact h.of_same ⟨rfl, rfl, rfl⟩ le_rfl rfl rfl
  | setCurrentUser session user =>
    refine ⟨h.grown.trans hgrown, ⟨h.linked.roles, h.linked.privileges⟩, h.kept,
      fun u row hnone hrow => (h.created u row hnone hrow).later hgrown, h.keys, ?_⟩
    intro n
    by_cases he : n = session
    · subst he
      refine .inr ⟨user, ?_, hc⟩
      exact Function.update_self ..
    · have hsame : (ProcessCmd.exec s (.setCurrentUser session user)).2.sessions n =
          s.sessions n := Function.update_of_ne he ..
      rw [hsame]
      exact h.sessions n

theorem bookAccord_step {c : Cmd} (hc : (bookAccord P s₀ requests).allows s c)
    (h : Booked P s₀ requests s) :
    Booked P s₀ requests (exec P c s).2 ∧ Grown s (exec P c s).2 := by
  cases c with
  | users c =>
    cases c with
    | insert user => exact h.insertUser hc
    | save user => exact h.saveUser hc
    | _ => exact h.tables trivial trivial
  | roles c =>
    cases c with
    | insert dto => exact h.insertRole dto
    | save role => exact h.saveRole hc
    | _ => exact h.tables trivial trivial
  | privileges c =>
    cases c with
    | insert dto => exact h.insertPrivilege dto
    | _ => exact h.tables trivial trivial
  | fleets c => exact h.tables trivial trivial
  | vehicles c => exact h.tables trivial trivial
  | telemetry c => exact h.tables trivial trivial
  | redis c => exact h.redis hc
  | process c => exact h.process hc

/-! ## The answers -/

/-- A user that is loaded is known. -/
theorem Booked.knownUser (h : Booked P s₀ requests s) {u : Uuid} {row : UserRow}
    (hrow : s.users.find? u = some row) : KnownUser s (s.userEntity u row) := by
  refine ⟨row, row.password, hrow, fun old => ?_⟩
  have hrole : (s.userEntity u row).userRole.map UserRole.id = row.userRoleId :=
    userEntity_role_id (h.linked.roles u row · hrow) u
  rw [User.row, hrole]
  rfl

/-- Nobody was confirmed in between. -/
theorem Booked.gatedUser (h : Booked P s₀ requests s) (h₀ : AccountsLinked s₀) {u : Uuid}
    {row : UserRow} (hrow : s.users.find? u = some row) : GatedUser s₀ (s.userEntity u row) := by
  intro hverified hadmin hsuper
  change row.isEmailVerified = true at hverified
  cases hrow₀ : s₀.users.find? u with
  | none =>
    obtain ⟨i, dto, name, -, hregistered, -⟩ := h.created u row hrow₀ hrow
    rw [hregistered.unverified] at hverified
    cases hverified
  | some row₀ =>
    obtain ⟨password, hkept⟩ := h.grown.users u row₀ hrow₀
    rw [hrow] at hkept
    cases hkept
    refine ⟨row₀, hrow₀, hverified, fun r hr => ?_⟩
    obtain ⟨role₀, hrole₀⟩ := h₀.roles u row₀ r hrow₀ hr
    obtain ⟨privilegeIds, hrole⟩ := h.grown.roles r role₀ hrole₀
    have hname : (s.userEntity u { row₀ with password := password }).userRole.map UserRole.name =
        some role₀.name := userEntity_role_name hr hrole u
    rw [hname] at hadmin hsuper
    exact ⟨role₀, hrole₀, fun he => hadmin (congrArg some he), fun he => hsuper (congrArg some he)⟩

/-- A role is loaded with privileges that are stored. -/
theorem knownRole_of_find {r : Uuid} {row : RoleRow} (hrow : s.roles.find? r = some row) :
    KnownRole s (s.roleEntity r row) := by
  refine ⟨row, hrow, rfl, rfl, fun p hp => ?_⟩
  obtain ⟨id, hid, hprivilege⟩ := List.mem_filterMap.mp hp
  obtain ⟨privilege, hfound, rfl⟩ := Option.map_eq_some_iff.mp hprivilege
  exact ⟨privilege, hfound⟩

/-- What a key holds was there at the start, or the key has been signed. -/
theorem Booked.key_origin (h : Booked P s₀ requests s) {key : String} {v : RedisValue}
    (hget : s.cache.get s.clock key = some v) :
    s₀.cache.get s₀.clock key = some v ∨ SignedKey s₀ key := by
  obtain ⟨e, he, hlive, hval⟩ := Expiring.Cache.get_eq_some.mp hget
  rcases h.keys key with hnone | hsame | hsigned
  · rw [hnone] at he
    cases he
  · refine .inl (Expiring.Cache.get_eq_some.mpr ⟨e, hsame.symm.trans he, ?_, hval⟩)
    obtain ⟨d, hd⟩ := Nat.exists_eq_add_of_le h.grown.clock
    rw [hd] at hlive
    exact Expiring.Entry.live_of_live_add hlive
  · exact .inr hsigned

theorem bookAccord_findRole {id : String} {r : Except Thrown (Option UserRole)}
    (h : ∀ role, r = .ok (some role) → KnownRole s role) :
    (bookAccord P s₀ requests).answers s (.roles (.findOneById id)) r := by
  cases r with
  | error e => trivial
  | ok found =>
    cases found with
    | none => trivial
    | some role => exact h role rfl

theorem bookAccord_findPrivilege {id : String} {r : Except Thrown (Option UserPrivilege)}
    (h : ∀ p, r = .ok (some p) → ∃ privilege, s.privileges.find? p.id = some privilege) :
    (bookAccord P s₀ requests).answers s (.privileges (.findOneById id)) r := by
  cases r with
  | error e => trivial
  | ok found =>
    cases found with
    | none => trivial
    | some p => exact h p rfl

theorem bookAccord_answer (h₀ : AccountsLinked s₀) (c : Cmd) (h : Booked P s₀ requests s) :
    (bookAccord P s₀ requests).answers (exec P c s).2 c (exec P c s).1 := by
  cases c with
  | users c =>
    cases c with
    | findOneByEmail email =>
      rcases findOneByEmail_cases P email s with hr | ⟨u, row, hrow, -, hr⟩ <;> rw [hr]
      · trivial
      · exact ⟨h.knownUser hrow, h.gatedUser h₀ hrow⟩
    | findOneById id =>
      rcases findOneById_cases P id s with ⟨e, hr⟩ | hr | ⟨u, row, hid, hrow, hr⟩ <;> rw [hr]
      · trivial
      · trivial
      · exact ⟨h.knownUser hrow, hid⟩
    | _ => trivial
  | roles c =>
    cases c with
    | findOneByName name =>
      rcases findOneByName_cases P name s with hr | ⟨r, row, hrow, hname, hr⟩ <;> rw [hr]
      · trivial
      · exact ⟨knownRole_of_find hrow, hname⟩
    | findOneById id =>
      refine bookAccord_findRole fun role hrole => ?_
      obtain ⟨r, -, hfound⟩ := bind_eq_ok.mp hrole
      obtain ⟨row, hrow, rfl⟩ := Option.map_eq_some_iff.mp (Except.ok.inj hfound)
      exact knownRole_of_find hrow
    | _ => trivial
  | privileges c =>
    cases c with
    | findOneById id =>
      refine bookAccord_findPrivilege fun p hp => ?_
      obtain ⟨r, -, hfound⟩ := bind_eq_ok.mp hp
      obtain ⟨row, hrow, rfl⟩ := Option.map_eq_some_iff.mp (Except.ok.inj hfound)
      exact ⟨row, hrow⟩
    | _ => trivial
  | redis c =>
    cases c with
    | get key =>
      show (bookAccord P s₀ requests).answers s (.redis (.get key)) (RedisCmd.exec s (.get key)).1
      cases hget : s.cache.get s.clock key with
      | none =>
        simp only [RedisCmd.exec, hget]
        trivial
      | some v =>
        have horigin := h.key_origin hget
        cases v with
        | str value =>
          simp only [RedisCmd.exec, hget]
          exact horigin
        | list l =>
          simp only [RedisCmd.exec, hget]
          trivial
        | hash fields =>
          simp only [RedisCmd.exec, hget]
          trivial
    | _ => trivial
  | _ => trivial

theorem bookAccord_honoured (h₀ : AccountsLinked s₀) :
    (bookAccord P s₀ requests).Honoured (system P) (Booked P s₀ requests) := by
  constructor
  case step =>
    intro c s hc hs
    exact bookAccord_step hc hs
  case answer =>
    intro c s hc hs
    exact bookAccord_answer h₀ c hs
  case fault =>
    intro c e s _
    cases c with
    | users c => cases c <;> trivial
    | roles c => cases c <;> trivial
    | privileges c => cases c <;> trivial
    | redis c => cases c <;> trivial
    | _ => trivial
  case env =>
    intro d s hs
    have hclock : s.clock ≤ (elapse d s).clock := Nat.le_add_right _ _
    exact ⟨hs.of_same ⟨rfl, rfl, rfl⟩ hclock rfl rfl, .of_same ⟨rfl, rfl, rfl⟩ hclock⟩

/-! ## The calls -/

theorem PlainCmd.allowed {route : Route} {c : Cmd} (h : PlainCmd route c) (s : Store) :
    (bookAccord P s₀ requests).allows s c := by
  cases h <;> trivial

/-- A call that issues plain commands. -/
theorem abides_of_plain {α : Type} {route : Route} {p : Service α}
    (hp : p.Issues (PlainCmd route)) :
    p.Abides (bookAccord P s₀ requests) (fun _ _ => True) s :=
  hp.abides (fun s _ hc => hc.allowed s) s

/-- A call that reads the clock only. -/
theorem abides_of_now {α : Type} {p : Service α} (hp : p.Issues (Eq (.process .now))) :
    p.Abides (bookAccord P s₀ requests) (fun _ _ => True) s :=
  hp.abides (fun _ _ hc => (by rw [← hc]; trivial)) s

theorem ingestTelemetry_abides (dto : CreateTelemetryDto) :
    (TelemetryService.ingestTelemetry dto).Abides (bookAccord P s₀ requests)
      (fun _ _ => True) s := by
  refine (ingestTelemetry_awaits dto).abides (fun t c hc => ?_) s
  cases hc <;> trivial

theorem set_abides {key : String} (hkey : SignedKey s₀ key) (value : String)
    (ttl : Option Nat) : (CacheService.set key value ttl).Abides (bookAccord P s₀ requests)
      (fun _ _ => True) s := by
  have hissues : (CacheService.set key value ttl).Issues fun c =>
      ∀ t, (bookAccord P s₀ requests).allows t c :=
    set_issues (fun _ => hkey) fun _ _ => hkey
  exact hissues.abides (fun t _ hc => hc t) s

theorem get_abides (key : String) : (CacheService.get key).Abides (bookAccord P s₀ requests)
    (fun _ stored => ∀ value, stored = some value →
      s₀.cache.get s₀.clock key = some (.str value) ∨ SignedKey s₀ key) s := by
  refine .tryCatch (.await (fun _ _ => trivial) ?_) fun _ _ _ => ?_
  · rintro t stored _ hstored _ _ value rfl
    exact hstored
  · intro t _ value hvalue
    cases hvalue

theorem getUserByEmail_abides (email : String) :
    (UserRepository.getUserByEmail P email).Abides (bookAccord P s₀ requests)
      (fun _ found => ∀ user, found = some user → GatedUser s₀ user) s := by
  unfold UserRepository.getUserByEmail
  split
  · trivial
  · refine .tryCatch (.await (fun _ _ => trivial) ?_) fun _ _ _ => trivial
    rintro t found _ hfound _ _ user rfl
    exact hfound.2

theorem signIn_abides (dto : AuthCredentialsDto) (session : Nat) :
    (signIn P dto session).Abides (bookAccord P s₀ requests) (fun _ _ => True) s := by
  unfold signIn
  refine .bind (getUserByEmail_abides _) fun found t _ hfound => ?_
  cases found with
  | none => trivial
  | some user =>
    dsimp only
    split
    · trivial
    next hrole =>
      split
      · trivial
      next hverified =>
        split
        · trivial
        · have hcleared : ∃ row, Cleared s₀ user.id row := by
            refine hfound user rfl ?_ (fun he => hrole (.inl he)) fun he => hrole (.inr he)
            simpa using hverified
          have hsign : ∀ payload expiresIn,
              (AuthService.sign P payload expiresIn).Issues (Eq (.process .now)) := sign_issues rfl
          refine .bind (abides_of_now (hsign _ _)) fun accessToken _ _ _ => ?_
          refine .bind (abides_of_now (hsign _ _)) fun refreshToken _ _ _ => ?_
          refine .bind (Q := fun _ _ => True)
            (.await (fun _ _ => ⟨hcleared, rfl⟩) fun _ _ _ _ _ _ => trivial) fun _ _ _ _ => ?_
          refine .bind (set_abides ⟨user.id, accessToken, .inr ⟨rfl, .inl hcleared⟩⟩ _ _)
            fun _ _ _ _ => ?_
          refine .bind (set_abides ⟨user.id, refreshToken, .inl ⟨rfl, hcleared⟩⟩ _ _)
            fun _ _ _ _ => ?_
          exact fun _ _ => trivial

/-- Whoever holds a refresh key has one from the start, or could sign in then. -/
theorem signedKey_session {u : Uuid} {token value : String}
    (h : s₀.cache.get s₀.clock (refreshKey u token) = some (.str value) ∨
      SignedKey s₀ (refreshKey u token)) (accessToken : String) :
    SignedKey s₀ (sessionKey u accessToken) := by
  refine ⟨u, accessToken, .inr ⟨rfl, ?_⟩⟩
  rcases h with hstart | ⟨u', token', ⟨hkey, hcleared⟩ | ⟨hkey, -⟩⟩
  · refine .inr ⟨token, ?_⟩
    rw [hstart]
    exact Option.some_ne_none _
  · obtain ⟨rfl, -⟩ := refreshKey_inj.mp hkey
    exact .inl hcleared
  · exact absurd hkey (refreshKey_ne_sessionKey u u' token token')

theorem refreshAccessToken_abides (token : String) :
    (refreshAccessToken P token).Abides (bookAccord P s₀ requests) (fun _ _ => True) s := by
  unfold refreshAccessToken
  have hverify : (tryCatch (verify P token) fun _ =>
      throw (.unauthorized "Invalid or expired refresh token")).Issues (Eq (.process .now)) :=
    .tryCatch (verify_issues rfl _) fun _ => trivial
  refine .bind (abides_of_now hverify) fun payload _ _ _ => ?_
  refine .bind (getUserByEmail_abides _) fun found _ _ _ => ?_
  cases found with
  | none => trivial
  | some user =>
    refine .bind (get_abides _) fun stored t _ hstored => ?_
    split
    · trivial
    next hactive =>
      have hkey := hstored "active" (not_not.mp hactive)
      have hsign : (AuthService.sign P ⟨user.email, user.userRole⟩ accessLifetime).Issues
          (Eq (.process .now)) := sign_issues rfl _ _
      refine .bind (abides_of_now hsign) fun newAccessToken _ _ _ => ?_
      refine .bind (set_abides (signedKey_session hkey newAccessToken) _ _) fun _ _ _ _ => ?_
      exact fun _ _ => trivial

theorem not_signedKey_reset (userId : String) : ¬SignedKey s₀ (resetPasswordKey userId) := by
  rintro ⟨u, token, ⟨hkey, -⟩ | ⟨hkey, -⟩⟩
  · exact refreshKey_ne_resetPasswordKey u token userId hkey.symm
  · exact append_ne_append 0 (by decide) (by decide) (by decide) _ _ hkey

theorem resetPassword_abides {i : ι} {dto : ResetPasswordDto} {newPassword : NewPasswordDto}
    (hroute : (requests i).route = .resetPassword dto newPassword) :
    (resetPassword P dto newPassword).Abides (bookAccord P s₀ requests) (fun _ _ => True) s := by
  have hdelete : ∀ t, (AccountOp.resetDelete dto).Abides (bookAccord P s₀ requests)
      (fun _ _ => True) t := by
    intro t
    refine .bind (Q := fun _ _ => True) (.tryCatch
      (.await (fun _ _ => trivial) fun _ _ _ _ _ _ => trivial) fun _ _ _ _ _ => trivial)
      fun _ _ _ _ => ?_
    exact fun _ _ => trivial
  have hfind : ∀ t, (UserRepository.findUserById dto.userId).Abides (bookAccord P s₀ requests)
      (fun t found => ∀ user, found = some user →
        KnownUser t user ∧ Uuid.ofString? dto.userId = some user.id) t := by
    intro t
    refine .tryCatch (.await (fun _ _ => trivial) ?_) fun _ _ _ => trivial
    rintro t found _ hfound u hu user rfl
    exact ⟨hfound.1.later hu, hfound.2⟩
  rw [AccountOp.resetPassword_eq]
  refine .bind (get_abides _) fun stored t _ hstored => ?_
  split
  · trivial
  next hmatches =>
    rw [not_or, not_not] at hmatches
    obtain ⟨hnonempty, rfl⟩ := hmatches
    have hstart := (hstored dto.token rfl).resolve_right (not_signedKey_reset dto.userId)
    refine .bind (hfind t) fun found t _ hfound => ?_
    cases found with
    | none => trivial
    | some user =>
      obtain ⟨hknown, hid⟩ := hfound user rfl
      refine .bind (Q := fun _ _ => True) (.await (fun _ _ => trivial) fun _ _ _ _ _ _ => trivial)
        fun salt t' ht' _ => ?_
      refine .bind (Q := fun _ _ => True) (.await (fun t'' ht'' => ?_)
        fun _ _ _ _ _ _ => trivial) fun _ t'' _ _ => hdelete t''
      -- the row may have been written again since it was loaded, but for its password only
      obtain ⟨row, password, hrow, hrows⟩ := hknown.later (ht'.trans ht'')
      refine ⟨row, P.bcryptHash salt newPassword.newPassword, hrow, fun old => ?_,
        i, dto, newPassword, salt, hroute, hid, hnonempty, hstart, rfl⟩
      have hreset : (AccountOp.resetUser P newPassword user salt).row old =
          { user.row old with password := P.bcryptHash salt newPassword.newPassword } := rfl
      rw [hreset, hrows]

theorem getRoleByName_abides (name : RolesConstant) :
    (UserRoleRepository.getRoleByName (some name.text)).Abides (bookAccord P s₀ requests)
      (fun t role => KnownRole t role ∧ role.name = name.text) s := by
  unfold UserRoleRepository.getRoleByName
  dsimp only
  split
  · trivial
  · refine .bind (Q := fun t found => ∀ role, found = some role →
      KnownRole t role ∧ role.name = name.text) (.await (fun _ _ => trivial) ?_) ?_
    · rintro t found _ hfound u hu role rfl
      exact ⟨hfound.1.later hu, hfound.2⟩
    · intro found t _ hfound
      cases found with
      | none => trivial
      | some role =>
        intro u hu
        obtain ⟨hknown, hname⟩ := hfound role rfl
        exact ⟨hknown.later hu, hname⟩

theorem signUp_abides {i : ι} {dto : CreateUserDto} {name : RolesConstant}
    (hroute : (requests i).route.registers = some (dto, name)) :
    (signUp P { dto with role := .value name }).Abides (bookAccord P s₀ requests)
      (fun _ _ => True) s := by
  unfold signUp
  refine .tryCatch ?_ fun e t _ => trivial
  refine .bind (Q := fun _ _ => True) (.await (fun _ _ => trivial) fun _ _ _ _ _ _ => trivial)
    fun found t _ _ => ?_
  cases found with
  | some user => trivial
  | none =>
    refine .bind (getRoleByName_abides name) fun role t _ hrole => ?_
    refine .bind (Q := fun _ _ => True) ?_ fun _ _ _ _ _ _ => trivial
    unfold UserRepository.registerAccount
    refine .bind (Q := fun _ _ => True) (.await (fun _ _ => trivial) fun _ _ _ _ _ _ => trivial)
      fun salt t' ht' _ => ?_
    refine .tryCatch (.await (fun t'' ht'' => ?_) fun _ _ _ _ _ _ => trivial) fun e _ _ => ?_
    · exact ⟨i, dto, name, salt, role, hroute, hrole.1.later (ht'.trans ht''), hrole.2, rfl⟩
    · split <;> trivial

/-- The privileges that the lookups find are stored. -/
theorem lookups_abides (ids : List String) :
    (AssignPrivilege.lookups ids).Abides (bookAccord P s₀ requests)
      (fun t found => ∀ p ∈ found, ∃ privilege, t.privileges.find? p.id = some privilege) s := by
  induction ids generalizing s with
  | nil => exact fun t _ p hp => absurd hp List.not_mem_nil
  | cons id ids ih =>
    unfold AssignPrivilege.lookups
    refine .bind (Q := fun t found => ∀ p, found = some p →
      ∃ privilege, t.privileges.find? p.id = some privilege) ?_ fun found t _ hfound => ?_
    · refine .tryCatch (.await (fun _ _ => trivial) ?_) fun _ _ _ _ _ p hp => by cases hp
      rintro t found _ hfound u hu p rfl
      obtain ⟨privilege, hprivilege⟩ := hfound
      exact ⟨privilege, hu.privileges _ _ hprivilege⟩
    · refine .bind ih fun rest t' ht' hrest => ?_
      intro u hu p hp
      rcases List.mem_append.mp hp with hp | hp
      · obtain ⟨privilege, hprivilege⟩ := hfound p (Option.mem_toList.mp hp)
        exact ⟨privilege, (ht'.trans hu).privileges _ _ hprivilege⟩
      · obtain ⟨privilege, hprivilege⟩ := hrest p hp
        exact ⟨privilege, hu.privileges _ _ hprivilege⟩

theorem inTurn_abides (dto : AssignPrivilegeDto) (answered : List String) :
    (AssignPrivilege.inTurn dto answered).Abides (bookAccord P s₀ requests)
      (fun _ _ => True) s := by
  unfold AssignPrivilege.inTurn
  refine .tryCatch ?_ fun _ _ _ _ _ => trivial
  refine .bind (Q := fun t found => ∀ role, found = some role → KnownRole t role)
    (.await (fun _ _ => trivial) ?_) fun found t _ hfound => ?_
  · rintro t found _ hfound u hu role rfl
    exact hfound.later hu
  · cases found with
    | none => exact fun _ _ => trivial
    | some role =>
      refine .bind (lookups_abides answered) fun availablePrivs t' ht' hfound' => ?_
      refine .bind (Q := fun _ _ => True) (.await (fun t'' ht'' => ?_)
        fun _ _ _ _ _ _ => trivial) fun _ _ _ _ _ _ => trivial
      obtain ⟨row, hrow, hname, hcomment, -⟩ := (hfound role rfl).later (ht'.trans ht'')
      refine ⟨row, hrow, hname, hcomment, fun p hp => ?_⟩
      obtain ⟨privilege, hprivilege⟩ := hfound' p hp
      exact ⟨privilege, ht''.privileges _ _ hprivilege⟩

/-! ## The requests -/

theorem handler_abides (P : Platform) (s₀ : Store) (requests : ι → HttpRequest) (i : ι)
    (s : Store) : ((requests i).route.handler P).Abides (bookAccord P s₀ requests)
      (fun _ _ => True) s := by
  have dropped : ∀ {α : Type} {p : Service α}, p.Abides (bookAccord P s₀ requests)
      (fun _ _ => True) s → (Service.dropResult p).Abides (bookAccord P s₀ requests)
      (fun _ _ => True) s := fun hp => .bind hp fun _ _ _ _ _ _ => trivial
  by_cases htouches : (requests i).route.TouchesAccounts
  · cases hroute : (requests i).route with
    | validateLoginOtp dto session => exact dropped (signIn_abides dto session)
    | refreshAccessToken token => exact dropped (refreshAccessToken_abides token)
    | resetPassword dto newPassword => exact dropped (resetPassword_abides hroute)
    | assignPrivilege dto answered => exact inTurn_abides dto answered
    | registerAdmin dto => exact signUp_abides (i := i) (by rw [hroute]; rfl)
    | signUpAsAStaff dto => exact signUp_abides (i := i) (by rw [hroute]; rfl)
    | _ =>
      rw [hroute] at htouches
      exact htouches.elim
  · by_cases hingest : ∃ dto, (requests i).route = .ingest dto
    · obtain ⟨dto, hroute⟩ := hingest
      rw [hroute]
      exact dropped (ingestTelemetry_abides dto)
    · exact abides_of_plain (handler_plain htouches fun dto he => hingest ⟨dto, he⟩)

theorem prog_abides (P : Platform) (s₀ : Store) (requests : ι → HttpRequest) (i : ι) (s : Store) :
    ((requests i).prog P).Abides (bookAccord P s₀ requests) (fun _ _ => True) s := by
  have hhandle : ∀ t, ((requests i).handle P).Abides (bookAccord P s₀ requests)
      (fun _ _ => True) t := by
    intro t
    unfold HttpRequest.handle
    cases (requests i).proceeds with
    | false => trivial
    | true => exact handler_abides P s₀ requests i t
  have hauthorized : ∀ user t, ((requests i).authorized P user).Abides
      (bookAccord P s₀ requests) (fun _ _ => True) t := by
    intro user t
    unfold HttpRequest.authorized
    cases (requests i).route.guards with
    | unguarded => exact hhandle t
    | authGuard => exact hhandle t
    | privilegesGuard required =>
      refine .bind (Q := fun _ _ => True) (.ofExcept fun _ _ _ _ => trivial) fun _ t' _ _ => ?_
      exact hhandle t'
  have hguard : (authGuard P (requests i).bearer).Issues (PlainCmd (requests i).route) :=
    authGuard_plain _
  unfold HttpRequest.prog
  cases (requests i).route.guards with
  | unguarded => exact hhandle s
  | authGuard => exact .bind (abides_of_plain hguard) fun user t _ _ => hauthorized user t
  | privilegesGuard required =>
    exact .bind (abides_of_plain hguard) fun user t _ _ => hauthorized user t

/-- A state without dangling references is booked. -/
theorem Booked.start (h₀ : AccountsLinked s₀) : Booked P s₀ requests s₀ := by
  refine ⟨.refl s₀, h₀, fun u row₀ row h h' => ?_, fun u row h h' => ?_, fun _ => .inr (.inl rfl),
    fun _ => .inl rfl⟩
  · rw [h] at h'
    cases h'
    exact .inl rfl
  · rw [h] at h'
    cases h'

/-- Every run of requests keeps the book. -/
theorem booked_exec [DecidableEq ι] (P : Platform) {s₀ : Store} (h₀ : AccountsLinked s₀)
    (requests : ι → HttpRequest) (ms : List (Move ι Nat)) :
    Booked P s₀ requests ((HttpRequest.started P s₀ requests).exec (system P) ms).store := by
  have hstart : (HttpRequest.started P s₀ requests).Abiding (bookAccord P s₀ requests)
      (Booked P s₀ requests) fun _ _ _ => True :=
    ⟨fun i => prog_abides P s₀ requests i s₀, .start h₀⟩
  exact (hstart.exec (bookAccord_honoured h₀) ms).1.store

end

end VoltFleet
