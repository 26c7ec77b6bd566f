import VoltFleet.Misc.Notes
import VoltFleet.Proofs.AccountRequests
import VoltFleet.Proofs.Mediation

/-!
# The ledger of roles and privileges

A role or a privilege that a run adds is entered under the request that has created
it.  A request creates one row at most, and has returned exactly if it has created
one.  No request renames or removes a row, so that the rows at the end are those of
the start and those entered.
-/

namespace VoltFleet

open Awaiting

/-- The two tables of access rights. -/
inductive AccessKind where
  | role
  | privilege
  deriving DecidableEq

/-- The name and the comment of a stored role or privilege. -/
def AccessKind.entry (kind : AccessKind) (s : Store) (u : Uuid) : Option AccessDto :=
  match kind with
  | .role => (s.roles.find? u).map fun r => ⟨r.name, r.comment⟩
  | .privilege => (s.privileges.find? u).map fun p => ⟨p.name, p.comment⟩

/-- A created row: its kind, its key and what it has been created with. -/
structure Creation where
  kind : AccessKind
  id : Uuid
  dto : AccessDto
  deriving DecidableEq

/-- The row a completed insert has created. -/
def Creation.ofCmd : (c : Cmd) → Except Thrown c.Answer → Option Creation
  | .roles (.insert dto), .ok role => some ⟨.role, role.id, dto⟩
  | .privileges (.insert dto), .ok p => some ⟨.privilege, p.id, dto⟩
  | _, _ => none

/-- What the route creates. -/
def Route.creates : Route → Option (AccessKind × AccessDto)
  | .createRole dto => some (.role, dto)
  | .createPrivilege dto => some (.privilege, dto)
  | _ => none

/-- A request that creates has created a row exactly if it has returned, and no other one. -/
def Route.Created (route : Route) (l : List Creation) (o : Option (Except Thrown Unit)) : Prop :=
  (l = [] ∧ (route.creates ≠ none → o ≠ some (.ok ()))) ∨
    ∃ kind u dto, route.creates = some (kind, dto) ∧ l = [⟨kind, u, dto⟩] ∧ o = some (.ok ())

section

variable {P : Platform} {s₀ s s' : Store}

/-! ## The commands -/

/-- The rows that a command leaves: those of before and the one that it notes, which is new. -/
structure Enrolled (c : Cmd) (r : Except Thrown c.Answer) (s s' : Store) : Prop where
  same : Creation.ofCmd c r = none → ∀ kind : AccessKind, kind.entry s' = kind.entry s
  created : ∀ n, Creation.ofCmd c r = some n → n.kind.entry s n.id = none ∧
    ∀ kind : AccessKind, ∀ u, kind.entry s' u =
      if kind = n.kind ∧ u = n.id then some n.dto else kind.entry s u

theorem Enrolled.of_same {c : Cmd} {r : Except Thrown c.Answer} (hnote : Creation.ofCmd c r = none)
    (hroles : s'.roles = s.roles) (hprivileges : s'.privileges = s.privileges) :
    Enrolled c r s s' := by
  refine ⟨fun _ kind => ?_, fun n hn => ?_⟩
  · funext u
    cases kind with
    | role => rw [AccessKind.entry, AccessKind.entry, hroles]
    | privilege => rw [AccessKind.entry, AccessKind.entry, hprivileges]
  · rw [hnote] at hn
    cases hn

theorem enrolled_insertRole (dto : AccessDto) :
    Enrolled (.roles (.insert dto)) (exec P (.roles (.insert dto)) s).1 s
      (exec P (.roles (.insert dto)) s).2 := by
  show Enrolled (.roles (.insert dto)) (commit s (insertRole P s dto)).1 s
    (commit s (insertRole P s dto)).2
  cases hinsert : insertRole P s dto with
  | error e => exact .of_same rfl rfl rfl
  | ok created =>
    obtain ⟨role, s'⟩ := created
    obtain ⟨hid, roles, hfree, hput, rfl⟩ := insertRole_ok hinsert
    refine ⟨fun h => (by cases h), fun n hn => ?_⟩
    cases hn
    rw [hid]
    refine ⟨?_, fun kind u => ?_⟩
    · simp only [AccessKind.entry, hfree, Option.map_none]
    · cases kind with
      | role =>
        simp only [commit_ok, AccessKind.entry, Keyed.Table.find?_put hput, true_and]
        split <;> rfl
      | privilege => rfl

theorem enrolled_insertPrivilege (dto : AccessDto) :
    Enrolled (.privileges (.insert dto)) (exec P (.privileges (.insert dto)) s).1 s
      (exec P (.privileges (.insert dto)) s).2 := by
  show Enrolled (.privileges (.insert dto)) (commit s (insertPrivilege P s dto)).1 s
    (commit s (insertPrivilege P s dto)).2
  cases hinsert : insertPrivilege P s dto with
  | error e => exact .of_same rfl rfl rfl
  | ok created =>
    obtain ⟨p, s'⟩ := created
    obtain ⟨hid, privileges, hfree, hput, rfl⟩ := insertPrivilege_ok hinsert
    refine ⟨fun h => (by cases h), fun n hn => ?_⟩
    cases hn
    rw [hid]
    refine ⟨?_, fun kind u => ?_⟩
    · simp only [AccessKind.entry, hfree, Option.map_none]
    · cases kind with
      | role => rfl
      | privilege =>
        simp only [commit_ok, AccessKind.entry, Keyed.Table.find?_put hput, true_and]
        split <;> rfl

/-- A role is saved under its name and with its comment. -/
theorem enrolled_saveRole {role : UserRole} (h : KnownRole s role) :
    Enrolled (.roles (.save role)) (exec P (.roles (.save role)) s).1 s
      (exec P (.roles (.save role)) s).2 := by
  have hnote : ∀ r, Creation.ofCmd (.roles (.save role)) r = none := fun r => (by cases r <;> rfl)
  show Enrolled (.roles (.save role)) (commit s (saveRole P s role)).1 s
    (commit s (saveRole P s role)).2
  cases hsave : saveRole P s role with
  | error e => exact .of_same rfl rfl rfl
  | ok saved =>
    obtain ⟨v, s'⟩ := saved
    obtain ⟨roles, hput, rfl⟩ := saveRole_ok hsave
    obtain ⟨row, hrow, hname, hcomment, -⟩ := h
    refine ⟨fun _ kind => ?_, fun n hn => (by cases hn)⟩
    funext u
    cases kind with
    | privilege => rfl
    | role =>
      simp only [AccessKind.entry, commit_ok, Keyed.Table.find?_put hput]
      by_cases hu : u = role.id
      · subst hu
        simp only [if_true, hrow, Option.map_some, UserRole.row, hname, hcomment]
      · simp only [hu, if_false]

/-- Whatever a request may do under the book. -/
theorem enrolled_exec {ι : Type} {requests : ι → HttpRequest} {c : Cmd}
    (hc : (bookAccord P s₀ requests).allows s c) : Enrolled c (exec P c s).1 s (exec P c s).2 := by
  have same : ∀ c, LeavesAccounts c → (∀ r, Creation.ofCmd c r = none) →
      Enrolled c (exec P c s).1 s (exec P c s).2 := fun c hleaves hnote =>
    .of_same (hnote _) (hleaves.exec P s).roles (hleaves.exec P s).privileges
  cases c with
  | users c =>
    cases c with
    | insert user =>
      refine .of_same rfl ?_ ?_
      · refine commit_snd (r := insertUser P s user) (p := fun s' => s'.roles = s.roles) rfl
          fun v s' h => ?_
        obtain ⟨_, _, -, -, -, -, rfl⟩ := insertUser_ok h
        rfl
      · refine commit_snd (r := insertUser P s user) (p := fun s' => s'.privileges = s.privileges)
          rfl fun v s' h => ?_
        obtain ⟨_, _, -, -, -, -, rfl⟩ := insertUser_ok h
        rfl
    | save user =>
      refine .of_same rfl ?_ ?_
      · refine commit_snd (r := saveUser s user) (p := fun s' => s'.roles = s.roles) rfl
          fun v s' h => ?_
        obtain ⟨_, _, -, -, -, rfl⟩ := saveUser_ok h
        rfl
      · refine commit_snd (r := saveUser s user) (p := fun s' => s'.privileges = s.privileges)
          rfl fun v s' h => ?_
        obtain ⟨_, _, -, -, -, rfl⟩ := saveUser_ok h
        rfl
    | _ => exact .of_same rfl rfl rfl
  | roles c =>
    cases c with
    | insert dto => exact enrolled_insertRole dto
    | save role => exact enrolled_saveRole hc
    | _ => exact .of_same rfl rfl rfl
  | privileges c =>
    cases c with
    | insert dto => exact enrolled_insertPrivilege dto
    | _ => exact .of_same rfl rfl rfl
  | fleets c => exact same (.fleets c) trivial fun _ => rfl
  | vehicles c => exact same (.vehicles c) trivial fun _ => rfl
  | telemetry c => exact same (.telemetry c) trivial fun _ => rfl
  | redis c => exact same (.redis c) trivial fun _ => rfl
  | process c => exact same (.process c) trivial fun _ => rfl

/-! ## What a request tells -/

/-- A request that creates issues one command after its guards. -/
theorem prog_creates {request : HttpRequest} {kind : AccessKind} {dto : AccessDto}
    (h : request.route.creates = some (kind, dto)) :
    (request.prog P).Tells Creation.ofCmd request.route.Created := by
  have waiting : ∀ o : Option (Except Thrown Unit), o ≠ some (.ok ()) →
      request.route.Created [] o := fun o ho => .inl ⟨rfl, fun _ => ho⟩
  have hinsert : (request.route.handler P).Tells Creation.ofCmd request.route.Created := by
    have hanswered : ∀ {c : Cmd} (k : Except Thrown c.Answer → Service Unit),
        (∀ e, k (.error e) = .fail e) → (∀ a, k (.ok a) = .ret ()) →
        (∀ e, Creation.ofCmd c (.error e) = none) →
        (∀ a, ∃ u, Creation.ofCmd c (.ok a) = some ⟨kind, u, dto⟩) →
        (Prog.call c k : Service Unit).Tells Creation.ofCmd request.route.Created := by
      intro c k hfail hret hnone hsome
      refine ⟨waiting _ fun he => (by cases he), fun r => ?_⟩
      cases r with
      | error e =>
        rw [hfail, hnone]
        exact waiting _ fun he => (by cases he)
      | ok a =>
        obtain ⟨u, hu⟩ := hsome a
        rw [hret, hu]
        exact .inr ⟨kind, u, dto, h, rfl, rfl⟩
    cases hroute : request.route with
    | createRole dto' =>
      rw [hroute] at h hanswered
      cases h
      exact hanswered _ (fun _ => rfl) (fun _ => rfl) (fun _ => rfl) fun role => ⟨role.id, rfl⟩
    | createPrivilege dto' =>
      rw [hroute] at h hanswered
      cases h
      exact hanswered _ (fun _ => rfl) (fun _ => rfl) (fun _ => rfl) fun p => ⟨p.id, rfl⟩
    | _ =>
      rw [hroute] at h
      cases h
  have hhandle : (request.handle P).Tells Creation.ofCmd request.route.Created := by
    unfold HttpRequest.handle
    cases request.proceeds with
    | false => exact waiting _ fun he => (by cases he)
    | true => exact hinsert
  have hauthorized : ∀ user, (request.authorized P user).Tells Creation.ofCmd
      request.route.Created := by
    intro user
    unfold HttpRequest.authorized
    cases request.route.guards with
    | unguarded => exact hhandle
    | authGuard => exact hhandle
    | privilegesGuard required =>
      dsimp only
      cases PrivilegesGuard.canActivate (required.map AllPrivileges.text) (some user) with
      | error e => exact waiting _ fun he => (by cases he)
      | ok _ => exact hhandle
  have hguard : (authGuard P request.bearer).Tells Creation.ofCmd fun l _ => l = [] := by
    refine (authGuard_guards request.bearer).tells fun c r hc => ?_
    cases hc <;> rfl
  have hguarded : (authGuard P request.bearer >>= request.authorized P).Tells Creation.ofCmd
      request.route.Created := by
    refine hguard.bind (fun l user hl => ?_) (fun l e hl => ?_) fun l hl => ?_
    · subst hl
      exact hauthorized user
    · subst hl
      exact waiting _ fun he => (by cases he)
    · subst hl
      exact waiting _ fun he => (by cases he)
  unfold HttpRequest.prog
  cases request.route.guards with
  | unguarded => exact hhandle
  | authGuard => exact hguarded
  | privilegesGuard required => exact hguarded

/-- The other requests create nothing. -/
theorem prog_created (request : HttpRequest) :
    (request.prog P).Tells Creation.ofCmd request.route.Created := by
  cases h : request.route.creates with
  | some created => exact prog_creates h
  | none =>
    refine ((prog_commands request).tells fun c r hc => ?_).mono fun l o hl =>
      .inl ⟨hl, fun hne => absurd h hne⟩
    rcases hc with hplain | ⟨-, haccount⟩ | ⟨dto, -, hingest⟩
    · cases hplain with
      | insertRole dto hroute =>
        rw [hroute] at h
        cases h
      | insertPrivilege dto hroute =>
        rw [hroute] at h
        cases h
      | _ => rfl
    · cases haccount <;> rfl
    · cases hingest <;> rfl

/-! ## The ledger -/

variable {ι : Type} [DecidableEq ι] {requests : ι → HttpRequest} {cfg : Serving ι Unit}

/-- The created rows with the requests that have created them, newest first. -/
def createdBy (cfg : Serving ι Unit) : List (ι × Creation) := cfg.notes Creation.ofCmd

/-- The roles and the privileges at the end are those of the start and the created ones; these are
new, each by one request with its body, and the requests that have created are those that have
returned. -/
structure AccessLedger (requests : ι → HttpRequest) (s₀ : Store) (cfg : Serving ι Unit) :
    Prop where
  entries : ∀ (kind : AccessKind) u dto, kind.entry cfg.store u = some dto ↔
    kind.entry s₀ u = some dto ∨ ∃ i, (i, ⟨kind, u, dto⟩) ∈ createdBy cfg
  fresh : ∀ n ∈ createdBy cfg, n.2.kind.entry s₀ n.2.id = none
  distinct : ((createdBy cfg).map fun n => (n.2.kind, n.2.id)).Nodup
  once : ((createdBy cfg).map Prod.fst).Nodup
  requested : ∀ n ∈ createdBy cfg, (requests n.1).route.creates = some (n.2.kind, n.2.dto)
  returned : ∀ i kind dto, (requests i).route.creates = some (kind, dto) →
    (cfg.threads i = .ret () ↔ ∃ u, (i, ⟨kind, u, dto⟩) ∈ createdBy cfg)
  names : ∀ (kind : AccessKind) u u' dto dto', kind.entry cfg.store u = some dto →
    kind.entry cfg.store u' = some dto' → dto.name = dto'.name → u = u'

/-- What has been created so far is what is noted. -/
structure Enrolling (s₀ : Store) (cfg : Serving ι Unit) : Prop where
  entries : ∀ (kind : AccessKind) u dto, kind.entry cfg.store u = some dto ↔
    kind.entry s₀ u = some dto ∨ ∃ i, (i, ⟨kind, u, dto⟩) ∈ createdBy cfg
  fresh : ∀ n ∈ createdBy cfg, n.2.kind.entry s₀ n.2.id = none
  distinct : ((createdBy cfg).map fun n => (n.2.kind, n.2.id)).Nodup

theorem enrolling_deliver (h : Enrolling s₀ cfg) (i : ι) {c : Cmd}
    (k : Except Thrown c.Answer → Service Unit) {r : Except Thrown c.Answer}
    (henrolled : Enrolled c r cfg.store s) : Enrolling s₀ (cfg.deliver i c k r s) := by
  have hcreated : createdBy (cfg.deliver i c k r s) =
      (Creation.ofCmd c r).toList.map (Prod.mk i) ++ createdBy cfg := Config.notes_deliver ..
  cases hnote : Creation.ofCmd c r with
  | none =>
    rw [hnote] at hcreated
    have hsame := henrolled.same hnote
    refine ⟨fun kind u dto => ?_, ?_, ?_⟩
    · rw [hcreated, Config.deliver_store, hsame]
      exact h.entries kind u dto
    · rw [hcreated]
      exact h.fresh
    · rw [hcreated]
      exact h.distinct
  | some n =>
    rw [hnote] at hcreated
    obtain ⟨hfree, hentries⟩ := henrolled.created n hnote
    -- the key is neither one of the start nor one that has been created before
    have hfresh : n.kind.entry s₀ n.id = none := by
      cases hstart : n.kind.entry s₀ n.id with
      | none => rfl
      | some dto =>
        rw [(h.entries n.kind n.id dto).mpr (.inl hstart)] at hfree
        cases hfree
    have hnew : ∀ j dto, (j, ⟨n.kind, n.id, dto⟩) ∉ createdBy cfg := by
      intro j dto hmem
      rw [(h.entries n.kind n.id dto).mpr (.inr ⟨j, hmem⟩)] at hfree
      cases hfree
    refine ⟨fun kind u dto => ?_, ?_, ?_⟩
    · rw [hcreated, Config.deliver_store, hentries]
      by_cases hn : kind = n.kind ∧ u = n.id
      · obtain ⟨rfl, rfl⟩ := hn
        rw [if_pos ⟨rfl, rfl⟩]
        constructor
        · intro he
          cases he
          exact .inr ⟨i, List.mem_cons_self⟩
        · rintro (hstart | ⟨j, hmem⟩)
          · rw [hfresh] at hstart
            cases hstart
          · rcases List.mem_cons.mp hmem with he | hmem
            · exact congrArg (fun m => some m.2.dto) he.symm
            · exact absurd hmem (hnew j dto)
      · rw [if_neg hn, h.entries]
        refine or_congr_right (exists_congr fun j => ?_)
        constructor
        · exact List.mem_cons_of_mem _
        · intro hmem
          rcases List.mem_cons.mp hmem with he | hmem
          · cases he
            exact absurd ⟨rfl, rfl⟩ hn
          · exact hmem
    · rw [hcreated]
      exact List.forall_mem_cons.mpr ⟨hfresh, h.fresh⟩
    · rw [hcreated]
      refine List.nodup_cons.mpr ⟨fun hmem => ?_, h.distinct⟩
      obtain ⟨⟨j, m⟩, hm, he⟩ := List.mem_map.mp hmem
      obtain ⟨kind, u, dto⟩ := m
      cases he
      exact hnew j dto hm

theorem enrolling_exec (P : Platform) (h₀ : AccountsLinked s₀) (requests : ι → HttpRequest)
    (ms : List (Move ι Nat)) :
    Enrolling s₀ ((HttpRequest.started P s₀ requests).exec (system P) ms) := by
  have hstart : (HttpRequest.started P s₀ requests).Abiding (bookAccord P s₀ requests)
      (Booked P s₀ requests) fun _ _ _ => True :=
    ⟨fun i => prog_abides P s₀ requests i s₀, .start h₀⟩
  have hempty : Enrolling s₀ (HttpRequest.started P s₀ requests) := by
    refine ⟨fun kind u dto => ⟨.inl, ?_⟩, fun n hn => absurd hn List.not_mem_nil, .nil⟩
    rintro (h | ⟨i, hi⟩)
    · exact h
    · exact absurd hi List.not_mem_nil
  have hboth : (HttpRequest.started P s₀ requests).Abiding (bookAccord P s₀ requests)
      (Booked P s₀ requests) (fun _ _ _ => True) ∧
        Enrolling s₀ (HttpRequest.started P s₀ requests) := ⟨hstart, hempty⟩
  have step : ∀ (cfg : Serving ι Unit) (m : Move ι Nat),
      (cfg.Abiding (bookAccord P s₀ requests) (Booked P s₀ requests) (fun _ _ _ => True) ∧
        Enrolling s₀ cfg) →
      (cfg.move (system P) m).Abiding (bookAccord P s₀ requests) (Booked P s₀ requests)
        (fun _ _ _ => True) ∧ Enrolling s₀ (cfg.move (system P) m) := by
    intro cfg m h
    refine ⟨(h.1.move (bookAccord_honoured h₀) m).1, ?_⟩
    refine Config.move_cases (motive := Enrolling s₀) cfg m h.2 ?stepped ?faulted
      fun _ _ => ⟨h.2.entries, h.2.fresh, h.2.distinct⟩
    case stepped =>
      intro i c k _ hc
      have hi := h.1.threads i
      rw [hc] at hi
      exact enrolling_deliver h.2 i k (enrolled_exec (hi _ (.refl _)).1)
    case faulted =>
      intro i c k e _ _ _
      refine enrolling_deliver h.2 i k (.of_same ?_ rfl rfl)
      cases c with
      | roles c => cases c <;> rfl
      | privileges c => cases c <;> rfl
      | _ => rfl
  exact (Config.exec_inv_all step hboth ms).2

/-- Two rows of one kind have different names. -/
theorem AccessKind.entry_inj {kind : AccessKind} {u u' : Uuid} {dto dto' : AccessDto}
    (h : kind.entry s u = some dto) (h' : kind.entry s u' = some dto')
    (hname : dto.name = dto'.name) : u = u' := by
  cases kind with
  | role =>
    obtain ⟨row, hrow, rfl⟩ := Option.map_eq_some_iff.mp h
    obtain ⟨row', hrow', rfl⟩ := Option.map_eq_some_iff.mp h'
    exact Keyed.Table.find?_inj hrow hrow' hname
  | privilege =>
    obtain ⟨row, hrow, rfl⟩ := Option.map_eq_some_iff.mp h
    obtain ⟨row', hrow', rfl⟩ := Option.map_eq_some_iff.mp h'
    exact Keyed.Table.find?_inj hrow hrow' hname

end

namespace HttpRequest

/-- In every run of requests, the roles and the privileges that come about are those of distinct
requests that create them, which are the ones that return; names stay distinct. -/
theorem access_ledger {ι : Type} [DecidableEq ι] (P : Platform) (s₀ : Store)
    (h₀ : AccountsLinked s₀) (requests : ι → HttpRequest) (ms : List (Move ι Nat)) :
    AccessLedger requests s₀ ((started P s₀ requests).exec (system P) ms) := by
  have henrolling := enrolling_exec P h₀ requests ms
  have htold : ∀ i, (requests i).route.Created
      (((started P s₀ requests).exec (system P) ms).notesOf Creation.ofCmd i)
      (((started P s₀ requests).exec (system P) ms).threads i).outcome :=
    Config.exec_tells (Φ := fun i l o => (requests i).route.Created l o)
      (fun i => prog_created (requests i)) ms
  have hmem : ∀ i n, (i, n) ∈ createdBy ((started P s₀ requests).exec (system P) ms) ↔
      n ∈ ((started P s₀ requests).exec (system P) ms).notesOf Creation.ofCmd i :=
    fun i n => Config.mem_notesOf.symm
  refine ⟨henrolling.entries, henrolling.fresh, henrolling.distinct, ?once, ?requested, ?returned,
    fun kind u u' dto dto' => AccessKind.entry_inj⟩
  case once =>
    have hone : ∀ i, ((((started P s₀ requests).exec (system P) ms).notesOf Creation.ofCmd
        i).filterMap some).length ≤ 1 := by
      intro i
      rcases htold i with ⟨hnil, -⟩ | ⟨kind, u, dto, -, hone, -⟩
      · rw [hnil]
        exact Nat.zero_le 1
      · rw [hone]
        exact Nat.le_refl 1
    simpa [createdBy] using Config.nodup_picked some hone
  case requested =>
    rintro ⟨i, n⟩ hn
    have hnote := (hmem i n).mp hn
    rcases htold i with ⟨hnil, -⟩ | ⟨kind, u, dto, hroute, hone, -⟩
    · rw [hnil] at hnote
      exact absurd hnote List.not_mem_nil
    · rw [hone, List.mem_singleton] at hnote
      rw [hnote]
      exact hroute
  case returned =>
    intro i kind dto hroute
    rcases htold i with ⟨hnil, hwait⟩ | ⟨kind', u, dto', hroute', hone, hreturned⟩
    · refine iff_of_false (fun hret => ?_) ?_
      · exact hwait (by rw [hroute]; exact Option.some_ne_none _) (by rw [hret]; rfl)
      · rintro ⟨u, hu⟩
        have hnote := (hmem i _).mp hu
        rw [hnil] at hnote
        exact absurd hnote List.not_mem_nil
    · rw [hroute] at hroute'
      cases hroute'
      refine iff_of_true ?_ ⟨u, (hmem i _).mpr (by rw [hone]; exact List.mem_singleton_self _)⟩
      cases hthread : ((started P s₀ requests).exec (system P) ms).threads i with
      | ret a => rfl
      | fail e =>
        rw [hthread] at hreturned
        cases hreturned
      | call c k =>
        rw [hthread] at hreturned
        cases hreturned

/-! ## One role -/

theorem creatorStore_linked : AccountsLinked creatorStore := by
  have hroles : (∅ : Keyed.Table Uuid RoleRow RoleRow.name).put (.ofNat 7)
      ⟨"OTHER_STAFF", none, [.ofNat 6]⟩ = some creatorStore.roles := by rfl
  have husers : (∅ : Keyed.Table Uuid UserRow UserRow.email).put (.ofNat 8)
      ⟨"Ada", "Byron", "ada@example.com", ⟨"#secret"⟩, .ACTIVE, true, some (.ofNat 7)⟩ =
        some creatorStore.users := by rfl
  constructor
  · intro u row r hrow hr
    rw [Keyed.Table.find?_put husers] at hrow
    split at hrow
    · cases hrow
      cases hr
      exact ⟨_, Keyed.Table.find?_put_self hroles⟩
    · cases hrow
  · intro r row p hrow hp
    rw [Keyed.Table.find?_put hroles] at hrow
    split at hrow
    · cases hrow
      obtain rfl := List.mem_singleton.mp hp
      exact ⟨⟨"CAN_CREATE_ROLE", none⟩, by rfl⟩
    · cases hrow

/-- The request returns, and the role it has created is in the ledger. -/
theorem access_ledger_creator :
    ∃ n u, (AccessKind.role.entry ((started .plain creatorStore oneRole).exec (system .plain)
        (.replicate n (.step ()))).store u) = some ⟨"ROOT", none⟩ ∧
      AccessLedger oneRole creatorStore ((started .plain creatorStore oneRole).exec
        (system .plain) (.replicate n (.step ()))) := by
  obtain ⟨n, hreturned⟩ := oneRole_returns
  have hledger := access_ledger .plain creatorStore creatorStore_linked oneRole
    (.replicate n (.step ()))
  obtain ⟨u, hu⟩ := (hledger.returned () .role ⟨"ROOT", none⟩ rfl).mp hreturned
  exact ⟨n, u, (hledger.entries .role u _).mpr (.inr ⟨(), hu⟩), hledger⟩

end HttpRequest

end VoltFleet
