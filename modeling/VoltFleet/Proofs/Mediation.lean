import VoltFleet.Auth.Proofs.Authorisation
import VoltFleet.Proofs.Escalation
import VoltFleet.Proofs.RouteCommands

/-!
# Protected handlers act for the privileged only

A request to a route with required privileges issues no command of its handler, and
does not return, before its own guards have let it pass: its token was accepted at
one moment of the run, and at a later moment the account of the token was stored
with every required privilege.  What other requests do in between, to the account or
to the role, and whichever calls fail, does not open the handler.
-/

namespace VoltFleet

open Awaiting

namespace HttpRequest

variable {ι : Type} [DecidableEq ι]

section

variable (P : Platform) (s₀ : Store) (requests : ι → HttpRequest) (required : List AllPrivileges)
  (i : ι)

/-- The store after some moves of the run. -/
def storeAfter (ms : List (Move ι Nat)) : Store :=
  ((started P s₀ requests).exec (system P) ms).store

/-- The token of the request was accepted before one of its steps. -/
def Verified (ms : List (Move ι Nat)) (claims : JwtClaims) : Prop :=
  ∃ token before later, (requests i).bearer = some token ∧ ms = before ++ .step i :: later ∧
    P.jwt.verify (storeAfter P s₀ requests before).clock token = some claims

/-- The account of these claims was stored with every required privilege before a step of the
request, and the token had been accepted before. -/
def Mediated (ms : List (Move ι Nat)) : Prop :=
  ∃ claims before later u row, ms = before ++ .step i :: later ∧
    Verified P s₀ requests i before claims ∧
    (storeAfter P s₀ requests before).users.find? u = some row ∧
    row.email = claims.payload.email ∧
    ∀ p ∈ required, (storeAfter P s₀ requests before).Grants row p.text

/-- The request has done something besides what its guards do. -/
def Acts (cfg : Serving ι Unit) : Prop :=
  (∃ e ∈ cfg.trace, e.thread = i ∧ ¬GuardCmd e.cmd) ∨ cfg.threads i = .ret ()

/-- Where the request is: not yet admitted, and without a command of its handler, or admitted. -/
inductive Phase (ms : List (Move ι Nat)) (cfg : Serving ι Unit) : Prop where
  | starting (hthread : cfg.threads i = (requests i).prog P)
      (htrace : ∀ e ∈ cfg.trace, e.thread = i → GuardCmd e.cmd)
  | verified (claims : JwtClaims) (hverified : Verified P s₀ requests i ms claims)
      (hthread : cfg.threads i =
        JwtStrategy.validate claims.payload >>= (requests i).authorized P)
      (htrace : ∀ e ∈ cfg.trace, e.thread = i → GuardCmd e.cmd)
  | refused (e : Thrown) (hthread : cfg.threads i = .fail e)
      (htrace : ∀ e ∈ cfg.trace, e.thread = i → GuardCmd e.cmd)
  | admitted (hmediated : Mediated P s₀ requests required i ms)

end

section

variable {P : Platform} {s₀ : Store} {requests : ι → HttpRequest} {required : List AllPrivileges}
  {i : ι} {ms : List (Move ι Nat)} {cfg : Serving ι Unit}

theorem Verified.snoc {claims : JwtClaims} (h : Verified P s₀ requests i ms claims)
    (m : Move ι Nat) : Verified P s₀ requests i (ms ++ [m]) claims := by
  obtain ⟨token, before, later, hbearer, rfl, hv⟩ := h
  exact ⟨token, before, later ++ [m], hbearer, by simp, hv⟩

theorem Mediated.snoc (h : Mediated P s₀ requests required i ms) (m : Move ι Nat) :
    Mediated P s₀ requests required i (ms ++ [m]) := by
  obtain ⟨claims, before, later, u, row, rfl, h⟩ := h
  exact ⟨claims, before, later ++ [m], u, row, by simp, h⟩

/-- What another thread does leaves the phase. -/
theorem Phase.other (h : Phase P s₀ requests required i ms cfg) (m : Move ι Nat)
    {cfg' : Serving ι Unit} (hthread : cfg'.threads i = cfg.threads i)
    (htrace : ∀ e ∈ cfg'.trace, e.thread = i → e ∈ cfg.trace) :
    Phase P s₀ requests required i (ms ++ [m]) cfg' := by
  cases h with
  | starting hstart hguard =>
    exact .starting (hthread.trans hstart) fun e he hi => hguard e (htrace e he hi) hi
  | verified claims hverified hstart hguard =>
    exact .verified claims (hverified.snoc m) (hthread.trans hstart)
      fun e he hi => hguard e (htrace e he hi) hi
  | refused e hstart hguard =>
    exact .refused e (hthread.trans hstart) fun e he hi => hguard e (htrace e he hi) hi
  | admitted hmediated => exact .admitted (hmediated.snoc m)

/-- The first answer is the time, by which the token is accepted or not. -/
theorem phase_starting (hprog : (requests i).prog P =
      VoltFleet.authGuard P (requests i).bearer >>= (requests i).authorized P)
    (hcfg : cfg = (started P s₀ requests).exec (system P) ms) {c : Cmd}
    {k : Except Thrown c.Answer → Service Unit} (hc : (requests i).prog P = .call c k)
    (htrace : ∀ e ∈ cfg.trace, e.thread = i → GuardCmd e.cmd) :
    Phase P s₀ requests required i (ms ++ [.step i])
      (cfg.deliver i c k ((system P).handler c cfg.store).1
        ((system P).handler c cfg.store).2) := by
  rw [hprog] at hc
  cases hbearer : (requests i).bearer with
  | none =>
    rw [hbearer] at hc
    cases hc
  | some token =>
    obtain ⟨k', hk', hverify⟩ := authGuard_bind (P := P) token ((requests i).authorized P)
    rw [hbearer, hk'] at hc
    cases hc
    have hguard : ∀ e ∈ (cfg.deliver i (.process .now) k' (.ok cfg.store.clock) cfg.store).trace,
        e.thread = i → GuardCmd e.cmd :=
      List.forall_mem_cons.mpr ⟨fun _ => .now, htrace⟩
    have hthread : (cfg.deliver i (.process .now) k' (.ok cfg.store.clock) cfg.store).threads i =
        guardVerify P token cfg.store.clock >>= (requests i).authorized P :=
      (Config.deliver_threads_self ..).trans (hverify _)
    cases hv : P.jwt.verify cfg.store.clock token with
    | none =>
      rw [guardVerify, hv] at hthread
      exact .refused _ hthread hguard
    | some claims =>
      rw [guardVerify, hv] at hthread
      refine .verified claims ⟨token, ms, [], hbearer, rfl, ?_⟩ hthread hguard
      rw [storeAfter, ← hcfg]
      exact hv

/-- The second answer is the account, by which the request is admitted or not. -/
theorem phase_verified (hguards : (requests i).route.guards = .privilegesGuard required)
    (hcfg : cfg = (started P s₀ requests).exec (system P) ms) {claims : JwtClaims}
    (hverified : Verified P s₀ requests i ms claims) {c : Cmd}
    {k : Except Thrown c.Answer → Service Unit}
    (hc : (JwtStrategy.validate claims.payload >>= (requests i).authorized P) = .call c k)
    (htrace : ∀ e ∈ cfg.trace, e.thread = i → GuardCmd e.cmd) :
    Phase P s₀ requests required i (ms ++ [.step i])
      (cfg.deliver i c k ((system P).handler c cfg.store).1
        ((system P).handler c cfg.store).2) := by
  cases hc
  have hguard : ∀ k r s, ∀ e ∈ (cfg.deliver i (.users (.findOneByEmail claims.payload.email)) k r
      s).trace, e.thread = i → GuardCmd e.cmd :=
    fun k r s => List.forall_mem_cons.mpr ⟨fun _ => .findUserByEmail _, htrace⟩
  have hanswer : ((system P).handler (.users (.findOneByEmail claims.payload.email)) cfg.store).1 =
      .ok (cfg.store.userByEmail claims.payload.email) := rfl
  rw [hanswer]
  cases huser : cfg.store.userByEmail claims.payload.email with
  | none => exact .refused _ (Config.deliver_threads_self ..) (hguard _ _ _)
  | some user =>
    have hthread : (requests i).authorized P user = (do
        Service.lift (PrivilegesGuard.canActivate (required.map AllPrivileges.text) (some user))
        (requests i).handle P) := by
      unfold authorized
      rw [hguards]
    cases hactivate : PrivilegesGuard.canActivate (required.map AllPrivileges.text) (some user) with
    | error e =>
      rw [hactivate] at hthread
      exact .refused e ((Config.deliver_threads_self ..).trans hthread) (hguard _ _ _)
    | ok _ =>
      obtain ⟨u, row, hrow, hemail, rfl⟩ := userByEmail_eq_some.mp huser
      refine .admitted ⟨claims, ms, [], u, row, rfl, hverified, ?_, hemail, fun p hp => ?_⟩
      · rw [storeAfter, ← hcfg]
        exact hrow
      · rw [storeAfter, ← hcfg]
        exact mem_privilegeNames.mp (canActivate_eq_ok.mp hactivate _ (List.mem_map_of_mem hp))

/-- One move. -/
theorem Phase.move (hguards : (requests i).route.guards = .privilegesGuard required)
    (hcfg : cfg = (started P s₀ requests).exec (system P) ms)
    (h : Phase P s₀ requests required i ms cfg) (m : Move ι Nat) :
    Phase P s₀ requests required i (ms ++ [m]) (cfg.move (system P) m) := by
  have hprog : (requests i).prog P =
      VoltFleet.authGuard P (requests i).bearer >>= (requests i).authorized P := by
    unfold prog
    rw [hguards]
  have others : ∀ j c k r s, j ≠ i → Phase P s₀ requests required i (ms ++ [m])
      (cfg.deliver j c k r s) := by
    intro j c k r s hj
    refine h.other m (Config.deliver_threads_ne cfg (Ne.symm hj) ..) fun e he hi => ?_
    rcases List.mem_cons.mp he with rfl | he
    · exact absurd hi hj
    · exact he
  refine Config.move_cases (motive := Phase P s₀ requests required i (ms ++ [m])) cfg m
    (h.other m rfl fun e he _ => he) ?stepped ?faulted fun x _ => h.other m rfl fun e he _ => he
  case stepped =>
    intro j c k hm hc
    by_cases hj : j = i
    · subst hj hm
      cases h with
      | starting hthread htrace => exact phase_starting hprog hcfg (hthread.symm.trans hc) htrace
      | verified claims hverified hthread htrace =>
        exact phase_verified hguards hcfg hverified (hthread.symm.trans hc) htrace
      | refused e hthread htrace =>
        rw [hthread] at hc
        cases hc
      | admitted hmediated => exact .admitted (hmediated.snoc _)
    · exact others j c k _ _ hj
  case faulted =>
    intro j c k e hm hc hf
    by_cases hj : j = i
    · subst hj
      cases h with
      | starting hthread htrace =>
        rw [hprog] at hthread
        rw [hthread] at hc
        cases hbearer : (requests j).bearer with
        | none =>
          rw [hbearer] at hc
          cases hc
        | some token =>
          rw [hbearer] at hc
          cases hc
          cases hf
      | verified claims hverified hthread htrace =>
        rw [hthread] at hc
        cases hc
        exact .refused e (Config.deliver_threads_self ..)
          (List.forall_mem_cons.mpr ⟨fun _ => .findUserByEmail _, htrace⟩)
      | refused e' hthread htrace =>
        rw [hthread] at hc
        cases hc
      | admitted hmediated => exact .admitted (hmediated.snoc _)
    · exact others j c k _ _ hj

theorem phase_exec (hguards : (requests i).route.guards = .privilegesGuard required)
    (ms : List (Move ι Nat)) : Phase P s₀ requests required i ms
      ((started P s₀ requests).exec (system P) ms) := by
  induction ms using List.reverseRecOn with
  | nil => exact .starting rfl fun e he => absurd he List.not_mem_nil
  | append_singleton ms m ih =>
    rw [Config.exec_append]
    exact ih.move hguards rfl m

/-- A program that starts with a guard's command has not returned. -/
theorem Phase.mediated (h : Phase P s₀ requests required i ms cfg)
    (hguards : (requests i).route.guards = .privilegesGuard required) (hacts : Acts i cfg) :
    Mediated P s₀ requests required i ms := by
  have waiting : (∀ e ∈ cfg.trace, e.thread = i → GuardCmd e.cmd) → cfg.threads i ≠ .ret () →
      Mediated P s₀ requests required i ms := by
    intro htrace hthread
    rcases hacts with ⟨e, he, hi, hcmd⟩ | hret
    · exact absurd (htrace e he hi) hcmd
    · exact absurd hret hthread
  cases h with
  | starting hthread htrace =>
    refine waiting htrace ?_
    rw [hthread, prog_guarded (by rw [hguards]; exact Guards.noConfusion)]
    cases (requests i).bearer with
    | none => exact fun h => (by cases h)
    | some token => exact fun h => (by cases h)
  | verified claims hverified hthread htrace =>
    refine waiting htrace ?_
    rw [hthread]
    exact fun h => (by cases h)
  | refused e hthread htrace =>
    refine waiting htrace ?_
    rw [hthread]
    exact fun h => (by cases h)
  | admitted hmediated => exact hmediated

end

/-- In every run, a request to a protected route acts only after its token has been accepted and
the account of the token was stored with every required privilege. -/
theorem protected_handlers_mediated (P : Platform) (s₀ : Store) (requests : ι → HttpRequest)
    (ms : List (Move ι Nat)) (i : ι) (required : List AllPrivileges)
    (hguards : (requests i).route.guards = .privilegesGuard required)
    (hacts : Acts i ((started P s₀ requests).exec (system P) ms)) :
    Mediated P s₀ requests required i ms :=
  (phase_exec hguards ms).mediated hguards hacts

/-! ## A role is created -/

/-- A member of the staff whose role lets it create roles. -/
def creatorStore : Store :=
  { Store.empty with
    privileges := ((∅ : Keyed.Table Uuid PrivilegeRow PrivilegeRow.name).put (.ofNat 6)
      ⟨"CAN_CREATE_ROLE", none⟩).getD ∅
    roles := ((∅ : Keyed.Table Uuid RoleRow RoleRow.name).put (.ofNat 7)
      ⟨"OTHER_STAFF", none, [.ofNat 6]⟩).getD ∅
    users := ((∅ : Keyed.Table Uuid UserRow UserRow.email).put (.ofNat 8)
      ⟨"Ada", "Byron", "ada@example.com", ⟨"#secret"⟩, .ACTIVE, true, some (.ofNat 7)⟩).getD ∅ }

/-- One request, to create a role. -/
def oneRole : Unit → HttpRequest := fun _ => twoRequests false

theorem oneRole_returns : ∃ n, ((started .plain creatorStore oneRole).exec (system .plain)
    (.replicate n (.step ()))).threads () = .ret () := by
  have hverify : Platform.plain.jwt.verify creatorStore.clock
      (Platform.plain.jwt.sign ⟨⟨"ada@example.com", none⟩, 0, 36000⟩) =
        some ⟨⟨"ada@example.com", none⟩, 0, 36000⟩ :=
    JwtService.verify_eq_some.mpr ⟨rfl, by decide⟩
  have hguards : (oneRole ()).route.guards = .privilegesGuard [.CAN_CREATE_ROLE] := rfl
  have hbearer : (oneRole ()).bearer =
    some (Platform.plain.jwt.sign ⟨⟨"ada@example.com", none⟩, 0, 36000⟩) := rfl
  have hadmitted : admission creatorStore ([AllPrivileges.CAN_CREATE_ROLE].map AllPrivileges.text)
      "ada@example.com" = .ok (creatorStore.userEntity (.ofNat 8) ⟨"Ada", "Byron",
        "ada@example.com", ⟨"#secret"⟩, .ACTIVE, true, some (.ofNat 7)⟩) := by rfl
  have hhandle : ((oneRole ()).handle .plain).run (exec .plain) creatorStore =
      (.ok (), (((oneRole ()).handle .plain).run (exec .plain) creatorStore).2) := by rfl
  have hauthorised := run_authorise hverify
    ([AllPrivileges.CAN_CREATE_ROLE].map AllPrivileges.text)
  have hrun : ((oneRole ()).prog .plain).run (exec .plain) creatorStore =
      (.ok (), (((oneRole ()).handle .plain).run (exec .plain) creatorStore).2) := by
    rw [prog_eq_authorise hguards]
    exact (Prog.run_bind_returns _).mpr
      ⟨_, creatorStore, hauthorised.trans (congrArg (·, creatorStore) hadmitted), hhandle⟩
  have hstart : (started .plain creatorStore oneRole).threads () = (oneRole ()).prog .plain := rfl
  obtain ⟨n, -, hthread, -⟩ := Config.exec_alone (S := system .plain) hstart hrun
  exact ⟨n, hthread⟩

/-- The role is created, and the request was admitted for it. -/
theorem protected_handlers_mediated_creator :
    ∃ n, Mediated .plain creatorStore oneRole [.CAN_CREATE_ROLE] () (.replicate n (.step ())) := by
  obtain ⟨n, hreturned⟩ := oneRole_returns
  exact ⟨n, protected_handlers_mediated .plain creatorStore oneRole _ () _ rfl (.inr hreturned)⟩

end HttpRequest

end VoltFleet
