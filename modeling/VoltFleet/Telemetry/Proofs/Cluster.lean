import VoltFleet.Misc.Placed
import VoltFleet.System.ClusterConfig
import VoltFleet.Telemetry.Proofs.Scoping
import VoltFleet.Telemetry.Proofs.Subscriptions

/-!
# Readings in a cluster

The workers share the database and Redis, and each has a websocket server of its
own; no adapter connects the servers.  A reading that one worker sends reaches the
subscribers of its fleet exactly when none of them is connected to another worker.
-/

namespace VoltFleet

open Awaiting Service

/-- The stores all workers share, and the websocket server of each worker.  The gateway
of `shared` is no worker's. -/
structure Cluster (W : Type) where
  shared : Store
  gateways : W → Gateway

/-- What happens outside the services: what a client does at the worker it is connected
to, and time passing. -/
inductive ClusterEvent (W : Type) where
  | client (worker : W) (e : ClientEvent)
  | elapse (d : Nat)
  deriving DecidableEq

/-- An ingested reading and the worker that handles it. -/
structure IngestRequest (W : Type) where
  worker : W
  dto : CreateTelemetryDto

variable {W : Type} [DecidableEq W]

namespace Cluster

/-- The stores as a worker sees them. -/
def see (w : W) (cl : Cluster W) : Store := { cl.shared with gateway := cl.gateways w }

/-- The cluster once a worker has left its stores as `s`. -/
def put (w : W) (s : Store) (cl : Cluster W) : Cluster W :=
  ⟨{ s with gateway := cl.shared.gateway }, Function.update cl.gateways w s.gateway⟩

/-- The cluster before any client has connected. -/
def start (s : Store) : Cluster W := ⟨s, fun _ => .empty⟩

@[simp] theorem put_gateways_self (w : W) (s : Store) (cl : Cluster W) :
    (cl.put w s).gateways w = s.gateway := Function.update_self ..

theorem put_gateways_ne {w w' : W} (h : w' ≠ w) (s : Store) (cl : Cluster W) :
    (cl.put w s).gateways w' = cl.gateways w' := Function.update_of_ne h _ _

end Cluster

/-- What an event does to its worker, or the time to the shared store. -/
def ClusterEvent.apply : ClusterEvent W → Cluster W → Cluster W
  | .client worker e, cl =>
      { cl with gateways := Function.update cl.gateways worker ((cl.gateways worker).handle e) }
  | .elapse d, cl => { cl with shared := VoltFleet.elapse d cl.shared }

@[simp] theorem ClusterEvent.apply_client_self (w : W) (e : ClientEvent) (cl : Cluster W) :
    ((client w e).apply cl).gateways w = (cl.gateways w).handle e := Function.update_self ..

theorem ClusterEvent.apply_client_ne {w w' : W} (h : w' ≠ w) (e : ClientEvent) (cl : Cluster W) :
    ((client w e).apply cl).gateways w' = cl.gateways w' := Function.update_of_ne h _ _

/-- The services of all workers and the clients of their gateways. -/
def clusterSystem (W : Type) [DecidableEq W] (P : Platform) :
    System (W × Cmd) (fun c => c.2.Answer) Thrown (Cluster W) (ClusterEvent W) :=
  ⟨Handler.placed (exec P) Cluster.see Cluster.put, fun c => canFail c.2, ClusterEvent.apply⟩

/-- Requests that are being served by the workers. -/
abbrev ClusterServing (W ι : Type) : Type :=
  Config ι (W × Cmd) (fun c => c.2.Answer) Thrown Unit (Cluster W)

namespace IngestRequest

/-- The request as a thread. -/
def prog (req : IngestRequest W) : Prog (W × Cmd) (fun c => c.2.Answer) Thrown Unit :=
  (LiveOp.ingestTelemetry req.dto).prog.placed req.worker

/-- The command that sends the request's reading. -/
def Sends (req : IngestRequest W) (c : W × Cmd) : Prop :=
  c.1 = req.worker ∧
    ∃ receivedAt, c.2 = .process (.broadcast req.dto.room (LiveOp.reading req.dto receivedAt))

omit [DecidableEq W] in
/-- A reading of a fleet is sent before its request returns. -/
theorem prog_requires {req : IngestRequest W} (h : req.dto.room ≠ "") :
    req.prog.Requires req.Sends := by
  refine Prog.Requires.placed (P := fun c => ∃ receivedAt,
    c = Cmd.process (.broadcast req.dto.room (LiveOp.reading req.dto receivedAt))) ?_ req.worker
  refine Prog.Requires.bind ?_
  refine Prog.Requires.of_bind fun vehicle => ?_
  cases vehicle with
  | none => trivial
  | some v =>
    refine Prog.Requires.of_bind fun receivedAt => ?_
    show Prog.Requires _ (if _ then _ else _)
    rw [if_pos h]
    exact .inl ⟨receivedAt, rfl⟩

end IngestRequest

namespace Cluster

/-- A reading one worker sends between two states of the cluster reaches every client that
is subscribed to its fleet, on whichever worker. -/
def Reaches (cl cl' : Cluster W) : Prop :=
  ∀ w d, (cl'.gateways w).emitted = d :: (cl.gateways w).emitted →
    ∀ w' client, (cl.gateways w').Subscribed client d.telemetry.fleetId →
      ∃ d', (cl'.gateways w').emitted = d' :: (cl.gateways w').emitted ∧
        d'.telemetry = d.telemetry ∧ client ∈ d'.clients

/-- Every client that is subscribed to the fleet is connected to the worker. -/
def SubscribersOn (cl : Cluster W) (w : W) (fleetId : String) : Prop :=
  ∀ w', w' ≠ w → ∀ client, ¬(cl.gateways w').Subscribed client fleetId

omit [DecidableEq W] in
theorem Reaches.of_eq {cl cl' : Cluster W}
    (h : ∀ w, (cl'.gateways w).emitted = (cl.gateways w).emitted) : cl.Reaches cl' := by
  intro w d hd
  rw [h] at hd
  exact absurd hd.symm (List.cons_ne_self _ _)

end Cluster

section

variable {ι : Type} [DecidableEq ι] {P : Platform}

/-- A client sends to the worker it is connected to, and to no other. -/
def clientsConform (cfg : ClusterServing W ι) : Move ι (ClusterEvent W) → Prop
  | .env (.client worker e) => (cfg.store.gateways worker).Admits (.client e)
  | _ => True

instance instDecidableClientsConform (cfg : ClusterServing W ι) :
    ∀ m, Decidable (clientsConform cfg m)
  | .env (.client worker e) =>
      inferInstanceAs (Decidable ((cfg.store.gateways worker).Admits (.client e)))
  | .env (.elapse _) => .isTrue trivial
  | .step _ => .isTrue trivial
  | .fault _ => .isTrue trivial

/-- The move does not send a reading, or all subscribers of the reading's fleet are on the
worker that sends it. -/
def subscribersOnWorker (cfg : ClusterServing W ι) : Move ι (ClusterEvent W) → Prop
  | .step i =>
      match cfg.threads i with
      | .call (w, .process (.broadcast fleetId _)) _ => cfg.store.SubscribersOn w fleetId
      | _ => True
  | _ => True

/-- Every request is at one of its points, and every gateway records what its clients have
sent. -/
def ClusterLive (reqs : ι → IngestRequest W) (cfg : ClusterServing W ι) : Prop :=
  (∀ i, ∃ p, cfg.threads i = p.placed (reqs i).worker ∧ LiveOp.IngestAt (reqs i).dto p) ∧
    ∀ w, ∃ es, ∀ client, (cfg.store.gateways w).Agrees es client

/-- A command of `ingestTelemetry` sends the reading, or leaves the gateway alone. -/
theorem LiveOp.IngestAwaits.gateway_eq {dto : CreateTelemetryDto} {c : Cmd}
    (h : LiveOp.IngestAwaits dto c) (s : Store) :
    (∃ receivedAt, c = .process (.broadcast dto.room (LiveOp.reading dto receivedAt))) ∨
      (exec P c s).2.gateway = s.gateway ∧ ∀ f x, c ≠ .process (.broadcast f x) := by
  cases h with
  | findOne => exact .inr ⟨rfl, fun _ _ h => by cases h⟩
  | now => exact .inr ⟨rfl, fun _ _ h => by cases h⟩
  | broadcast receivedAt => exact .inl ⟨receivedAt, rfl⟩
  | insert => exact .inr ⟨LiveOp.insertTelemetry_gateway P _ s, fun _ _ h => by cases h⟩

omit [DecidableEq W] [DecidableEq ι] in
/-- What a thread of a live cluster awaits. -/
theorem ClusterLive.awaits {reqs : ι → IngestRequest W} {cfg : ClusterServing W ι}
    (h : ClusterLive reqs cfg) {i : ι} {c : W × Cmd}
    {k : Except Thrown c.2.Answer → Prog (W × Cmd) (fun c => c.2.Answer) Thrown Unit}
    (hc : cfg.threads i = .call c k) : c.1 = (reqs i).worker ∧
      LiveOp.IngestAwaits (reqs i).dto c.2 ∧
      ∀ r, ∃ p, k r = p.placed (reqs i).worker ∧ LiveOp.IngestAt (reqs i).dto p := by
  obtain ⟨p, hp, hat⟩ := h.1 i
  rw [hc] at hp
  obtain ⟨hw, k', rfl, hk⟩ := Prog.placed_eq_call hp.symm
  exact ⟨hw, hat.awaits, fun r => ⟨k' r, hk r, hat.answer r⟩⟩

/-- A command at one worker leaves every gateway with the record of its clients. -/
theorem agrees_put {cl : Cluster W} (h : ∀ w, ∃ es, ∀ client, (cl.gateways w).Agrees es client)
    {dto : CreateTelemetryDto} {c : Cmd} (hc : LiveOp.IngestAwaits dto c) (w w' : W) :
    ∃ es, ∀ client, ((cl.put w (exec P c (cl.see w)).2).gateways w').Agrees es client := by
  by_cases hw : w' = w
  · subst hw
    obtain ⟨es, hes⟩ := h w'
    rw [Cluster.put_gateways_self]
    rcases hc.gateway_eq (P := P) (cl.see w') with ⟨receivedAt, rfl⟩ | ⟨hg, -⟩
    · refine ⟨es ++ [.broadcast dto.room (LiveOp.reading dto receivedAt)], fun client => ?_⟩
      exact (hes client).serve (e := .broadcast _ _) trivial
    · rw [hg]
      exact ⟨es, hes⟩
  · rw [Cluster.put_gateways_ne hw]
    exact h w'

theorem clusterLive_move {reqs : ι → IngestRequest W} {cfg : ClusterServing W ι}
    (h : ClusterLive reqs cfg) (m : Move ι (ClusterEvent W)) (hm : clientsConform cfg m) :
    ClusterLive reqs (cfg.move (clusterSystem W P) m) := by
  refine Config.move_cases cfg m h ?stepped ?faulted ?outside
  case stepped =>
    intro i c k _ hc
    obtain ⟨hw, hawaits, hk⟩ := h.awaits hc
    refine ⟨?_, agrees_put h.2 hawaits c.1⟩
    exact Config.threads_deliver (T := fun j q => ∃ p, q = p.placed (reqs j).worker ∧
      LiveOp.IngestAt (reqs j).dto p) (hk _) fun j _ => h.1 j
  case faulted =>
    intro i c k e _ hc _
    obtain ⟨hw, hawaits, hk⟩ := h.awaits hc
    refine ⟨?_, h.2⟩
    exact Config.threads_deliver (T := fun j q => ∃ p, q = p.placed (reqs j).worker ∧
      LiveOp.IngestAt (reqs j).dto p) (hk _) fun j _ => h.1 j
  case outside =>
    intro x hx
    refine ⟨h.1, ?_⟩
    cases x with
    | elapse d => exact h.2
    | client worker e =>
      subst hx
      intro w
      by_cases hw : w = worker
      · subst hw
        obtain ⟨es, hes⟩ := h.2 w
        refine ⟨es ++ [.client e], fun client => ?_⟩
        show (((ClusterEvent.client w e).apply cfg.store).gateways w).Agrees _ client
        rw [ClusterEvent.apply_client_self]
        exact (hes client).serve hm
      · show ∃ es, ∀ client,
          (((ClusterEvent.client worker e).apply cfg.store).gateways w).Agrees es client
        rw [ClusterEvent.apply_client_ne hw]
        exact h.2 w

/-- A subscriber of a fleet is reached by what its own gateway sends to the fleet. -/
theorem Gateway.mem_members {g : Gateway} {es : List GatewayEvent} {client : ClientId}
    (h : g.Agrees es client) {fleetId : String} (hs : g.Subscribed client fleetId) :
    client ∈ g.members (fleetRoom fleetId) := by
  have hconnected : client ∈ g.connected := by
    by_contra hgone
    exact subscribed_of_none (h.entry hgone) hs
  exact Finset.mem_filter.mpr ⟨hconnected, (h.rooms hconnected fleetId).mpr hs⟩

/-- Sending a reading reaches all its subscribers if and only if they are all on the worker. -/
theorem reaches_broadcast_iff {cl : Cluster W}
    (h : ∀ w, ∃ es, ∀ client, (cl.gateways w).Agrees es client) (w : W) (x : TelemetryPayload) :
    cl.Reaches (cl.put w (exec P (.process (.broadcast x.fleetId x)) (cl.see w)).2) ↔
      cl.SubscribersOn w x.fleetId := by
  have hself : ((cl.put w (exec P (.process (.broadcast x.fleetId x)) (cl.see w)).2).gateways
      w).emitted = ⟨(cl.gateways w).members (Gateway.fleetRoom x.fleetId), x⟩ ::
        (cl.gateways w).emitted := by
    rw [Cluster.put_gateways_self]
    rfl
  constructor
  · intro hreach w' hne client hsub
    obtain ⟨d', hd', -, -⟩ := hreach w _ hself w' client hsub
    rw [Cluster.put_gateways_ne hne] at hd'
    exact absurd hd'.symm (List.cons_ne_self _ _)
  · intro hon v d hd w' client hsub
    by_cases hv : v = w
    · subst hv
      rw [hself] at hd
      obtain rfl := (List.cons.inj hd).1
      by_cases hw' : w' = v
      · subst hw'
        obtain ⟨es, hes⟩ := h w'
        exact ⟨_, hself, rfl, Gateway.mem_members (hes client) hsub⟩
      · exact absurd hsub (hon w' hw' client)
    · rw [Cluster.put_gateways_ne hv] at hd
      exact absurd hd.symm (List.cons_ne_self _ _)

theorem reaches_move_iff {reqs : ι → IngestRequest W} {cfg : ClusterServing W ι}
    (h : ClusterLive reqs cfg) (m : Move ι (ClusterEvent W)) :
    cfg.store.Reaches (cfg.move (clusterSystem W P) m).store ↔ subscribersOnWorker cfg m := by
  have same : cfg.store.Reaches cfg.store := .of_eq fun _ => rfl
  cases m with
  | step i =>
    cases hc : cfg.threads i with
    | ret a => simpa [Config.move, subscribersOnWorker, hc] using same
    | fail e => simpa [Config.move, subscribersOnWorker, hc] using same
    | call c k =>
      obtain ⟨w, c⟩ := c
      obtain ⟨-, hawaits, -⟩ := h.awaits hc
      have hmove : (cfg.move (clusterSystem W P) (.step i)).store =
          cfg.store.put w (exec P c (cfg.store.see w)).2 := by
        simp only [Config.move, hc]
        rfl
      rw [hmove, subscribersOnWorker, hc]
      rcases hawaits.gateway_eq (P := P) (cfg.store.see w) with ⟨receivedAt, rfl⟩ | ⟨hg, hne⟩
      · exact reaches_broadcast_iff h.2 w (LiveOp.reading (reqs i).dto receivedAt)
      · refine iff_of_true (.of_eq fun w' => ?_) ?_
        · by_cases hw : w' = w
          · subst hw
            rw [Cluster.put_gateways_self, hg]
            rfl
          · rw [Cluster.put_gateways_ne hw]
        · split
          · rename_i hcall
            cases hcall
            exact absurd rfl (hne _ _)
          · trivial
  | fault i =>
    refine iff_of_true ?_ trivial
    exact Config.move_cases (motive := fun cfg' => cfg.store.Reaches cfg'.store) cfg _ same
      (fun _ _ _ h => by cases h) (fun _ _ _ _ _ _ _ => same) (fun _ h => by cases h)
  | env x =>
    refine iff_of_true ?_ trivial
    cases x with
    | elapse d => exact same
    | client worker e =>
      refine .of_eq fun w => ?_
      show (((ClusterEvent.client worker e).apply cfg.store).gateways w).emitted = _
      by_cases hw : w = worker
      · subst hw
        rw [ClusterEvent.apply_client_self]
        exact Gateway.handle_emitted _ e
      · rw [ClusterEvent.apply_client_ne hw]

/-- The configuration in which no client has connected and no request is served yet. -/
def ingestStart (reqs : ι → IngestRequest W) (s : Store) : ClusterServing W ι :=
  .start (.start s) fun i => (reqs i).prog

omit [DecidableEq W] [DecidableEq ι] in
theorem clusterLive_start (reqs : ι → IngestRequest W) (s : Store) :
    ClusterLive reqs (ingestStart reqs s) :=
  ⟨fun _ => ⟨_, rfl, .start⟩, fun _ => ⟨[], Gateway.agrees_empty⟩⟩

omit [DecidableEq W] in
/-- A request for a fleet that has returned has sent its reading. -/
theorem returned_sent (reqs : ι → IngestRequest W) (s : Store)
    {S : System (W × Cmd) (fun c => c.2.Answer) Thrown (Cluster W) (ClusterEvent W)}
    (ms : List (Move ι (ClusterEvent W))) {i : ι} (hroom : (reqs i).dto.room ≠ "")
    (h : ((ingestStart reqs s).exec S ms).threads i = .ret ()) :
    ∃ e ∈ ((ingestStart reqs s).exec S ms).trace, e.thread = i ∧ (reqs i).Sends e.cmd := by
  have hstart : ((ingestStart reqs s).threads i).Requires (reqs i).Sends :=
    IngestRequest.prog_requires hroom
  have hrun := Config.exec_requires (S := S) (.inl hstart) ms
  rw [h] at hrun
  exact hrun.resolve_left id

end

/-! ## The servers of a deployment -/

/-- In every run of a deployment, each request for a fleet that returns has sent its reading,
and every reading that is sent reaches all clients subscribed to its fleet if and only
if, whenever one is sent, these clients are all connected to the worker that sends it. -/
theorem cluster_reaches_iff (P : Platform) (nodeEnv : Option String) (numCPUs : Nat) (s : Store)
    {ι : Type} [DecidableEq ι]
    (reqs : ι → IngestRequest (Fin (ClusterConfig.servers nodeEnv numCPUs)))
    (ms : List (Move ι (ClusterEvent (Fin (ClusterConfig.servers nodeEnv numCPUs)))))
    (hclients : Config.Along (clusterSystem _ P) clientsConform (ingestStart reqs s) ms) :
    (∀ i, (reqs i).dto.room ≠ "" →
      ((ingestStart reqs s).exec (clusterSystem _ P) ms).threads i = .ret () →
      ∃ e ∈ ((ingestStart reqs s).exec (clusterSystem _ P) ms).trace,
        e.thread = i ∧ (reqs i).Sends e.cmd) ∧
    (Config.Along (clusterSystem _ P)
        (fun cfg m => cfg.store.Reaches (cfg.move (clusterSystem _ P) m).store)
        (ingestStart reqs s) ms ↔
      Config.Along (clusterSystem _ P) subscribersOnWorker (ingestStart reqs s) ms) := by
  refine ⟨fun i hroom h => returned_sent reqs s ms hroom h, ?_⟩
  have step : ∀ cfg m, ClusterLive reqs cfg → clientsConform cfg m →
      ClusterLive reqs (cfg.move (clusterSystem _ P) m) := fun _ m h hm => clusterLive_move h m hm
  have iff : ∀ cfg m, ClusterLive reqs cfg → clientsConform cfg m →
      (cfg.store.Reaches (cfg.move (clusterSystem _ P) m).store ↔ subscribersOnWorker cfg m) :=
    fun _ m h _ => reaches_move_iff h m
  exact Config.along_congr_of_inv step iff (clusterLive_start reqs s) hclients

/-- The servers of a deployment with two CPUs. -/
abbrev Production : Type := Fin (ClusterConfig.servers (some "production") 2)

/-- One of the workers. -/
def firstWorker : Production := ⟨0, by decide⟩

/-- The other worker. -/
def secondWorker : Production := ⟨1, by decide⟩

/-- One reading of the vehicle of `FleetOp.vehicleAndFleet`, ingested by the worker `w`. -/
def oneReading (w : Production) (_ : Unit) : IngestRequest Production :=
  ⟨w, ⟨(Uuid.ofNat 1).text, 52, 13, 80, 50, 21, some "f"⟩⟩

/-- A client subscribes at the first worker, and the reading is ingested. -/
def subscribeThenIngest : List (Move Unit (ClusterEvent Production)) :=
  [.env (.client firstWorker (.connect "dashboard")),
    .env (.client firstWorker (.subscribe "f" "dashboard")),
    .step (), .step (), .step (), .step ()]

theorem cluster_reaches_iff_production :
    Config.Along (clusterSystem _ .plain)
        (fun cfg m => cfg.store.Reaches (cfg.move (clusterSystem _ .plain) m).store)
        (ingestStart (oneReading firstWorker) FleetOp.vehicleAndFleet) subscribeThenIngest ↔
      Config.Along (clusterSystem _ .plain) subscribersOnWorker
        (ingestStart (oneReading firstWorker) FleetOp.vehicleAndFleet) subscribeThenIngest :=
  (cluster_reaches_iff .plain (some "production") 2 FleetOp.vehicleAndFleet
    (oneReading firstWorker) subscribeThenIngest (by decide +kernel)).2

/-- The subscriber of the fleet is connected to the first worker, the second is sent the
reading, and the subscriber does not receive it. -/
theorem reading_misses_other_worker :
    Config.Along (clusterSystem _ .plain) clientsConform
        (ingestStart (oneReading secondWorker) FleetOp.vehicleAndFleet) subscribeThenIngest ∧
      ¬ Config.Along (clusterSystem _ .plain)
        (fun cfg m => cfg.store.Reaches (cfg.move (clusterSystem _ .plain) m).store)
        (ingestStart (oneReading secondWorker) FleetOp.vehicleAndFleet) subscribeThenIngest := by
  refine ⟨by decide +kernel, fun h => ?_⟩
  have hsend := h.2.2.2.2.1
  obtain ⟨d', hd', -, -⟩ := hsend secondWorker
    ⟨∅, ⟨(Uuid.ofNat 1).text, "f", 52, 13, 80, 50, 21, 0⟩⟩ (by decide +kernel) firstWorker
    "dashboard" ⟨{"f"}, by decide, by decide⟩
  exact List.cons_ne_self _ _ hd'.symm

end VoltFleet
