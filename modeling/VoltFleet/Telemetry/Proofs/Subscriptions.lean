import VoltFleet.Telemetry.Proofs.Rooms
import Mathlib.Data.List.Induction

/-!
# Subscriptions over whole runs

The map of subscriptions and the rooms of the sockets are two records of the same
messages, and the handlers change them under different conditions.  Here the two
are followed through every run of a gateway, and compared with the messages
themselves.
-/

namespace VoltFleet

/-- What happens at a gateway: a client's event, or a reading that is sent on. -/
inductive GatewayEvent where
  | client (e : ClientEvent)
  | broadcast (fleetId : String) (telemetry : TelemetryPayload)
  deriving DecidableEq

/-- The client an event comes from. -/
def ClientEvent.sender : ClientEvent → ClientId
  | .connect client => client
  | .disconnect client => client
  | .subscribe _ client => client
  | .unsubscribe _ client => client

namespace Gateway

/-- What an event does to the gateway. -/
def serve (g : Gateway) : GatewayEvent → Gateway
  | .client e => g.handle e
  | .broadcast fleetId telemetry => g.broadcastToFleet fleetId telemetry

/-- The gateway after a run of events. -/
def serveAll (g : Gateway) (es : List GatewayEvent) : Gateway := es.foldl serve g

theorem serveAll_snoc (g : Gateway) (es : List GatewayEvent) (e : GatewayEvent) :
    g.serveAll (es ++ [e]) = (g.serveAll es).serve e := by
  rw [serveAll, List.foldl_append]
  rfl

/-- A socket connects once, and sends nothing before that or after it has disconnected. -/
def Admits (g : Gateway) : GatewayEvent → Prop
  | .client (.connect client) => client ∉ g.connected
  | .client e => e.sender ∈ g.connected
  | .broadcast .. => True

/-- Every event of the run is one its client can send. -/
def Conforms (g : Gateway) : List GatewayEvent → Prop
  | [] => True
  | e :: es => g.Admits e ∧ (g.serve e).Conforms es

theorem conforms_snoc {g : Gateway} {es : List GatewayEvent} {e : GatewayEvent} :
    g.Conforms (es ++ [e]) ↔ g.Conforms es ∧ (g.serveAll es).Admits e := by
  induction es generalizing g with
  | nil => exact ⟨fun h => ⟨trivial, h.1⟩, fun h => ⟨h.2, trivial⟩⟩
  | cons e' es ih =>
    rw [List.cons_append, Conforms, Conforms, ih, and_assoc]
    rfl

instance instDecidableAdmits (g : Gateway) : ∀ e, Decidable (g.Admits e)
  | .client (.connect client) => inferInstanceAs (Decidable (client ∉ g.connected))
  | .client (.disconnect client) => inferInstanceAs (Decidable (client ∈ g.connected))
  | .client (.subscribe _ client) => inferInstanceAs (Decidable (client ∈ g.connected))
  | .client (.unsubscribe _ client) => inferInstanceAs (Decidable (client ∈ g.connected))
  | .broadcast .. => .isTrue trivial

instance instDecidableConforms : ∀ (g : Gateway) es, Decidable (g.Conforms es)
  | _, [] => .isTrue trivial
  | g, e :: es => @instDecidableAnd _ _ _ (instDecidableConforms (g.serve e) es)

end Gateway

/-- The latest message about the fleet that the client has sent since it connected
subscribes it. -/
def LatestSubscribes (es : List GatewayEvent) (fleetId : String) (client : ClientId) : Prop :=
  ∃ es₁ es₂, es = es₁ ++ .client (.subscribe fleetId client) :: es₂ ∧
    GatewayEvent.client (.connect client) ∉ es₂ ∧
    GatewayEvent.client (.unsubscribe fleetId client) ∉ es₂

/-- One more event is the client's latest message about the fleet, or leaves it as it was. -/
theorem latestSubscribes_snoc {es : List GatewayEvent} {e : GatewayEvent} {fleetId : String}
    {client : ClientId} :
    LatestSubscribes (es ++ [e]) fleetId client ↔
      e = .client (.subscribe fleetId client) ∨ LatestSubscribes es fleetId client ∧
        e ≠ .client (.connect client) ∧ e ≠ .client (.unsubscribe fleetId client) := by
  constructor
  · rintro ⟨es₁, es₂, h, hc, hu⟩
    rcases List.eq_nil_or_concat es₂ with rfl | ⟨es₃, e', rfl⟩
    · have hlast := List.append_inj_right' h rfl
      exact .inl (List.head_eq_of_cons_eq hlast)
    · rw [List.concat_eq_append, ← List.cons_append, ← List.append_assoc] at h
      obtain rfl : e = e' := List.head_eq_of_cons_eq (List.append_inj_right' h rfl)
      simp only [List.concat_eq_append, List.mem_append, List.mem_singleton, not_or] at hc hu
      exact .inr ⟨⟨es₁, es₃, List.append_inj_left' h rfl, hc.1, hu.1⟩, Ne.symm hc.2, Ne.symm hu.2⟩
  · rintro (rfl | ⟨⟨es₁, es₂, rfl, hc, hu⟩, hec, heu⟩)
    · exact ⟨es, [], rfl, List.not_mem_nil, List.not_mem_nil⟩
    · refine ⟨es₁, es₂ ++ [e], by rw [List.append_assoc, List.cons_append], ?_, ?_⟩
      · simp only [List.mem_append, List.mem_singleton, not_or]
        exact ⟨hc, Ne.symm hec⟩
      · simp only [List.mem_append, List.mem_singleton, not_or]
        exact ⟨hu, Ne.symm heu⟩

namespace Gateway

theorem subscribed_of_none {g : Gateway} {client : ClientId} {fleetId : String}
    (h : g.subscriptions client = none) : ¬g.Subscribed client fleetId := by
  rintro ⟨set, hset, -⟩
  rw [h] at hset
  cases hset

theorem subscribed_of_some {g : Gateway} {client : ClientId} {fleetId : String}
    {set : Finset String} (h : g.subscriptions client = some set) :
    g.Subscribed client fleetId ↔ fleetId ∈ set := by
  constructor
  · rintro ⟨set', hset, hmem⟩
    rw [h] at hset
    cases hset
    exact hmem
  · intro hmem
    exact ⟨set, h, hmem⟩

/-- What the gateway records about one client once the events have taken place. -/
structure Agrees (g : Gateway) (es : List GatewayEvent) (client : ClientId) : Prop where
  rooms : client ∈ g.connected → ∀ fleetId,
    fleetRoom fleetId ∈ g.rooms client ↔ g.Subscribed client fleetId
  latest : client ∈ g.connected → ∀ fleetId,
    g.Subscribed client fleetId ↔ fleetId ≠ "" ∧ LatestSubscribes es fleetId client
  entry : client ∉ g.connected → g.subscriptions client = none

theorem agrees_empty (client : ClientId) : empty.Agrees [] client := by
  refine ⟨?_, ?_, fun _ => rfl⟩
  · intro h
    exact absurd h (Finset.notMem_empty client)
  · intro h
    exact absurd h (Finset.notMem_empty client)

/-- An event of another client leaves what is recorded about this one. -/
theorem Agrees.of_other {g g' : Gateway} {es : List GatewayEvent} {client : ClientId}
    (h : g.Agrees es client) {e : GatewayEvent}
    (he : ∀ e', e = .client e' → e'.sender ≠ client)
    (hconnected : client ∈ g'.connected ↔ client ∈ g.connected)
    (hrooms : g'.rooms client = g.rooms client)
    (hsubs : g'.subscriptions client = g.subscriptions client) :
    g'.Agrees (es ++ [e]) client := by
  have hsubscribed (fleetId : String) :
      g'.Subscribed client fleetId ↔ g.Subscribed client fleetId := by
    rw [Subscribed, Subscribed, hsubs]
  have hlatest (fleetId : String) :
      LatestSubscribes (es ++ [e]) fleetId client ↔ LatestSubscribes es fleetId client := by
    have hs : e ≠ .client (.subscribe fleetId client) := fun h => he _ h rfl
    have hc : e ≠ .client (.connect client) := fun h => he _ h rfl
    have hu : e ≠ .client (.unsubscribe fleetId client) := fun h => he _ h rfl
    rw [latestSubscribes_snoc]
    simp [hs, hc, hu]
  refine ⟨?_, ?_, ?_⟩
  · intro hmem fleetId
    rw [hrooms, hsubscribed]
    exact h.rooms (hconnected.mp hmem) fleetId
  · intro hmem fleetId
    rw [hsubscribed, hlatest]
    exact h.latest (hconnected.mp hmem) fleetId
  · intro hmem
    rw [hsubs]
    exact h.entry fun hm => hmem (hconnected.mpr hm)

/-- A handler touches the record of the client it serves and no other. -/
theorem handle_other (g : Gateway) (e : ClientEvent) {client : ClientId} (h : e.sender ≠ client) :
    (client ∈ (g.handle e).connected ↔ client ∈ g.connected) ∧
      (g.handle e).rooms client = g.rooms client ∧
      (g.handle e).subscriptions client = g.subscriptions client := by
  cases e with
  | connect sender =>
    have hne : client ≠ sender := Ne.symm h
    refine ⟨?_, Function.update_of_ne hne _ _, rfl⟩
    show client ∈ insert sender g.connected ↔ _
    rw [Finset.mem_insert, or_iff_right hne]
  | disconnect sender =>
    have hne : client ≠ sender := Ne.symm h
    refine ⟨?_, Function.update_of_ne hne _ _, Function.update_of_ne hne _ _⟩
    show client ∈ g.connected.erase sender ↔ _
    rw [Finset.mem_erase, and_iff_right hne]
  | subscribe fleetId sender =>
    have hne : client ≠ sender := Ne.symm h
    simp only [handle, handleSubscribe]
    split
    · exact ⟨Iff.rfl, rfl, rfl⟩
    · exact ⟨Iff.rfl, Function.update_of_ne hne _ _, Function.update_of_ne hne _ _⟩
  | unsubscribe fleetId sender =>
    have hne : client ≠ sender := Ne.symm h
    simp only [handle, handleUnsubscribe]
    split
    · exact ⟨Iff.rfl, rfl, rfl⟩
    · exact ⟨Iff.rfl, Function.update_of_ne hne _ _, Function.update_of_ne hne _ _⟩

theorem Agrees.connect {g : Gateway} {es : List GatewayEvent} {client : ClientId}
    (h : g.Agrees es client) (hnew : client ∉ g.connected) :
    (g.handleConnection client).Agrees (es ++ [.client (.connect client)]) client := by
  have hnone : (g.handleConnection client).subscriptions client = none := h.entry hnew
  have hnot (fleetId : String) : ¬(g.handleConnection client).Subscribed client fleetId :=
    subscribed_of_none hnone
  refine ⟨?_, ?_, fun _ => hnone⟩
  · intro _ fleetId
    have hroom : fleetRoom fleetId ∉ (g.handleConnection client).rooms client := by
      simp [handleConnection]
    exact iff_of_false hroom (hnot fleetId)
  · intro _ fleetId
    have hlatest : ¬LatestSubscribes (es ++ [.client (.connect client)]) fleetId client := by
      simp [latestSubscribes_snoc]
    exact iff_of_false (hnot fleetId) fun h => hlatest h.2

theorem Agrees.disconnect {g : Gateway} {es : List GatewayEvent} {client : ClientId} :
    (g.handleDisconnect client).Agrees (es ++ [.client (.disconnect client)]) client := by
  have hgone : client ∉ (g.handleDisconnect client).connected := by simp [handleDisconnect]
  refine ⟨fun h => absurd h hgone, fun h => absurd h hgone, fun _ => ?_⟩
  exact Function.update_self ..

theorem Agrees.subscribe {g : Gateway} {es : List GatewayEvent} {client : ClientId}
    (h : g.Agrees es client) (hmem : client ∈ g.connected) (fleetId : String) :
    (g.handleSubscribe fleetId client).Agrees
      (es ++ [.client (.subscribe fleetId client)]) client := by
  by_cases hempty : fleetId = ""
  · -- the message of an empty fleet is dropped, and no fleet is empty
    subst hempty
    have hsame : g.handleSubscribe "" client = g := rfl
    rw [hsame]
    refine ⟨h.rooms, ?_, h.entry⟩
    intro _ fleetId'
    rw [h.latest hmem fleetId', latestSubscribes_snoc]
    by_cases hne : fleetId' = ""
    · simp [hne]
    · have hother : "" ≠ fleetId' := Ne.symm hne
      simp [hother]
  · have hsub (fleetId' : String) : (g.handleSubscribe fleetId client).Subscribed client fleetId' ↔
        fleetId' = fleetId ∨ g.Subscribed client fleetId' := by
      have hset : (g.handleSubscribe fleetId client).subscriptions client =
          some (insert fleetId ((g.subscriptions client).getD ∅)) := by
        simp [handleSubscribe, hempty, join]
      rw [subscribed_of_some hset, Finset.mem_insert]
      cases hold : g.subscriptions client with
      | none => simp [subscribed_of_none hold]
      | some set => simp [subscribed_of_some hold]
    refine ⟨?_, ?_, ?_⟩
    · intro _ fleetId'
      have hrooms : (g.handleSubscribe fleetId client).rooms client =
          insert (fleetRoom fleetId) (g.rooms client) := by
        simp [handleSubscribe, hempty, join]
      rw [hrooms, Finset.mem_insert, fleetRoom_inj, hsub, h.rooms hmem]
    · intro _ fleetId'
      rw [hsub, h.latest hmem, latestSubscribes_snoc]
      by_cases he : fleetId' = fleetId
      · simp [he, hempty]
      · have hne : fleetId ≠ fleetId' := Ne.symm he
        simp [he, hne]
    · intro hgone
      have hconnected : (g.handleSubscribe fleetId client).connected = g.connected := by
        simp [handleSubscribe, hempty, join]
      rw [hconnected] at hgone
      exact absurd hmem hgone

theorem Agrees.unsubscribe {g : Gateway} {es : List GatewayEvent} {client : ClientId}
    (h : g.Agrees es client) (hmem : client ∈ g.connected) (fleetId : String) :
    (g.handleUnsubscribe fleetId client).Agrees
      (es ++ [.client (.unsubscribe fleetId client)]) client := by
  cases hold : g.subscriptions client with
  | none =>
    -- the client has never subscribed, so there is no room to leave
    have hsame : g.handleUnsubscribe fleetId client = g := by simp [handleUnsubscribe, hold]
    rw [hsame]
    refine ⟨h.rooms, ?_, h.entry⟩
    intro _ fleetId'
    have hnot : ¬g.Subscribed client fleetId' := subscribed_of_none hold
    have hlatest := (h.latest hmem fleetId').not.mp hnot
    refine iff_of_false hnot ?_
    rw [latestSubscribes_snoc]
    rintro ⟨hne, he | ⟨hl, -⟩⟩
    · cases he
    · exact hlatest ⟨hne, hl⟩
  | some set =>
    have hset : (g.handleUnsubscribe fleetId client).subscriptions client =
        some (set.erase fleetId) := by
      simp [handleUnsubscribe, hold, leave]
    have hsub (fleetId' : String) :
        (g.handleUnsubscribe fleetId client).Subscribed client fleetId' ↔
          fleetId' ≠ fleetId ∧ g.Subscribed client fleetId' := by
      rw [subscribed_of_some hset, subscribed_of_some hold, Finset.mem_erase]
    refine ⟨?_, ?_, ?_⟩
    · intro _ fleetId'
      have hrooms : (g.handleUnsubscribe fleetId client).rooms client =
          (g.rooms client).erase (fleetRoom fleetId) := by
        simp [handleUnsubscribe, hold, leave]
      rw [hrooms, Finset.mem_erase, Ne, fleetRoom_inj, hsub, h.rooms hmem]
    · intro _ fleetId'
      rw [hsub, h.latest hmem, latestSubscribes_snoc]
      by_cases he : fleetId' = fleetId
      · simp [he]
      · have hne : fleetId ≠ fleetId' := Ne.symm he
        simp [he, hne]
    · intro hgone
      have hconnected : (g.handleUnsubscribe fleetId client).connected = g.connected := by
        simp [handleUnsubscribe, hold, leave]
      rw [hconnected] at hgone
      exact absurd hmem hgone

theorem Agrees.serve {g : Gateway} {es : List GatewayEvent} {client : ClientId}
    (h : g.Agrees es client) {e : GatewayEvent} (he : g.Admits e) :
    (g.serve e).Agrees (es ++ [e]) client := by
  cases e with
  | broadcast fleetId telemetry =>
    exact h.of_other (fun e' he' => by cases he') Iff.rfl rfl rfl
  | client e =>
    by_cases hsender : e.sender = client
    · subst hsender
      cases e with
      | connect client => exact h.connect he
      | disconnect client => exact Agrees.disconnect
      | subscribe fleetId client => exact h.subscribe he fleetId
      | unsubscribe fleetId client => exact h.unsubscribe he fleetId
    · obtain ⟨hconnected, hrooms, hsubs⟩ := g.handle_other e hsender
      refine h.of_other ?_ hconnected hrooms hsubs
      intro e' he'
      cases he'
      exact hsender

theorem agrees_serveAll {es : List GatewayEvent} (h : empty.Conforms es) (client : ClientId) :
    (empty.serveAll es).Agrees es client := by
  induction es using List.reverseRecOn with
  | nil => exact agrees_empty client
  | append_singleton es e ih =>
    obtain ⟨hes, he⟩ := conforms_snoc.mp h
    rw [serveAll_snoc]
    exact (ih hes).serve he

/-- After every run, the rooms of a connected socket are those of its subscriptions,
a socket that is gone has no entry, and a reading is sent once to each connected
client whose latest message about the fleet subscribes it. -/
theorem broadcast_reaches {es : List GatewayEvent} (h : empty.Conforms es) :
    (∀ client ∈ (empty.serveAll es).connected, ∀ fleetId,
      fleetRoom fleetId ∈ (empty.serveAll es).rooms client ↔
        (empty.serveAll es).Subscribed client fleetId) ∧
    (∀ client, client ∉ (empty.serveAll es).connected →
      (empty.serveAll es).subscriptions client = none) ∧
    ∀ fleetId telemetry, ∃ clients : Finset ClientId,
      ((empty.serveAll es).broadcastToFleet fleetId telemetry).emitted =
        ⟨clients, telemetry⟩ :: (empty.serveAll es).emitted ∧
      ∀ client, client ∈ clients ↔ client ∈ (empty.serveAll es).connected ∧
        fleetId ≠ "" ∧ LatestSubscribes es fleetId client := by
  refine ⟨fun client => (agrees_serveAll h client).rooms,
    fun client => (agrees_serveAll h client).entry, ?_⟩
  intro fleetId telemetry
  refine ⟨(empty.serveAll es).members (fleetRoom fleetId), rfl, ?_⟩
  intro client
  have hagrees := agrees_serveAll h client
  rw [members, Finset.mem_filter]
  refine and_congr_right fun hmem => ?_
  rw [hagrees.rooms hmem, hagrees.latest hmem]

/-- Two clients subscribe to one fleet, and one of them leaves. -/
def twoClients : List GatewayEvent :=
  [.client (.connect "a"), .client (.subscribe "f" "a"), .client (.subscribe "" "a"),
    .client (.connect "b"), .client (.unsubscribe "f" "b"), .client (.subscribe "f" "b"),
    .client (.disconnect "a")]

theorem broadcast_reaches_twoClients :
    (empty.serveAll twoClients).subscriptions "a" = none ∧
      (fleetRoom "f" ∈ (empty.serveAll twoClients).rooms "b" ↔
        (empty.serveAll twoClients).Subscribed "b" "f") := by
  have h : empty.Conforms twoClients := by decide
  obtain ⟨hrooms, hentry, -⟩ := broadcast_reaches h
  exact ⟨hentry "a" (by decide), hrooms "b" (by decide) "f"⟩

end Gateway

end VoltFleet
