import VoltFleet.Telemetry.Gateway

/-!
# Rooms and subscriptions

A socket is in the room of a fleet only while its client is subscribed to that
fleet, whatever the clients send and in whatever order.
-/

namespace VoltFleet

/-- What a client does at the gateway. -/
inductive ClientEvent where
  | connect (client : ClientId)
  | disconnect (client : ClientId)
  | subscribe (fleetId : String) (client : ClientId)
  | unsubscribe (fleetId : String) (client : ClientId)
  deriving DecidableEq

namespace Gateway

/-- The gateway's handler of an event. -/
def handle (g : Gateway) : ClientEvent → Gateway
  | .connect client => g.handleConnection client
  | .disconnect client => g.handleDisconnect client
  | .subscribe fleetId client => g.handleSubscribe fleetId client
  | .unsubscribe fleetId client => g.handleUnsubscribe fleetId client

/-- Nothing a client does sends a reading. -/
theorem handle_emitted (g : Gateway) (e : ClientEvent) : (g.handle e).emitted = g.emitted := by
  cases e with
  | connect client => rfl
  | disconnect client => rfl
  | subscribe fleetId client =>
    show (g.handleSubscribe fleetId client).emitted = g.emitted
    unfold handleSubscribe
    split <;> rfl
  | unsubscribe fleetId client =>
    show (g.handleUnsubscribe fleetId client).emitted = g.emitted
    unfold handleUnsubscribe
    split <;> rfl

theorem fleetRoom_inj {a b : String} : fleetRoom a = fleetRoom b ↔ a = b := by
  constructor
  · intro h
    have hl := congrArg String.toList h
    rw [fleetRoom, fleetRoom, String.toList_append, String.toList_append] at hl
    exact String.toList_inj.mp (List.append_cancel_left hl)
  · rintro rfl
    rfl

/-- Every room a socket is in is that of a fleet its client is subscribed to. -/
def RoomsSubscribed (g : Gateway) : Prop :=
  ∀ client room, room ∈ g.rooms client → ∃ fleetId, room = fleetRoom fleetId ∧
    g.Subscribed client fleetId

theorem roomsSubscribed_empty : empty.RoomsSubscribed := by
  intro client room h
  exact absurd h (Finset.notMem_empty room)

/-- The sockets in a fleet's room are those of its subscribers. -/
theorem RoomsSubscribed.of_member {g : Gateway} (hg : g.RoomsSubscribed) {fleetId : String}
    {client : ClientId} (h : client ∈ g.members (fleetRoom fleetId)) :
    g.Subscribed client fleetId := by
  have hroom : fleetRoom fleetId ∈ g.rooms client := (Finset.mem_filter.mp h).2
  obtain ⟨fleetId', he, hs⟩ := hg client _ hroom
  rw [fleetRoom_inj] at he
  rw [he]
  exact hs

/-- An event of one client: its own rooms are those of its subscriptions, and the
other clients keep theirs. -/
theorem RoomsSubscribed.of_client {g g' : Gateway} (hg : g.RoomsSubscribed) (client : ClientId)
    (hself : ∀ room, room ∈ g'.rooms client → ∃ fleetId, room = fleetRoom fleetId ∧
      g'.Subscribed client fleetId)
    (hrooms : ∀ other, other ≠ client → g'.rooms other = g.rooms other)
    (hsubs : ∀ other, other ≠ client → g'.subscriptions other = g.subscriptions other) :
    g'.RoomsSubscribed := by
  intro other room h
  by_cases ho : other = client
  · subst ho
    exact hself room h
  · rw [hrooms other ho] at h
    obtain ⟨fleetId, hroom, set, hset, hmem⟩ := hg other room h
    exact ⟨fleetId, hroom, set, (hsubs other ho).trans hset, hmem⟩

theorem RoomsSubscribed.handle {g : Gateway} (hg : g.RoomsSubscribed) (e : ClientEvent) :
    (g.handle e).RoomsSubscribed := by
  cases e with
  | connect client =>
    refine hg.of_client client ?_ (fun other ho => Function.update_of_ne ho _ _) fun _ _ => rfl
    intro room h
    change room ∈ Function.update g.rooms client ∅ client at h
    rw [Function.update_self] at h
    exact absurd h (Finset.notMem_empty room)
  | disconnect client =>
    refine hg.of_client client ?_ (fun other ho => Function.update_of_ne ho _ _)
      fun other ho => Function.update_of_ne ho _ _
    intro room h
    change room ∈ Function.update g.rooms client ∅ client at h
    rw [Function.update_self] at h
    exact absurd h (Finset.notMem_empty room)
  | subscribe fleetId client =>
    show (g.handleSubscribe fleetId client).RoomsSubscribed
    unfold handleSubscribe
    split
    · exact hg
    · refine hg.of_client client ?_ (fun other ho => Function.update_of_ne ho _ _)
        fun other ho => Function.update_of_ne ho _ _
      intro room h
      change room ∈ Function.update g.rooms client _ client at h
      rw [Function.update_self, Finset.mem_insert] at h
      rcases h with rfl | h
      · exact ⟨fleetId, rfl, _, Function.update_self .., Finset.mem_insert_self ..⟩
      · obtain ⟨fleetId', hroom, set, hset, hmem⟩ := hg client room h
        refine ⟨fleetId', hroom, _, Function.update_self .., ?_⟩
        rw [hset]
        exact Finset.mem_insert_of_mem hmem
  | unsubscribe fleetId client =>
    show (g.handleUnsubscribe fleetId client).RoomsSubscribed
    unfold handleUnsubscribe
    split
    · exact hg
    · rename_i set hset
      refine hg.of_client client ?_ (fun other ho => Function.update_of_ne ho _ _)
        fun other ho => Function.update_of_ne ho _ _
      intro room h
      change room ∈ Function.update g.rooms client _ client at h
      rw [Function.update_self, Finset.mem_erase] at h
      obtain ⟨hne, h⟩ := h
      obtain ⟨fleetId', rfl, set', hset', hmem⟩ := hg client room h
      obtain rfl : set = set' := Option.some.inj (hset.symm.trans hset')
      refine ⟨fleetId', rfl, _, Function.update_self .., ?_⟩
      exact Finset.mem_erase_of_ne_of_mem (fun he => hne (by rw [he])) hmem

end Gateway

end VoltFleet
