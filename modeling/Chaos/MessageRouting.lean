-- The laws of the message routing. The channel index of a header cannot leave its table, but the
-- routing address can: it has 16 bits, and the table of the endpoint slots has 256 places.
import Chaos.EndpointSlots

open Function runs

namespace chaos.common.direct_io

open chaos.utility DirectIODispatcher

variable {d : DirectIODispatcher} {raw_data : UInt64}

theorem channel_idx_lt (raw_data : UInt64) : channel_idx raw_data < MAX_ENDPOINT_CHANNEL := by
  unfold channel_idx MAX_ENDPOINT_CHANNEL
  rw [UInt64.toNat_mod]
  exact Nat.mod_lt _ (by decide)

/-- The channel that is registered in a place of an enabled slot. -/
def registeredChannel (d : DirectIODispatcher) (route channel : Nat) :
    Option DirectIOVirtualServerChannel :=
  d.endpoint_slot_array.bind fun slots =>
    if (slots route).enable then
      (slots route).endpoint.bind fun p =>
        (d.endpoints.lookup p).bind fun e => e.channel_slot channel
    else none

/-- A message is rejected, or a handler takes it that is the one of a registered channel of an
enabled endpoint, with both indexes in their tables. -/
def SafelyRouted (d : DirectIODispatcher) (raw_data : UInt64) (result : Option Delivery) : Prop :=
  result = some .rejected ∨
  ∃ handler, result = some (.consumed (route_addr raw_data) (channel_idx raw_data) handler) ∧
    route_addr raw_data < MAX_ENDPOINT_NUMBER ∧ channel_idx raw_data < MAX_ENDPOINT_CHANNEL ∧
    ∃ channel, registeredChannel d (route_addr raw_data) (channel_idx raw_data) = some channel ∧
      channel.server_channel_delegate = some handler

/-- The address is in the table, and the channel that the message is for, if one is registered,
has a handler. -/
def Routable (d : DirectIODispatcher) (raw_data : UInt64) : Prop :=
  route_addr raw_data < MAX_ENDPOINT_NUMBER ∧
  ∀ channel ∈ registeredChannel d (route_addr raw_data) (channel_idx raw_data),
    channel.server_channel_delegate ≠ none

instance (d : DirectIODispatcher) (raw_data : UInt64) : Decidable (Routable d raw_data) :=
  inferInstanceAs (Decidable (_ ∧ ∀ channel ∈ registeredChannel d (route_addr raw_data)
    (channel_idx raw_data), _))

/-- What the dispatcher does with a message whose address is in the table. -/
theorem Sound.dataReceived (hs : Sound d) (htable : d.endpoint_slot_array ≠ none)
    (hroute : route_addr raw_data < MAX_ENDPOINT_NUMBER) :
    d.dataReceived DirectIOServerEndpoint.dataReceived raw_data =
      consumeDataPack raw_data
        (registeredChannel d (route_addr raw_data) (channel_idx raw_data)) := by
  obtain ⟨slots, hslots⟩ := Option.ne_none_iff_exists'.mp htable
  unfold DirectIODispatcher.dataReceived registeredChannel
  rw [hslots]
  dsimp only [Option.bind_some]
  rw [if_pos hroute]
  by_cases hen : (slots (route_addr raw_data)).enable = true
  · -- an enabled slot has an endpoint
    obtain ⟨-, hend⟩ := hs.enabled slots hslots _ hen
    obtain ⟨p, hp⟩ := Option.ne_none_iff_exists'.mp hend
    obtain ⟨e, he, -⟩ := hs.slot slots hslots _ p hp
    rw [if_pos hen, if_pos hen, hp, Option.bind_some, Option.bind_some, he, Option.bind_some,
      Option.bind_some]
    rw [DirectIOServerEndpoint.dataReceived, if_pos (channel_idx_lt raw_data)]
  · rw [if_neg hen, if_neg hen]
    rfl

theorem dataReceived_outside (hroute : ¬ route_addr raw_data < MAX_ENDPOINT_NUMBER)
    (deliver : DirectIOServerEndpoint → UInt64 → Option Delivery) :
    d.dataReceived deliver raw_data = none := by
  unfold DirectIODispatcher.dataReceived
  split
  · rfl
  · rw [if_neg hroute]

/-- One of the two ways of a message, which are the same. -/
theorem Sound.safelyRouted_iff (hs : Sound d) (htable : d.endpoint_slot_array ≠ none)
    (raw_data : UInt64) :
    SafelyRouted d raw_data (d.dataReceived DirectIOServerEndpoint.dataReceived raw_data) ↔
      Routable d raw_data := by
  by_cases hroute : route_addr raw_data < MAX_ENDPOINT_NUMBER
  · rw [hs.dataReceived htable hroute]
    unfold SafelyRouted Routable
    cases hreg : registeredChannel d (route_addr raw_data) (channel_idx raw_data) with
    | none => exact ⟨fun _ => ⟨hroute, nofun⟩, fun _ => Or.inl rfl⟩
    | some channel =>
      cases hdel : channel.server_channel_delegate with
      | none =>
        constructor
        · rintro (hbad | ⟨handler, hbad, -⟩) <;> simp [consumeDataPack, hdel] at hbad
        · intro hok
          exact absurd hdel (hok.2 channel rfl)
      | some handler =>
        constructor
        · intro _
          refine ⟨hroute, ?_⟩
          rintro _ ⟨⟩
          rw [hdel]
          exact nofun
        · intro _
          refine Or.inr ⟨handler, ?_, hroute, channel_idx_lt raw_data, channel, rfl, hdel⟩
          simp [consumeDataPack, hdel]
  · rw [dataReceived_outside hroute]
    constructor
    · rintro (hbad | ⟨handler, hbad, -⟩) <;> cases hbad
    · intro hok
      exact absurd hok.1 hroute

def oneChannelRun : List DispatcherEvent :=
  [.init true, .start, .getNewEndpoint 1,
    .registerChannelInstance 1 { channel_route_index := 3, server_channel_delegate := some 7 }]

end chaos.common.direct_io
