-- Priority and service data. Each has its own function on the channel, the connection, the server,
-- the dispatcher and the endpoint, and its own socket. The functions for both are the same but for
-- the next function that they call.
import Chaos.DeviceChannel

namespace chaos.common.direct_io.traffic

open ZMQDirectIOServer

inductive Traffic where
  | priority
  | service
  deriving DecidableEq, Repr

/-! ## The client -/

/-- What is written to a socket of the connection. A handler and an answer slot are pointers. -/
structure SocketWrite where
  socket : Traffic
  data_pack : DirectIODataPack
  header_deallocation_handler : Nat
  data_deallocation_handler : Nat
  synchronous_answer : Option Nat
  deriving DecidableEq

structure ZMQDirectIOClientConnection where
  endpoint : UInt16

namespace ZMQDirectIOClientConnection

variable (connection : ZMQDirectIOClientConnection) (data_pack : DirectIODataPack)
  (header_deallocation_handler data_deallocation_handler : Nat) (synchronous_answer : Option Nat)

/-- `completeDataPack` of the connection. -/
def completeDataPack : DirectIODataPack :=
  { data_pack with
    dispatcher_header := { data_pack.dispatcher_header with route_addr := connection.endpoint } }

def sendPriorityData : SocketWrite :=
  ⟨.priority, connection.completeDataPack data_pack, header_deallocation_handler,
    data_deallocation_handler, synchronous_answer⟩

def sendServiceData : SocketWrite :=
  ⟨.service, connection.completeDataPack data_pack, header_deallocation_handler,
    data_deallocation_handler, synchronous_answer⟩

end ZMQDirectIOClientConnection

structure DirectIOVirtualClientChannel where
  channel_route_index : UInt8
  header_deallocator : Nat
  client_instance : ZMQDirectIOClientConnection

namespace DirectIOVirtualClientChannel

variable (channel : DirectIOVirtualClientChannel) (data_pack : DirectIODataPack)
  (data_deallocator : Nat) (synchronous_answer : Option Nat)

/-- The first line of all four functions. -/
def setChannelIndex : DirectIODataPack :=
  { data_pack with
    dispatcher_header := { data_pack.dispatcher_header with
      channel_idx := channel.channel_route_index } }

def completeChannnelDataPack (synchronous_answer : Bool) : DirectIODataPack :=
  { data_pack with
    dispatcher_header := { data_pack.dispatcher_header with
      synchronous_answer := synchronous_answer
      channel_idx := channel.channel_route_index } }

/-- `sendPriorityData` with a deallocator for the data. -/
def sendPriorityDataWith : SocketWrite :=
  channel.client_instance.sendPriorityData
    (channel.completeChannnelDataPack (channel.setChannelIndex data_pack)
      synchronous_answer.isSome)
    channel.header_deallocator data_deallocator synchronous_answer

def sendPriorityData : SocketWrite :=
  channel.sendPriorityDataWith (channel.setChannelIndex data_pack) channel.header_deallocator
    synchronous_answer

/-- `sendServiceData` with a deallocator for the data. -/
def sendServiceDataWith : SocketWrite :=
  -- this calls `sendPriorityData` of the connection
  channel.client_instance.sendPriorityData
    (channel.completeChannnelDataPack (channel.setChannelIndex data_pack)
      synchronous_answer.isSome)
    channel.header_deallocator data_deallocator synchronous_answer

def sendServiceData : SocketWrite :=
  channel.sendServiceDataWith (channel.setChannelIndex data_pack) channel.header_deallocator
    synchronous_answer

end DirectIOVirtualClientChannel

/-! ## The server -/

/-- A call of one of the two functions of an endpoint: the channel in the place that the pack
names, the pack and the answer. -/
structure EndpointCall where
  function : Traffic
  endpoint : DirectIOServerEndpoint
  channel : Option DirectIOVirtualServerChannel
  data_pack : DirectIODataPack
  synchronous_answer : AnswerPtr

section server

variable (data_pack : DirectIODataPack) (synchronous_answer : AnswerPtr)

/-- `DirectIOServerEndpoint::priorityDataReceived`. -/
def endpointPriorityDataReceived (e : DirectIOServerEndpoint) : EndpointCall :=
  ⟨.priority, e, e.channel_slot data_pack.dispatcher_header.channel_idx.toNat, data_pack,
    synchronous_answer⟩

/-- `DirectIOServerEndpoint::serviceDataReceived`. -/
def endpointServiceDataReceived (e : DirectIOServerEndpoint) : EndpointCall :=
  ⟨.service, e, e.channel_slot data_pack.dispatcher_header.channel_idx.toNat, data_pack,
    synchronous_answer⟩

/-- The endpoint in a slot that is enabled. -/
def endpointAt (d : DirectIODispatcher) (route_addr : UInt16) : Option DirectIOServerEndpoint :=
  d.endpoint_slot_array.bind fun slots =>
    if route_addr.toNat < MAX_ENDPOINT_NUMBER ∧ (slots route_addr.toNat).enable then
      (slots route_addr.toNat).endpoint.bind fun p => d.endpoints.lookup p
    else none

/-- `DirectIODispatcher::priorityDataReceived`. -/
def dispatcherPriorityDataReceived (d : DirectIODispatcher) : Option EndpointCall :=
  (endpointAt d data_pack.dispatcher_header.route_addr).map
    (endpointPriorityDataReceived data_pack synchronous_answer)

/-- `DirectIODispatcher::serviceDataReceived`. -/
def dispatcherServiceDataReceived (d : DirectIODispatcher) : Option EndpointCall :=
  (endpointAt d data_pack.dispatcher_header.route_addr).map
    (endpointServiceDataReceived data_pack synchronous_answer)

/-- The delegate of the thread with the given argument of `worker`. -/
def workerDelegate (priority_service : Bool) (d : DirectIODispatcher) : Option EndpointCall :=
  if priority_service then dispatcherServiceDataReceived data_pack synchronous_answer d
  else dispatcherPriorityDataReceived data_pack synchronous_answer d

end server

/-- The argument of the thread that has bound the port of a socket. -/
def workerOf : Traffic → Bool
  | .priority => false
  | .service => true

/-- What the loop of a thread adds to its events while it receives some parts. -/
def dispatchedWhile (handled : DirectIODataPack → Handled) (w : ZMQDirectIOServer)
    (recvs : List Recv) : List (DirectIODataPack × AnswerPtr) :=
  ((recvs.foldl (recv handled) w).events.drop w.events.length).filterMap fun
    | .dispatched pack synchronous_answer => some (pack, synchronous_answer)
    | .answered _ _ => none

/-- The calls of endpoints that come of a write, by the thread that has the port of its socket. -/
def endpointCalls (handled : DirectIODataPack → Handled) (w : ZMQDirectIOServer)
    (d : DirectIODispatcher) (identity : List UInt8) (write : SocketWrite) :
    List (Option EndpointCall) :=
  (dispatchedWhile handled w ((identity :: write.data_pack.writeToSocket).map Recv.part)).map
    fun (pack, synchronous_answer) =>
      workerDelegate pack synchronous_answer (workerOf write.socket) d

/-! ## What a sender relies on -/

/-- One of the four functions of a channel, with its arguments but the pack. -/
structure SendCall where
  function : Traffic
  data_deallocator : Option Nat
  synchronous_answer : Option Nat
  deriving DecidableEq

def SendCall.send (call : SendCall) (channel : DirectIOVirtualClientChannel)
    (data_pack : DirectIODataPack) : SocketWrite :=
  match call.function, call.data_deallocator with
  | .priority, none => channel.sendPriorityData data_pack call.synchronous_answer
  | .priority, some data_deallocator =>
    channel.sendPriorityDataWith data_pack data_deallocator call.synchronous_answer
  | .service, none => channel.sendServiceData data_pack call.synchronous_answer
  | .service, some data_deallocator =>
    channel.sendServiceDataWith data_pack data_deallocator call.synchronous_answer

/-- The pack of a call: the fields that the channel and the connection know are set. -/
def SendCall.completed (call : SendCall) (channel : DirectIOVirtualClientChannel)
    (data_pack : DirectIODataPack) : DirectIODataPack :=
  direct_io.channel.completeDataPack channel.client_instance.endpoint channel.channel_route_index
    call.synchronous_answer.isSome data_pack

/-- The call writes to its own socket with the handlers and the slot that it was given, and the
write comes to its own function of the endpoint and the channel that the pack names, with the
header and the data of the pack. With a slot it has an answer of its own, and without one the
pointer that the loop has left. -/
structure StaysApart (call : SendCall) (channel : DirectIOVirtualClientChannel)
    (data_pack : DirectIODataPack) : Prop where
  socket : (call.send channel data_pack).socket = call.function
  handlers : (call.send channel data_pack).header_deallocation_handler =
      channel.header_deallocator ∧
    (call.send channel data_pack).data_deallocation_handler =
      call.data_deallocator.getD channel.header_deallocator
  slot : (call.send channel data_pack).synchronous_answer = call.synchronous_answer
  reaches : ∀ (handled : DirectIODataPack → Handled) (w : ZMQDirectIOServer)
    (d : DirectIODispatcher) (identity : List UInt8), w.phase = .identity →
    endpointCalls handled w d identity (call.send channel data_pack) =
      [(endpointAt d channel.client_instance.endpoint).map fun e =>
        ⟨call.function, e, e.channel_slot channel.channel_route_index.toNat,
          cutToSize (call.completed channel data_pack),
          if call.synchronous_answer.isSome then .fresh else w.synchronous_answer⟩]

/-! ## The path of a write -/

section path

variable {handled : DirectIODataPack → Handled} {w : ZMQDirectIOServer}
  {data_pack : DirectIODataPack}

/-- While a thread receives the parts of a complete pack it dispatches that pack, and no other. -/
theorem dispatchedWhile_complete (h : Complete data_pack) (hw : w.phase = .identity)
    (identity : List UInt8) :
    dispatchedWhile handled w ((identity :: data_pack.writeToSocket).map Recv.part) =
      [(cutToSize data_pack,
        if data_pack.dispatcher_header.synchronous_answer then .fresh
        else w.synchronous_answer)] := by
  obtain ⟨rest, hparts, hlen, hpack⟩ := h.writeToSocket
  unfold dispatchedWhile
  rw [hparts, foldl_message hw hlen, if_pos (length_header data_pack), hpack]
  exact filterMap_dispatch (fun _ _ => rfl) handled w _ _

/-- The thread of a socket calls the function of the traffic of that socket. -/
theorem workerDelegate_workerOf (socket : Traffic) (synchronous_answer : AnswerPtr)
    (d : DirectIODispatcher) :
    workerDelegate data_pack synchronous_answer (workerOf socket) d =
      (endpointAt d data_pack.dispatcher_header.route_addr).map fun e =>
        ⟨socket, e, e.channel_slot data_pack.dispatcher_header.channel_idx.toNat, data_pack,
          synchronous_answer⟩ := by
  cases socket <;> rfl

/-- From the socket on, both traffics come to their own functions. -/
theorem endpointCalls_complete {write : SocketWrite} (h : Complete write.data_pack)
    (hw : w.phase = .identity) (d : DirectIODispatcher) (identity : List UInt8) :
    endpointCalls handled w d identity write =
      [(endpointAt d write.data_pack.dispatcher_header.route_addr).map fun e =>
        ⟨write.socket, e,
          e.channel_slot write.data_pack.dispatcher_header.channel_idx.toNat,
          cutToSize write.data_pack,
          if write.data_pack.dispatcher_header.synchronous_answer then .fresh
          else w.synchronous_answer⟩] := by
  unfold endpointCalls
  rw [dispatchedWhile_complete h hw, List.map_singleton]
  exact congrArg (fun c => [c]) (workerDelegate_workerOf write.socket _ d)

end path

/-! ## The path of a call -/

section calls

variable (call : SendCall) (channel : DirectIOVirtualClientChannel) (data_pack : DirectIODataPack)

/-- All four functions write the completed pack, with the handlers and the slot of the call. -/
theorem send_eq :
    ∃ socket, call.send channel data_pack =
      ⟨socket, call.completed channel data_pack, channel.header_deallocator,
        call.data_deallocator.getD channel.header_deallocator, call.synchronous_answer⟩ := by
  obtain ⟨function, data_deallocator, synchronous_answer⟩ := call
  cases function <;> cases data_deallocator <;> exact ⟨_, rfl⟩

/-- All four functions write to the socket for priority data. -/
theorem send_socket : (call.send channel data_pack).socket = .priority := by
  obtain ⟨function, data_deallocator, synchronous_answer⟩ := call
  cases function <;> cases data_deallocator <;> rfl

theorem complete_completed (h : Complete data_pack) : Complete (call.completed channel data_pack) :=
  ⟨h.part, h.no_header, h.no_data⟩

/-- For every channel and every complete pack, a call stays on its own path just when it sends
priority data. -/
theorem staysApart_iff (h : Complete data_pack) :
    StaysApart call channel data_pack ↔ call.function = .priority := by
  obtain ⟨socket, hsend⟩ := send_eq call channel data_pack
  have hsocket := send_socket call channel data_pack
  constructor
  · intro hstays
    rw [← hstays.socket, hsocket]
  · intro hpriority
    rw [hsend] at hsocket
    have hcompleted := complete_completed call channel data_pack h
    refine ⟨?_, ?_, ?_, ?_⟩
    · rw [hsend, hpriority]
      exact hsocket
    · rw [hsend]
      exact ⟨rfl, rfl⟩
    · rw [hsend]
    · intro handled w d identity hw
      rw [hsend, endpointCalls_complete hcompleted hw, hpriority]
      simp only at hsocket
      rw [hsocket]
      rfl

end calls

/-- A channel of the connection to the endpoint 1. -/
def firstChannel : DirectIOVirtualClientChannel := ⟨2, 7, ⟨1⟩⟩

/-- A pack with two bytes of data goes to the function for priority data, with its answer. -/
theorem priority_data_stays_apart :
    StaysApart ⟨.priority, some 9, some 4⟩ firstChannel (dataPack false) :=
  (staysApart_iff ⟨.priority, some 9, some 4⟩ firstChannel (dataPack false)
    ⟨rfl, fun _ => rfl, nofun⟩).mpr rfl

/-- The pack of a call for service data is written to the socket for priority data, and comes to
`priorityDataReceived`. -/
theorem service_data_takes_the_priority_path :
    ¬StaysApart ⟨.service, none, none⟩ firstChannel (dataPack false) ∧
      workerOf (SendCall.send ⟨.service, none, none⟩ firstChannel (dataPack false)).socket =
        false := by
  refine ⟨fun h => ?_, rfl⟩
  have hsocket := h.socket
  exact absurd hsocket (by decide)

end chaos.common.direct_io.traffic
