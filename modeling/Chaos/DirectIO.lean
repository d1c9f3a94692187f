-- The direct io dispatcher: a table of endpoint slots with a queue of the free ones, and the way
-- of a received message through the slot of its endpoint to the slot of its channel.
import Mathlib.Data.List.AList
import Chaos.Runs
import Chaos.Service

open Function runs

namespace chaos.common.direct_io

open chaos.utility

def MAX_ENDPOINT_NUMBER : Nat := 256

def MAX_ENDPOINT_CHANNEL : Nat := 256

/-! ## Messages -/

/-- The routing address: the first 16 bits of the raw header. -/
def route_addr (raw_data : UInt64) : Nat := (raw_data % 0x10000).toNat

/-- The channel index: 8 bits, after 32 bits of the raw header. -/
def channel_idx (raw_data : UInt64) : Nat := ((raw_data >>> 32) % 0x100).toNat

/-- What becomes of a message: nobody takes it, or the handler of a channel does. -/
inductive Delivery
  | rejected
  | consumed (route_addr channel_idx handler : Nat)
  deriving DecidableEq

/-! ## Endpoints -/

/-- A server channel, with the handler that it calls or a null pointer. -/
structure DirectIOVirtualServerChannel where
  channel_route_index : UInt8
  server_channel_delegate : Option Nat
  deriving DecidableEq

/-- The call of the handler of the channel in a place. A call through a null pointer is
`none`. -/
def consumeDataPack (raw_data : UInt64) : Option DirectIOVirtualServerChannel → Option Delivery
  | none => some .rejected
  | some channel =>
    channel.server_channel_delegate.map
      (.consumed (route_addr raw_data) (channel_idx raw_data) ·)

structure DirectIOServerEndpoint where
  endpoint_route_index : UInt16
  channel_slot : Nat → Option DirectIOVirtualServerChannel

namespace DirectIOServerEndpoint

def new (endpoint_route_index : UInt16) : DirectIOServerEndpoint :=
  { endpoint_route_index := endpoint_route_index
    channel_slot := fun _ => none }

/-- Set the slot of a channel, unless its index is past the end of the table. -/
def setChannel (e : DirectIOServerEndpoint) (channel : DirectIOVirtualServerChannel)
    (slot : Option DirectIOVirtualServerChannel) : DirectIOServerEndpoint :=
  if MAX_ENDPOINT_CHANNEL - 1 < channel.channel_route_index.toNat then e
  else { e with channel_slot := update e.channel_slot channel.channel_route_index.toNat slot }

def registerChannelInstance (e : DirectIOServerEndpoint)
    (channel : DirectIOVirtualServerChannel) : DirectIOServerEndpoint :=
  e.setChannel channel (some channel)

def deregisterChannelInstance (e : DirectIOServerEndpoint)
    (channel : DirectIOVirtualServerChannel) : DirectIOServerEndpoint :=
  e.setChannel channel none

/-- The way of a message from the endpoint on. A place past the end of the table is `none`. -/
def dataReceived (e : DirectIOServerEndpoint) (raw_data : UInt64) : Option Delivery :=
  if channel_idx raw_data < MAX_ENDPOINT_CHANNEL then
    consumeDataPack raw_data (e.channel_slot (channel_idx raw_data))
  else none

def priorityDataReceived (e : DirectIOServerEndpoint) (raw_data : UInt64) : Option Delivery :=
  e.dataReceived raw_data

def serviceDataReceived (e : DirectIOServerEndpoint) (raw_data : UInt64) : Option Delivery :=
  e.dataReceived raw_data

end DirectIOServerEndpoint

/-! ## The dispatcher -/

/-- A slot of the table, with a pointer to its endpoint. -/
structure EndpointFastDelegation where
  enable : Bool
  endpoint : Option Nat
  deriving DecidableEq

/-- `endpoints` are the endpoints that are allocated and not deleted, by their addresses. The
table is `none` while it is not allocated. -/
structure DirectIODispatcher where
  serviceState : ServiceState
  endpoint_slot_array : Option (Nat → EndpointFastDelegation)
  available_endpoint_slot : List Nat
  endpoints : AList fun _ : Nat => DirectIOServerEndpoint

namespace DirectIODispatcher

def new : DirectIODispatcher :=
  { serviceState := .IS_DEINTIATED
    endpoint_slot_array := none
    available_endpoint_slot := []
    endpoints := ∅ }

/-- `init` allocates the table and puts the index of each slot in the queue. -/
def init (d : DirectIODispatcher) : DirectIODispatcher :=
  { d with
    endpoint_slot_array := some fun _ => { enable := false, endpoint := none }
    available_endpoint_slot := d.available_endpoint_slot ++ List.range MAX_ENDPOINT_NUMBER }

/-- `CLEAR_ENDPOINT_SLOT`. -/
def clearEndpointSlot (d : DirectIODispatcher) (i : Nat) : Option DirectIODispatcher :=
  match d.endpoint_slot_array with
  | none => none
  | some slots =>
    if MAX_ENDPOINT_NUMBER ≤ i then none
    else
      let d := { d with
        endpoint_slot_array := some (update slots i { enable := false, endpoint := none }) }
      match (slots i).endpoint with
      | none => some d
      | some p => if p ∈ d.endpoints then some { d with endpoints := d.endpoints.erase p } else none

/-- `deinit` clears and deletes the slots. The queue stays as it is. -/
def deinit (d : DirectIODispatcher) : Option DirectIODispatcher :=
  (run clearEndpointSlot d (List.range MAX_ENDPOINT_NUMBER)).map fun d =>
    { d with endpoint_slot_array := none }

/-- `ptr` is the address of the new endpoint, which is not null. -/
def getNewEndpoint (d : DirectIODispatcher) (ptr : Nat) : Option DirectIODispatcher :=
  match d.available_endpoint_slot with
  | [] => some d
  | i :: rest =>
    match d.endpoint_slot_array with
    | none => none
    | some slots =>
      if MAX_ENDPOINT_NUMBER ≤ i then none
      else some
        { d with
          endpoint_slot_array := some (update slots i { enable := true, endpoint := some ptr })
          available_endpoint_slot := rest
          endpoints := d.endpoints.insert ptr (DirectIOServerEndpoint.new (UInt16.ofNat i)) }

def releaseEndpoint (d : DirectIODispatcher) (endpoint_to_release : Option Nat) :
    Option DirectIODispatcher :=
  match endpoint_to_release with
  | none => some d
  | some p =>
    (d.endpoints.lookup p).bind fun e =>
      (d.clearEndpointSlot e.endpoint_route_index.toNat).map fun d =>
        { d with
          available_endpoint_slot := d.available_endpoint_slot ++ [e.endpoint_route_index.toNat] }

/-- The way of a message from the dispatcher on. A slot that is not enabled is left with no
value to return, and no handler is called. -/
def dataReceived (d : DirectIODispatcher)
    (deliver : DirectIOServerEndpoint → UInt64 → Option Delivery) (raw_data : UInt64) :
    Option Delivery :=
  match d.endpoint_slot_array with
  | none => none
  | some slots =>
    if route_addr raw_data < MAX_ENDPOINT_NUMBER then
      if (slots (route_addr raw_data)).enable then
        (slots (route_addr raw_data)).endpoint.bind fun p =>
          (d.endpoints.lookup p).bind fun e => deliver e raw_data
      else some .rejected
    else none

def priorityDataReceived (d : DirectIODispatcher) (raw_data : UInt64) : Option Delivery :=
  d.dataReceived DirectIOServerEndpoint.priorityDataReceived raw_data

def serviceDataReceived (d : DirectIODispatcher) (raw_data : UInt64) : Option Delivery :=
  d.dataReceived DirectIOServerEndpoint.serviceDataReceived raw_data

/-- A call on an endpoint that is allocated. -/
def onEndpoint (d : DirectIODispatcher) (p : Nat)
    (f : DirectIOServerEndpoint → DirectIOServerEndpoint) : Option DirectIODispatcher :=
  (d.endpoints.lookup p).map fun e => { d with endpoints := d.endpoints.insert p (f e) }

end DirectIODispatcher

/-! ## The runs -/

inductive DispatcherEvent
  | init (malloc : Bool)
  | start
  | stop
  | deinit
  | getNewEndpoint (ptr : Nat)
  | releaseEndpoint (endpoint_to_release : Option Nat)
  | registerChannelInstance (endpoint : Nat) (channel : DirectIOVirtualServerChannel)
  | deregisterChannelInstance (endpoint : Nat) (channel : DirectIOVirtualServerChannel)

/-- The calls of the life cycle go through the state machine of the service, which leaves the
dispatcher as it is where the call does not fit. A failed `init` is undone. The address of a new
endpoint is not in use. -/
def dispatcherStep (d : DirectIODispatcher) : DispatcherEvent → Option DirectIODispatcher
  | .init malloc =>
    match process_event d.serviceState .init with
    | none => some d
    | some s => if malloc then some { d.init with serviceState := s } else some d
  | .start =>
    some { d with serviceState := (process_event d.serviceState .start).getD d.serviceState }
  | .stop =>
    some { d with serviceState := (process_event d.serviceState .stop).getD d.serviceState }
  | .deinit =>
    match process_event d.serviceState .deinit with
    | none => some d
    | some s => d.deinit.map fun d => { d with serviceState := s }
  | .getNewEndpoint ptr => if ptr ∈ d.endpoints then none else d.getNewEndpoint ptr
  | .releaseEndpoint endpoint_to_release => d.releaseEndpoint endpoint_to_release
  | .registerChannelInstance p channel => d.onEndpoint p (·.registerChannelInstance channel)
  | .deregisterChannelInstance p channel => d.onEndpoint p (·.deregisterChannelInstance channel)

end chaos.common.direct_io
