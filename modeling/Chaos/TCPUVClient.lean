-- The RPC client over TCP. A destination has a queue of messages and at most one connection that it
-- points to. The work of a connection is a chain of callbacks of the event loop: its name is
-- resolved, it connects, a message is written, its acknowledgement is read, and it is closed.
import Mathlib.Data.List.Basic
import Mathlib.Logic.Function.Basic

namespace chaos.common.rpc.tcpuv

/-- What `data` of a handle points to: nothing, the destination, or what is freed when the handle is
closed. -/
inductive HandleData where
  | null
  | connectionInfo (destinationAddr : String)
  | uvConnInfo (info : Option Nat)
  deriving DecidableEq, Repr

/-- A connection, with its handle. What the event loop still has to call back is noted: the connect
request, the messages that are being written, whether it reads, and how often the handle was closed.
`isWritten` says that the write of the current message has ended well. -/
structure UVConnInfo where
  current_message_info : Option Nat := none
  data : HandleData := .null
  connecting : Bool := false
  writes : List Nat := []
  reading : Bool := false
  closes : Nat := 0
  isWritten : Bool := false
  deriving DecidableEq, Repr

/-- A destination. `resolving` counts the requests for its address that are not answered. -/
structure ConnectionInfo where
  uv_conn_info : Option Nat := none
  queued_message_info : List Nat := []
  resolving : Nat := 0
  deriving DecidableEq, Repr

/-- Messages are numbered as they are submitted, and connections by their addresses. `written` and
`disposed` are the messages that were written and those that were deleted before. -/
structure TCPUVClient where
  queue_async_submission : List (Nat × String) := []
  map_addr_connection_info : String → Option ConnectionInfo := fun _ => none
  handles : Nat → Option UVConnInfo := fun _ => none
  nextHandle : Nat := 0
  submitted : Nat := 0
  written : List Nat := []
  disposed : List Nat := []

/-- The number of runs of colons in a text. -/
def separators : List Char → Nat
  | [] => 0
  | [c] => if c = ':' then 1 else 0
  | c :: d :: cs => (if c = ':' ∧ d ≠ ':' then 1 else 0) + separators (d :: cs)

/-- A text that is split at its colons, where colons side by side count as one. -/
def server_desc_tokens (destinationAddr : String) : Nat := separators destinationAddr.toList + 1

def Accepts (destinationAddr : String) (message : Bool) : Prop :=
  destinationAddr ≠ "" ∧ server_desc_tokens destinationAddr = 2 ∧ message

instance (destinationAddr : String) (message : Bool) :
    Decidable (Accepts destinationAddr message) :=
  inferInstanceAs (Decidable (_ ∧ _))

namespace TCPUVClient

def setHandle (s : TCPUVClient) (h : Nat) (info : Option UVConnInfo) : TCPUVClient :=
  { s with handles := Function.update s.handles h info }

def setConnection (s : TCPUVClient) (destinationAddr : String) (ci : ConnectionInfo) :
    TCPUVClient :=
  { s with
    map_addr_connection_info :=
      Function.update s.map_addr_connection_info destinationAddr (some ci) }

/-- The current message of a connection is deleted. -/
def deleteMessage (s : TCPUVClient) (info : UVConnInfo) : TCPUVClient :=
  if info.isWritten then s
  else { s with disposed := s.disposed ++ info.current_message_info.toList }

/-- The handle is given what the destination points to, for its end, and is closed. -/
def detachAndClose (s : TCPUVClient) (destinationAddr : String) (stream : Nat) :
    Option TCPUVClient :=
  (s.handles stream).bind fun u => (s.map_addr_connection_info destinationAddr).map fun ci =>
    (s.setHandle stream (some { u with
      data := .uvConnInfo ci.uv_conn_info
      reading := false
      closes := u.closes + 1 })).setConnection destinationAddr { ci with uv_conn_info := none }

/-- `resolve` says whether the event loop takes the request for the address. -/
def create_new_connection_for_next_message (s : TCPUVClient) (destinationAddr : String)
    (resolve : Bool) : Option TCPUVClient :=
  (s.map_addr_connection_info destinationAddr).bind fun ci =>
    if ci.queued_message_info = [] then none
    else if resolve then
      let t := { s with nextHandle := s.nextHandle + 1 }.setHandle s.nextHandle (some {})
      some (t.setConnection destinationAddr
        { ci with uv_conn_info := some s.nextHandle, resolving := ci.resolving + 1 })
    else some (s.setConnection destinationAddr { ci with uv_conn_info := none })

/-- The current message of the destination goes to the stream. `write` says whether the event loop
takes it. -/
def send_data (s : TCPUVClient) (destinationAddr : String) (stream : Nat) (write : Bool) :
    Option TCPUVClient :=
  (s.map_addr_connection_info destinationAddr).bind fun ci => ci.uv_conn_info.bind fun k =>
    (s.handles k).bind fun u => u.current_message_info.bind fun message =>
      (s.handles stream).map fun v =>
        if write then s.setHandle stream (some { v with writes := v.writes ++ [message] }) else s

/-! ## Submission -/

/-- A message that is not accepted is deleted, and with it once more what it points to. -/
def submitMessage (s : TCPUVClient) (destinationAddr : String) (message : Bool) : TCPUVClient :=
  let t := { s with submitted := s.submitted + 1 }
  if Accepts destinationAddr message then
    { t with
      queue_async_submission := s.queue_async_submission ++ [(s.submitted, destinationAddr)] }
  else
    { t with
      disposed := s.disposed ++ ((if message then [s.submitted] else []) ++ [s.submitted]) }

/-- One turn of the loop of `async_submit_message_cb`. -/
def processBufferElement (s : TCPUVClient) (resolve : Bool) : Option TCPUVClient :=
  match s.queue_async_submission with
  | [] => none
  | (message, destinationAddr) :: rest =>
    let ci := (s.map_addr_connection_info destinationAddr).getD {}
    let t := { s with queue_async_submission := rest }.setConnection destinationAddr
      { ci with queued_message_info := ci.queued_message_info ++ [message] }
    if ci.uv_conn_info = none then
      t.create_new_connection_for_next_message destinationAddr resolve
    else some t

/-! ## The callbacks -/

/-- `configure` says whether the handle is set up, and `connect` whether the event loop takes the
connect request, which is not looked at. -/
def on_resolve (s : TCPUVClient) (destinationAddr : String) (status : Int)
    (configure connect : Bool) : Option TCPUVClient :=
  (s.map_addr_connection_info destinationAddr).bind fun ci =>
    if ci.resolving = 0 then none
    else
      let ci := { ci with resolving := ci.resolving - 1 }
      if status ≠ 0 then some (s.setConnection destinationAddr ci)
      else ci.uv_conn_info.bind fun k => (s.handles k).map fun u =>
        if configure then
          (s.setConnection destinationAddr ci).setHandle k
            (some { u with data := .connectionInfo destinationAddr, connecting := connect })
        else
          ((s.deleteMessage u).setHandle k none).setConnection destinationAddr
            { ci with uv_conn_info := none }

def on_connect (s : TCPUVClient) (stream : Nat) (status : Int) (write resolve : Bool) :
    Option TCPUVClient :=
  (s.handles stream).bind fun u =>
    match u.connecting, u.data with
    | true, .connectionInfo destinationAddr =>
      let s := s.setHandle stream (some { u with connecting := false })
      (s.map_addr_connection_info destinationAddr).bind fun ci => ci.uv_conn_info.bind fun k =>
        (s.handles k).bind fun v =>
          let left := ci.queued_message_info.tail
          let s := (s.setHandle k (some { v with
              current_message_info := ci.queued_message_info.head?
              isWritten := false })).setConnection destinationAddr
            { ci with queued_message_info := left }
          if status ≠ 0 then
            (s.detachAndClose destinationAddr stream).bind fun t =>
              if left ≠ [] then t.create_new_connection_for_next_message destinationAddr resolve
              else some t
          else if ci.queued_message_info ≠ [] then s.send_data destinationAddr stream write
          else s.detachAndClose destinationAddr stream
    | _, _ => none

/-- `start` says whether the event loop starts to read. -/
def on_write_end (s : TCPUVClient) (stream : Nat) (status : Int) (start : Bool) :
    Option TCPUVClient :=
  (s.handles stream).bind fun u =>
    match u.writes with
    | [] => none
    | message :: writes =>
      let v := { u with writes := writes }
      if status ≠ 0 then
        match u.data with
        | .connectionInfo destinationAddr =>
          (s.setHandle stream (some v)).detachAndClose destinationAddr stream
        | _ => none
      else
        some ({ s with written := s.written ++ [message] }.setHandle stream (some { v with
          reading := u.reading || start
          isWritten := u.isWritten || u.current_message_info = some message }))

/-- A read that fails closes the handle. With an empty queue it is closed in any case. -/
def on_ack_read (s : TCPUVClient) (stream : Nat) (nread : Int) (write resolve : Bool) :
    Option TCPUVClient :=
  (s.handles stream).bind fun u =>
    match u.reading, u.data with
    | true, .connectionInfo destinationAddr =>
      (if 0 < nread then some s else s.detachAndClose destinationAddr stream).bind fun s =>
        (s.map_addr_connection_info destinationAddr).bind fun ci =>
          match ci.queued_message_info with
          | [] => s.detachAndClose destinationAddr stream
          | message :: left =>
            match ci.uv_conn_info with
            | some k => (s.handles k).bind fun v =>
              (((s.deleteMessage v).setHandle k (some { v with
                  current_message_info := some message
                  isWritten := false })).setConnection destinationAddr
                { ci with queued_message_info := left }).send_data destinationAddr stream write
            | none => s.create_new_connection_for_next_message destinationAddr resolve
    | _, _ => none

/-- What the handle was given is freed, with its message. -/
def on_close (s : TCPUVClient) (stream : Nat) : Option TCPUVClient :=
  (s.handles stream).bind fun u =>
    if u.closes = 0 ∨ u.connecting ∨ u.writes ≠ [] then none
    else
      match u.data with
      | .uvConnInfo (some k) => (s.handles k).map fun v => (s.deleteMessage v).setHandle k none
      | _ => none

/-! ## The runs -/

inductive Label where
  | submitMessage (destinationAddr : String) (message : Bool)
  | processBufferElement (resolve : Bool)
  | on_resolve (destinationAddr : String) (status : Int) (configure connect : Bool)
  | on_connect (stream : Nat) (status : Int) (write resolve : Bool)
  | on_write_end (stream : Nat) (status : Int) (start : Bool)
  | on_ack_read (stream : Nat) (nread : Int) (write resolve : Bool)
  | on_close (stream : Nat)
  deriving DecidableEq, Repr

def step (s : TCPUVClient) : Label → Option TCPUVClient
  | .submitMessage destinationAddr message => some (s.submitMessage destinationAddr message)
  | .processBufferElement resolve => s.processBufferElement resolve
  | .on_resolve destinationAddr status configure connect =>
    s.on_resolve destinationAddr status configure connect
  | .on_connect stream status write resolve => s.on_connect stream status write resolve
  | .on_write_end stream status start => s.on_write_end stream status start
  | .on_ack_read stream nread write resolve => s.on_ack_read stream nread write resolve
  | .on_close stream => s.on_close stream

end TCPUVClient

end chaos.common.rpc.tcpuv
