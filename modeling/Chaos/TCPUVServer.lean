-- A connection of the RPC server over TCP, and the bytes that the client writes on it. A connection
-- starts in the phase in which data are read and never leaves it, and no length goes before the
-- bytes of a message: each read is taken for one message.
import Chaos.Bson

namespace chaos.common.rpc.tcpuv

open little_endian

def BSONObjMaxInternalSize : Nat := 16 * 1024 * 1024 + 16 * 1024

/-! ## The client -/

/-- A message is told by the bytes of its elements. A larger one cannot be serialized. -/
structure Message where
  elements : List UInt8
  fits : elements.length + 5 ≤ BSONObjMaxInternalSize

def Message.getBSONData (message : Message) : List UInt8 := bson.document message.elements

/-- The length is stored for the connection, and not sent. -/
def send_data (written : List UInt8) (message : Message) : List UInt8 :=
  written ++ message.getBSONData

/-! ## The server -/

inductive ConnectionReadPhase where
  | Header
  | Data
  deriving DecidableEq, Repr

/-- What a read callback gets: the first bytes of its buffer, or a code below zero. -/
inductive ReadCallback where
  | received (bytes : List UInt8)
  | error (nread : Int)
  deriving DecidableEq, Repr

def ReadCallback.bytes : ReadCallback → List UInt8
  | .received bytes => bytes
  | .error _ => []

/-- `dispatched` and `answers` are the elements of the packs that went to the dispatcher, and the
bytes that were written for its results. -/
structure AcceptedConnection where
  receiving_phase : ConnectionReadPhase := .Data
  phjase_one_data_size : Nat := 0
  closing : Bool := false
  dispatched : List (List UInt8) := []
  answers : List (List UInt8) := []
  deriving DecidableEq, Repr

/-- The pack that is built from a buffer: the size of the document is read, which must be one that
an object can have, and then its elements, without the zero after them. Bytes that were not received
have no value. -/
def newCDataWrapper (buffer : List UInt8) : Option (List UInt8) :=
  if buffer.length < 4 then none
  else
    let objsize := ofBytes (buffer.take 4)
    if objsize = 0 ∨ BSONObjMaxInternalSize < objsize then none
    else if objsize ≤ 5 then some []
    else if buffer.length < objsize - 1 then none
    else some ((buffer.drop 4).take (objsize - 5))

namespace AcceptedConnection

variable (dispatchCommand : List UInt8 → List UInt8)

def uv_close (s : AcceptedConnection) : AcceptedConnection := { s with closing := true }

/-- The size of the buffer for the next read. -/
def on_alloc (s : AcceptedConnection) (suggested_size : Nat) : Nat :=
  match s.receiving_phase with
  | .Header => 8
  | .Data => suggested_size

/-- A length of zero tells to close the connection. -/
def internal_read_header (s : AcceptedConnection) (bytes : List UInt8) :
    Option AcceptedConnection :=
  if bytes.length < 8 then none
  else
    let size := ofBytes (bytes.take 8)
    let t := { s with phjase_one_data_size := size }
    some (if size ≠ 0 then { t with receiving_phase := .Data } else t.uv_close)

def internal_read_data (s : AcceptedConnection) (bytes : List UInt8) : Option AcceptedConnection :=
  (newCDataWrapper bytes).map fun pack =>
    { s with
      dispatched := s.dispatched ++ [pack]
      answers := s.answers ++ [bson.document (dispatchCommand pack)]
      receiving_phase := .Data }

/-- A connection that is closed gets no more callbacks. A read without bytes closes it. -/
def on_read (s : AcceptedConnection) : ReadCallback → Option AcceptedConnection
  | .error _ | .received [] => some (if s.closing then s else s.uv_close)
  | .received (byte :: bytes) =>
    if s.closing then some s
    else
      match s.receiving_phase with
      | .Header => s.internal_read_header (byte :: bytes)
      | .Data => s.internal_read_data dispatchCommand (byte :: bytes)

end AcceptedConnection

end chaos.common.rpc.tcpuv
