-- The direct io packs on the wire: the header of a pack, the parts that a client sends for it,
-- and the loop of the server that reads the parts of one message after the other. The hosts are
-- little endian, so that the byte swaps of the code change nothing.
import Chaos.DirectIO
import Chaos.LittleEndian

namespace chaos.common.direct_io

open little_endian

/-! ## The header of a pack -/

/-- The bit fields of the dispatcher header, from the lowest bit on. -/
structure DispatcherHeader where
  route_addr : UInt16
  synchronous_answer : Bool
  unused : Fin (2 ^ 15)
  channel_idx : UInt8
  channel_part : UInt8
  channel_opcode : UInt8
  channel_specified_tag : UInt8
  deriving DecidableEq

/-- The union of the header sees the fields as one number. -/
def DispatcherHeader.raw_data (h : DispatcherHeader) : UInt64 :=
  UInt64.ofNat (h.route_addr.toNat + 2 ^ 16 * h.synchronous_answer.toNat + 2 ^ 17 * h.unused.val +
    2 ^ 32 * h.channel_idx.toNat + 2 ^ 40 * h.channel_part.toNat +
    2 ^ 48 * h.channel_opcode.toNat + 2 ^ 56 * h.channel_specified_tag.toNat)

def DispatcherHeader.ofRaw (raw_data : UInt64) : DispatcherHeader where
  route_addr := UInt16.ofNat raw_data.toNat
  synchronous_answer := decide (raw_data.toNat / 2 ^ 16 % 2 = 1)
  unused := Fin.ofNat _ (raw_data.toNat / 2 ^ 17)
  channel_idx := UInt8.ofNat (raw_data.toNat / 2 ^ 32)
  channel_part := UInt8.ofNat (raw_data.toNat / 2 ^ 40)
  channel_opcode := UInt8.ofNat (raw_data.toNat / 2 ^ 48)
  channel_specified_tag := UInt8.ofNat (raw_data.toNat / 2 ^ 56)

/-- The fields are read as they were set. -/
@[simp] theorem DispatcherHeader.ofRaw_raw_data (h : DispatcherHeader) : ofRaw h.raw_data = h := by
  obtain ⟨route, sync, unused, idx, part, opcode, tag⟩ := h
  have h1 := route.toNat_lt
  have h2 : sync.toNat < 2 := Bool.toNat_lt sync
  have h3 := unused.isLt
  have h4 := idx.toNat_lt
  have h5 := part.toNat_lt
  have h6 := opcode.toNat_lt
  have h7 := tag.toNat_lt
  have hsync : sync = decide (sync.toNat = 1) := by cases sync <;> rfl
  simp only [raw_data, ofRaw, UInt64.toNat_ofNat', DispatcherHeader.mk.injEq]
  rw [Nat.mod_eq_of_lt (by omega)]
  refine ⟨?_, ?_, ?_, ?_, ?_, ?_, ?_⟩
  · apply UInt16.toNat_inj.mp
    rw [UInt16.toNat_ofNat']
    omega
  · rw [hsync]
    congr 1
    simp only [eq_iff_iff, ← hsync]
    omega
  · apply Fin.ext
    simp only [Fin.ofNat]
    omega
  all_goals
    apply UInt8.toNat_inj.mp
    rw [UInt8.toNat_ofNat']
    omega

def DIRECT_IO_HEADER_SIZE : Nat := 16

def DIRECT_IO_CHANNEL_PART_EMPTY : UInt8 := 0
def DIRECT_IO_CHANNEL_PART_HEADER_ONLY : UInt8 := 1
def DIRECT_IO_CHANNEL_PART_DATA_ONLY : UInt8 := 2
def DIRECT_IO_CHANNEL_PART_HEADER_DATA : UInt8 := 3

/-- A pack. The server makes the buffers of the channel header and of the channel data as long
as the sizes say, and they hold the bytes that were received; what is past these bytes is not
initialized. -/
structure DirectIODataPack where
  dispatcher_header : DispatcherHeader
  channel_header_size : UInt32
  channel_data_size : UInt32
  channel_header_data : Option (List UInt8)
  channel_data : Option (List UInt8)
  deriving DecidableEq

namespace DirectIODataPack

/-- A pack as `calloc` and `memset` leave it. -/
def zero : DirectIODataPack where
  dispatcher_header := .ofRaw 0
  channel_header_size := 0
  channel_data_size := 0
  channel_header_data := none
  channel_data := none

/-- `DIRECT_IO_SET_CHANNEL_HEADER`. -/
def setChannelHeader (pack : DirectIODataPack) (h_ptr : List UInt8) (h_size : UInt32) :
    DirectIODataPack :=
  { pack with
    dispatcher_header := { pack.dispatcher_header with
      channel_part :=
        pack.dispatcher_header.channel_part + DIRECT_IO_CHANNEL_PART_HEADER_ONLY }
    channel_header_size := h_size
    channel_header_data := some h_ptr }

/-- `DIRECT_IO_SET_CHANNEL_DATA`. -/
def setChannelData (pack : DirectIODataPack) (d_ptr : List UInt8) (d_size : UInt32) :
    DirectIODataPack :=
  { pack with
    dispatcher_header := { pack.dispatcher_header with
      channel_part :=
        pack.dispatcher_header.channel_part + DIRECT_IO_CHANNEL_PART_DATA_ONLY }
    channel_data_size := d_size
    channel_data := some d_ptr }

/-- The header in memory. -/
def header (pack : DirectIODataPack) : List UInt8 :=
  toBytes 8 pack.dispatcher_header.raw_data.toNat ++
    toBytes 4 pack.channel_header_size.toNat ++ toBytes 4 pack.channel_data_size.toNat

/-- The parts that `writeToSocket` sends. The message of a buffer is as long as its size says. -/
def writeToSocket (pack : DirectIODataPack) : List (List UInt8) :=
  let header_data := (pack.channel_header_data.getD []).take pack.channel_header_size.toNat
  let data := (pack.channel_data.getD []).take pack.channel_data_size.toNat
  if pack.dispatcher_header.channel_part = DIRECT_IO_CHANNEL_PART_EMPTY then
    [[], pack.header]
  else if pack.dispatcher_header.channel_part = DIRECT_IO_CHANNEL_PART_HEADER_ONLY then
    [[], pack.header, header_data]
  else if pack.dispatcher_header.channel_part = DIRECT_IO_CHANNEL_PART_DATA_ONLY then
    [[], pack.header, data]
  else if pack.dispatcher_header.channel_part = DIRECT_IO_CHANNEL_PART_HEADER_DATA then
    [[], pack.header, header_data, data]
  else [[]]

end DirectIODataPack

/-! ## The loop of the server -/

/-- What a call of `zmq_recv` gives: an error, or the next part of a message. -/
inductive Recv
  | error
  | part (bytes : List UInt8)
  deriving DecidableEq

/-- The pointer to the synchronous answer: NULL, the answer that is allocated for this message,
or the one of an earlier message, which the socket has freed or is about to free. -/
inductive AnswerPtr
  | null
  | fresh
  | stale
  deriving DecidableEq

/-- What the delegate does with a pack: it throws, or it writes an answer where it has one to
write to. -/
inductive Handled
  | threw
  | returned (answer : List UInt8)
  deriving DecidableEq

/-- What the loop does that others see. -/
inductive WorkerEvent
  | dispatched (pack : DirectIODataPack) (synchronous_answer : AnswerPtr)
  | answered (identity answer : List UInt8)
  deriving DecidableEq

/-- The call of `zmq_recv` that the loop is in, with what it has of the message. -/
inductive WorkerPhase
  | identity
  | delimiter (identity : List UInt8)
  | header (identity : List UInt8)
  | channelHeader (identity : List UInt8) (pack : DirectIODataPack)
  | channelData (identity : List UInt8) (pack : DirectIODataPack)
  deriving DecidableEq

/-- `synchronous_answer` is the variable of the loop that keeps its value from one message to
the next one. -/
structure ZMQDirectIOServer where
  phase : WorkerPhase
  synchronous_answer : AnswerPtr
  events : List WorkerEvent
  deriving DecidableEq

namespace ZMQDirectIOServer

def start : ZMQDirectIOServer := ⟨.identity, .null, []⟩

/-- `stringReceive`: at most 255 bytes, up to the first zero byte. -/
def stringReceive (bytes : List UInt8) : List UInt8 :=
  (bytes.take 255).takeWhile (· ≠ 0)

/-- `DIRECT_IO_GET_DISPATCHER_DATA`. -/
def getDispatcherData (header_buffer : List UInt8) : UInt64 :=
  UInt64.ofNat (ofBytes (header_buffer.take 8))

/-- `DIRECT_IO_GET_CHANNEL_HEADER_SIZE`. -/
def getChannelHeaderSize (header_buffer : List UInt8) : UInt32 :=
  UInt32.ofNat (ofBytes ((header_buffer.drop 8).take 4))

/-- `DIRECT_IO_GET_CHANNEL_DATA_SIZE`. -/
def getChannelDataSize (header_buffer : List UInt8) : UInt32 :=
  UInt32.ofNat (ofBytes ((header_buffer.drop 12).take 4))

variable (delegate : DirectIODataPack → Handled)

/-- The end of the loop, where the pack is dispatched. The variable is set only for a message
with the flag, and only then an answer is sent. -/
def dispatch (w : ZMQDirectIOServer) (identity : List UInt8) (pack : DirectIODataPack) :
    ZMQDirectIOServer :=
  let flag := pack.dispatcher_header.synchronous_answer
  let synchronous_answer := if flag then .fresh else w.synchronous_answer
  let answers := match delegate pack with
    | .threw => []
    | .returned answer => if flag then [.answered identity answer] else []
  { phase := .identity
    synchronous_answer := if synchronous_answer = .null then .null else .stale
    events := w.events ++ .dispatched pack synchronous_answer :: answers }

/-- What is dispatched does not depend on the call that the loop was in. -/
@[simp] theorem dispatch_phase (w : ZMQDirectIOServer) (phase : WorkerPhase)
    (identity : List UInt8) (pack : DirectIODataPack) :
    dispatch delegate ⟨phase, w.synchronous_answer, w.events⟩ identity pack =
      w.dispatch delegate identity pack := rfl

/-- The header is read: the parts that follow are the ones that `channel_part` names. A size
is read for a part that follows only. -/
def headerReceived (w : ZMQDirectIOServer) (identity header_buffer : List UInt8) :
    ZMQDirectIOServer :=
  let pack := { DirectIODataPack.zero with
    dispatcher_header := .ofRaw (getDispatcherData header_buffer) }
  let header_size := getChannelHeaderSize header_buffer
  let data_size := getChannelDataSize header_buffer
  if pack.dispatcher_header.channel_part = DIRECT_IO_CHANNEL_PART_HEADER_ONLY then
    let pack := { pack with channel_header_size := header_size }
    { w with phase := .channelHeader identity pack }
  else if pack.dispatcher_header.channel_part = DIRECT_IO_CHANNEL_PART_DATA_ONLY then
    let pack := { pack with channel_data_size := data_size }
    { w with phase := .channelData identity pack }
  else if pack.dispatcher_header.channel_part = DIRECT_IO_CHANNEL_PART_HEADER_DATA then
    let pack := { pack with channel_header_size := header_size, channel_data_size := data_size }
    { w with phase := .channelHeader identity pack }
  else w.dispatch delegate identity pack

/-- One call of `zmq_recv`, with what the loop does up to the next one. Each error goes on with
the next turn of the loop, wherever in the message it is. -/
def recv (w : ZMQDirectIOServer) : Recv → ZMQDirectIOServer
  | .error => { w with phase := .identity }
  | .part bytes =>
    match w.phase with
    | .identity => { w with phase := .delimiter (stringReceive bytes) }
    | .delimiter identity => { w with phase := .header identity }
    | .header identity =>
      if bytes.length = DIRECT_IO_HEADER_SIZE then w.headerReceived delegate identity bytes
      else { w with phase := .identity }
    | .channelHeader identity pack =>
      let pack := { pack with
        channel_header_data := some (bytes.take pack.channel_header_size.toNat) }
      if pack.dispatcher_header.channel_part = DIRECT_IO_CHANNEL_PART_HEADER_DATA then
        { w with phase := .channelData identity pack }
      else w.dispatch delegate identity pack
    | .channelData identity pack =>
      w.dispatch delegate identity { pack with
        channel_data := some (bytes.take pack.channel_data_size.toNat) }

/-- `worker`, on what the calls of `zmq_recv` give. -/
def worker (recvs : List Recv) : ZMQDirectIOServer := recvs.foldl (recv delegate) start

end ZMQDirectIOServer

end chaos.common.direct_io
