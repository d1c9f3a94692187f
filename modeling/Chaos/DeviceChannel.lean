-- The put of the device channel: the pack that the client makes of a key and its data, and what
-- the server hands to the put handler. The length of the key has one byte in the header, and a
-- longer key is cut without a word.
import Chaos.MessageIsolation

namespace chaos.common.direct_io.channel

open ZMQDirectIOServer

/-! ## The client -/

def DIODataset_Channel_Index : UInt8 := 2

def DeviceChannelOpcodePutOutput : UInt8 := 1

def GET_PUT_OPCODE_FIXED_PART_LEN : UInt32 := 2

/-- Bytes that a 32 bit size can count. -/
structure Payload where
  bytes : List UInt8
  fits : bytes.length < 2 ^ 32

/-- `PUT_HEADER_LEN`. -/
def putHeaderLen (key : List UInt8) : UInt32 :=
  GET_PUT_OPCODE_FIXED_PART_LEN + UInt32.ofNat key.length

/-- The header of the put, in a block that has room for the key twice. -/
def putOpcodeHeader (key : List UInt8) (put_mode : UInt8) : List UInt8 :=
  let key_len := UInt8.ofNat key.length
  let filled := put_mode :: key_len :: key.take key_len.toNat
  filled ++ List.replicate ((putHeaderLen key).toNat + key.length - filled.length) 0

/-- `completeChannnelDataPack` and `completeDataPack`: the fields that the channel and the
connection to `endpoint` know. -/
def completeDataPack (endpoint : UInt16) (channel_route_index : UInt8) (synchronous_answer : Bool)
    (pack : DirectIODataPack) : DirectIODataPack :=
  { pack with
    dispatcher_header := { pack.dispatcher_header with
      synchronous_answer := synchronous_answer
      channel_idx := channel_route_index
      route_addr := endpoint } }

/-- `storeAndCacheDataOutputChannel`, up to the pack that the connection to `endpoint` writes to
its socket. `put_mode` is the put mode as a byte. -/
def storeAndCacheDataOutputChannel (endpoint : UInt16) (key : List UInt8) (buffer : Payload)
    (put_mode : UInt8) : DirectIODataPack :=
  let pack := { DirectIODataPack.zero with
    dispatcher_header := { DirectIODataPack.zero.dispatcher_header with
      channel_opcode := DeviceChannelOpcodePutOutput } }
  let pack := pack.setChannelHeader (putOpcodeHeader key put_mode) (putHeaderLen key)
  let buffer_len := UInt32.ofNat buffer.bytes.length
  completeDataPack endpoint DIODataset_Channel_Index false
    (if buffer_len ≠ 0 then pack.setChannelData buffer.bytes buffer_len else pack)

/-! ## The server -/

/-- What the put handler gets: the header, and the data with its length. -/
structure PutEvent where
  header : List UInt8
  channel_data : Option (List UInt8)
  channel_data_len : UInt32
  deriving DecidableEq

namespace PutEvent

def tag (e : PutEvent) : Option UInt8 := e.header[0]?

def key_len (e : PutEvent) : Option UInt8 := e.header[1]?

/-- The key, which is read from `GET_PUT_OPCODE_KEY_PTR` on. A read past the bytes of the header
is undefined. -/
def key (e : PutEvent) : Option (List UInt8) :=
  e.key_len.bind fun n =>
    let bytes := (e.header.drop 2).take n.toNat
    if bytes.length = n.toNat then some bytes else none

/-- The bytes of the data. -/
def payload (e : PutEvent) : List UInt8 := (e.channel_data.getD []).take e.channel_data_len.toNat

end PutEvent

/-- The branch of `consumeDataPack` for a put. It writes the tag back in the byte order of the
host, which is undefined where the header has no byte. -/
def consumePutOutput (pack : DirectIODataPack) : Option PutEvent :=
  if pack.dispatcher_header.channel_opcode = DeviceChannelOpcodePutOutput then
    match pack.channel_header_data with
    | some (tag :: rest) =>
      some ⟨tag.toUInt32.toUInt8 :: rest, pack.channel_data, pack.channel_data_size⟩
    | _ => none
  else none

/-! ## The round trip -/

/-- What the put handler gets from the packs that the loop of the server dispatches. -/
def putEvents (w : ZMQDirectIOServer) : List (Option PutEvent) :=
  w.events.filterMap fun
    | .dispatched pack _ => some (consumePutOutput pack)
    | .answered _ _ => none

/-- The put that a client sends on a socket with an identity gets to the handler of the server
once, with the same tag, the same key and the same bytes. -/
def PutArrives (delegate : DirectIODataPack → Handled) (identity : List UInt8) (endpoint : UInt16)
    (key : List UInt8) (buffer : Payload) (put_mode : UInt8) : Prop :=
  ∃ e, putEvents (worker delegate
      ((identity :: (storeAndCacheDataOutputChannel endpoint key buffer put_mode).writeToSocket).map
        Recv.part)) = [some e] ∧
    e.tag = some put_mode ∧ e.key = some key ∧ e.payload = buffer.bytes

variable {endpoint : UInt16} {key : List UInt8} {buffer : Payload} {put_mode : UInt8}

/-- The key that is read is as long as the byte of its length says. -/
theorem length_lt_of_key {e : PutEvent} (h : e.key = some key) : key.length < 256 := by
  unfold PutEvent.key at h
  obtain ⟨n, -, hn⟩ := Option.bind_eq_some_iff.mp h
  dsimp only at hn
  split at hn
  · rename_i hlen
    cases hn
    rw [hlen]
    exact n.toNat_lt
  · cases hn

theorem toNat_buffer_len (buffer : Payload) :
    (UInt32.ofNat buffer.bytes.length).toNat = buffer.bytes.length := by
  rw [UInt32.toNat_ofNat']
  exact Nat.mod_eq_of_lt buffer.fits

/-- The pack of a put has the header of the put. -/
theorem put_header :
    (storeAndCacheDataOutputChannel endpoint key buffer put_mode).channel_header_data =
        some (putOpcodeHeader key put_mode) ∧
      (storeAndCacheDataOutputChannel endpoint key buffer put_mode).channel_header_size =
        putHeaderLen key ∧
      (storeAndCacheDataOutputChannel endpoint key buffer put_mode).dispatcher_header.channel_opcode
        = DeviceChannelOpcodePutOutput := by
  unfold storeAndCacheDataOutputChannel
  dsimp only
  split <;> exact ⟨rfl, rfl, rfl⟩

/-- The pack of a put has its data, unless there is none. -/
theorem put_data :
    (storeAndCacheDataOutputChannel endpoint key buffer put_mode).channel_data_size.toNat =
        buffer.bytes.length ∧
      (storeAndCacheDataOutputChannel endpoint key buffer put_mode).channel_data =
        if buffer.bytes = [] then none else some buffer.bytes := by
  have hfits := toNat_buffer_len buffer
  unfold storeAndCacheDataOutputChannel
  by_cases hlen : UInt32.ofNat buffer.bytes.length = 0
  · rw [hlen] at hfits
    have hnil : buffer.bytes = [] := List.eq_nil_of_length_eq_zero hfits.symm
    simp [hnil, DirectIODataPack.setChannelHeader, DirectIODataPack.zero, completeDataPack]
  · have hne : buffer.bytes ≠ [] := by
      intro hnil
      rw [hnil] at hlen
      exact hlen rfl
    simp only [ne_eq, hlen, not_false_eq_true, if_true, if_neg hne]
    exact ⟨hfits, rfl⟩

theorem complete_put : Complete (storeAndCacheDataOutputChannel endpoint key buffer put_mode) := by
  obtain ⟨hsize, hdata⟩ :
      _ ∧ (storeAndCacheDataOutputChannel endpoint key buffer put_mode).channel_data
      = _ := put_data
  refine ⟨?_, ?_, ?_⟩
  · unfold storeAndCacheDataOutputChannel
    dsimp only
    split <;> rfl
  · rw [put_header.1]
    exact nofun
  · intro hnone
    rw [hdata] at hnone
    split at hnone
    · rename_i hnil
      apply UInt32.toNat_inj.mp
      rw [hsize, hnil]
      rfl
    · cases hnone

/-- The header of a short key, as far as it is sent. -/
theorem take_putOpcodeHeader (hkey : key.length < 256) :
    (putOpcodeHeader key put_mode).take (putHeaderLen key).toNat =
      put_mode :: UInt8.ofNat key.length :: key := by
  have hlen : (putHeaderLen key).toNat = key.length + 2 := by
    simp only [putHeaderLen, GET_PUT_OPCODE_FIXED_PART_LEN, UInt32.toNat_add, UInt32.toNat_ofNat']
    have : (2 : UInt32).toNat = 2 := rfl
    omega
  have hkeylen : (UInt8.ofNat key.length).toNat = key.length := by
    rw [UInt8.toNat_ofNat']
    exact Nat.mod_eq_of_lt hkey
  unfold putOpcodeHeader
  rw [hlen]
  simp [hkeylen]

/-- The server hands over the tag, the key and the data of the put. -/
theorem consume_put (hkey : key.length < 256) :
    ∃ e, consumePutOutput (cutToSize (storeAndCacheDataOutputChannel endpoint key buffer put_mode))
        = some e ∧ e.tag = some put_mode ∧ e.key = some key ∧ e.payload = buffer.bytes := by
  obtain ⟨hheader, hlen, hopcode⟩ : (storeAndCacheDataOutputChannel endpoint key buffer
      put_mode).channel_header_data = _ ∧ _ ∧ _ := put_header
  obtain ⟨hsize, hdata⟩ : (storeAndCacheDataOutputChannel endpoint key buffer
      put_mode).channel_data_size.toNat = _ ∧ _ := put_data
  have hkeylen : (UInt8.ofNat key.length).toNat = key.length := by
    rw [UInt8.toNat_ofNat']
    exact Nat.mod_eq_of_lt hkey
  unfold consumePutOutput cutToSize
  simp only [hopcode, hheader, hlen, Option.map_some, take_putOpcodeHeader hkey, if_true]
  refine ⟨_, rfl, ?_, ?_, ?_⟩
  · simp [PutEvent.tag]
  · simp [PutEvent.key, PutEvent.key_len, hkeylen]
  · simp only [PutEvent.payload, hdata, hsize]
    by_cases hnil : buffer.bytes = []
    · simp [hnil]
    · simp [hnil]

/-- A pack that is dispatched is handed over once. -/
theorem putEvents_dispatch (delegate : DirectIODataPack → Handled) (identity : List UInt8)
    (pack : DirectIODataPack) :
    putEvents (start.dispatch delegate identity pack) = [consumePutOutput pack] :=
  filterMap_dispatch (fun _ _ => rfl) delegate start identity pack

/-- The put of every tag, key and data gets to the handler as it is just when the key has less
than 256 bytes. -/
theorem put_arrives_iff (delegate : DirectIODataPack → Handled) (identity : List UInt8)
    (endpoint : UInt16) (key : List UInt8) (buffer : Payload) (put_mode : UInt8) :
    PutArrives delegate identity endpoint key buffer put_mode ↔ key.length < 256 := by
  constructor
  · rintro ⟨e, -, -, hkey, -⟩
    exact length_lt_of_key hkey
  · intro hkey
    obtain ⟨e, he, hfields⟩ : ∃ e, consumePutOutput (cutToSize
        (storeAndCacheDataOutputChannel endpoint key buffer put_mode)) = some e ∧ _ :=
      consume_put hkey
    refine ⟨e, ?_, hfields⟩
    rw [complete_put.worker, putEvents_dispatch, he]

/-- A key of 256 bytes is sent with the length 0, and the handler reads no byte of it. -/
theorem long_key_does_not_arrive : ¬ PutArrives (fun _ => .threw) [65] 1 (List.replicate 256 97)
    ⟨[1, 2, 3], by decide⟩ 1 := by
  rintro ⟨e, -, -, hkey, -⟩
  have hlen := length_lt_of_key hkey
  rw [List.length_replicate] at hlen
  omega

end chaos.common.direct_io.channel
