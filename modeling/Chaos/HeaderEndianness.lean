-- The header of a pack between two hosts that may each have either byte order. The client swaps the
-- sizes when they are set and again when they are sent, and the bit fields as one number, and the
-- server swaps each number once.
import Chaos.ByteOrder
import Chaos.DirectIOWire

namespace chaos.common.direct_io.header_endianness

open byte_order little_endian

/-! ## The header in memory -/

/-- Two bit fields of 8 bits in a unit of 16 bits. On a little endian host the first one has the
lowest bits, and on a big endian host the highest ones. -/
def bytePair (host : Endianness) (first second : UInt8) : Nat :=
  match host with
  | .little => first.toNat + 256 * second.toNat
  | .big => 256 * first.toNat + second.toNat

def firstOf (host : Endianness) (pair : Nat) : UInt8 :=
  match host with
  | .little => UInt8.ofNat pair
  | .big => UInt8.ofNat (pair / 256)

def secondOf (host : Endianness) (pair : Nat) : UInt8 :=
  match host with
  | .little => UInt8.ofNat (pair / 256)
  | .big => UInt8.ofNat pair

/-- The flag, and the 15 bits after it. -/
def flagUnit (host : Endianness) (flag : Bool) (unused : Fin (2 ^ 15)) : Nat :=
  match host with
  | .little => flag.toNat + 2 * unused.val
  | .big => 2 ^ 15 * flag.toNat + unused.val

def flagOf (host : Endianness) (flags : Nat) : Bool :=
  match host with
  | .little => flags % 2 = 1
  | .big => 2 ^ 15 ≤ flags

def unusedOf (host : Endianness) (flags : Nat) : Fin (2 ^ 15) :=
  match host with
  | .little => ⟨flags / 2 % 2 ^ 15, Nat.mod_lt _ (by decide)⟩
  | .big => ⟨flags % 2 ^ 15, Nat.mod_lt _ (by decide)⟩

/-- The fields of the dispatcher header in the memory of a host. -/
def fieldBytes (host : Endianness) (fields : DispatcherHeader) : List UInt8 :=
  store host 2 fields.route_addr.toNat ++
    (store host 2 (flagUnit host fields.synchronous_answer fields.unused) ++
      (store host 2 (bytePair host fields.channel_idx fields.channel_part) ++
        store host 2 (bytePair host fields.channel_opcode fields.channel_specified_tag)))

/-- The fields that a host reads. -/
def fieldsOf (host : Endianness) (bytes : List UInt8) : DispatcherHeader where
  route_addr := UInt16.ofNat (load host (bytes.take 2))
  synchronous_answer := flagOf host (load host ((bytes.drop 2).take 2))
  unused := unusedOf host (load host ((bytes.drop 2).take 2))
  channel_idx := firstOf host (load host ((bytes.drop 4).take 2))
  channel_part := secondOf host (load host ((bytes.drop 4).take 2))
  channel_opcode := firstOf host (load host ((bytes.drop 6).take 2))
  channel_specified_tag := secondOf host (load host ((bytes.drop 6).take 2))

/-- The header of a pack, which the code reads as numbers and as fields. -/
structure HeaderMemory where
  dispatcher_header : List UInt8
  channel_header_size : List UInt8
  channel_data_size : List UInt8
  deriving DecidableEq, Repr

/-! ## The client -/

/-- What the client makes a pack of: the fields but `channel_part`, and the sizes of the buffers
that it has. -/
structure HeaderInput where
  route_addr : UInt16
  synchronous_answer : Bool
  unused : Fin (2 ^ 15)
  channel_idx : UInt8
  channel_opcode : UInt8
  channel_specified_tag : UInt8
  header_size : Option UInt32
  data_size : Option UInt32
  deriving DecidableEq

def HeaderInput.fields (input : HeaderInput) (channel_part : UInt8) : DispatcherHeader :=
  ⟨input.route_addr, input.synchronous_answer, input.unused, input.channel_idx, channel_part,
    input.channel_opcode, input.channel_specified_tag⟩

section client

variable (client : Endianness)

/-- `DIRECT_IO_SET_CHANNEL_HEADER`. -/
def setChannelHeader (h_size : UInt32) (header : HeaderMemory) : HeaderMemory :=
  let fields := fieldsOf client header.dispatcher_header
  { header with
    dispatcher_header := fieldBytes client
      { fields with channel_part := fields.channel_part + DIRECT_IO_CHANNEL_PART_HEADER_ONLY }
    channel_header_size := store client 4 (byte_swap_4 client .little h_size).toNat }

/-- `DIRECT_IO_SET_CHANNEL_DATA`. -/
def setChannelData (d_size : UInt32) (header : HeaderMemory) : HeaderMemory :=
  let fields := fieldsOf client header.dispatcher_header
  { header with
    dispatcher_header := fieldBytes client
      { fields with channel_part := fields.channel_part + DIRECT_IO_CHANNEL_PART_DATA_ONLY }
    channel_data_size := store client 4 (byte_swap_4 client .little d_size).toNat }

/-- The pack before it is written: `calloc`, the fields, and a set for each buffer. -/
def makeHeader (input : HeaderInput) : HeaderMemory :=
  let header : HeaderMemory := ⟨fieldBytes client (input.fields 0), [0, 0, 0, 0], [0, 0, 0, 0]⟩
  let header := match input.header_size with
    | none => header
    | some h_size => setChannelHeader client h_size header
  match input.data_size with
  | none => header
  | some d_size => setChannelData client d_size header

/-- The swaps at the start of `writeToSocket`. -/
def swapHeader (header : HeaderMemory) : HeaderMemory :=
  let raw_data := UInt64.ofNat (load client header.dispatcher_header)
  let channel_header_size := UInt32.ofNat (load client header.channel_header_size)
  let channel_data_size := UInt32.ofNat (load client header.channel_data_size)
  { dispatcher_header := store client 8 (byte_swap_8 client .little raw_data).toNat
    channel_header_size := store client 4 (byte_swap_4 client .little channel_header_size).toNat
    channel_data_size := store client 4 (byte_swap_4 client .little channel_data_size).toNat }

/-- A buffer, with the size that its message is made of. -/
inductive SentPart where
  | header (size : UInt32)
  | data (size : UInt32)
  deriving DecidableEq, Repr

/-- The switch over `channel_part`, with the sizes of the buffers. -/
def switchParts (channel_part : UInt8) (channel_header_size channel_data_size : UInt32) :
    Option (List SentPart) :=
  if channel_part = DIRECT_IO_CHANNEL_PART_EMPTY then some []
  else if channel_part = DIRECT_IO_CHANNEL_PART_HEADER_ONLY then some [.header channel_header_size]
  else if channel_part = DIRECT_IO_CHANNEL_PART_DATA_ONLY then some [.data channel_data_size]
  else if channel_part = DIRECT_IO_CHANNEL_PART_HEADER_DATA then
    some [.header channel_header_size, .data channel_data_size]
  else none

/-- The bytes of the header and the parts after them that `writeToSocket` sends. Where no case of
the switch matches, it sends not even the header. -/
def writeToSocket (header : HeaderMemory) : Option (List UInt8 × List SentPart) :=
  let header := swapHeader client header
  (switchParts (fieldsOf client header.dispatcher_header).channel_part
    (UInt32.ofNat (load client header.channel_header_size))
    (UInt32.ofNat (load client header.channel_data_size))).map fun parts =>
      (header.dispatcher_header ++ (header.channel_header_size ++ header.channel_data_size), parts)

end client

/-! ## The server -/

/-- The header of the pack that the server makes. A size is 0 where it is not read. -/
structure ReceivedHeader where
  fields : DispatcherHeader
  channel_header_size : UInt32
  channel_data_size : UInt32
  deriving DecidableEq

/-- The switch over `channel_part`, with the sizes in the header. -/
def readSizes (fields : DispatcherHeader) (header_size data_size : UInt32) : ReceivedHeader :=
  if fields.channel_part = DIRECT_IO_CHANNEL_PART_HEADER_ONLY then ⟨fields, header_size, 0⟩
  else if fields.channel_part = DIRECT_IO_CHANNEL_PART_DATA_ONLY then ⟨fields, 0, data_size⟩
  else if fields.channel_part = DIRECT_IO_CHANNEL_PART_HEADER_DATA then
    ⟨fields, header_size, data_size⟩
  else ⟨fields, 0, 0⟩

/-- `worker`, from the 16 bytes to the header of the pack. -/
def receiveHeader (server : Endianness) (header_buffer : List UInt8) : ReceivedHeader :=
  let raw_data := byte_swap_8 .little server (UInt64.ofNat (load server (header_buffer.take 8)))
  let header_size := byte_swap_4 .little server
    (UInt32.ofNat (load server ((header_buffer.drop 8).take 4)))
  let data_size := byte_swap_4 .little server
    (UInt32.ofNat (load server ((header_buffer.drop 12).take 4)))
  readSizes (fieldsOf server (store server 8 raw_data.toNat)) header_size data_size

/-! ## The round trip -/

namespace HeaderInput

variable (input : HeaderInput)

/-- What `channel_part` comes to. -/
def channel_part : UInt8 :=
  (if input.header_size.isSome then DIRECT_IO_CHANNEL_PART_HEADER_ONLY else 0) +
    if input.data_size.isSome then DIRECT_IO_CHANNEL_PART_DATA_ONLY else 0

def parts : List SentPart :=
  (input.header_size.map SentPart.header).toList ++ (input.data_size.map SentPart.data).toList

/-- The header that the server is to have. -/
def received : ReceivedHeader :=
  ⟨input.fields input.channel_part, input.header_size.getD 0, input.data_size.getD 0⟩

end HeaderInput

/-- The parts are sent with the sizes that were given, and the server has the fields and the
sizes. -/
def RoundTrips (client server : Endianness) (input : HeaderInput) : Prop :=
  ∃ bytes, writeToSocket client (makeHeader client input) = some (bytes, input.parts) ∧
    bytes.length = DIRECT_IO_HEADER_SIZE ∧ receiveHeader server bytes = input.received

/-! ## The fields of a host -/

variable {client server : Endianness} {input : HeaderInput}

@[simp] theorem length_fieldBytes (host : Endianness) (fields : DispatcherHeader) :
    (fieldBytes host fields).length = 8 := by
  simp [fieldBytes]

theorem bytePair_lt (host : Endianness) (first second : UInt8) :
    bytePair host first second < 256 ^ 2 := by
  have hfirst := first.toNat_lt
  have hsecond := second.toNat_lt
  cases host <;> simp only [bytePair] <;> omega

theorem firstOf_bytePair (host : Endianness) (first second : UInt8) :
    firstOf host (bytePair host first second) = first := by
  have hfirst := first.toNat_lt
  have hsecond := second.toNat_lt
  apply UInt8.toNat_inj.mp
  cases host <;> simp only [firstOf, bytePair, UInt8.toNat_ofNat'] <;> omega

theorem secondOf_bytePair (host : Endianness) (first second : UInt8) :
    secondOf host (bytePair host first second) = second := by
  have hfirst := first.toNat_lt
  have hsecond := second.toNat_lt
  apply UInt8.toNat_inj.mp
  cases host <;> simp only [secondOf, bytePair, UInt8.toNat_ofNat'] <;> omega

theorem bytePair_eq (host : Endianness) {pair : Nat} (h : pair < 256 ^ 2) :
    bytePair host (firstOf host pair) (secondOf host pair) = pair := by
  cases host <;> simp only [firstOf, secondOf, bytePair, UInt8.toNat_ofNat'] <;> omega

theorem flagUnit_lt (host : Endianness) (flag : Bool) (unused : Fin (2 ^ 15)) :
    flagUnit host flag unused < 256 ^ 2 := by
  have hflag := Bool.toNat_lt flag
  have hunused := unused.isLt
  cases host <;> simp only [flagUnit] <;> omega

theorem flagOf_flagUnit (host : Endianness) (flag : Bool) (unused : Fin (2 ^ 15)) :
    flagOf host (flagUnit host flag unused) = flag := by
  have hunused := unused.isLt
  cases host <;> cases flag <;> simp [flagOf, flagUnit]

theorem unusedOf_flagUnit (host : Endianness) (flag : Bool) (unused : Fin (2 ^ 15)) :
    unusedOf host (flagUnit host flag unused) = unused := by
  have hunused := unused.isLt
  apply Fin.ext
  cases host <;> cases flag <;> simp [unusedOf, flagUnit]
  omega

theorem flagUnit_eq (host : Endianness) {flags : Nat} (h : flags < 256 ^ 2) :
    flagUnit host (flagOf host flags) (unusedOf host flags) = flags := by
  cases host <;> simp only [flagUnit, flagOf, unusedOf]
  · rcases Nat.mod_two_eq_zero_or_one flags with h2 | h2
    all_goals
      simp [h2]
      omega
  · by_cases h15 : 2 ^ 15 ≤ flags
    · rw [decide_eq_true h15, Bool.toNat_true]
      omega
    · rw [decide_eq_false h15, Bool.toNat_false]
      omega

/-- The units of a header, one after the other. -/
theorem take_units {a b c d : List UInt8} (ha : a.length = 2) (hb : b.length = 2)
    (hc : c.length = 2) (hd : d.length = 2) : (a ++ (b ++ (c ++ d))).take 2 = a ∧
      ((a ++ (b ++ (c ++ d))).drop 2).take 2 = b ∧ ((a ++ (b ++ (c ++ d))).drop 4).take 2 = c ∧
      ((a ++ (b ++ (c ++ d))).drop 6).take 2 = d := by
  match a, b, c, d, ha, hb, hc, hd with
  | [_, _], [_, _], [_, _], [_, _], _, _, _, _ => exact ⟨rfl, rfl, rfl, rfl⟩

/-- A host reads the fields as it has set them. -/
theorem fieldsOf_fieldBytes (host : Endianness) (fields : DispatcherHeader) :
    fieldsOf host (fieldBytes host fields) = fields := by
  obtain ⟨route, flag, unused, idx, part, opcode, tag⟩ := fields
  obtain ⟨h1, h2, h3, h4⟩ := take_units (length_store host 2 route.toNat)
    (length_store host 2 (flagUnit host flag unused)) (length_store host 2 (bytePair host idx part))
    (length_store host 2 (bytePair host opcode tag))
  have hroute := load_store host (show route.toNat < 256 ^ 2 from route.toNat_lt)
  have hflags := load_store host (flagUnit_lt host flag unused)
  have hpair := load_store host (bytePair_lt host idx part)
  have hpair' := load_store host (bytePair_lt host opcode tag)
  simp only [fieldsOf, fieldBytes, h1, h2, h3, h4, hroute, hflags, hpair, hpair',
    UInt16.ofNat_toNat, flagOf_flagUnit, unusedOf_flagUnit, firstOf_bytePair, secondOf_bytePair]

/-- Eight bytes are what their fields are set to. -/
theorem fieldBytes_fieldsOf (host : Endianness) {bytes : List UInt8} (h : bytes.length = 8) :
    fieldBytes host (fieldsOf host bytes) = bytes := by
  obtain ⟨a, b, c, d, rfl, ha, hb, hc, hd⟩ : ∃ a b c d : List UInt8, bytes = a ++ (b ++ (c ++ d)) ∧
      a.length = 2 ∧ b.length = 2 ∧ c.length = 2 ∧ d.length = 2 := by
    match bytes, h with
    | [b0, b1, b2, b3, b4, b5, b6, b7], _ =>
      exact ⟨[b0, b1], [b2, b3], [b4, b5], [b6, b7], rfl, rfl, rfl, rfl, rfl⟩
  obtain ⟨h1, h2, h3, h4⟩ := take_units ha hb hc hd
  have hunit : ∀ u : List UInt8, u.length = 2 → load host u < 256 ^ 2 ∧
      store host 2 (load host u) = u := by
    intro u hu
    have hlt := load_lt host u
    have hstore := store_load host u
    rw [hu] at hlt hstore
    exact ⟨hlt, hstore⟩
  obtain ⟨hlta, hsa⟩ := hunit a ha
  obtain ⟨hltb, hsb⟩ := hunit b hb
  obtain ⟨hltc, hsc⟩ := hunit c hc
  obtain ⟨hltd, hsd⟩ := hunit d hd
  have hroute : (UInt16.ofNat (load host a)).toNat = load host a := by
    rw [UInt16.toNat_ofNat']
    exact Nat.mod_eq_of_lt hlta
  simp only [fieldBytes, fieldsOf, h1, h2, h3, h4, hroute, flagUnit_eq host hltb,
    bytePair_eq host hltc, bytePair_eq host hltd, hsa, hsb, hsc, hsd]

/-- A host reads the fields just from the bytes that it would set them to. -/
theorem fieldsOf_eq_iff (host : Endianness) {bytes : List UInt8} (h : bytes.length = 8)
    (fields : DispatcherHeader) :
    fieldsOf host bytes = fields ↔ bytes = fieldBytes host fields := by
  constructor
  · rintro rfl
    exact (fieldBytes_fieldsOf host h).symm
  · rintro rfl
    exact fieldsOf_fieldBytes host fields

/-! ## The header that is sent -/

theorem setChannelHeader_eq (fields : DispatcherHeader) (h_size : UInt32) (a b : List UInt8) :
    setChannelHeader client h_size ⟨fieldBytes client fields, a, b⟩ =
      ⟨fieldBytes client { fields with
        channel_part := fields.channel_part + DIRECT_IO_CHANNEL_PART_HEADER_ONLY },
        toBytes 4 h_size.toNat, b⟩ := by
  simp only [setChannelHeader, fieldsOf_fieldBytes, store_byte_swap_4]

theorem setChannelData_eq (fields : DispatcherHeader) (d_size : UInt32) (a b : List UInt8) :
    setChannelData client d_size ⟨fieldBytes client fields, a, b⟩ =
      ⟨fieldBytes client { fields with
        channel_part := fields.channel_part + DIRECT_IO_CHANNEL_PART_DATA_ONLY },
        a, toBytes 4 d_size.toNat⟩ := by
  simp only [setChannelData, fieldsOf_fieldBytes, store_byte_swap_4]

/-- After the sets the sizes have the lowest byte first, on every host. -/
theorem makeHeader_eq (client : Endianness) (input : HeaderInput) :
    makeHeader client input = ⟨fieldBytes client (input.fields input.channel_part),
      toBytes 4 (input.header_size.getD 0).toNat, toBytes 4 (input.data_size.getD 0).toNat⟩ := by
  unfold makeHeader HeaderInput.channel_part
  cases input.header_size <;> cases input.data_size <;>
    simp only [setChannelHeader_eq, setChannelData_eq] <;> rfl

/-- The swaps of the write put the fields in the order of a little endian host, and the sizes, which
had this order already, in the order of the client. -/
theorem swapHeader_makeHeader (client : Endianness) (input : HeaderInput) :
    swapHeader client (makeHeader client input) =
      ⟨order client (fieldBytes client (input.fields input.channel_part)),
        store client 4 (input.header_size.getD 0).toNat,
        store client 4 (input.data_size.getD 0).toNat⟩ := by
  have hsize : ∀ size : UInt32, store client 4 (byte_swap_4 client .little
      (UInt32.ofNat (load client (toBytes 4 size.toNat)))).toNat = store client 4 size.toNat := by
    intro size
    have hlt := load_lt client (toBytes 4 size.toNat)
    have hload := toBytes_load client (toBytes 4 size.toNat)
    rw [length_toBytes] at hlt hload
    rw [store_byte_swap_4, UInt32.toNat_ofNat', Nat.mod_eq_of_lt (show _ < 2 ^ 32 from hlt), hload,
      store_eq]
  have hraw : ∀ bytes : List UInt8, bytes.length = 8 → store client 8 (byte_swap_8 client .little
      (UInt64.ofNat (load client bytes))).toNat = order client bytes := by
    intro bytes hlen
    have hlt := load_lt client bytes
    have hload := toBytes_load client bytes
    rw [hlen] at hlt hload
    rw [store_byte_swap_8, UInt64.toNat_ofNat', Nat.mod_eq_of_lt (show _ < 2 ^ 64 from hlt), hload]
  simp only [swapHeader, makeHeader_eq, hsize, hraw _ (length_fieldBytes client _)]

/-- The 16 bytes of the header. -/
def wire (client : Endianness) (input : HeaderInput) : List UInt8 :=
  order client (fieldBytes client (input.fields input.channel_part)) ++
    (store client 4 (input.header_size.getD 0).toNat ++
      store client 4 (input.data_size.getD 0).toNat)

@[simp] theorem length_wire (client : Endianness) (input : HeaderInput) :
    (wire client input).length = DIRECT_IO_HEADER_SIZE := by
  simp [wire, DIRECT_IO_HEADER_SIZE]

/-- The part of the header that the switch of the client reads. -/
def switchedPart (client : Endianness) (input : HeaderInput) : UInt8 :=
  (fieldsOf client (order client
    (fieldBytes client (input.fields input.channel_part)))).channel_part

/-- The switch takes the buffers of the pack just when it reads the part that was set. -/
theorem switchParts_iff (input : HeaderInput) (part : UInt8) :
    switchParts part (input.header_size.getD 0) (input.data_size.getD 0) = some input.parts ↔
      part = input.channel_part := by
  obtain ⟨-, -, -, -, -, -, header_size, data_size⟩ := input
  constructor
  · intro h
    unfold switchParts at h
    split_ifs at h with h0 h1 h2 h3
    · cases header_size <;> cases data_size <;> first | exact h0 | cases h
    · cases header_size <;> cases data_size <;> first | cases h; exact h1 | cases h
    · cases header_size <;> cases data_size <;> first | cases h; exact h2 | cases h
    · cases header_size <;> cases data_size <;> first | cases h; exact h3 | cases h
  · rintro rfl
    cases header_size <;> cases data_size <;> rfl

/-- The parts of the pack are sent just when the switch reads the part that was set. -/
theorem writeToSocket_iff (client : Endianness) (input : HeaderInput) (bytes : List UInt8) :
    writeToSocket client (makeHeader client input) = some (bytes, input.parts) ↔
      bytes = wire client input ∧ switchedPart client input = input.channel_part := by
  have hload : ∀ size : UInt32,
      UInt32.ofNat (load client (store client 4 size.toNat)) = size := by
    intro size
    rw [load_store client (show size.toNat < 256 ^ 4 from size.toNat_lt), UInt32.ofNat_toNat]
  unfold writeToSocket
  rw [swapHeader_makeHeader]
  simp only [hload, ← wire.eq_def, ← switchedPart.eq_def, Option.map_eq_some_iff, Prod.mk.injEq]
  rw [← switchParts_iff]
  constructor
  · rintro ⟨parts, hparts, rfl, rfl⟩
    exact ⟨rfl, hparts⟩
  · rintro ⟨rfl, hparts⟩
    exact ⟨_, hparts, rfl, rfl⟩

/-! ## The header that is received -/

/-- The size that the server reads: the one of a big endian client comes with its bytes swapped. -/
def sizeReceived (client : Endianness) (size : UInt32) : UInt32 :=
  byte_swap_4 .little client size

theorem size_received (client server : Endianness) (size : UInt32) :
    byte_swap_4 .little server (UInt32.ofNat (load server (store client 4 size.toNat))) =
      sizeReceived client size := by
  apply UInt32.toNat_inj.mp
  rw [byte_swap_4_load server (length_store client 4 _)]
  cases client
  · exact ofBytes_toBytes size.toNat_lt
  · rw [store, ← toBytes_swap_bytes_4, toNat_of_toBytes_4]
    rfl

/-- The fields that the server reads. -/
def fieldsReceived (client server : Endianness) (input : HeaderInput) : DispatcherHeader :=
  fieldsOf server (order server (order client
    (fieldBytes client (input.fields input.channel_part))))

theorem readSizes_eq_iff (input : HeaderInput) (fields : DispatcherHeader)
    (header_size data_size : UInt32) :
    readSizes fields header_size data_size = input.received ↔
      fields = input.fields input.channel_part ∧
      (∀ size ∈ input.header_size, header_size = size) ∧
      ∀ size ∈ input.data_size, data_size = size := by
  have hfields : (readSizes fields header_size data_size).fields = fields := by
    unfold readSizes
    split_ifs <;> rfl
  have hsizes : readSizes (input.fields input.channel_part) header_size data_size =
      input.received ↔ (∀ size ∈ input.header_size, header_size = size) ∧
        ∀ size ∈ input.data_size, data_size = size := by
    unfold readSizes HeaderInput.received HeaderInput.fields HeaderInput.channel_part
    cases input.header_size <;> cases input.data_size <;>
      simp [DIRECT_IO_CHANNEL_PART_HEADER_ONLY, DIRECT_IO_CHANNEL_PART_DATA_ONLY,
        DIRECT_IO_CHANNEL_PART_HEADER_DATA]
  constructor
  · intro h
    have heq : fields = input.fields input.channel_part := by
      rw [← hfields, h]
      rfl
    subst heq
    exact ⟨rfl, hsizes.mp h⟩
  · rintro ⟨rfl, h⟩
    exact hsizes.mpr h

/-- The server has the header of the client just when it reads the same fields and sizes. -/
theorem receiveHeader_wire (client server : Endianness) (input : HeaderInput) :
    receiveHeader server (wire client input) = input.received ↔
      fieldsReceived client server input = input.fields input.channel_part ∧
      (∀ size ∈ input.header_size, sizeReceived client size = size) ∧
      ∀ size ∈ input.data_size, sizeReceived client size = size := by
  have hlen : (order client (fieldBytes client (input.fields input.channel_part))).length = 8 := by
    simp
  have hraw : ∀ bytes : List UInt8, bytes.length = 8 → store server 8 (byte_swap_8 .little server
      (UInt64.ofNat (load server bytes))).toNat = order server bytes := by
    intro bytes h
    have hbytes := toBytes_ofBytes bytes
    rw [h] at hbytes
    rw [byte_swap_8_load server h, store_eq, hbytes]
  have htake : (wire client input).take 8 =
      order client (fieldBytes client (input.fields input.channel_part)) := by
    rw [wire, List.take_append_of_le_length hlen.ge, List.take_of_length_le hlen.le]
  have hheader : ((wire client input).drop 8).take 4 =
      store client 4 (input.header_size.getD 0).toNat := by
    rw [wire, List.drop_append_of_le_length hlen.ge, List.drop_of_length_le hlen.le]
    simp
  have hdata : ((wire client input).drop 12).take 4 =
      store client 4 (input.data_size.getD 0).toNat := by
    rw [wire, ← List.append_assoc, List.drop_append_of_le_length (by simp),
      List.drop_of_length_le (by simp)]
    simp [List.take_of_length_le]
  unfold receiveHeader
  dsimp only
  rw [htake, hheader, hdata, hraw _ hlen, ← fieldsReceived.eq_def, size_received, size_received,
    readSizes_eq_iff]
  refine and_congr_right fun _ => and_congr ?_ ?_
  · cases input.header_size <;> simp
  · cases input.data_size <;> simp

/-! ## The law -/

/-- The byte that a big endian client takes for `channel_part` after its swap: the flag, and the
highest bits of the unused ones. -/
def flagByte (input : HeaderInput) : UInt8 :=
  firstOf .big (flagUnit .big input.synchronous_answer input.unused)

/-- The fields are the same bytes on a little endian host as on a big endian one from the end. -/
def Mirrored (fields : DispatcherHeader) : Prop :=
  (fieldBytes .big fields).reverse = fieldBytes .little fields

/-- The sizes of the buffers are the same with their bytes swapped. -/
def SizesMirrored (input : HeaderInput) : Prop :=
  (∀ size ∈ input.header_size, swap_bytes_4 size = size) ∧
    ∀ size ∈ input.data_size, swap_bytes_4 size = size

/-- The condition: both hosts are little endian, or the header is the same in both orders, as far as
the two hosts read it. -/
def OrdersAgree (client server : Endianness) (input : HeaderInput) : Prop :=
  match client, server with
  | .little, .little => True
  | .little, .big => Mirrored (input.fields input.channel_part)
  | .big, .little => Mirrored (input.fields input.channel_part) ∧ SizesMirrored input
  | .big, .big => flagByte input = input.channel_part ∧ SizesMirrored input

/-- `channel_part` is the sixth byte on every host. -/
theorem channel_part_eq (host host' : Endianness) {bytes : List UInt8} (h : bytes.length = 8) :
    (fieldsOf host bytes).channel_part = (fieldsOf host' bytes).channel_part := by
  have hpart : ∀ host, secondOf host (load host ((bytes.drop 4).take 2)) = bytes.getD 5 0 := by
    match bytes, h with
    | [_, _, _, _, b4, b5, _, _], _ =>
      intro host
      have h4 := b4.toNat_lt
      have h5 := b5.toNat_lt
      apply UInt8.toNat_inj.mp
      cases host <;> simp [secondOf, load, ofBytes]
      omega
  exact (hpart host).trans (hpart host').symm

theorem switchedPart_big (input : HeaderInput) : switchedPart .big input = flagByte input := by
  obtain ⟨route, flag, unused, idx, opcode, tag, header_size, data_size⟩ := input
  unfold switchedPart flagByte fieldsOf
  simp only [order, fieldBytes, List.reverse_append, store, List.reverse_reverse, toBytes,
    HeaderInput.fields]
  apply UInt8.toNat_inj.mp
  simp [load, ofBytes, secondOf, firstOf]

theorem switchedPart_little (input : HeaderInput) :
    switchedPart .little input = input.channel_part := by
  rw [switchedPart, order, fieldsOf_fieldBytes]
  rfl

theorem fieldsReceived_iff (client server : Endianness) (input : HeaderInput) :
    fieldsReceived client server input = input.fields input.channel_part ↔
      order server (order client (fieldBytes client (input.fields input.channel_part))) =
        fieldBytes server (input.fields input.channel_part) :=
  fieldsOf_eq_iff server (by simp) _

/-- The round trip, by what the switch of the client reads and what the server reads. -/
theorem roundTrips_iff_reads (client server : Endianness) (input : HeaderInput) :
    RoundTrips client server input ↔ switchedPart client input = input.channel_part ∧
      fieldsReceived client server input = input.fields input.channel_part ∧
      (∀ size ∈ input.header_size, sizeReceived client size = size) ∧
      ∀ size ∈ input.data_size, sizeReceived client size = size := by
  unfold RoundTrips
  rw [← receiveHeader_wire]
  constructor
  · rintro ⟨bytes, hwrite, -, hreceive⟩
    obtain ⟨rfl, hpart⟩ := (writeToSocket_iff client input bytes).mp hwrite
    exact ⟨hpart, hreceive⟩
  · rintro ⟨hpart, hreceive⟩
    exact ⟨_, (writeToSocket_iff client input _).mpr ⟨rfl, hpart⟩, length_wire client input,
      hreceive⟩

/-- For every header and every pair of hosts, the header and the sizes get over just when the
condition holds. -/
theorem header_round_trips_iff (client server : Endianness) (input : HeaderInput) :
    RoundTrips client server input ↔ OrdersAgree client server input := by
  have hlittle : ∀ size ∈ input.header_size, sizeReceived .little size = size := fun _ _ => rfl
  have hlittle' : ∀ size ∈ input.data_size, sizeReceived .little size = size := fun _ _ => rfl
  rw [roundTrips_iff_reads, fieldsReceived_iff]
  cases client <;> cases server
  · exact iff_of_true ⟨switchedPart_little input, rfl, hlittle, hlittle'⟩ trivial
  · rw [OrdersAgree, Mirrored]
    constructor
    · rintro ⟨-, hfields, -⟩
      rw [← hfields]
      simp [order]
    · intro h
      refine ⟨switchedPart_little input, ?_, hlittle, hlittle'⟩
      rw [order, order, ← h, List.reverse_reverse]
  · constructor
    · rintro ⟨-, hfields, hsizes⟩
      exact ⟨hfields, hsizes⟩
    · rintro ⟨h, hsizes⟩
      refine ⟨?_, h, hsizes⟩
      rw [switchedPart, order, h, channel_part_eq .big .little (length_fieldBytes _ _),
        fieldsOf_fieldBytes]
      rfl
  · rw [OrdersAgree, ← switchedPart_big]
    constructor
    · rintro ⟨hpart, -, hsizes⟩
      exact ⟨hpart, hsizes⟩
    · rintro ⟨hpart, hsizes⟩
      exact ⟨hpart, List.reverse_reverse _, hsizes⟩

/-- A put with a header of 5 bytes from a big endian client: the switch reads no part, and the
server reads the bytes of the fields from the wrong end. -/
theorem big_endian_header_is_lost :
    ¬RoundTrips .big .little ⟨1, false, 0, 2, 1, 0, some 5, none⟩ := by
  rintro ⟨bytes, hwrite, -⟩
  have hpart := ((writeToSocket_iff .big _ bytes).mp hwrite).2
  rw [switchedPart_big] at hpart
  exact absurd hpart (by decide)

end chaos.common.direct_io.header_endianness
