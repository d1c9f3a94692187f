-- The messages of a query of the data cloud: the request of the client and the start, the elements
-- and the end of the answer. Each has a header that is filled byte by byte on one side and read on
-- the other; the request has its key and its times in a document, the elements have data.
import Chaos.Bson
import Chaos.DeviceChannel
import Mathlib.Data.List.TakeWhile

namespace chaos.common.direct_io.channel

open little_endian ZMQDirectIOServer

/-! ## The document of the request -/

/-- What ends a call: a read that the language leaves undefined, or an exception. -/
inductive Fault where
  | undefined
  | exception
  deriving DecidableEq, Repr

/-- The elements that were added to the builder. -/
structure CDataWrapper where
  buffer : List UInt8 := []
  deriving DecidableEq, Repr

namespace CDataWrapper

/-- The bytes of a name of the code. -/
def fieldName (name : String) : List UInt8 := name.toList.map fun c => UInt8.ofNat c.toNat

def BSONObjMaxInternalSize : Nat := 16 * 1024 * 1024 + 16 * 1024

def addStringValue (s : CDataWrapper) (key : String) (strValue : List UInt8) : CDataWrapper :=
  ⟨s.buffer ++ bson.Element.bytes ⟨fieldName key, .string strValue⟩⟩

def addInt64Value (s : CDataWrapper) (key : String) (i64Value : UInt64) : CDataWrapper :=
  ⟨s.buffer ++ bson.Element.bytes ⟨fieldName key, .numberLong i64Value⟩⟩

/-- The object must not be too large. -/
def asTempObj (s : CDataWrapper) : Except Fault (List UInt8) :=
  if (bson.document s.buffer).length ≤ BSONObjMaxInternalSize then .ok (bson.document s.buffer)
  else .error .exception

/-- The constructor for received data, which takes the size of the object from the data. -/
def ofData (serializationBuffer : Option (List UInt8)) : Except Fault CDataWrapper :=
  match serializationBuffer with
  | none => .error .undefined
  | some bytes =>
    let objsize := ofBytes (bytes.take 4)
    if bytes.length < 4 then .error .undefined
    else if objsize = 0 ∨ BSONObjMaxInternalSize < objsize then .error .exception
    else if objsize ≤ 5 then .ok {}
    else if bytes.length + 1 < objsize then .error .undefined
    else .ok ⟨(bytes.drop 4).take (objsize - 5)⟩

def getField (s : CDataWrapper) (key : String) : Except Fault (Option bson.Value) := do
  let _ ← s.asTempObj
  match bson.getField (fieldName key) s.buffer.length s.buffer with
  | none => .error .undefined
  | some value => .ok value

/-- `hasKey` and then `getStringValue`, or the empty string. -/
def stringOrEmpty (s : CDataWrapper) (key : String) : Except Fault (List UInt8) := do
  match ← s.getField key with
  | none => .ok []
  | some (.string bytes) => .ok bytes
  | some (.numberLong _) => .error .exception

/-- `hasKey` and then `getUInt64Value`, or zero. -/
def uint64OrZero (s : CDataWrapper) (key : String) : Except Fault UInt64 := do
  match ← s.getField key with
  | some (.numberLong n) => .ok n
  | some (.string _) | none => .ok 0

end CDataWrapper

def QUERY_PARAM_STAR_TS_I64 : String := "qp_data_cloud_start_ts"
def QUERY_PARAM_END_TS_I64 : String := "qp_data_cloud_end_ts"
def QUERY_PARAM_SEARCH_KEY_STRING : String := "qp_data_cloud_key"

/-! ## The client -/

def DeviceChannelOpcodeQueryDataCloud : UInt8 := 4
def DeviceChannelOpcodeQueryDataCloudStartResult : UInt8 := 8
def DeviceChannelOpcodeQueryDataCloudResult : UInt8 := 16
def DeviceChannelOpcodeQueryDataCloudEndResult : UInt8 := 24

def QUERY_DATA_CLOUD_OPCODE_HEADER_LEN : UInt32 := 24
def QUERY_DATA_CLOUD_START_RESULT_OPCODE_HEADER_LEN : UInt32 := 16
def QUERY_DATA_CLOUD_RESULT_OPCODE_HEADER_LEN : UInt32 := 24

/-- Where the answer is to be sent. -/
structure AnswerServerInfo where
  ip : UInt64
  p_server_port : UInt16
  s_server_port : UInt16
  endpoint : UInt16
  deriving DecidableEq, Repr

/-- `strncpy`: the bytes before the first zero, as many as fit, and zeros after them. -/
def strncpy (src : List UInt8) (count : Nat) : List UInt8 :=
  let copied := (src.takeWhile (· ≠ 0)).take count
  copied ++ List.replicate (count - copied.length) 0

/-- `resize` of a string. -/
def resize (str : List UInt8) (count : Nat) : List UInt8 :=
  str.take count ++ List.replicate (count - str.length) 0

/-- A pack with the opcode and the header. -/
def packWithHeader (channel_opcode : UInt8) (header : List UInt8) (header_len : UInt32) :
    DirectIODataPack :=
  { DirectIODataPack.zero with
    dispatcher_header := { DirectIODataPack.zero.dispatcher_header with
      channel_opcode := channel_opcode } }.setChannelHeader header header_len

/-- `sendServiceData`, up to the pack that the connection to `endpoint` writes to its socket. -/
def sendServiceData (endpoint : UInt16) (pack : DirectIODataPack) : DirectIODataPack :=
  completeDataPack endpoint DIODataset_Channel_Index false pack

def queryDescription (key : List UInt8) (start_ts end_ts : UInt64) : CDataWrapper :=
  (((({} : CDataWrapper).addStringValue QUERY_PARAM_SEARCH_KEY_STRING key).addInt64Value
    QUERY_PARAM_STAR_TS_I64 start_ts).addInt64Value QUERY_PARAM_END_TS_I64 end_ts)

/-- The header of the request. Its fourth field is unused. -/
def queryHeader (info : AnswerServerInfo) (query_id : List UInt8) : List UInt8 :=
  toBytes 2 info.endpoint.toNat ++ (toBytes 2 info.p_server_port.toNat ++
    (toBytes 2 info.s_server_port.toNat ++ (toBytes 2 0 ++ (toBytes 8 info.ip.toNat ++
      strncpy query_id 8))))

/-- The id of the query that the caller gets, and the pack. `uuid` is what `generateUUIDLite`
gives. -/
def queryDataCloud (endpoint : UInt16) (info : AnswerServerInfo) (uuid key : List UInt8)
    (start_ts end_ts : UInt64) : Except Fault (List UInt8 × DirectIODataPack) := do
  let query_id := resize uuid 8
  let buffer ← (queryDescription key start_ts end_ts).asTempObj
  let pack := packWithHeader DeviceChannelOpcodeQueryDataCloud (queryHeader info query_id)
    QUERY_DATA_CLOUD_OPCODE_HEADER_LEN
  .ok (query_id, sendServiceData endpoint
    (pack.setChannelData buffer (UInt32.ofNat buffer.length)))

def startQueryDataCloudResult (endpoint : UInt16) (query_id : List UInt8)
    (total_element_found : UInt64) : DirectIODataPack :=
  sendServiceData endpoint (packWithHeader DeviceChannelOpcodeQueryDataCloudStartResult
    (strncpy query_id 8 ++ toBytes 8 total_element_found.toNat)
    QUERY_DATA_CLOUD_START_RESULT_OPCODE_HEADER_LEN)

/-- The block of the header is larger than its fields. -/
def sendResultToQueryDataCloud (endpoint : UInt16) (query_id : List UInt8) (element_index : UInt64)
    (data : Payload) : DirectIODataPack :=
  sendServiceData endpoint ((packWithHeader DeviceChannelOpcodeQueryDataCloudResult
    (strncpy query_id 8 ++ (toBytes 8 element_index.toNat ++ List.replicate 8 0))
    QUERY_DATA_CLOUD_RESULT_OPCODE_HEADER_LEN).setChannelData data.bytes
      (UInt32.ofNat data.bytes.length))

/-- The length of the message goes into the header. The branch for the message itself is empty. -/
def endQueryDataCloudResult (endpoint : UInt16) (query_id : List UInt8) (error : Int32)
    (error_message : List UInt8) : DirectIODataPack :=
  let error_message_length := UInt32.ofNat error_message.length
  sendServiceData endpoint (packWithHeader DeviceChannelOpcodeQueryDataCloudEndResult
    (strncpy query_id 8 ++ (toBytes 4 error.toUInt32.toNat ++
      (toBytes 4 error_message_length.toNat ++ List.replicate 8 0)))
    QUERY_DATA_CLOUD_START_RESULT_OPCODE_HEADER_LEN)

/-! ## The server -/

/-- What the handler of the device server channel gets. -/
inductive QueryCall where
  | consumeDataCloudQuery (answer : AnswerServerInfo) (query_id : List UInt8)
      (search_key : List UInt8) (search_start_ts search_end_ts : UInt64)
  | consumeDataCloudQueryStartResult (query_id : List UInt8) (total_element_found : UInt64)
  | consumeDataCloudQueryResult (query_id : List UInt8) (element_index : UInt64)
      (data : List UInt8)
  | consumeDataCloudQueryEndResult (query_id : List UInt8) (error : Int32)
      (error_message_length : UInt32) (error_message : List UInt8)
  deriving DecidableEq, Repr

/-- Bytes of the header. Past its end they are undefined. -/
def headerBytes (header : List UInt8) (offset width : Nat) : Option (List UInt8) :=
  if offset + width ≤ header.length then some ((header.drop offset).take width) else none

def headerField (header : List UInt8) (offset width : Nat) : Option Nat :=
  (headerBytes header offset width).map ofBytes

/-- A field of 16 bits, swapped as one of 32. -/
def headerField16 (header : List UInt8) (offset : Nat) : Option UInt16 :=
  (headerField header offset 2).map fun n => (UInt16.ofNat n).toUInt32.toUInt16

/-- The data with its length. -/
def dataBytes (pack : DirectIODataPack) : List UInt8 :=
  (pack.channel_data.getD []).take pack.channel_data_size.toNat

/-- The key and the times of a request. -/
def readQuery (query : CDataWrapper) : Except Fault (List UInt8 × UInt64 × UInt64) := do
  let key ← query.stringOrEmpty QUERY_PARAM_SEARCH_KEY_STRING
  let start_ts ← query.uint64OrZero QUERY_PARAM_STAR_TS_I64
  let end_ts ← query.uint64OrZero QUERY_PARAM_END_TS_I64
  .ok (key, start_ts, end_ts)

/-- What an exception leaves is for the `catch`: there is no call then. -/
def caught {α : Type} (result : Except Fault α) (next : α → Option (Option QueryCall)) :
    Option (Option QueryCall) :=
  match result with
  | .error .undefined => none
  | .error .exception => some none
  | .ok a => next a

/-- The branch for a request. The server calls its handler if there is at least a key. -/
def consumeQuery (header : List UInt8) (channel_data : Option (List UInt8)) :
    Option (Option QueryCall) :=
  caught (CDataWrapper.ofData channel_data) fun query => do
    let endpoint ← headerField16 header 0
    let p_server_port ← headerField16 header 2
    let s_server_port ← headerField16 header 4
    let address ← headerField header 8 8
    let query_id ← headerBytes header 16 8
    caught (readQuery query) fun (key, start_ts, end_ts) =>
      if key = [] then some none
      else some (some (.consumeDataCloudQuery
        ⟨UInt64.ofNat address, p_server_port, s_server_port, endpoint⟩ query_id key start_ts
        end_ts))

/-- `consumeDataPack`, for the four opcodes of a query. -/
def consumeQueryPack (pack : DirectIODataPack) : Option (Option QueryCall) := do
  let header ← pack.channel_header_data
  let opcode := pack.dispatcher_header.channel_opcode
  if opcode = DeviceChannelOpcodeQueryDataCloud then consumeQuery header pack.channel_data
  else if opcode = DeviceChannelOpcodeQueryDataCloudStartResult then
    let query_id ← headerBytes header 0 8
    let total ← headerField header 8 8
    some (some (.consumeDataCloudQueryStartResult query_id (UInt64.ofNat total)))
  else if opcode = DeviceChannelOpcodeQueryDataCloudResult then
    let query_id ← headerBytes header 0 8
    let index ← headerField header 8 8
    some (some (.consumeDataCloudQueryResult query_id (UInt64.ofNat index) (dataBytes pack)))
  else if opcode = DeviceChannelOpcodeQueryDataCloudEndResult then
    let query_id ← headerBytes header 0 8
    let error ← headerField header 8 4
    let error_message_length ← headerField header 12 4
    some (some (.consumeDataCloudQueryEndResult query_id (UInt32.ofNat error).toInt32
      (UInt32.ofNat error_message_length) (dataBytes pack)))
  else some none

/-- What the handler gets from the packs that the loop of the server dispatches. -/
def queryCalls (w : ZMQDirectIOServer) : List (Option (Option QueryCall)) :=
  w.events.filterMap fun
    | .dispatched pack _ => some (consumeQueryPack pack)
    | .answered _ _ => none

/-! ## The fields of the headers -/

variable {header a rest : List UInt8} {offset width n : Nat}

theorem headerBytes_here (h : a.length = width) : headerBytes (a ++ rest) 0 width = some a := by
  unfold headerBytes
  rw [if_pos (by simp; omega), List.drop_zero, List.take_left' h]

theorem headerBytes_all (h : a.length = width) : headerBytes a 0 width = some a := by
  have hhere : headerBytes (a ++ []) 0 width = some a := headerBytes_here h
  rwa [List.append_nil] at hhere

theorem headerBytes_skip (h : a.length ≤ offset) :
    headerBytes (a ++ rest) offset width = headerBytes rest (offset - a.length) width := by
  unfold headerBytes
  rw [List.drop_append, List.drop_eq_nil_of_le h, List.nil_append, List.length_append]
  by_cases hin : offset + width ≤ a.length + rest.length
  · rw [if_pos hin, if_pos (by omega)]
  · rw [if_neg hin, if_neg (by omega)]

@[simp] theorem length_strncpy (src : List UInt8) (count : Nat) :
    (strncpy src count).length = count := by
  unfold strncpy
  simp

theorem headerField_here (hn : n < 256 ^ width) :
    headerField (toBytes width n ++ rest) 0 width = some n := by
  unfold headerField
  rw [headerBytes_here (length_toBytes _ _), Option.map_some, ofBytes_toBytes hn]

theorem headerField_all (hn : n < 256 ^ width) :
    headerField (toBytes width n) 0 width = some n := by
  unfold headerField
  rw [headerBytes_all (length_toBytes _ _), Option.map_some, ofBytes_toBytes hn]

theorem headerField_skip (h : a.length ≤ offset) :
    headerField (a ++ rest) offset width = headerField rest (offset - a.length) width := by
  unfold headerField
  rw [headerBytes_skip h]

theorem headerField16_here (n : UInt16) :
    headerField16 (toBytes 2 n.toNat ++ rest) 0 = some n := by
  unfold headerField16
  rw [headerField_here n.toNat_lt, Option.map_some]
  simp

theorem headerField16_skip (h : a.length ≤ offset) :
    headerField16 (a ++ rest) offset = headerField16 rest (offset - a.length) := by
  unfold headerField16
  rw [headerField_skip h]

/-- The request header gives back the fields that went into it. -/
theorem read_queryHeader (info : AnswerServerInfo) (query_id : List UInt8) :
    headerField16 (queryHeader info query_id) 0 = some info.endpoint ∧
      headerField16 (queryHeader info query_id) 2 = some info.p_server_port ∧
      headerField16 (queryHeader info query_id) 4 = some info.s_server_port ∧
      headerField (queryHeader info query_id) 8 8 = some info.ip.toNat ∧
      headerBytes (queryHeader info query_id) 16 8 = some (strncpy query_id 8) := by
  unfold queryHeader
  refine ⟨headerField16_here _, ?_, ?_, ?_, ?_⟩
  · rw [headerField16_skip (by simp)]
    simpa using headerField16_here info.p_server_port
  · rw [headerField16_skip (by simp), headerField16_skip (by simp)]
    simpa using headerField16_here info.s_server_port
  · iterate 4 rw [headerField_skip (by simp)]
    simpa using headerField_here info.ip.toNat_lt
  · iterate 5 rw [headerBytes_skip (by simp)]
    simpa using headerBytes_all (length_strncpy query_id 8)

/-! ## The document of a request -/

section document

variable (key : List UInt8) (start_ts end_ts : UInt64)

/-- The elements of the document. -/
def queryElements : List bson.Element :=
  [⟨CDataWrapper.fieldName QUERY_PARAM_SEARCH_KEY_STRING, .string key⟩,
    ⟨CDataWrapper.fieldName QUERY_PARAM_STAR_TS_I64, .numberLong start_ts⟩,
    ⟨CDataWrapper.fieldName QUERY_PARAM_END_TS_I64, .numberLong end_ts⟩]

theorem buffer_queryDescription : (queryDescription key start_ts end_ts).buffer =
    (queryElements key start_ts end_ts).flatMap bson.Element.bytes := by
  simp [queryDescription, queryElements, CDataWrapper.addStringValue, CDataWrapper.addInt64Value]

theorem length_names :
    (CDataWrapper.fieldName QUERY_PARAM_SEARCH_KEY_STRING).length = 17 ∧
      (CDataWrapper.fieldName QUERY_PARAM_STAR_TS_I64).length = 22 ∧
      (CDataWrapper.fieldName QUERY_PARAM_END_TS_I64).length = 20 := by
  decide

theorem names_without_zero :
    0 ∉ CDataWrapper.fieldName QUERY_PARAM_SEARCH_KEY_STRING ∧
      0 ∉ CDataWrapper.fieldName QUERY_PARAM_STAR_TS_I64 ∧
      0 ∉ CDataWrapper.fieldName QUERY_PARAM_END_TS_I64 := by
  decide

theorem length_queryDescription :
    (queryDescription key start_ts end_ts).buffer.length = key.length + 86 := by
  obtain ⟨h1, h2, h3⟩ := length_names
  rw [buffer_queryDescription]
  simp [queryElements, bson.Element.bytes, bson.Value.bytes, h1, h2, h3]
  omega

/-- The document can be made just of a key that leaves it small enough. -/
theorem asTempObj_queryDescription : (queryDescription key start_ts end_ts).asTempObj =
    if key.length + 91 ≤ CDataWrapper.BSONObjMaxInternalSize then
      .ok (bson.document (queryDescription key start_ts end_ts).buffer)
    else .error .exception := by
  unfold CDataWrapper.asTempObj
  rw [bson.length_document, length_queryDescription]

variable {key} (hsmall : key.length + 91 ≤ CDataWrapper.BSONObjMaxInternalSize)
include hsmall

theorem fits_queryElements : ∀ e ∈ queryElements key start_ts end_ts, e.Fits := by
  have hlen : key.length + 1 < 2 ^ 32 := by
    unfold CDataWrapper.BSONObjMaxInternalSize at hsmall
    omega
  intro e he
  simp only [queryElements, List.mem_cons, List.not_mem_nil, or_false] at he
  rcases he with rfl | rfl | rfl
  · refine ⟨names_without_zero.1, ?_⟩
    intro bytes heq
    cases heq
    exact hlen
  · exact ⟨names_without_zero.2.1, nofun⟩
  · exact ⟨names_without_zero.2.2, nofun⟩

theorem getField_queryDescription (name : String) :
    (queryDescription key start_ts end_ts).getField name = .ok
      (((queryElements key start_ts end_ts).find?
        (·.name = CDataWrapper.fieldName name)).map (·.value)) := by
  have hleft : (queryElements key start_ts end_ts).length ≤
      (queryDescription key start_ts end_ts).buffer.length := by
    rw [length_queryDescription]
    simp [queryElements]
  have hfind := bson.getField_elements (CDataWrapper.fieldName name)
    (fits_queryElements start_ts end_ts hsmall) hleft
  unfold CDataWrapper.getField
  rw [asTempObj_queryDescription, if_pos hsmall]
  rw [← buffer_queryDescription] at hfind
  simp only [bind, Except.bind, hfind]

/-- The server finds the key and the times of the client. -/
theorem readQuery_queryDescription :
    readQuery (queryDescription key start_ts end_ts) = .ok (key, start_ts, end_ts) := by
  have hkey : (queryDescription key start_ts end_ts).getField QUERY_PARAM_SEARCH_KEY_STRING =
      .ok (some (.string key)) := by
    rw [getField_queryDescription start_ts end_ts hsmall]
    rfl
  have hstart : (queryDescription key start_ts end_ts).getField QUERY_PARAM_STAR_TS_I64 =
      .ok (some (.numberLong start_ts)) := by
    rw [getField_queryDescription start_ts end_ts hsmall]
    rfl
  have hend : (queryDescription key start_ts end_ts).getField QUERY_PARAM_END_TS_I64 =
      .ok (some (.numberLong end_ts)) := by
    rw [getField_queryDescription start_ts end_ts hsmall]
    rfl
  simp only [readQuery, CDataWrapper.stringOrEmpty, CDataWrapper.uint64OrZero, hkey, hstart, hend,
    bind, Except.bind]

theorem ofData_queryDescription :
    CDataWrapper.ofData (some (bson.document (queryDescription key start_ts end_ts).buffer)) =
      .ok (queryDescription key start_ts end_ts) := by
  have hlen := length_queryDescription key start_ts end_ts
  have hsize : ofBytes ((bson.document (queryDescription key start_ts end_ts).buffer).take 4) =
      key.length + 91 := by
    unfold bson.document
    rw [List.take_left' (length_toBytes _ _), hlen]
    apply ofBytes_toBytes
    unfold CDataWrapper.BSONObjMaxInternalSize at hsmall
    omega
  unfold CDataWrapper.ofData
  simp only [hsize, bson.length_document, hlen]
  rw [if_neg (by omega), if_neg (by omega), if_neg (by omega), if_neg (by omega)]
  unfold bson.document
  rw [List.drop_left' (length_toBytes _ _), List.take_left' (by omega)]

end document

/-! ## The ids -/

/-- A string with no character behind a zero. -/
def ZeroPadded (str : List UInt8) : Prop :=
  ∃ text n, str = text ++ List.replicate n 0 ∧ (0 : UInt8) ∉ text

theorem takeWhile_text {text : List UInt8} (h : (0 : UInt8) ∉ text) (n : Nat) :
    (text ++ List.replicate n 0).takeWhile (· ≠ 0) = text := by
  rw [List.takeWhile_append_of_pos]
  · cases n <;> simp [List.replicate_succ]
  · intro b hb
    simp only [ne_eq, decide_not, Bool.not_eq_eq_eq_not, Bool.not_true, decide_eq_false_iff_not]
    rintro rfl
    exact h hb

theorem not_mem_takeWhile (str : List UInt8) : (0 : UInt8) ∉ str.takeWhile (· ≠ 0) := by
  intro h
  simpa using List.mem_takeWhile_imp h

/-- Just these ids survive the copy. -/
theorem strncpy_eq_iff {str : List UInt8} {count : Nat} (h : str.length = count) :
    strncpy str count = str ↔ ZeroPadded str := by
  constructor
  · intro heq
    refine ⟨_, _, heq.symm, ?_⟩
    intro hin
    exact not_mem_takeWhile str (List.mem_of_mem_take hin)
  · rintro ⟨text, n, rfl, htext⟩
    unfold strncpy
    have hlen : text.length + n = count := by simpa using h
    simp only [takeWhile_text htext, List.take_of_length_le (show text.length ≤ count by omega)]
    rw [← hlen, Nat.add_sub_cancel_left]

theorem length_resize (str : List UInt8) (count : Nat) : (resize str count).length = count := by
  unfold resize
  simp
  omega

/-! ## The calls of the server -/

section calls

variable {pack : DirectIODataPack} {query_id : List UInt8}
  (hheader : pack.channel_header_data = some header)
include hheader

theorem consume_query
    (hopcode : pack.dispatcher_header.channel_opcode = DeviceChannelOpcodeQueryDataCloud) :
    consumeQueryPack pack = consumeQuery header pack.channel_data := by
  simp [consumeQueryPack, hheader, hopcode]

theorem consume_startResult (hopcode : pack.dispatcher_header.channel_opcode =
      DeviceChannelOpcodeQueryDataCloudStartResult)
    (hid : headerBytes header 0 8 = some query_id) {total : UInt64}
    (htotal : headerField header 8 8 = some total.toNat) :
    consumeQueryPack pack =
      some (some (.consumeDataCloudQueryStartResult query_id total)) := by
  simp [consumeQueryPack, hheader, hopcode, hid, htotal,
    DeviceChannelOpcodeQueryDataCloudStartResult, DeviceChannelOpcodeQueryDataCloud]

theorem consume_result (hopcode : pack.dispatcher_header.channel_opcode =
      DeviceChannelOpcodeQueryDataCloudResult)
    (hid : headerBytes header 0 8 = some query_id) {index : UInt64}
    (hindex : headerField header 8 8 = some index.toNat) :
    consumeQueryPack pack =
      some (some (.consumeDataCloudQueryResult query_id index (dataBytes pack))) := by
  simp [consumeQueryPack, hheader, hopcode, hid, hindex, DeviceChannelOpcodeQueryDataCloudResult,
    DeviceChannelOpcodeQueryDataCloudStartResult, DeviceChannelOpcodeQueryDataCloud]

theorem consume_endResult (hopcode : pack.dispatcher_header.channel_opcode =
      DeviceChannelOpcodeQueryDataCloudEndResult)
    (hid : headerBytes header 0 8 = some query_id) {error : Int32}
    (herror : headerField header 8 4 = some error.toUInt32.toNat) {length : UInt32}
    (hlength : headerField header 12 4 = some length.toNat) :
    consumeQueryPack pack =
      some (some (.consumeDataCloudQueryEndResult query_id error length (dataBytes pack))) := by
  simp only [consumeQueryPack, hheader, hopcode, Option.bind_eq_bind, Option.bind_some, hid,
    herror, hlength, UInt32.ofNat_toNat]
  rfl

end calls

/-! ## The round trips -/

/-- What the handler gets from the pack, sent on a socket with an identity. -/
def handed (delegate : DirectIODataPack → Handled) (identity : List UInt8)
    (pack : DirectIODataPack) : List (Option (Option QueryCall)) :=
  queryCalls (worker delegate ((identity :: pack.writeToSocket).map Recv.part))

variable {delegate : DirectIODataPack → Handled} {identity : List UInt8} {endpoint : UInt16}
  {opcode : UInt8} {header_len : UInt32} {pack : DirectIODataPack}

theorem queryCalls_dispatch (delegate : DirectIODataPack → Handled) (identity : List UInt8)
    (pack : DirectIODataPack) :
    queryCalls (start.dispatch delegate identity pack) = [consumeQueryPack pack] :=
  filterMap_dispatch (fun _ _ => rfl) delegate start identity pack

theorem handed_of_complete (h : Complete pack) :
    handed delegate identity pack = [consumeQueryPack (cutToSize pack)] := by
  unfold handed
  rw [h.worker, queryCalls_dispatch]

/-- A pack with a header only, at the server. -/
theorem handed_header (endpoint : UInt16) (opcode : UInt8) (header : List UInt8)
    (header_len : UInt32) :
    handed delegate identity (sendServiceData endpoint (packWithHeader opcode header header_len)) =
      [consumeQueryPack { sendServiceData endpoint (packWithHeader opcode header header_len) with
        channel_header_data := some (header.take header_len.toNat) }] := by
  have hcomplete : Complete (sendServiceData endpoint (packWithHeader opcode header header_len)) :=
    ⟨rfl, nofun, fun _ => rfl⟩
  rw [handed_of_complete hcomplete]
  rfl

/-- A pack with a header and data, at the server. -/
theorem handed_data (data : List UInt8) (hfits : data.length < 2 ^ 32) :
    handed delegate identity (sendServiceData endpoint
        ((packWithHeader opcode header header_len).setChannelData data
          (UInt32.ofNat data.length))) =
      [consumeQueryPack (sendServiceData endpoint
        ((packWithHeader opcode (header.take header_len.toNat) header_len).setChannelData data
          (UInt32.ofNat data.length)))] := by
  have hcomplete : Complete (sendServiceData endpoint
      ((packWithHeader opcode header header_len).setChannelData data
        (UInt32.ofNat data.length))) := ⟨rfl, nofun, nofun⟩
  have hsize : data.take (UInt32.ofNat data.length).toNat = data := by
    rw [UInt32.toNat_ofNat', Nat.mod_eq_of_lt hfits, List.take_length]
  rw [handed_of_complete hcomplete]
  unfold cutToSize sendServiceData completeDataPack DirectIODataPack.setChannelData
  simp only [Option.map_some, hsize]
  rfl

/-- The arguments of the four calls of the client. -/
structure QueryArgs where
  endpoint : UInt16
  info : AnswerServerInfo
  uuid : List UInt8
  key : List UInt8
  start_ts : UInt64
  end_ts : UInt64
  query_id : List UInt8
  eight : query_id.length = 8
  total_element_found : UInt64
  element_index : UInt64
  data : Payload
  error : Int32
  error_message : List UInt8

/-- What the handler gets for the four packs is what the client channel was given. -/
structure RoundTrips (delegate : DirectIODataPack → Handled) (identity : List UInt8)
    (q : QueryArgs) : Prop where
  query : ∃ query_id pack,
    queryDataCloud q.endpoint q.info q.uuid q.key q.start_ts q.end_ts = .ok (query_id, pack) ∧
      handed delegate identity pack =
        [some (some (.consumeDataCloudQuery q.info query_id q.key q.start_ts q.end_ts))]
  startResult : handed delegate identity
      (startQueryDataCloudResult q.endpoint q.query_id q.total_element_found) =
    [some (some (.consumeDataCloudQueryStartResult q.query_id q.total_element_found))]
  result : handed delegate identity
      (sendResultToQueryDataCloud q.endpoint q.query_id q.element_index q.data) =
    [some (some (.consumeDataCloudQueryResult q.query_id q.element_index q.data.bytes))]
  endResult : handed delegate identity
      (endQueryDataCloudResult q.endpoint q.query_id q.error q.error_message) =
    [some (some (.consumeDataCloudQueryEndResult q.query_id q.error
      (UInt32.ofNat q.error_message.length) q.error_message))]

variable {query_id : List UInt8}

theorem read_id (query_id : List UInt8) :
    headerBytes (strncpy query_id 8 ++ rest) 0 8 = some (strncpy query_id 8) :=
  headerBytes_here (length_strncpy query_id 8)

/-- The first field behind the id. -/
theorem read_after_id (query_id : List UInt8) (hn : n < 256 ^ width) :
    headerField (strncpy query_id 8 ++ (toBytes width n ++ rest)) 8 width = some n := by
  rw [headerField_skip (by simp)]
  simpa using headerField_here hn

theorem handed_startResult (total_element_found : UInt64) :
    handed delegate identity (startQueryDataCloudResult endpoint query_id total_element_found) =
      [some (some (.consumeDataCloudQueryStartResult (strncpy query_id 8)
        total_element_found))] := by
  have htotal : headerField (strncpy query_id 8 ++ toBytes 8 total_element_found.toNat) 8 8 =
      some total_element_found.toNat := by
    rw [headerField_skip (by simp)]
    simpa using headerField_all total_element_found.toNat_lt
  unfold startQueryDataCloudResult
  rw [handed_header, List.take_of_length_le (by simp; decide)]
  rw [consume_startResult rfl rfl (read_id query_id) htotal]

theorem handed_result (element_index : UInt64) (data : Payload) :
    handed delegate identity (sendResultToQueryDataCloud endpoint query_id element_index data) =
      [some (some (.consumeDataCloudQueryResult (strncpy query_id 8) element_index
        data.bytes))] := by
  unfold sendResultToQueryDataCloud
  rw [handed_data _ data.fits, List.take_of_length_le (by simp; decide)]
  rw [consume_result rfl rfl (read_id query_id) (read_after_id query_id element_index.toNat_lt)]
  have hdata : data.bytes.take (UInt32.ofNat data.bytes.length).toNat = data.bytes := by
    rw [toNat_buffer_len, List.take_length]
  simp only [dataBytes, sendServiceData, completeDataPack, DirectIODataPack.setChannelData,
    Option.getD_some, hdata]

/-- The handler never gets the message. -/
theorem handed_endResult (error : Int32) (error_message : List UInt8) :
    handed delegate identity (endQueryDataCloudResult endpoint query_id error error_message) =
      [some (some (.consumeDataCloudQueryEndResult (strncpy query_id 8) error
        (UInt32.ofNat error_message.length) []))] := by
  have hcut : (strncpy query_id 8 ++ (toBytes 4 error.toUInt32.toNat ++
      (toBytes 4 (UInt32.ofNat error_message.length).toNat ++ List.replicate 8 0))).take
        QUERY_DATA_CLOUD_START_RESULT_OPCODE_HEADER_LEN.toNat =
      strncpy query_id 8 ++ (toBytes 4 error.toUInt32.toNat ++
        toBytes 4 (UInt32.ofNat error_message.length).toNat) := by
    rw [← List.append_assoc, ← List.append_assoc, List.append_assoc (strncpy query_id 8)]
    exact List.take_left' (by simp; rfl)
  have hlength : headerField (strncpy query_id 8 ++ (toBytes 4 error.toUInt32.toNat ++
      toBytes 4 (UInt32.ofNat error_message.length).toNat)) 12 4 =
      some (UInt32.ofNat error_message.length).toNat := by
    rw [headerField_skip (by simp), headerField_skip (by simp)]
    simpa using headerField_all (UInt32.ofNat error_message.length).toNat_lt
  unfold endQueryDataCloudResult
  dsimp only
  rw [handed_header, hcut]
  rw [consume_endResult rfl rfl (read_id query_id)
    (read_after_id query_id error.toUInt32.toNat_lt) hlength]
  rfl

/-- The request comes in, with its key and its times. Without a key the server drops it. -/
theorem handed_query {pack : DirectIODataPack} {info : AnswerServerInfo} {uuid key : List UInt8}
    {start_ts end_ts : UInt64}
    (h : queryDataCloud endpoint info uuid key start_ts end_ts = .ok (query_id, pack)) :
    query_id = resize uuid 8 ∧ key.length + 91 ≤ CDataWrapper.BSONObjMaxInternalSize ∧
      ∀ delegate identity, handed delegate identity pack = [some (if key = [] then none else
        some (.consumeDataCloudQuery info (strncpy query_id 8) key start_ts end_ts))] := by
  unfold queryDataCloud at h
  rw [asTempObj_queryDescription] at h
  by_cases hsmall : key.length + 91 ≤ CDataWrapper.BSONObjMaxInternalSize
  · rw [if_pos hsmall] at h
    cases h
    refine ⟨rfl, hsmall, fun delegate identity => ?_⟩
    have hlen : (bson.document (queryDescription key start_ts end_ts).buffer).length < 2 ^ 32 := by
      rw [bson.length_document, length_queryDescription]
      unfold CDataWrapper.BSONObjMaxInternalSize at hsmall
      omega
    have hheader : (queryHeader info (resize uuid 8)).length = 24 := by
      simp [queryHeader]
    obtain ⟨h0, h2, h4, h8, h16⟩ := read_queryHeader info (resize uuid 8)
    rw [handed_data _ hlen, List.take_of_length_le (by rw [hheader]; decide)]
    rw [consume_query rfl rfl]
    simp only [sendServiceData, completeDataPack, DirectIODataPack.setChannelData, consumeQuery,
      ofData_queryDescription start_ts end_ts hsmall, caught, h0, h2, h4, h8, h16,
      readQuery_queryDescription start_ts end_ts hsmall, Option.bind_eq_bind, Option.bind_some,
      UInt64.ofNat_toNat]
    split <;> rfl
  · rw [if_neg hsmall] at h
    cases h

/-- The values that the messages can carry: a key, but not too long a one, ids without a character
behind a zero, and no error message. -/
structure Carried (q : QueryArgs) : Prop where
  key_nonempty : q.key ≠ []
  key_small : q.key.length + 91 ≤ CDataWrapper.BSONObjMaxInternalSize
  uuid : ZeroPadded (resize q.uuid 8)
  query_id : ZeroPadded q.query_id
  no_message : q.error_message = []

/-- Everything arrives as it was given exactly when the messages can carry it. -/
theorem round_trips_iff (delegate : DirectIODataPack → Handled) (identity : List UInt8)
    (q : QueryArgs) : RoundTrips delegate identity q ↔ Carried q := by
  constructor
  · rintro ⟨⟨query_id, pack, hquery, hcall⟩, hstart, -, hend⟩
    obtain ⟨rfl, hsmall, hhanded⟩ := handed_query hquery
    rw [hhanded] at hcall
    rw [handed_startResult] at hstart
    rw [handed_endResult] at hend
    have hkey : q.key ≠ [] := by
      intro hnil
      rw [if_pos hnil] at hcall
      cases hcall
    rw [if_neg hkey] at hcall
    simp only [List.cons.injEq, Option.some.injEq, QueryCall.consumeDataCloudQuery.injEq, and_true,
      true_and] at hcall
    simp only [List.cons.injEq, Option.some.injEq, and_true,
      QueryCall.consumeDataCloudQueryStartResult.injEq] at hstart
    simp only [List.cons.injEq, Option.some.injEq, and_true, true_and,
      QueryCall.consumeDataCloudQueryEndResult.injEq] at hend
    exact ⟨hkey, hsmall, (strncpy_eq_iff (length_resize _ _)).mp hcall,
      (strncpy_eq_iff q.eight).mp hstart, hend.2.symm⟩
  · rintro ⟨hkey, hsmall, huuid, hid, hmessage⟩
    have hid8 := (strncpy_eq_iff q.eight).mpr hid
    refine ⟨?_, ?_, ?_, ?_⟩
    · obtain ⟨pack, hpack⟩ : ∃ pack, queryDataCloud q.endpoint q.info q.uuid q.key q.start_ts
          q.end_ts = .ok (resize q.uuid 8, pack) := by
        unfold queryDataCloud
        rw [asTempObj_queryDescription, if_pos hsmall]
        exact ⟨_, rfl⟩
      obtain ⟨-, -, hhanded⟩ := handed_query hpack
      refine ⟨_, pack, hpack, ?_⟩
      rw [hhanded, if_neg hkey, (strncpy_eq_iff (length_resize _ _)).mpr huuid]
    · rw [handed_startResult, hid8]
    · rw [handed_result, hid8]
    · rw [handed_endResult, hid8, hmessage]

/-- An error message does not arrive. -/
theorem error_message_does_not_arrive : ¬ RoundTrips (fun _ => .threw) [65]
    { endpoint := 1, info := ⟨1, 2, 3, 4⟩, uuid := [49, 50, 51, 52, 53, 54, 55, 56], key := [107]
      start_ts := 0, end_ts := 1, query_id := [97, 98, 99, 100, 101, 102, 103, 104], eight := rfl
      total_element_found := 0, element_index := 0, data := ⟨[], by decide⟩, error := -1
      error_message := [101] } := by
  intro h
  have hend := h.endResult
  rw [handed_endResult] at hend
  simp only [List.cons.injEq, Option.some.injEq, and_true,
    QueryCall.consumeDataCloudQueryEndResult.injEq] at hend
  exact absurd hend.2.2 (by decide)

end chaos.common.direct_io.channel
