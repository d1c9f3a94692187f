-- The events of an alert: how the fields of an event are laid out in its bytes, what fills them,
-- and how an event is made from the bytes of another one. The hosts are little endian.
import Chaos.ByteBuffer
import Chaos.Exception
import Chaos.LittleEndian

namespace chaos.event

open byte_buffer little_endian

def EVENT_DATA_BYTE_LENGTH : Nat := 1024
def EVT_HEADER_BYTE_LENGTH : Nat := 4
def EVT_DATA_MAX_BYTE_LENGTH : Nat := 1019
def EVT_SUB_CODE_OFFSET : Nat := 5
def EVT_SUB_CODE_PRIORITY_OFFSET : Nat := 7
def EVT_IDENTIFICATION_LENGTH_INFO_OFFSET : Nat := 9
def EVT_IDENTIFICATION_VALUE_INFO_OFFSET : Nat := 10

inductive EventDataType
  | EventDataInt8
  | EventDataInt16
  | EventDataInt32
  | EventDataInt64
  | EventDataDouble
  | EventDataCString
  | EventDataBinary
  deriving DecidableEq, Repr

def EventDataType.number : EventDataType → UInt8
  | .EventDataInt8 => 0
  | .EventDataInt16 => 1
  | .EventDataInt32 => 2
  | .EventDataInt64 => 3
  | .EventDataDouble => 4
  | .EventDataCString => 5
  | .EventDataBinary => 6

/-- The size of a value. The size that the caller gives counts for strings and binary data only. -/
def EventDataType.dataDim (valueType : EventDataType) (valueSize : UInt16) : Nat :=
  match valueType with
  | .EventDataInt8 => 1
  | .EventDataInt16 => 2
  | .EventDataInt32 => 4
  | .EventDataInt64 => 8
  | .EventDataDouble => 8
  | .EventDataCString | .EventDataBinary => valueSize.toNat

/-- The signature of an event. -/
def sign : List UInt8 := [0x45, 0x43]

structure EventDescriptor where
  eventData : List UInt8
  length_eq : eventData.length = EVENT_DATA_BYTE_LENGTH

namespace EventDescriptor

/-- The constructor of an alert: version 1, length 5, type 0 and priority 63. -/
def create : EventDescriptor where
  eventData := sign ++ ([0x29, 0, 0xFC] ++ List.replicate 1019 0)
  length_eq := by
    rw [List.length_append, List.length_append, List.length_replicate]
    rfl

variable (e : EventDescriptor)

/-- A copy that goes past the end of the array is undefined. -/
def memcpy (offset : Nat) (bytes : List UInt8) : Option EventDescriptor :=
  if h : offset + bytes.length ≤ e.eventData.length then
    some ⟨write e.eventData offset bytes, (length_write h).trans e.length_eq⟩
  else none

/-! ## The fields -/

/-- The 32 bits of the header: 16 of the signature, 3 of the version and 13 of the length. -/
def header : Nat := ofBytes (read e.eventData 0 EVT_HEADER_BYTE_LENGTH)

def getEventDataLength : UInt16 := .ofNat (e.header / 2 ^ 19)

/-- The length is handed over as a byte. -/
def setEventDataLength (newSize : UInt8) : Option EventDescriptor :=
  e.memcpy 0 (toBytes EVT_HEADER_BYTE_LENGTH (e.header % 2 ^ 19 + newSize.toNat * 2 ^ 19))

/-- The type is the lower two bits of the byte behind the header. -/
def getEventType : UInt8 := e.eventData.getD EVT_HEADER_BYTE_LENGTH 0 &&& 3

def setSubCode (subCode : UInt16) : Option EventDescriptor :=
  e.memcpy EVT_SUB_CODE_OFFSET (toBytes 2 subCode.toNat)

def getSubCode : UInt16 := .ofNat (ofBytes (read e.eventData EVT_SUB_CODE_OFFSET 2))

def setSubCodePriority (subCodePriority : UInt16) : Option EventDescriptor :=
  e.memcpy EVT_SUB_CODE_PRIORITY_OFFSET (toBytes 2 subCodePriority.toNat)

def getSubCodePriority : UInt16 :=
  .ofNat (ofBytes (read e.eventData EVT_SUB_CODE_PRIORITY_OFFSET 2))

def getIdentificationlength : UInt8 := e.eventData.getD EVT_IDENTIFICATION_LENGTH_INFO_OFFSET 0

/-- The bytes from the pointer on, or NULL. -/
def getIdentification : Option (List UInt8) :=
  if e.getIdentificationlength = 0 then none
  else some (e.eventData.drop EVT_IDENTIFICATION_VALUE_INFO_OFFSET)

def setSenderIdentification (identification : List UInt8) : Option EventDescriptor :=
  (e.memcpy EVT_IDENTIFICATION_LENGTH_INFO_OFFSET [.ofNat identification.length]).bind fun e =>
    e.memcpy EVT_IDENTIFICATION_VALUE_INFO_OFFSET identification

/-- The number of the type of the value. -/
def getEventValueType : UInt8 :=
  e.eventData.getD (EVT_IDENTIFICATION_VALUE_INFO_OFFSET + e.getIdentificationlength.toNat) 0

/-- The subtraction is one of integers, cut to 16 bits. -/
def getEventValueSize : UInt16 :=
  e.getEventDataLength -
    .ofNat (EVT_IDENTIFICATION_LENGTH_INFO_OFFSET + e.getIdentificationlength.toNat + 2)

/-- The copy of the value. One that reads past the end of the array is undefined. -/
def getEventValue : Option (List UInt8) :=
  let offset := EVT_IDENTIFICATION_VALUE_INFO_OFFSET + e.getIdentificationlength.toNat + 1
  if offset + e.getEventValueSize.toNat ≤ EVENT_DATA_BYTE_LENGTH then
    some (read e.eventData offset e.getEventValueSize.toNat)
  else none

end EventDescriptor

/-! ## Alerts -/

/-- What an alert is filled with. The value holds as many bytes as its type takes. -/
structure Alert where
  identification : List UInt8
  alertCode : UInt16
  priority : UInt16
  valueType : EventDataType
  value : List UInt8
  valueSize : UInt16
  identification_le : identification.length ≤ 255
  length_value : value.length = valueType.dataDim valueSize

/-- The length of the whole pack. -/
def Alert.packLength (a : Alert) : Nat :=
  EVT_IDENTIFICATION_VALUE_INFO_OFFSET + a.value.length + a.identification.length + 1

def EventAlertLastCodeNumber : UInt16 := 1

namespace EventDescriptor

variable (e : EventDescriptor)

def setIdentificationAndValueWithType (a : Alert) : Option EventDescriptor := do
  let indetificationSize := a.identification.length
  let e ← e.setSenderIdentification a.identification
  let e ← e.memcpy (EVT_IDENTIFICATION_VALUE_INFO_OFFSET + indetificationSize) [a.valueType.number]
  let e ← e.memcpy (EVT_IDENTIFICATION_VALUE_INFO_OFFSET + indetificationSize + 1) a.value
  e.setEventDataLength (.ofNat a.packLength)

/-- The event is filled with the sub code and the alert. -/
def fill (subCode : UInt16) (a : Alert) : Option EventDescriptor := do
  let e ← e.setSubCode subCode
  let e ← e.setSubCodePriority a.priority
  e.setIdentificationAndValueWithType a

def setAlert (a : Alert) : Option EventDescriptor := e.fill a.alertCode a

def getAlertCode : UInt16 := e.getSubCode

/-- The custom codes come after the last code of the framework. -/
def setCustomAlert (a : Alert) : Option EventDescriptor :=
  e.fill (a.alertCode + EventAlertLastCodeNumber) a

def getAlertCustomCode : UInt16 := e.getSubCode - EventAlertLastCodeNumber

end EventDescriptor

/-- `EventFactory::getEventInstance`. The result is `none` where bytes are read that the buffer
does not have. -/
def getEventInstance (serializedEvent : Option (List UInt8)) (length : UInt16) :
    Option (Except CException EventDescriptor) :=
  match serializedEvent with
  | none =>
    some (.error ⟨0, "Invalid pointer to serialized event", "EventFactory::getEventInstance"⟩)
  | some bytes =>
    if EVT_DATA_MAX_BYTE_LENGTH < length.toNat then
      some (.error
        ⟨1, "Event memory size exceed the max allowed", "EventFactory::getEventInstance"⟩)
    else if bytes.length < 2 then none
    else if read bytes 0 2 ≠ sign then
      some (.error ⟨2, "Bad event signature", "EventFactory::getEventInstance"⟩)
    else if bytes.length < EVT_HEADER_BYTE_LENGTH + 2 then none
    else if bytes.getD EVT_HEADER_BYTE_LENGTH 0 &&& 3 ≠ 0 then
      some (.error ⟨3, "Event not yet implemented", "EventFactory::getEventInstance"⟩)
    else if bytes.length < length.toNat then none
    else (EventDescriptor.create.memcpy 0 (bytes.take length.toNat)).map .ok

/-- What an event has gone through before. -/
inductive EventCall
  | setAlert (a : Alert)
  | setCustomAlert (a : Alert)
  | getEventInstance (serializedEvent : Option (List UInt8)) (length : UInt16)

/-- An event that the factory makes takes the place of the one before. Where it throws there is
no new one. -/
def EventDescriptor.step (e : EventDescriptor) : EventCall → Option EventDescriptor
  | .setAlert a => e.setAlert a
  | .setCustomAlert a => e.setCustomAlert a
  | .getEventInstance serializedEvent length =>
    (event.getEventInstance serializedEvent length).map fun
      | .ok made => made
      | .error _ => e

end chaos.event
