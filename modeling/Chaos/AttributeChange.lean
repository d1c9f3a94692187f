-- The request to change input attributes, with the cache that it writes. Each value is stored as soon
-- as it is checked, and whatever is thrown later finds it there.
import Chaos.AttributeSlots
import Chaos.LittleEndian
import Chaos.SetAttribute

namespace chaos.cu.control_manager

open chaos.common.data.cache little_endian pointer_map

/-- The bytes that `setValue` gets. The length of a text is cut to 32 bits. -/
def PackValue.bytes : PackValue → List UInt8
  | .bool b => [if b then 1 else 0]
  | .numberInt n => toBytes 4 n.toUInt32.toNat
  | .numberLong n => toBytes 8 n.toUInt64.toNat
  | .numberDouble bits => toBytes 8 bits.toNat
  | .string s => (s.map fun c => c.val.toUInt8).take (s.length % 2 ^ 32)
  | .binData bytes => bytes.take (bytes.length % 2 ^ 32)

/-- A control unit: its dataset and the names of its input attributes. The types are those of the
cache. -/
structure InputUnit where
  dataset : Dataset
  inputs : List (List Char)
  doubles : DoubleArithmetic

/-- The request, and what the unit and the storage of the datasets throw: the handler before the
change, the push, the handler after it, and that handler when it is called for an exception. -/
structure ChangeRequest where
  data : CDataWrapper
  preChange : Option CException
  push : Option CException
  changed : Option CException
  again : Option CException

namespace InputUnit

variable (u : InputUnit)

/-- The loop over the names of the input attributes. A NULL buffer that is written is undefined. -/
def changeLoop (data : CDataWrapper) (attributeInfo : RangeValueInfo) (s : AttributesSetting) :
    List (List Char) → Option (AttributesSetting × Option Refusal)
  | [] => some (s, none)
  | name :: rest =>
    if data.hasKey name then
      match s.getVariableValue (String.ofList name) with
      | .error (.thrown ex) => some (s, some (.thrown ex))
      | .error .undefined | .ok none => none
      | .ok (some n) =>
        match pointer s.mapAttributeIndexSettings n with
        | none => none
        | some attribute_cache_value =>
          let attributeInfo := getAttributeRangeValueInfo u.dataset name attributeInfo
          match valueToSet "AbstractControlUnit::setDatasetAttribute" u.doubles data name
              attributeInfo attribute_cache_value.type with
          | .error refusal => some (s, some refusal)
          | .ok v =>
            match s.write n v.bytes with
            | .error _ => none
            | .ok s => changeLoop data attributeInfo s rest
    else changeLoop data attributeInfo s rest

/-- The block that is tried, with what it throws. -/
def tryChange (s : AttributesSetting) (r : ChangeRequest) :
    Option (AttributesSetting × Option Refusal) :=
  match r.preChange with
  | some ex => some (s, some (.thrown ex))
  | none =>
    if r.data.hasKey ControlUnit.DEVICE_ID then
      match r.data.getStringValue ControlUnit.DEVICE_ID with
      | .error refusal => some (s, some refusal)
      | .ok _ =>
        (u.changeLoop r.data {} s u.inputs).map fun
          | (s, some refusal) => (s, some refusal)
          | (s, none) => (s, (r.push.or r.changed).map .thrown)
    else some (s, r.changed.map .thrown)

/-- Only an exception of the framework is caught. Then the handler is called, which may throw one
of its own in place of it. -/
def setDatasetAttribute (s : AttributesSetting) (r : ChangeRequest) :
    Option (AttributesSetting × Option Refusal) :=
  (u.tryChange s r).map fun
    | (s, some (.thrown ex)) => (s, some (.thrown (r.again.getD ex)))
    | (s, other) => (s, other)

end InputUnit

end chaos.cu.control_manager
