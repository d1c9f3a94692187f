-- The two ways to set input attributes: a request to a control unit with values for any of them,
-- and a slow command with one. Both read the range of an attribute from the dataset and check the
-- value against it.
import Mathlib.Algebra.Order.Ring.Int
import Chaos.AttributesSetting

namespace chaos.cu.control_manager

open chaos.common.data.cache

/-! ## The range of an attribute -/

/-- A property of an attribute in the dataset, by its key. A default value stands here as the text
that is made of it. -/
inductive AttributeProperty
  | VALUE_MAX_SIZE (numValue : UInt32)
  | MAX_RANGE (strValue : List Char)
  | MIN_RANGE (strValue : List Char)
  | ATTRIBUTE_TYPE (numValue : DataType)
  | DEFAULT_VALUE (text : List Char)
  deriving DecidableEq, Repr

/-- The constructor leaves the texts empty; the size and the type are whatever the memory held. -/
structure RangeValueInfo where
  maxSize : UInt32 := 0
  maxRange : List Char := []
  minRange : List Char := []
  defaultValue : List Char := []
  valueType : DataType := .TYPE_INT32
  deriving DecidableEq, Repr

/-- What the database finds for the name of an attribute. -/
abbrev Dataset := List Char → List AttributeProperty

/-- One turn of the loop over the properties. -/
def RangeValueInfo.fill (rangeInfo : RangeValueInfo) : AttributeProperty → RangeValueInfo
  | .VALUE_MAX_SIZE n => { rangeInfo with maxSize := n }
  | .MAX_RANGE s => { rangeInfo with maxRange := s }
  | .MIN_RANGE s => { rangeInfo with minRange := s }
  | .ATTRIBUTE_TYPE t => { rangeInfo with valueType := t }
  | .DEFAULT_VALUE s => { rangeInfo with defaultValue := s }

/-- A field without a property stays as it was. -/
def getAttributeRangeValueInfo (dataset : Dataset) (attributesName : List Char)
    (rangeInfo : RangeValueInfo) : RangeValueInfo :=
  (dataset attributesName).foldl RangeValueInfo.fill rangeInfo

/-! ## The request -/

/-- A value in a pack. A double is given by its bits. -/
inductive PackValue
  | numberInt (n : Int32)
  | numberLong (n : Int64)
  | numberDouble (bits : UInt64)
  | string (s : List Char)
  | bool (b : Bool)
  | binData (bytes : List UInt8)
  deriving DecidableEq

abbrev CDataWrapper := List (List Char × PackValue)

/-- How a value is refused: an exception of the framework, a text that `lexical_cast` cannot read,
or a value that is not of the type of the attribute. -/
inductive Refusal
  | thrown (ex : CException)
  | badLexicalCast
  | wrongType
  deriving DecidableEq

/-- What is done with doubles: their conversions, and their check against the two ranges. -/
structure DoubleArithmetic where
  toInt : UInt64 → Int32
  toLong : UInt64 → Int64
  check : RangeValueInfo → UInt64 → Except Refusal Unit

namespace CDataWrapper

def getField (data : CDataWrapper) (key : List Char) : Option PackValue :=
  (data.find? fun e => e.1 = key).map Prod.snd

def hasKey (data : CDataWrapper) (key : List Char) : Bool := (data.getField key).isSome

variable (doubles : DoubleArithmetic) (data : CDataWrapper) (key : List Char)

/-- What is not a number, or not there, is 0. -/
def getInt32Value : Int32 :=
  match data.getField key with
  | some (.numberInt n) => n
  | some (.numberLong n) => n.toInt32
  | some (.numberDouble bits) => doubles.toInt bits
  | _ => 0

def getInt64Value : Int64 :=
  match data.getField key with
  | some (.numberInt n) => n.toInt64
  | some (.numberLong n) => n
  | some (.numberDouble bits) => doubles.toLong bits
  | _ => 0

def getDoubleValue : Except Refusal UInt64 :=
  match data.getField key with
  | some (.numberDouble bits) => .ok bits
  | _ => .error .wrongType

def getStringValue : Except Refusal (List Char) :=
  match data.getField key with
  | some (.string s) => .ok s
  | _ => .error .wrongType

def getBoolValue : Except Refusal Bool :=
  match data.getField key with
  | some (.bool b) => .ok b
  | _ => .error .wrongType

def getBinaryValue : Except Refusal (List UInt8) :=
  match data.getField key with
  | some (.binData bytes) => .ok bytes
  | _ => .error .wrongType

end CDataWrapper

/-! ## The checks -/

/-- The digits of a number. -/
def digits (s : List Char) : Option Nat :=
  if s ≠ [] ∧ s.all Char.isDigit then some (Nat.ofDigitChars 10 s 0) else none

/-- `boost::lexical_cast` to a signed integer of `w` bits: an optional sign and digits, and
nothing else. -/
def lexicalCast (w : Nat) (s : List Char) : Option Int :=
  let n := match s with
    | '-' :: s => (digits s).map fun n => -(n : Int)
    | '+' :: s => (digits s).map Int.ofNat
    | s => (digits s).map Int.ofNat
  n.filter fun n => -(2 ^ (w - 1) : Int) ≤ n ∧ n < 2 ^ (w - 1)

/-- The places of the text are filled in another order than they are named in. The function stands
for `__PRETTY_FUNCTION__`. -/
def invalidValue (function : String) (v attr_name : String) (info : RangeValueInfo) : CException :=
  let minRange := String.ofList info.minRange
  let maxRange := String.ofList info.maxRange
  { errorCode := -1
    errorMessage :=
      s!"Invalid value ({v}) [max:{attr_name} Min:{minRange}] for attribute {maxRange}"
    errorDomain := function }

/-- An end of the range, or the limit of the type. -/
def rangeEnd (w : Nat) (configured : Bool) (range : List Char) (limit : Int) : Except Refusal Int :=
  if configured then
    match lexicalCast w range with
    | some n => .ok n
    | none => .error .badLexicalCast
  else .ok limit

/-- `CHECK_FOR_RANGE_VALUE` for the integers of `w` bits. Both ends ask for `maxRange`. -/
def checkForRangeValue (function : String) (w : Nat) (info : RangeValueInfo) (v : Int)
    (attr_name : List Char) : Except Refusal Unit := do
  let max ← rangeEnd w (info.maxRange ≠ []) info.maxRange (2 ^ (w - 1) - 1)
  let min ← rangeEnd w (info.maxRange ≠ []) info.minRange (-2 ^ (w - 1))
  if v < min ∨ v > max then
    throw (.thrown (invalidValue function (toString v) (String.ofList attr_name) info))

/-- `CHECK_FOR_STRING_RANGE_VALUE` -/
def checkForStringRangeValue (function : String) (info : RangeValueInfo) (v attr_name : List Char) :
    Except Refusal Unit := do
  let invalid := .thrown (invalidValue function (String.ofList v) (String.ofList attr_name) info)
  if info.minRange ≠ [] ∧ v < info.minRange then throw invalid
  if info.maxRange ≠ [] ∧ v > info.maxRange then throw invalid

/-- The value of the attribute as it goes into the cache, if it passes the check of its type. Both
ways have this switch. -/
def valueToSet (function : String) (doubles : DoubleArithmetic) (data : CDataWrapper)
    (name : List Char) (info : RangeValueInfo) : DataType → Except Refusal PackValue
  | .TYPE_BOOLEAN => do return .bool (← data.getBoolValue name)
  | .TYPE_INT32 => do
    let v := data.getInt32Value doubles name
    checkForRangeValue function 32 info v.toInt name
    return .numberInt v
  | .TYPE_INT64 => do
    let v := data.getInt64Value doubles name
    checkForRangeValue function 64 info v.toInt name
    return .numberLong v
  | .TYPE_DOUBLE => do
    let v ← data.getDoubleValue name
    doubles.check info v
    return .numberDouble v
  | .TYPE_STRING => do
    let v ← data.getStringValue name
    checkForStringRangeValue function info v name
    return .string v
  | .TYPE_BYTEARRAY => do return .binData (← data.getBinaryValue name)

/-! ## The two ways -/

/-- A control unit: its dataset, the names of its input attributes in the order in which the
database gives them, and the types in the cache. -/
structure ControlUnit where
  dataset : Dataset
  inputs : List (List Char)
  cache : List Char → Option DataType
  doubles : DoubleArithmetic

/-- What a call did: the values that it set, with the attributes, the attribute that it refused a
value for, which ended it, and how it failed before it came to an attribute. -/
structure SetResult where
  set : List (List Char × PackValue) := []
  refused : Option (List Char × Refusal) := none
  failed : Option Refusal := none

namespace ControlUnit

variable (u : ControlUnit)

/-- The exception for a name that the cache does not know. -/
def noName : CException :=
  ⟨-1, "No name present in Attribute setting", "AttributesSetting::getIndexForName"⟩

/-- The loop over the names of the input attributes, with the one record that it uses. -/
def setLoop (data : CDataWrapper) (attributeInfo : RangeValueInfo)
    (done : List (List Char × PackValue)) : List (List Char) → SetResult
  | [] => { set := done }
  | name :: rest =>
    if data.hasKey name then
      match u.cache name with
      | none => { set := done, refused := some (name, .thrown noName) }
      | some type =>
        let attributeInfo := getAttributeRangeValueInfo u.dataset name attributeInfo
        match valueToSet "AbstractControlUnit::setDatasetAttribute" u.doubles data name
            attributeInfo type with
        | .error refusal => { set := done, refused := some (name, refusal) }
        | .ok v => setLoop data attributeInfo (done ++ [(name, v)]) rest
    else setLoop data attributeInfo done rest

def DEVICE_ID : List Char := "ds_attr_dom".toList

/-- `setDatasetAttribute` -/
def setDatasetAttribute (data : CDataWrapper) : SetResult :=
  if data.hasKey DEVICE_ID then u.setLoop data {} [] u.inputs else {}

def ATTRIBUTE_SET_NAME : List Char := "attr_set_name".toList

def ATTRIBUTE_SET_VALUE : List Char := "attr_set_value".toList

/-- `setHandler` of `SetAttributeCommand`. The value is read under the name of the attribute. -/
def setHandler (data : CDataWrapper) : SetResult :=
  if !data.hasKey ATTRIBUTE_SET_NAME || !data.hasKey ATTRIBUTE_SET_VALUE then
    { failed := some (.thrown ⟨1, "No default key found!", "setHandler"⟩) }
  else
    match data.getStringValue ATTRIBUTE_SET_NAME with
    | .error refusal => { failed := some refusal }
    | .ok name =>
      let attribute_info := getAttributeRangeValueInfo u.dataset name {}
      match u.cache name with
      | none => { refused := some (name, .thrown noName) }
      | some type =>
        match valueToSet "SetAttributeCommand::setHandler" u.doubles data name attribute_info
            type with
        | .error refusal => { refused := some (name, refusal) }
        | .ok v => { set := [(name, v)] }

end ControlUnit

end chaos.cu.control_manager
