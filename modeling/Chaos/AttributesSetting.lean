-- A set of attributes: their names, their values by 16 bit indexes, and the bitmap of the values
-- that have changed. Beside it stands what the set is for: a list of names, and the numbers of
-- those that have changed.
import Mathlib.Data.Set.Basic
import Chaos.Exception
import Chaos.PointerMap

namespace chaos.common.data.cache

open pointer_map

/-! ## Values -/

inductive DataType
  | TYPE_INT32
  | TYPE_INT64
  | TYPE_DOUBLE
  | TYPE_STRING
  | TYPE_BYTEARRAY
  | TYPE_BOOLEAN
  deriving DecidableEq, Repr

/-- A NULL buffer is `none`. -/
structure ValueSetting where
  name : String
  index : UInt32
  size : UInt32
  type : DataType
  value_buffer : Option (List UInt8)
  deriving DecidableEq, Repr

namespace ValueSetting

/-- The constructor. `allocated` says whether `calloc` gets the memory. -/
def new (name : String) (index size : UInt32) (type : DataType) (allocated : Bool) :
    ValueSetting where
  name := name
  index := index
  size := size
  type := type
  value_buffer := if size ≠ 0 && allocated then some (List.replicate size.toNat 0) else none

/-- The copy of `setValue`. A longer value is cut. -/
def setValue (v : ValueSetting) (value : List UInt8) : Except Failure ValueSetting :=
  let value_size := min value.length v.size.toNat
  match v.value_buffer with
  | some buffer =>
    .ok { v with value_buffer := some (value.take value_size ++ buffer.drop value_size) }
  | none => if value_size = 0 then .ok v else .error .undefined

/-- `setNewSize`. `realloc` gives what it finds behind the bytes that it keeps, or NULL. -/
def setNewSize (v : ValueSetting) (new_size : UInt32) (found : Option (Nat → UInt8)) :
    ValueSetting × Bool :=
  match v.type with
  | .TYPE_BYTEARRAY | .TYPE_STRING =>
    let buffer := found.map fun byte =>
      (List.range new_size.toNat).map fun i => ((v.value_buffer.getD [])[i]?).getD (byte i)
    ({ v with size := new_size, value_buffer := buffer }, buffer.isSome)
  | _ => (v, true)

end ValueSetting

/-! ## The set -/

structure AttributesSetting where
  index : UInt16
  bitmapChangedAttribute : List Bool
  mapAttributeNameIndex : Std.TreeMap String UInt16
  mapAttributeIndexSettings : PointerMap UInt16 ValueSetting

namespace AttributesSetting

def create : AttributesSetting := ⟨0, [], ∅, ∅⟩

variable (s : AttributesSetting)

/-- The types of a fixed size have that size. -/
def attributeSize (size : UInt32) : DataType → UInt32
  | .TYPE_BOOLEAN => 1
  | .TYPE_DOUBLE => 8
  | .TYPE_INT32 => 4
  | .TYPE_INT64 => 8
  | .TYPE_STRING | .TYPE_BYTEARRAY => size

def addAttribute (name : String) (size : UInt32) (type : DataType) (allocated : Bool) :
    AttributesSetting :=
  if name ∈ s.mapAttributeNameIndex then s
  else
    let tmpIndex := s.index
    let tmpSP := ValueSetting.new name (.ofNat tmpIndex.toNat) (attributeSize size type) type
      allocated
    { index := s.index + 1
      bitmapChangedAttribute := s.bitmapChangedAttribute ++ [false]
      mapAttributeNameIndex := s.mapAttributeNameIndex.insertIfNew name tmpIndex
      mapAttributeIndexSettings :=
        s.mapAttributeIndexSettings.insertIfNew tmpIndex (some tmpSP) }

/-- The bit of a value. A bit that the bitmap does not have is an assertion that fails. -/
def setBit (v : ValueSetting) (bit : Bool) : AttributesSetting × Except Failure Unit :=
  if v.index.toNat < s.bitmapChangedAttribute.length then
    ({ s with bitmapChangedAttribute := s.bitmapChangedAttribute.set v.index.toNat bit }, .ok ())
  else (s, .error .undefined)

/-- The set with another value for an index. -/
def store (n : UInt16) (v : ValueSetting) : AttributesSetting :=
  { s with mapAttributeIndexSettings := s.mapAttributeIndexSettings.insert n (some v) }

/-- `mapAttributeIndexSettings[n]` inserts NULL for an index that is not there. -/
def touch (n : UInt16) : AttributesSetting :=
  { s with mapAttributeIndexSettings := touched s.mapAttributeIndexSettings n }

def setValueForAttribute (n : UInt16) (value : List UInt8) :
    AttributesSetting × Except Failure Unit :=
  match pointer s.mapAttributeIndexSettings n with
  | none => (s.touch n, .error .undefined)
  | some v =>
    match v.setValue value with
    | .error failure => (s.touch n, .error failure)
    | .ok v' => ((s.touch n).store n v').setBit v' true

def setNewSize (n : UInt16) (new_size : UInt32) (found : Option (Nat → UInt8)) :
    AttributesSetting × Except Failure Bool :=
  match pointer s.mapAttributeIndexSettings n with
  | none => (s.touch n, .error .undefined)
  | some v =>
    let (v', result) := v.setNewSize new_size found
    ((s.touch n).store n v', .ok result)

/-- `getValueSettingForIndex` looks for the index first. -/
def getValueSettingForIndex (n : UInt16) : Except Failure (Option ValueSetting) :=
  if n ∈ s.mapAttributeIndexSettings then .ok (pointer s.mapAttributeIndexSettings n)
  else .error (.thrown ⟨-1, "No index present in Attribute setting",
    "virtual ValueSetting* AttributesSetting::getValueSettingForIndex(VariableIndexType)"⟩)

/-- `markAsChanged` and `markAsUnchanged` of the value that `getValueSettingForIndex` gives. -/
def mark (n : UInt16) (bit : Bool) : AttributesSetting × Except Failure Unit :=
  match s.getValueSettingForIndex n with
  | .error failure => (s, .error failure)
  | .ok none => (s, .error .undefined)
  | .ok (some v) => s.setBit v bit

def markAllAsChanged : AttributesSetting :=
  { s with bitmapChangedAttribute := s.bitmapChangedAttribute.map fun _ => true }

def resetChangedIndex : AttributesSetting :=
  { s with bitmapChangedAttribute := s.bitmapChangedAttribute.map fun _ => false }

def deinit (_ : AttributesSetting) : AttributesSetting := create

/-- `find_first` is this from 0 on, and `find_next` from behind the bit that was found. -/
def findFrom (bits : List Bool) (start : Nat) : Option Nat :=
  ((bits.drop start).findIdx? id).map (start + ·)

/-- The loop of `getChangedIndex`. Each round finds a bit further on. -/
def changedFrom (bits : List Bool) : Nat → Option Nat → List UInt16
  | 0, _ | _, none => []
  | left + 1, some i => .ofNat i :: changedFrom bits left (findFrom bits (i + 1))

def getChangedIndex : List UInt16 :=
  changedFrom s.bitmapChangedAttribute s.bitmapChangedAttribute.length
    (findFrom s.bitmapChangedAttribute 0)

end AttributesSetting

inductive AttributesCall
  | addAttribute (name : String) (size : UInt32) (type : DataType) (allocated : Bool)
  | setValueForAttribute (n : UInt16) (value : List UInt8)
  | setNewSize (n : UInt16) (new_size : UInt32) (found : Option (Nat → UInt8))
  | mark (n : UInt16) (bit : Bool)
  | markAllAsChanged
  | resetChangedIndex
  | deinit

/-- The set after a call, and how the call ends. -/
def AttributesSetting.call (s : AttributesSetting) :
    AttributesCall → AttributesSetting × Except Failure Unit
  | .addAttribute name size type allocated => (s.addAttribute name size type allocated, .ok ())
  | .setValueForAttribute n value => s.setValueForAttribute n value
  | .setNewSize n new_size found =>
    let (s, result) := s.setNewSize n new_size found
    (s, result.map fun _ => ())
  | .mark n bit => s.mark n bit
  | .markAllAsChanged => (s.markAllAsChanged, .ok ())
  | .resetChangedIndex => (s.resetChangedIndex, .ok ())
  | .deinit => (s.deinit, .ok ())

/-! ## What the set is for -/

/-- The names in the order in which they were added, and the numbers of those that have changed. -/
structure Attributes where
  names : List String
  changed : Set Nat

namespace Attributes

def empty : Attributes := ⟨[], ∅⟩

variable (a : Attributes)

def setBit (i : Nat) (bit : Bool) : Attributes :=
  if i < a.names.length then
    { a with changed := if bit then insert i a.changed else a.changed \ {i} }
  else a

/-- What a call does. A call for an attribute that was never added does nothing. -/
def call : AttributesCall → Attributes
  | .addAttribute name _ _ _ => if name ∈ a.names then a else { a with names := a.names ++ [name] }
  | .setValueForAttribute n _ => a.setBit n.toNat true
  | .setNewSize _ _ _ => a
  | .mark n bit => a.setBit n.toNat bit
  | .markAllAsChanged => { a with changed := {i | i < a.names.length} }
  | .resetChangedIndex => { a with changed := ∅ }
  | .deinit => empty

end Attributes

end chaos.common.data.cache
