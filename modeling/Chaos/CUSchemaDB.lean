-- The database of the datasets of a control unit. Devices and attributes are entities of one
-- table, the attributes of a device are its children, and what is known of an attribute are its
-- properties. Texts are those of C strings: none of them has a zero in it.
import Mathlib.Logic.Function.Basic
import Chaos.AttributesSetting
import Chaos.EntityDB

namespace chaos.common.data

open chaos.edb cache

/-! ## The keys -/

inductive DatasetKey where
  | DEVICE_ID
  | ATTRIBUTE_NAME
  | DESCRIPTION
  | TIMESTAMP
  | ATTRIBUTE_DESCRIPTION
  | ATTRIBUTE_TYPE
  | ATTRIBUTE_DIRECTION
  | MAX_RANGE
  | MIN_RANGE
  | DEFAULT_VALUE
  | VALUE_MAX_SIZE
  | CS_DM_LD_SERVER_ADDRESS
  deriving DecidableEq, Repr

/-- The ids of the keys, which a new database gives in the order of `initDB`. -/
def mapDatasetKeyForID : DatasetKey → UInt32
  | .DEVICE_ID => 1
  | .ATTRIBUTE_NAME => 2
  | .DESCRIPTION => 3
  | .TIMESTAMP => 4
  | .ATTRIBUTE_DESCRIPTION => 5
  | .ATTRIBUTE_TYPE => 6
  | .ATTRIBUTE_DIRECTION => 7
  | .MAX_RANGE => 8
  | .MIN_RANGE => 9
  | .DEFAULT_VALUE => 10
  | .VALUE_MAX_SIZE => 11
  | .CS_DM_LD_SERVER_ADDRESS => 12

/-! ## The values -/

/-- A text and its end fit in the 256 bytes of `strValue`. A longer one is copied over the end. -/
def fits (str : List Char) : Bool := (str.map Char.utf8Size).sum < 256

/-- A `KeyIdAndValue` on the stack with a text in it. `memory` is what the other bytes held. The
lookups only ask whether the first eight bytes are all zero, so that the number is 1 for any text
that has a first byte. -/
def kivStr (keyID : DatasetKey) (memory : UInt64) (str : List Char) : KeyIdAndValue where
  type := .str
  keyID := mapDatasetKeyForID keyID
  numValue := if str = [] then (memory * 256).toInt64 else 1
  strValue := str
  overlap := by
    by_cases h : str = []
    · have hlow : (memory * 256).toUInt8 = memory.toUInt8 * 0 := UInt64.toUInt8_mul ..
      simp [h, -UInt64.toUInt8_mul, -UInt64.toInt64_mul, hlow]
    · simp only [h, if_false, false_iff]
      decide

/-- A key has values of one type only, so that the union is read as it was written. -/
inductive PropertyValue where
  | num (numValue : Int64)
  | str (strValue : List Char)
  deriving DecidableEq, Repr

def PropertyValue.strValue : PropertyValue → List Char
  | .num _ => []
  | .str strValue => strValue

def PropertyValue.numValue : PropertyValue → Int64
  | .num numValue => numValue
  | .str _ => 0

structure PropertyRow where
  id : UInt32
  entity_id : Int
  key_id : UInt32
  value : PropertyValue
  deriving DecidableEq, Repr

structure Entity where
  entityID : UInt32
  strValue : List Char
  deriving DecidableEq, Repr

structure RangeValueInfo where
  maxSize : UInt32 := 0
  maxRange : List Char := []
  minRange : List Char := []
  defaultValue : List Char := []
  valueType : Int32 := 0
  deriving DecidableEq, Repr

/-- What an operation finds outside: the bytes on the stack, and the time. -/
structure World where
  memory : UInt64
  timestamp : Int64
  deriving DecidableEq, Repr

/-- The table of the entities and those of the properties and of the children, with the sequence of
the properties, and the entities of the devices that were used. -/
structure CUSchemaDB where
  entityDB : SQLiteEntityDB := {}
  property : List PropertyRow := []
  propertySeq : Nat := 0
  entity_group : List (UInt32 × UInt32) := []
  deviceEntityMap : List Char → Option Entity := fun _ => none

namespace CUSchemaDB

variable (s : CUSchemaDB) (w : World)

/-! ## The entities -/

/-- The entity keeps the key information that it is made of. On an error it has no id. -/
def getNewEntityInstance (keyID : DatasetKey) (memory : UInt64) (str : List Char) :
    Option (CUSchemaDB × Entity) :=
  match s.entityDB.getIDForEntity (kivStr keyID memory str) with
  | (entityDB, .ok entityID) =>
    some ({ s with entityDB := entityDB }, { entityID := entityID, strValue := str })
  | (_, .error _) => none

/-- The children whose rows are selected. The id is the primary key, so that a pair has one row. -/
def childIDS (parentID : UInt32) (selected : EntityRow → Bool) : List UInt32 :=
  (s.entity_group.filter fun g => g.1 = parentID &&
    s.entityDB.entity.any fun row => row.id = g.2 && selected row).map Prod.snd

def searchEntityByParentIDAndKeyID (parentID : UInt32) (keyID : DatasetKey) : List UInt32 :=
  s.childIDS parentID fun row => row.key_id = bindInt (mapDatasetKeyForID keyID)

def searchEntityByParentIDAndKeyValue (parentID : UInt32) (keyID : DatasetKey)
    (strValue : List Char) : List UInt32 :=
  s.childIDS parentID fun row => row.key_id = bindInt (mapDatasetKeyForID keyID) &&
    row.str_value.any fun str_value => like strValue str_value

/-- The entities of these ids, which have this key. Each is looked up again by its text. -/
def getChilds (keyID : DatasetKey) (memory : UInt64) :
    CUSchemaDB → List UInt32 → Option (CUSchemaDB × List Entity)
  | s, [] => some (s, [])
  | s, id :: ids => do
    let row ← s.entityDB.entity.find? fun row => row.id = id
    let (s, child) ← s.getNewEntityInstance keyID memory (← row.str_value)
    let (s, childs) ← getChilds keyID memory s ids
    return (s, child :: childs)

def isChild (parent child : Entity) : Bool :=
  s.entity_group.count (parent.entityID, child.entityID) = 1

/-- The insert fails when the pair is there. -/
def addChild (parent child : Entity) : CUSchemaDB :=
  if (parent.entityID, child.entityID) ∈ s.entity_group then s
  else { s with entity_group := s.entity_group ++ [(parent.entityID, child.entityID)] }

/-! ## The properties -/

/-- The insert fails when the id is there, and nobody looks at the error. -/
def addNewPropertyForEntity (entityID : UInt32) (keyID : DatasetKey) (value : PropertyValue) :
    CUSchemaDB :=
  let id := UInt32.ofNat (s.propertySeq + 1)
  let row : PropertyRow :=
    { id := id, entity_id := bindInt entityID, key_id := mapDatasetKeyForID keyID, value := value }
  if s.property.any fun row => row.id = id then { s with propertySeq := s.propertySeq + 1 }
  else { s with propertySeq := s.propertySeq + 1, property := s.property ++ [row] }

def addProperty (entity : Entity) (keyID : DatasetKey) (value : PropertyValue) :
    Option CUSchemaDB :=
  if fits value.strValue then some (s.addNewPropertyForEntity entity.entityID keyID value) else none

def getPropertyByKeyID (entity : Entity) (keyIDs : List DatasetKey) : List PropertyRow :=
  s.property.filter fun row => row.entity_id = bindInt entity.entityID &&
    (keyIDs.map mapDatasetKeyForID).contains row.key_id

/-- The id is bound as an `int64_t` here. -/
def getAllProperty (entity : Entity) : List PropertyRow :=
  s.property.filter fun row => row.entity_id = bindInt64 entity.entityID

def deleteProperty (propertyID : UInt32) : CUSchemaDB :=
  { s with property := s.property.filter fun row => row.id ≠ propertyID }

def clearAllAttributeForProperty (entity : Entity) (keyID : DatasetKey) : CUSchemaDB :=
  (s.getPropertyByKeyID entity [keyID]).foldl (fun s row => s.deleteProperty row.id) s

/-- The values before the first one that is equal are deleted. -/
def deleteUnequal (value : PropertyValue) : CUSchemaDB → List PropertyRow → CUSchemaDB × Bool
  | s, [] => (s, false)
  | s, row :: rows =>
    if row.value = value then (s, true) else deleteUnequal value (s.deleteProperty row.id) rows

def addUniqueAttributeProperty (attributeEntity : Entity) (keyIDToAdd : DatasetKey)
    (attributeValue : PropertyValue) (checkValueForUnicity : Bool) : Option CUSchemaDB :=
  let keysAndValues := s.getPropertyByKeyID attributeEntity [keyIDToAdd]
  let (s, found) :=
    if checkValueForUnicity then deleteUnequal attributeValue s keysAndValues
    else (s, !keysAndValues.isEmpty)
  if found then some s else s.addProperty attributeEntity keyIDToAdd attributeValue

/-! ## The devices and their attributes -/

def composeAttributeName (deviceID attributeName : List Char) : List Char :=
  deviceID ++ ':' :: attributeName

def addDeviceId (deviceID : List Char) : Option CUSchemaDB :=
  if (s.deviceEntityMap deviceID).isSome then some s
  else if fits deviceID then do
    let (s, dsEntity) ← s.getNewEntityInstance .DEVICE_ID w.memory deviceID
    let s := { s with
      deviceEntityMap := Function.update s.deviceEntityMap deviceID (some dsEntity) }
    s.addUniqueAttributeProperty dsEntity .TIMESTAMP (.num w.timestamp) false
  else none

def getDeviceEntity (deviceID : List Char) : Option (CUSchemaDB × Entity) := do
  let s ← s.addDeviceId w deviceID
  let device ← s.deviceEntityMap deviceID
  return (s, device)

/-- The entity of an attribute is the first child of the device whose name is like the name that is
composed, or it is looked up among all entities and made a child. -/
def getDatasetElement (device : Entity) (attributeName : List Char) :
    Option (CUSchemaDB × Entity) :=
  let a_name := composeAttributeName device.strValue attributeName
  if fits a_name then
    match s.searchEntityByParentIDAndKeyValue device.entityID .ATTRIBUTE_NAME a_name with
    | [] => do
      let (s, elementDst) ← s.getNewEntityInstance .ATTRIBUTE_NAME w.memory a_name
      return (s.addChild device elementDst, elementDst)
    | childIDS => do
      let (s, childs) ← getChilds .ATTRIBUTE_NAME w.memory s childIDS
      let child ← childs.head?
      return (s, child)
  else none

/-! ## Adding attributes by hand -/

/-- The size of a value of the type. The last branch of the switch is for numbers that are no
type. -/
def typeMaxDimension (attributeType : DataType) (maxDimension : UInt32) :
    Except CException UInt32 :=
  let sized (errorMessage : String) : Except CException UInt32 :=
    if maxDimension = 0 then .error ⟨1, errorMessage, "CUSchemaDB::addAttributeToDataSet"⟩
    else .ok maxDimension
  match attributeType with
  | .TYPE_BOOLEAN => .ok 1
  | .TYPE_DOUBLE => .ok 8
  | .TYPE_INT32 => .ok 4
  | .TYPE_INT64 => .ok 8
  | .TYPE_STRING => sized "for string type need to be specified the max value"
  | .TYPE_BYTEARRAY => sized "for byte array type need to be specified the max value"

/-- The number of a type. -/
def typeNumber : DataType → Int64
  | .TYPE_INT32 => 0
  | .TYPE_INT64 => 1
  | .TYPE_DOUBLE => 2
  | .TYPE_STRING => 3
  | .TYPE_BYTEARRAY => 4
  | .TYPE_BOOLEAN => 5

inductive DataSetAttributeIOAttribute where
  | Input
  | Output
  | Bidirectional
  deriving DecidableEq, Repr

def directionNumber : DataSetAttributeIOAttribute → Int64
  | .Input => 0
  | .Output => 1
  | .Bidirectional => 2

/-- Properties that are set one after the other. -/
def addUniqueAttributeProperties (attributeEntity : Entity) :
    CUSchemaDB → List (DatasetKey × PropertyValue) → Option CUSchemaDB
  | s, [] => some s
  | s, (keyID, value) :: rest => do
    let s ← s.addUniqueAttributeProperty attributeEntity keyID value true
    addUniqueAttributeProperties attributeEntity s rest

def addAttributeToDataSet (attributeDeviceID attributeName attributeDescription : List Char)
    (attributeType : DataType) (attributeDirection : DataSetAttributeIOAttribute)
    (maxDimension : UInt32) : Option (Except CException CUSchemaDB) :=
  match typeMaxDimension attributeType maxDimension with
  | .error ex => some (.error ex)
  | .ok typeMaxDimension => do
    let (s, device) ← s.getDeviceEntity w attributeDeviceID
    let a_name := composeAttributeName attributeDeviceID attributeName
    if fits a_name then
      let (s, elementDst) ← s.getNewEntityInstance .ATTRIBUTE_NAME w.memory a_name
      let s ← addUniqueAttributeProperties elementDst s
        [(.ATTRIBUTE_DESCRIPTION, .str attributeDescription),
          (.ATTRIBUTE_TYPE, .num (typeNumber attributeType)),
          (.ATTRIBUTE_DIRECTION, .num (directionNumber attributeDirection)),
          (.VALUE_MAX_SIZE, .num (.ofNat typeMaxDimension.toNat))]
      return .ok (if s.isChild device elementDst then s else s.addChild device elementDst)
    else none

def setDeviceAttributeRangeValueInfo (deviceID attributesName : List Char)
    (rangeInfo : RangeValueInfo) : Option CUSchemaDB := do
  let (s, deviceEntity) ← s.getDeviceEntity w deviceID
  let (s, attributeEntity) ← s.getDatasetElement w deviceEntity attributesName
  addUniqueAttributeProperties attributeEntity s
    [(.MAX_RANGE, .str rangeInfo.maxRange), (.MIN_RANGE, .str rangeInfo.minRange),
      (.DEFAULT_VALUE, .str rangeInfo.defaultValue)]

/-! ## Adding attributes from a pack -/

/-- A field of a pack. The getter of a field of another type throws. -/
inductive Field (α : Type) where
  | missing
  | mistyped
  | value (a : α)
  deriving DecidableEq, Repr

def Field.map {α β : Type} (f : α → β) : Field α → Field β
  | .missing => .missing
  | .mistyped => .mistyped
  | .value a => .value (f a)

/-- An attribute in the pack. What is not a number is read as 0. -/
structure ElementDescription where
  ATTRIBUTE_NAME : Field (List Char)
  ATTRIBUTE_DESCRIPTION : Field (List Char) := .missing
  ATTRIBUTE_TYPE : Option Int32 := none
  ATTRIBUTE_DIRECTION : Option Int32 := none
  MAX_RANGE : Field (List Char) := .missing
  MIN_RANGE : Field (List Char) := .missing
  DEFAULT_VALUE : Field (List Char) := .missing
  VALUE_MAX_SIZE : Option Int32 := none
  deriving DecidableEq, Repr

/-- The fields that are looked at after the name, in order. -/
def ElementDescription.fields (d : ElementDescription) : List (DatasetKey × Field PropertyValue) :=
  let string (field : Field (List Char)) : Field PropertyValue := field.map .str
  let number (field : Option Int32) : Field PropertyValue :=
    field.elim .missing fun n => .value (.num n.toInt64)
  [(.ATTRIBUTE_DESCRIPTION, string d.ATTRIBUTE_DESCRIPTION),
    (.ATTRIBUTE_TYPE, number d.ATTRIBUTE_TYPE),
    (.ATTRIBUTE_DIRECTION, number d.ATTRIBUTE_DIRECTION), (.MAX_RANGE, string d.MAX_RANGE),
    (.MIN_RANGE, string d.MIN_RANGE), (.DEFAULT_VALUE, string d.DEFAULT_VALUE),
    (.VALUE_MAX_SIZE, number d.VALUE_MAX_SIZE)]

/-- The dataset in a pack. An element that is not of the type of its array is `none`. -/
structure AttributeDataWrapper where
  DEVICE_ID : Field (List Char)
  DESCRIPTION : Field (List (Option ElementDescription)) := .missing
  CS_DM_LD_SERVER_ADDRESS : Field (List (Option (List Char))) := .missing
  deriving DecidableEq, Repr

/-- The properties that the fields give, in order, up to one that throws. The flag says that none
does. -/
def readFields :
    List (DatasetKey × Field PropertyValue) → List (DatasetKey × PropertyValue) × Bool
  | [] => ([], true)
  | (_, .missing) :: fields => readFields fields
  | (_, .mistyped) :: _ => ([], false)
  | (keyID, .value value) :: fields =>
    let (values, went) := readFields fields
    ((keyID, value) :: values, went)

/-- The loop over the elements, up to one that throws. -/
def addElements (deviceEntity : Entity) :
    CUSchemaDB → List (Option ElementDescription) → Option (CUSchemaDB × Bool)
  | s, [] => some (s, true)
  | s, none :: _ => some (s, false)
  | s, some elementDescription :: elements =>
    match elementDescription.ATTRIBUTE_NAME with
    | .missing => addElements deviceEntity s elements
    | .mistyped => some (s, false)
    | .value attrName => do
      let (s, attributeEntity) ← s.getDatasetElement w deviceEntity attrName
      let (values, went) := readFields elementDescription.fields
      let s ← addUniqueAttributeProperties attributeEntity s values
      if went then addElements deviceEntity s elements else return (s, false)

def addServers (deviceEntity : Entity) :
    CUSchemaDB → List (Option (List Char)) → Option CUSchemaDB
  | s, [] => some s
  | s, none :: _ => some s
  | s, some address :: serverVec => do
    let s ← s.addProperty deviceEntity .CS_DM_LD_SERVER_ADDRESS (.str address)
    addServers deviceEntity s serverVec

def addDescription (deviceEntity : Entity) :
    Field (List (Option ElementDescription)) → Option (CUSchemaDB × Bool)
  | .missing => some (s, true)
  | .mistyped => some (s, false)
  | .value elementsDescriptions => addElements w deviceEntity s elementsDescriptions

/-- The addresses take the place of those that are stored. These are removed before the getter of
the array throws. -/
def setServers (deviceEntity : Entity) : Field (List (Option (List Char))) → Option CUSchemaDB
  | .missing => some s
  | .mistyped => some (s.clearAllAttributeForProperty deviceEntity .CS_DM_LD_SERVER_ADDRESS)
  | .value serverVec =>
    let s := s.clearAllAttributeForProperty deviceEntity .CS_DM_LD_SERVER_ADDRESS
    addServers deviceEntity s serverVec

/-- What was done before an exception stays done. -/
def addAttributeToDataSetFromDataWrapper (attributeDataWrapper : AttributeDataWrapper) :
    Option CUSchemaDB :=
  match attributeDataWrapper.DEVICE_ID with
  | .missing | .mistyped => some s
  | .value attributeDeviceID => do
    let (s, deviceEntity) ← s.getDeviceEntity w attributeDeviceID
    let (s, went) ← s.addDescription w deviceEntity attributeDataWrapper.DESCRIPTION
    if went then s.setServers deviceEntity attributeDataWrapper.CS_DM_LD_SERVER_ADDRESS
    else return s

/-! ## Reading -/

/-- The description stays as it was when there is none. -/
def getDeviceAttributeDescription (deviceID attributesName attributeDescription : List Char) :
    Option (CUSchemaDB × List Char) := do
  let (s, deviceEntity) ← s.getDeviceEntity w deviceID
  let (s, attributeDstEntity) ← s.getDatasetElement w deviceEntity attributesName
  match s.getPropertyByKeyID attributeDstEntity [.ATTRIBUTE_DESCRIPTION] with
  | [] => return (s, attributeDescription)
  | row :: _ => return (s, row.value.strValue)

/-- The number of the direction, or `none` where the call returns 1. -/
def getDeviceAttributeDirection (deviceID attributesName : List Char) :
    Option (CUSchemaDB × Option Int64) := do
  let (s, deviceEntity) ← s.getDeviceEntity w deviceID
  let (s, attributeDstEntity) ← s.getDatasetElement w deviceEntity attributesName
  match s.getPropertyByKeyID attributeDstEntity [.ATTRIBUTE_DIRECTION] with
  | [] => return (s, none)
  | row :: _ => return (s, some row.value.numValue)

/-- One turn of the loop over the properties. -/
def fillRange (rangeInfo : RangeValueInfo) (row : PropertyRow) : RangeValueInfo :=
  if row.key_id = mapDatasetKeyForID .VALUE_MAX_SIZE then
    { rangeInfo with maxSize := row.value.numValue.toUInt64.toUInt32 }
  else if row.key_id = mapDatasetKeyForID .MAX_RANGE then
    { rangeInfo with maxRange := row.value.strValue }
  else if row.key_id = mapDatasetKeyForID .MIN_RANGE then
    { rangeInfo with minRange := row.value.strValue }
  else if row.key_id = mapDatasetKeyForID .ATTRIBUTE_TYPE then
    { rangeInfo with valueType := row.value.numValue.toInt32 }
  else if row.key_id = mapDatasetKeyForID .DEFAULT_VALUE then
    { rangeInfo with
      defaultValue := match row.value with
        | .num numValue => (toString numValue.toInt).toList
        | .str strValue => strValue }
  else rangeInfo

/-- The flag says that the call returns 0. It returns 1 when there is no such child, or nothing is
known of it. -/
def getDeviceAttributeRangeValueInfo (deviceID attributesName : List Char)
    (rangeInfo : RangeValueInfo) : Option (CUSchemaDB × RangeValueInfo × Bool) :=
  let a_name := composeAttributeName deviceID attributesName
  if fits a_name then do
    let (s, deviceEntity) ← s.getDeviceEntity w deviceID
    let childIDS := s.searchEntityByParentIDAndKeyValue deviceEntity.entityID .ATTRIBUTE_NAME a_name
    match ← getChilds .ATTRIBUTE_NAME w.memory s childIDS with
    | (s, []) => return (s, rangeInfo, false)
    | (s, attrEntity :: _) =>
      match s.getPropertyByKeyID attrEntity
        [.MAX_RANGE, .MIN_RANGE, .DEFAULT_VALUE, .ATTRIBUTE_TYPE, .VALUE_MAX_SIZE] with
      | [] => return (s, rangeInfo, false)
      | rows => return (s, rows.foldl fillRange rangeInfo, true)
  else none

/-- The dataset of a device as it is sent, with the properties of the attributes by their keys. -/
structure DatasetDescription where
  DEVICE_ID : List Char
  TIMESTAMP : Option Int64
  DESCRIPTION : List (List Char × List (UInt32 × PropertyValue))
  CS_DM_LD_SERVER_ADDRESS : List (List Char)
  deriving DecidableEq, Repr

/-- An attribute of which nothing is known is left out. The name is what follows the device. -/
def describeAttribute (deviceEntity child : Entity) :
    Option (List Char × List (UInt32 × PropertyValue)) :=
  match s.getAllProperty child with
  | [] => none
  | attrProperty => some (child.strValue.drop (deviceEntity.strValue.length + 1),
      attrProperty.map fun row => (row.key_id, row.value))

/-- A device that was not used has no description. A name that is not longer than that of the
device makes `substr` throw. -/
def fillDataWrapperWithDataSetDescription (deviceID : List Char) :
    Option (CUSchemaDB × Option DatasetDescription) :=
  match s.deviceEntityMap deviceID with
  | none => some (s, none)
  | some deviceEntity => do
    let timestamps := s.getPropertyByKeyID deviceEntity [.TIMESTAMP]
    let (s, childs) ← getChilds .ATTRIBUTE_NAME w.memory s
      (s.searchEntityByParentIDAndKeyID deviceEntity.entityID .ATTRIBUTE_NAME)
    if childs.all fun child => (s.getAllProperty child).isEmpty ||
        deviceEntity.strValue.length < child.strValue.length then
      return (s, some {
        DEVICE_ID := deviceEntity.strValue
        TIMESTAMP := timestamps.head?.map fun row => row.value.numValue
        DESCRIPTION := childs.filterMap (s.describeAttribute deviceEntity)
        CS_DM_LD_SERVER_ADDRESS :=
          (s.getPropertyByKeyID deviceEntity [.CS_DM_LD_SERVER_ADDRESS]).map fun row =>
            row.value.strValue })
    else none

/-! ## The operations -/

inductive Label where
  | addAttributeToDataSet (w : World) (deviceID attributeName attributeDescription : List Char)
      (attributeType : DataType) (attributeDirection : DataSetAttributeIOAttribute)
      (maxDimension : UInt32)
  | addAttributeToDataSetFromDataWrapper (w : World) (attributeDataWrapper : AttributeDataWrapper)
  | setDeviceAttributeRangeValueInfo (w : World) (deviceID attributesName : List Char)
      (rangeInfo : RangeValueInfo)
  deriving DecidableEq

/-- An attribute that is refused with an exception changes nothing. -/
def step (s : CUSchemaDB) : Label → Option CUSchemaDB
  | .addAttributeToDataSet w deviceID attributeName attributeDescription attributeType
      attributeDirection maxDimension => do
    let result ← s.addAttributeToDataSet w deviceID attributeName attributeDescription attributeType
      attributeDirection maxDimension
    return result.toOption.getD s
  | .addAttributeToDataSetFromDataWrapper w attributeDataWrapper =>
    s.addAttributeToDataSetFromDataWrapper w attributeDataWrapper
  | .setDeviceAttributeRangeValueInfo w deviceID attributesName rangeInfo =>
    s.setDeviceAttributeRangeValueInfo w deviceID attributesName rangeInfo

end CUSchemaDB

end chaos.common.data
