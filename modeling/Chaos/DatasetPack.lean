-- The description of a dataset as a pack, and the calls that are made on a database of datasets.
-- A field of the pack has the width of its getter, so that numbers are sent with 32 bits.
import Chaos.CUSchemaDB

namespace chaos.common.data

namespace CUSchemaDB

/-! ## The pack -/

/-- A field that is there already is what a getter goes on to find. -/
def Field.add {α : Type} (field : Field α) (a : α) : Field α :=
  match field with
  | .missing => .value a
  | field => field

/-- One turn of the loop over the properties of an attribute. -/
def ElementDescription.addProperty (dsAttribute : ElementDescription)
    (curKIV : UInt32 × PropertyValue) : ElementDescription :=
  if curKIV.1 = mapDatasetKeyForID .ATTRIBUTE_DESCRIPTION then
    { dsAttribute with
      ATTRIBUTE_DESCRIPTION := dsAttribute.ATTRIBUTE_DESCRIPTION.add curKIV.2.strValue }
  else if curKIV.1 = mapDatasetKeyForID .ATTRIBUTE_DIRECTION then
    { dsAttribute with
      ATTRIBUTE_DIRECTION := dsAttribute.ATTRIBUTE_DIRECTION.or (some curKIV.2.numValue.toInt32) }
  else if curKIV.1 = mapDatasetKeyForID .MAX_RANGE then
    { dsAttribute with MAX_RANGE := dsAttribute.MAX_RANGE.add curKIV.2.strValue }
  else if curKIV.1 = mapDatasetKeyForID .MIN_RANGE then
    { dsAttribute with MIN_RANGE := dsAttribute.MIN_RANGE.add curKIV.2.strValue }
  else if curKIV.1 = mapDatasetKeyForID .DEFAULT_VALUE then
    { dsAttribute with DEFAULT_VALUE := dsAttribute.DEFAULT_VALUE.add curKIV.2.strValue }
  else if curKIV.1 = mapDatasetKeyForID .VALUE_MAX_SIZE then
    { dsAttribute with
      VALUE_MAX_SIZE := dsAttribute.VALUE_MAX_SIZE.or (some curKIV.2.numValue.toInt32) }
  else if curKIV.1 = mapDatasetKeyForID .ATTRIBUTE_TYPE then
    { dsAttribute with
      ATTRIBUTE_TYPE := dsAttribute.ATTRIBUTE_TYPE.or (some curKIV.2.numValue.toInt32) }
  else dsAttribute

def fillCDataWrapperDSAtribute (attrDecomposed : List Char)
    (attrProperty : List (UInt32 × PropertyValue)) : ElementDescription :=
  attrProperty.foldl ElementDescription.addProperty { ATTRIBUTE_NAME := .value attrDecomposed }

/-- The description as its getters find it. -/
def DatasetDescription.pack (description : DatasetDescription) : AttributeDataWrapper where
  DEVICE_ID := .value description.DEVICE_ID
  DESCRIPTION := .value (description.DESCRIPTION.map fun element =>
    some (fillCDataWrapperDSAtribute element.1 element.2))
  CS_DM_LD_SERVER_ADDRESS := .value (description.CS_DM_LD_SERVER_ADDRESS.map some)

/-! ## The calls -/

/-- A call that is not an operation may still add the entities that it does not find. -/
inductive Call where
  | change (a : Label)
  | addDeviceId (w : World) (deviceID : List Char)
  | getDeviceAttributeDescription (w : World) (deviceID attributesName : List Char)
  | getDeviceAttributeDirection (w : World) (deviceID attributesName : List Char)
  | getDeviceAttributeRangeValueInfo (w : World) (deviceID attributesName : List Char)
  | fillDataWrapperWithDataSetDescription (w : World) (deviceID : List Char)
  deriving DecidableEq

/-- What a call leaves in the tables does not depend on the old values that a read is given. -/
def call (s : CUSchemaDB) : Call → Option CUSchemaDB
  | .change a => s.step a
  | .addDeviceId w deviceID => s.addDeviceId w deviceID
  | .getDeviceAttributeDescription w deviceID attributesName =>
    (s.getDeviceAttributeDescription w deviceID attributesName []).map Prod.fst
  | .getDeviceAttributeDirection w deviceID attributesName =>
    (s.getDeviceAttributeDirection w deviceID attributesName).map Prod.fst
  | .getDeviceAttributeRangeValueInfo w deviceID attributesName =>
    (s.getDeviceAttributeRangeValueInfo w deviceID attributesName {}).map Prod.fst
  | .fillDataWrapperWithDataSetDescription w deviceID =>
    (s.fillDataWrapperWithDataSetDescription w deviceID).map Prod.fst

/-! ## What a pack holds -/

/-- The keys of the properties of an attribute, in the order in which a pack is read. -/
def attributeKeys : List DatasetKey :=
  [.ATTRIBUTE_DESCRIPTION, .ATTRIBUTE_TYPE, .ATTRIBUTE_DIRECTION, .MAX_RANGE, .MIN_RANGE,
    .DEFAULT_VALUE, .VALUE_MAX_SIZE]

/-- A value after it was sent. -/
def sent (keyID : DatasetKey) (value : PropertyValue) : PropertyValue :=
  match keyID with
  | .ATTRIBUTE_TYPE | .ATTRIBUTE_DIRECTION | .VALUE_MAX_SIZE =>
    .num value.numValue.toInt32.toInt64
  | _ => .str value.strValue

/-- The values of a pack, which are the first ones of their keys. -/
def sentValues (attrProperty : List (UInt32 × PropertyValue)) : List (DatasetKey × PropertyValue) :=
  attributeKeys.filterMap fun keyID =>
    (attrProperty.lookup (mapDatasetKeyForID keyID)).map fun value => (keyID, sent keyID value)

/-- A field that is missing is given the value that there is. -/
def Field.orValue {α : Type} (field : Field α) (value : Option α) : Field α :=
  value.elim field field.add

section Pack

variable {α β : Type}

theorem Field.map_add (f : α → β) (field : Field α) (a : α) :
    (field.add a).map f = (field.map f).add (f a) := by
  cases field <;> rfl

theorem Field.add_orValue (field : Field α) (a : α) (value : Option α) :
    (field.add a).orValue value = field.add a := by
  cases field <;> cases value <;> rfl

theorem Field.missing_orValue (value : Option α) :
    (Field.missing : Field α).orValue value = value.elim .missing .value := by
  cases value <;> rfl

theorem number_add (number : Option Int32) (n : Int32) :
    Field.value (PropertyValue.num (number.getD n).toInt64) =
      (number.elim Field.missing fun n => .value (.num n.toInt64)).add (.num n.toInt64) := by
  cases number <;> rfl

theorem mapDatasetKeyForID_inj {keyID keyID' : DatasetKey} :
    mapDatasetKeyForID keyID = mapDatasetKeyForID keyID' ↔ keyID = keyID' := by
  refine ⟨fun h => ?_, congrArg _⟩
  have hidx : ∀ keyID, (mapDatasetKeyForID keyID).toNat = keyID.ctorIdx + 1 := by
    intro keyID
    cases keyID <;> rfl
  have heq := congrArg UInt32.toNat h
  rw [hidx, hidx, Nat.add_right_cancel_iff] at heq
  rw [← DatasetKey.ofNat_ctorIdx keyID, heq, DatasetKey.ofNat_ctorIdx]

/-- A property is added to the field of its key. -/
theorem ElementDescription.fields_addProperty (d : ElementDescription) (keyID : UInt32)
    (value : PropertyValue) : (d.addProperty (keyID, value)).fields = d.fields.map fun field =>
      (field.1, if keyID = mapDatasetKeyForID field.1 then field.2.add (sent field.1 value)
        else field.2) := by
  unfold addProperty
  split_ifs <;>
    simp_all [fields, mapDatasetKeyForID_inj, Field.map_add, number_add, sent]

/-- The fields are those that were there, and the first values of the other keys. -/
theorem ElementDescription.fields_foldl (attrProperty : List (UInt32 × PropertyValue))
    (d : ElementDescription) : (attrProperty.foldl addProperty d).fields =
      d.fields.map fun field => (field.1, field.2.orValue
        ((attrProperty.lookup (mapDatasetKeyForID field.1)).map (sent field.1))) := by
  induction attrProperty generalizing d with
  | nil => simp [Field.orValue]
  | cons property attrProperty ih =>
    obtain ⟨keyID, value⟩ := property
    rw [List.foldl_cons, ih, fields_addProperty, List.map_map]
    refine List.map_congr_left fun field _ => ?_
    simp only [Function.comp_apply, List.lookup_cons]
    by_cases h : keyID = mapDatasetKeyForID field.1
    · rw [if_pos h, Field.add_orValue, h, beq_self_eq_true]
      rfl
    · rw [if_neg h, beq_false_of_ne (Ne.symm h)]

theorem readFields_map (g : DatasetKey → Option PropertyValue) (keyIDs : List DatasetKey) :
    readFields (keyIDs.map fun keyID => (keyID, (g keyID).elim .missing .value)) =
      (keyIDs.filterMap fun keyID => (g keyID).map fun value => (keyID, value), true) := by
  induction keyIDs with
  | nil => rfl
  | cons keyID keyIDs ih =>
    rw [List.map_cons, List.filterMap_cons]
    cases g keyID <;> simp [readFields, ih]

/-- The reader finds the values that were sent, and no field of another type. -/
theorem readFields_fill (attrDecomposed : List Char)
    (attrProperty : List (UInt32 × PropertyValue)) :
    readFields (fillCDataWrapperDSAtribute attrDecomposed attrProperty).fields =
      (sentValues attrProperty, true) := by
  have hfields : (fillCDataWrapperDSAtribute attrDecomposed attrProperty).fields =
      attributeKeys.map fun keyID => (keyID, ((attrProperty.lookup
        (mapDatasetKeyForID keyID)).map (sent keyID)).elim .missing .value) := by
    unfold fillCDataWrapperDSAtribute
    rw [ElementDescription.fields_foldl]
    simp only [← Field.missing_orValue]
    rfl
  rw [hfields, readFields_map]
  simp [sentValues, Option.map_map, Function.comp_def]

end Pack

end CUSchemaDB

end chaos.common.data
