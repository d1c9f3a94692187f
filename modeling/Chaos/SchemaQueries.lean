-- The questions that list the devices and their attributes, and the runs of all calls with them. A
-- question uses the lookups of the writers, which add what they do not find.
import Chaos.SchemaWrites

namespace chaos.common.data

open runs chaos.edb

namespace CUSchemaDB

/-! ## The listings -/

variable (s : CUSchemaDB) (w : World)

def deviceIsPresent (deviceID : List Char) : Bool := (s.deviceEntityMap deviceID).isSome

/-- The names that `getAllDeviceId` adds, which are the keys of the map in its order. -/
structure AllDeviceId (deviceNames : List (List Char)) : Prop where
  ordered : deviceNames.Pairwise (List.Lex fun a b => a < b)
  keys : ∀ deviceID, deviceID ∈ deviceNames ↔ s.deviceIsPresent deviceID = true

/-- The children with a property that has this number. -/
def searchEntityByParentAndPropertyIDAndKeyValue (parentID : UInt32) (keyID : DatasetKey)
    (numValue : Int64) : List UInt32 :=
  s.childIDS parentID fun row => s.property.any fun property =>
    property.key_id = mapDatasetKeyForID keyID && property.value = .num numValue &&
      property.entity_id = bindInt row.id

def getDeviceDatasetAttributesName (deviceID : List Char) :
    Option (CUSchemaDB × List (List Char)) := do
  let (s, deviceEntity) ← s.getDeviceEntity w deviceID
  let (s, attrDst) ← getChilds .ATTRIBUTE_DIRECTION w.memory s
    (s.searchEntityByParentIDAndKeyID deviceEntity.entityID .ATTRIBUTE_DIRECTION)
  return (s, attrDst.map Entity.strValue)

/-- The attributes of a direction. For a name that is not longer than that of the device `substr`
throws, and there is no list. -/
def getDeviceDatasetAttributesNameOf (deviceID : List Char)
    (directionType : DataSetAttributeIOAttribute) :
    Option (CUSchemaDB × Option (List (List Char))) := do
  let (s, deviceEntity) ← s.getDeviceEntity w deviceID
  let (s, entityVec) ← getChilds .ATTRIBUTE_NAME w.memory s
    (s.searchEntityByParentAndPropertyIDAndKeyValue deviceEntity.entityID .ATTRIBUTE_DIRECTION
      (directionNumber directionType))
  if entityVec.all fun e => deviceID.length < e.strValue.length then
    return (s, some (entityVec.map fun e => e.strValue.drop (deviceID.length + 1)))
  else return (s, none)

/-! ## The accesses -/

/-- The calls, with the listings, which may add what they do not find too. -/
inductive Access where
  | call (a : Call)
  | getDeviceDatasetAttributesName (w : World) (deviceID : List Char)
  | getDeviceDatasetAttributesNameOf (w : World) (deviceID : List Char)
      (directionType : DataSetAttributeIOAttribute)

def access (s : CUSchemaDB) : Access → Option CUSchemaDB
  | .call a => s.call a
  | .getDeviceDatasetAttributesName w deviceID =>
    (s.getDeviceDatasetAttributesName w deviceID).map Prod.fst
  | .getDeviceDatasetAttributesNameOf w deviceID directionType =>
    (s.getDeviceDatasetAttributesNameOf w deviceID directionType).map Prod.fst

/-! ## The questions -/

variable {s w} {t : CUSchemaDB} {c device : Entity} {d n : List Char}

theorem getDeviceEntity_present (he : s.deviceEntityMap d = some device) :
    s.getDeviceEntity w d = some (s, device) := by
  simp [getDeviceEntity, addDeviceId, he]

/-- No entity has the key of the directions, which is that of a property. -/
theorem attributesName_eq (hs : Rooted s) : s.getDeviceDatasetAttributesName w d =
    (s.getDeviceEntity w d).map fun r => (r.1, []) := by
  unfold getDeviceDatasetAttributesName
  cases hu : s.getDeviceEntity w d with
  | none => rfl
  | some r =>
    obtain ⟨u, e⟩ := r
    have hkeys := (hs.writes (writes_getDeviceEntity hs hu).1).keys
    have hnone : u.searchEntityByParentIDAndKeyID e.entityID .ATTRIBUTE_DIRECTION = [] := by
      rw [List.eq_nil_iff_forall_not_mem]
      intro y hy
      obtain ⟨-, row, hrow, -, hkey⟩ := mem_childIDS.mp hy
      rw [decide_eq_true_eq] at hkey
      rcases hkeys row hrow with h | h
      · exact absurd (hkey.symm.trans h) (by decide)
      · exact absurd (hkey.symm.trans h) (by decide)
    simp [hnone, getChilds]

theorem attributesNameOf_eq (he : s.deviceEntityMap d = some device)
    (dir : DataSetAttributeIOAttribute) : s.getDeviceDatasetAttributesNameOf w d dir =
      (getChilds .ATTRIBUTE_NAME w.memory s (s.searchEntityByParentAndPropertyIDAndKeyValue
        device.entityID .ATTRIBUTE_DIRECTION (directionNumber dir))).map fun r => (r.1,
          if r.2.all fun c => d.length < c.strValue.length then
            some (r.2.map fun c => c.strValue.drop (d.length + 1))
          else none) := by
  unfold getDeviceDatasetAttributesNameOf
  rw [getDeviceEntity_present he]
  simp only [Option.bind_eq_bind, Option.bind_some, Option.map_eq_bind]
  refine Option.bind_congr fun r _ => ?_
  dsimp only [Function.comp_apply]
  split_ifs <;> rfl

/-! ## What holds of the runs -/

/-- A lookup of a question. -/
inductive Lookup : CUSchemaDB → CUSchemaDB → Prop
  | device {s t : CUSchemaDB} {w : World} {d : List Char} {e : Entity}
      (h : s.getDeviceEntity w d = some (t, e)) : Lookup s t
  | element {s t : CUSchemaDB} {w : World} {device c : Entity} {n : List Char}
      (h : s.getDatasetElement w device n = some (t, c)) : Lookup s t
  | childs {s t : CUSchemaDB} {memory : UInt64} {ids : List UInt32} {childs : List Entity}
      (h : getChilds .ATTRIBUTE_NAME memory s ids = some (t, childs)) : Lookup s t

theorem Lookup.keeps (h : Lookup s t) (hs : Good s ∧ Rooted s) : Good t ∧ Rooted t := by
  cases h with
  | device h =>
    exact ⟨(device_effect hs.1 h).2.2.good, hs.2.writes (writes_getDeviceEntity hs.2 h).1⟩
  | element h =>
    exact ⟨(datasetElement_effect hs.1 h).2.1.good, hs.2.writes (writes_getDatasetElement h).1⟩
  | childs h => exact ⟨(childs_effect hs.1 h).1.good, hs.2.writes (writes_getChilds h).1⟩

abbrev Lookups := Relation.ReflTransGen Lookup

theorem keeps_lookups (h : Lookups s t) : Keeps s t := by
  induction h with
  | refl => exact Keeps.refl s
  | tail _ hlookup ih =>
    cases hlookup with
    | device h => exact ih.trans (keeps_getDeviceEntity h).1
    | element h => exact ih.trans (keeps_getDatasetElement h)
    | childs h => exact ih.trans (keeps_getChilds h)

/-- A question looks up the device first, which is there after it. -/
def AsksDevice (s : CUSchemaDB) (w : World) (d : List Char) (t : CUSchemaDB) : Prop :=
  ∃ u device, s.getDeviceEntity w d = some (u, device) ∧ Lookups u t

theorem AsksDevice.lookups (h : AsksDevice s w d t) : Lookups s t := by
  obtain ⟨u, device, hu, hlookups⟩ := h
  exact .head (.device hu) hlookups

theorem AsksDevice.present (h : AsksDevice s w d t) : t.deviceIsPresent d = true := by
  obtain ⟨u, device, hu, hlookups⟩ := h
  have he := (keeps_lookups hlookups).kept d device (keeps_getDeviceEntity hu).2
  simp [deviceIsPresent, he]

theorem asksDevice_attributeOf (h : s.attributeOf w d n = some (t, c)) : AsksDevice s w d t := by
  obtain ⟨⟨u, device⟩, hu, h⟩ := Option.bind_eq_some_iff.mp h
  exact ⟨u, device, hu, .single (.element h)⟩

theorem asksDevice_description {old r : List Char}
    (h : s.getDeviceAttributeDescription w d n old = some (t, r)) : AsksDevice s w d t := by
  rw [attributeDescription_eq] at h
  obtain ⟨⟨v, c⟩, hv, heq⟩ := Option.map_eq_some_iff.mp h
  cases heq
  exact asksDevice_attributeOf hv

theorem asksDevice_direction {r : Option Int64}
    (h : s.getDeviceAttributeDirection w d n = some (t, r)) : AsksDevice s w d t := by
  rw [attributeDirection_eq] at h
  obtain ⟨⟨v, c⟩, hv, heq⟩ := Option.map_eq_some_iff.mp h
  cases heq
  exact asksDevice_attributeOf hv

theorem asksDevice_range {old : RangeValueInfo} {r : RangeValueInfo × Bool}
    (h : s.getDeviceAttributeRangeValueInfo w d n old = some (t, r)) : AsksDevice s w d t := by
  unfold getDeviceAttributeRangeValueInfo at h
  dsimp only at h
  split_ifs at h
  obtain ⟨⟨u, device⟩, hu, h⟩ := Option.bind_eq_some_iff.mp h
  obtain ⟨⟨v, childs⟩, hv, h⟩ := Option.bind_eq_some_iff.mp h
  have hall : AsksDevice s w d v := ⟨u, device, hu, .single (.childs hv)⟩
  cases childs with
  | nil =>
    cases h
    exact hall
  | cons c childs =>
    dsimp only at h
    split at h
    all_goals
      cases h
      exact hall

theorem lookups_fill {r : Option DatasetDescription}
    (h : s.fillDataWrapperWithDataSetDescription w d = some (t, r)) : Lookups s t := by
  unfold fillDataWrapperWithDataSetDescription at h
  split at h
  · cases h
    exact .refl
  · obtain ⟨⟨u, childs⟩, hu, h⟩ := Option.bind_eq_some_iff.mp h
    dsimp only at h
    split_ifs at h
    cases h
    exact .single (.childs hu)

theorem asksDevice_attributesName (hs : Rooted s) {r : List (List Char)}
    (h : s.getDeviceDatasetAttributesName w d = some (t, r)) : AsksDevice s w d t := by
  rw [attributesName_eq hs] at h
  obtain ⟨⟨v, device⟩, hv, heq⟩ := Option.map_eq_some_iff.mp h
  cases heq
  exact ⟨v, device, hv, .refl⟩

theorem asksDevice_attributesNameOf {dir : DataSetAttributeIOAttribute}
    {r : Option (List (List Char))}
    (h : s.getDeviceDatasetAttributesNameOf w d dir = some (t, r)) : AsksDevice s w d t := by
  obtain ⟨⟨u, device⟩, hu, h⟩ := Option.bind_eq_some_iff.mp h
  obtain ⟨⟨v, childs⟩, hv, h⟩ := Option.bind_eq_some_iff.mp h
  dsimp only at h
  split_ifs at h
  all_goals
    cases h
    exact ⟨u, device, hu, .single (.childs hv)⟩

theorem device_of_addDeviceId (h : s.addDeviceId w d = some t) :
    ∃ e, s.getDeviceEntity w d = some (t, e) := by
  suffices hmap : ∃ e, t.deviceEntityMap d = some e by
    obtain ⟨e, he⟩ := hmap
    exact ⟨e, by simp [getDeviceEntity, h, he]⟩
  unfold addDeviceId at h
  split_ifs at h with hmap hfit
  · cases h
    exact Option.isSome_iff_exists.mp hmap
  obtain ⟨⟨u, e⟩, hu, h⟩ := Option.bind_eq_some_iff.mp h
  refine ⟨e, (keeps_addUnique h ?_).kept d e (Function.update_self ..)⟩
  intro row hid hkey _
  exact .inl ⟨⟨d, e, Function.update_self .., hid⟩, .inl hkey⟩

/-- An access is a change, or it only looks up what it needs. -/
theorem access_cases (hs : Rooted s) {a : Access} (h : s.access a = some t) :
    (∃ b, s.step b = some t) ∨ Lookups s t := by
  cases a with
  | call a =>
    cases a with
    | change b => exact .inl ⟨b, h⟩
    | addDeviceId w d =>
      obtain ⟨e, he⟩ := device_of_addDeviceId h
      exact .inr (.single (.device he))
    | getDeviceAttributeDescription w d n =>
      obtain ⟨⟨u, r⟩, hu, rfl⟩ := Option.map_eq_some_iff.mp h
      exact .inr (asksDevice_description hu).lookups
    | getDeviceAttributeDirection w d n =>
      obtain ⟨⟨u, r⟩, hu, rfl⟩ := Option.map_eq_some_iff.mp h
      exact .inr (asksDevice_direction hu).lookups
    | getDeviceAttributeRangeValueInfo w d n =>
      obtain ⟨⟨u, r⟩, hu, rfl⟩ := Option.map_eq_some_iff.mp h
      exact .inr (asksDevice_range hu).lookups
    | fillDataWrapperWithDataSetDescription w d =>
      obtain ⟨⟨u, r⟩, hu, rfl⟩ := Option.map_eq_some_iff.mp h
      exact .inr (lookups_fill hu)
  | getDeviceDatasetAttributesName w d =>
    obtain ⟨⟨u, r⟩, hu, rfl⟩ := Option.map_eq_some_iff.mp h
    exact .inr (asksDevice_attributesName hs hu).lookups
  | getDeviceDatasetAttributesNameOf w d dir =>
    obtain ⟨⟨u, r⟩, hu, rfl⟩ := Option.map_eq_some_iff.mp h
    exact .inr (asksDevice_attributesNameOf hu).lookups

theorem access_keeps {a : Access} (hs : Good s ∧ Rooted s) (h : s.access a = some t) :
    Good t ∧ Rooted t := by
  rcases access_cases hs.2 h with ⟨b, hb⟩ | hlookups
  · exact ⟨(step_effect hs.1 hb).2.1, hs.2.writes (writes_step hs.2 hb)⟩
  · clear h
    induction hlookups with
    | refl => exact hs
    | tail _ hlookup ih => exact hlookup.keeps ih

theorem rooted_new : Rooted {} where
  ids := nofun
  keys := nofun
  children := nofun
  devices := nofun
  properties := nofun

theorem good_of_accesses {as : List Access} (hr : run access {} as = some s) : Good s ∧ Rooted s :=
  run_keeps (fun s => Good s ∧ Rooted s) (fun _ _ _ hs h => access_keeps hs h)
    ⟨good_new, rooted_new⟩ hr

end CUSchemaDB

end chaos.common.data
