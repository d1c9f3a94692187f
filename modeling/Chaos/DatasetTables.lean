-- The rows of a database of datasets. An attribute has one property of a key at most, with a value
-- that can be sent, and only a device has other keys.
import Chaos.DatasetPack

namespace chaos.common.data

open chaos.edb cache

namespace CUSchemaDB

variable {s t u : CUSchemaDB} {w : World} {entity device e c : Entity} {keyID : DatasetKey}
  {value : PropertyValue} {d str : List Char} {memory : UInt64}

/-! ## The rows -/

/-- A value that is read as it was after it was sent. A maximum size is read as 32 bits. -/
def Sendable (keyID : DatasetKey) (value : PropertyValue) : Prop :=
  sent keyID value = value ∨ keyID = .VALUE_MAX_SIZE

def OfAttribute (row : PropertyRow) : Prop :=
  ∃ keyID ∈ attributeKeys, row.key_id = mapDatasetKeyForID keyID ∧ Sendable keyID row.value

def OfDevice (s : CUSchemaDB) (row : PropertyRow) : Prop :=
  (∃ d e, s.deviceEntityMap d = some e ∧ row.entity_id = bindInt e.entityID) ∧
    (row.key_id = mapDatasetKeyForID .TIMESTAMP ∨
      row.key_id = mapDatasetKeyForID .CS_DM_LD_SERVER_ADDRESS)

/-- What all calls keep. Of all keys only that of the servers has more than one property. -/
structure Tidy (s : CUSchemaDB) : Prop where
  once : s.property.Pairwise fun a b => a.entity_id = b.entity_id → a.key_id = b.key_id →
    a.key_id = mapDatasetKeyForID .CS_DM_LD_SERVER_ADDRESS
  rows : ∀ row ∈ s.property, s.OfDevice row ∨ OfAttribute row
  fit : ∀ row ∈ s.property, fits row.value.strValue = true
  devices : ∀ d e, s.deviceEntityMap d = some e → fits d = true
  group : s.entity_group.Nodup

/-- A call leaves the devices that were used in their places and the tables tidy. -/
structure Keeps (s t : CUSchemaDB) : Prop where
  kept : ∀ d e, s.deviceEntityMap d = some e → t.deviceEntityMap d = some e
  tidy : Tidy s → Tidy t

theorem Keeps.refl (s : CUSchemaDB) : Keeps s s := ⟨fun _ _ => id, id⟩

theorem Keeps.trans (h : Keeps s u) (h' : Keeps u t) : Keeps s t :=
  ⟨fun d e he => h'.kept d e (h.kept d e he), fun hs => h'.tidy (h.tidy hs)⟩

theorem OfDevice.mono (hkept : ∀ d e, s.deviceEntityMap d = some e → t.deviceEntityMap d = some e)
    {row : PropertyRow} (h : s.OfDevice row) : t.OfDevice row := by
  obtain ⟨⟨d, e, he, hid⟩, hkey⟩ := h
  exact ⟨⟨d, e, hkept d e he, hid⟩, hkey⟩

/-! ## Properties -/

theorem keeps_deleteProperty (s : CUSchemaDB) (i : UInt32) : Keeps s (s.deleteProperty i) where
  kept _ _ := id
  tidy hs := {
    once := hs.once.sublist List.filter_sublist
    rows := fun row hrow => hs.rows row (List.mem_filter.mp hrow).1
    fit := fun row hrow => hs.fit row (List.mem_filter.mp hrow).1
    devices := hs.devices
    group := hs.group }

theorem keeps_clear (s : CUSchemaDB) (entity : Entity) (keyID : DatasetKey) :
    Keeps s (s.clearAllAttributeForProperty entity keyID) := by
  unfold clearAllAttributeForProperty
  generalize s.getPropertyByKeyID entity [keyID] = rows
  induction rows generalizing s with
  | nil => exact Keeps.refl s
  | cons row rows ih => exact (keeps_deleteProperty s row.id).trans (ih _)

/-- The rows that are left when no value was equal are not those that were found. -/
theorem deleteUnequal_keeps (value : PropertyValue) (rows : List PropertyRow) (s : CUSchemaDB) :
    Keeps s (deleteUnequal value s rows).1 ∧ ((deleteUnequal value s rows).2 = false →
      ∀ row ∈ (deleteUnequal value s rows).1.property, row ∈ s.property ∧
        ∀ r ∈ rows, row.id ≠ r.id) := by
  induction rows generalizing s with
  | nil => exact ⟨Keeps.refl s, fun _ row hrow => ⟨hrow, nofun⟩⟩
  | cons r rows ih =>
    unfold deleteUnequal
    split_ifs
    · exact ⟨Keeps.refl s, nofun⟩
    · obtain ⟨hkeeps, hleft⟩ := ih (s.deleteProperty r.id)
      refine ⟨(keeps_deleteProperty s r.id).trans hkeeps, fun hfound row hrow => ?_⟩
      obtain ⟨hmem, hne⟩ := hleft hfound row hrow
      obtain ⟨hmem, hr⟩ := List.mem_filter.mp hmem
      exact ⟨hmem, List.forall_mem_cons.mpr ⟨of_decide_eq_true hr, hne⟩⟩

theorem mem_getProperty {row : PropertyRow} {keyIDs : List DatasetKey} :
    row ∈ s.getPropertyByKeyID entity keyIDs ↔ row ∈ s.property ∧
      row.entity_id = bindInt entity.entityID ∧
      row.key_id ∈ keyIDs.map mapDatasetKeyForID := by
  simp [getPropertyByKeyID, List.mem_filter]

/-- A new property is of a key that the entity has no property of, or is a server. -/
theorem keeps_addProperty (h : s.addProperty entity keyID value = some t)
    (hnew : ∀ row : PropertyRow, row.entity_id = bindInt entity.entityID →
      row.key_id = mapDatasetKeyForID keyID → row.value = value → s.OfDevice row ∨ OfAttribute row)
    (hnone : keyID = .CS_DM_LD_SERVER_ADDRESS ∨ s.getPropertyByKeyID entity [keyID] = []) :
    Keeps s t := by
  unfold addProperty at h
  split_ifs at h with hfit
  cases h
  unfold addNewPropertyForEntity
  dsimp only
  split_ifs
  · exact ⟨fun _ _ => id, fun hs => ⟨hs.once, hs.rows, hs.fit, hs.devices, hs.group⟩⟩
  refine ⟨fun _ _ => id, fun hs => ⟨?_, ?_, ?_, hs.devices, hs.group⟩⟩
  · refine List.pairwise_append.mpr ⟨hs.once, List.pairwise_singleton .., ?_⟩
    intro a ha b hb hid hkey
    cases List.mem_singleton.mp hb
    rcases hnone with rfl | hnone
    · exact hkey
    · have hmem : a ∈ s.getPropertyByKeyID entity [keyID] :=
        mem_getProperty.mpr ⟨ha, hid, List.mem_singleton.mpr hkey⟩
      rw [hnone] at hmem
      cases hmem
  · intro row hrow
    rcases List.mem_append.mp hrow with hrow | hrow
    · exact hs.rows row hrow
    · cases List.mem_singleton.mp hrow
      exact hnew _ rfl rfl rfl
  · intro row hrow
    rcases List.mem_append.mp hrow with hrow | hrow
    · exact hs.fit row hrow
    · cases List.mem_singleton.mp hrow
      exact hfit

theorem keeps_addUnique {check : Bool}
    (h : s.addUniqueAttributeProperty entity keyID value check = some t)
    (hnew : ∀ row : PropertyRow, row.entity_id = bindInt entity.entityID →
      row.key_id = mapDatasetKeyForID keyID → row.value = value →
      s.OfDevice row ∨ OfAttribute row) : Keeps s t := by
  unfold addUniqueAttributeProperty at h
  obtain ⟨hkeeps, hleft⟩ := deleteUnequal_keeps value
    (s.getPropertyByKeyID entity [keyID]) s
  cases check with
  | false =>
    simp only [Bool.false_eq_true, if_false] at h
    split_ifs at h with hfound
    · cases h
      exact Keeps.refl s
    · refine keeps_addProperty h hnew (.inr ?_)
      simpa using hfound
  | true =>
    simp only [if_true] at h
    split_ifs at h with hfound
    · cases h
      exact hkeeps
    · refine hkeeps.trans (keeps_addProperty h ?_ (.inr ?_))
      · exact fun row hid hkey hvalue =>
          (hnew row hid hkey hvalue).imp_left (OfDevice.mono hkeeps.kept)
      · -- a row that is left would be one of those that were deleted
        refine List.eq_nil_iff_forall_not_mem.mpr fun row hrow => ?_
        obtain ⟨hmem, hid, hkey⟩ := mem_getProperty.mp hrow
        obtain ⟨hmem, hne⟩ := hleft (by simpa using hfound) row hmem
        exact hne row (mem_getProperty.mpr ⟨hmem, hid, hkey⟩) rfl

/-- Properties of an attribute with values that can be sent. -/
theorem keeps_addUniques {values : List (DatasetKey × PropertyValue)}
    (h : addUniqueAttributeProperties entity s values = some t)
    (hvalues : ∀ v ∈ values, v.1 ∈ attributeKeys ∧ Sendable v.1 v.2) : Keeps s t := by
  induction values generalizing s with
  | nil =>
    cases h
    exact Keeps.refl _
  | cons v values ih =>
    obtain ⟨u, hu, h⟩ := Option.bind_eq_some_iff.mp h
    obtain ⟨hkey, hvalue⟩ := hvalues v List.mem_cons_self
    refine (keeps_addUnique hu ?_).trans
      (ih h fun v' hv' => hvalues v' (List.mem_cons_of_mem _ hv'))
    intro row _ hid hrow
    exact .inr ⟨v.1, hkey, hid, hrow ▸ hvalue⟩

/-! ## Entities -/

theorem getNewEntityInstance_same (h : s.getNewEntityInstance keyID memory str = some (t, e)) :
    t = { s with entityDB := t.entityDB } := by
  unfold getNewEntityInstance at h
  split at h
  · cases h
    rfl
  · cases h

theorem keeps_getNewEntity (h : s.getNewEntityInstance keyID memory str = some (t, e)) :
    Keeps s t := by
  rw [getNewEntityInstance_same h]
  exact ⟨fun _ _ => id, fun hs => ⟨hs.once, hs.rows, hs.fit, hs.devices, hs.group⟩⟩

theorem keeps_getChilds {ids : List UInt32} {childs : List Entity}
    (h : getChilds keyID memory s ids = some (t, childs)) : Keeps s t := by
  induction ids generalizing s t childs with
  | nil =>
    cases h
    exact Keeps.refl _
  | cons i ids ih =>
    simp only [getChilds, Option.bind_eq_bind, Option.bind_eq_some_iff] at h
    obtain ⟨row, -, str, -, ⟨u, child⟩, hu, ⟨v, rest⟩, hv, heq⟩ := h
    cases heq
    exact (keeps_getNewEntity hu).trans (ih hv)

theorem keeps_addChild (s : CUSchemaDB) (device c : Entity) : Keeps s (s.addChild device c) := by
  unfold addChild
  split_ifs with hmem
  · exact Keeps.refl s
  · refine ⟨fun _ _ => id, fun hs => ⟨hs.once, hs.rows, hs.fit, hs.devices, ?_⟩⟩
    refine List.nodup_append.mpr ⟨hs.group, by simp, ?_⟩
    intro a ha b hb heq
    exact hmem (List.mem_singleton.mp hb ▸ heq ▸ ha)

theorem keeps_getDatasetElement (h : s.getDatasetElement w device str = some (t, c)) :
    Keeps s t := by
  unfold getDatasetElement at h
  dsimp only at h
  split_ifs at h
  split at h
  · obtain ⟨⟨u, e⟩, hu, heq⟩ := Option.bind_eq_some_iff.mp h
    cases heq
    exact (keeps_getNewEntity hu).trans (keeps_addChild ..)
  · obtain ⟨⟨u, childs⟩, hu, h⟩ := Option.bind_eq_some_iff.mp h
    obtain ⟨child, -, heq⟩ := Option.bind_eq_some_iff.mp h
    cases heq
    exact keeps_getChilds hu

/-- A device takes a place that was free. -/
theorem keeps_useDevice (hnone : s.deviceEntityMap d = none) (hfit : fits d = true) (e : Entity) :
    Keeps s { s with deviceEntityMap := Function.update s.deviceEntityMap d (some e) } := by
  have hkept : ∀ d' e', s.deviceEntityMap d' = some e' →
      Function.update s.deviceEntityMap d (some e) d' = some e' := by
    intro d' e' he'
    rw [Function.update_of_ne, he']
    rintro rfl
    rw [hnone] at he'
    cases he'
  refine ⟨hkept, fun hs => ⟨hs.once, ?_, hs.fit, ?_, hs.group⟩⟩
  · intro row hrow
    exact (hs.rows row hrow).imp_left fun hdevice => OfDevice.mono hkept hdevice
  · intro d' e' he'
    rcases eq_or_ne d' d with rfl | hne
    · exact hfit
    · exact hs.devices d' e' ((Function.update_of_ne hne ..).symm.trans he')

theorem keeps_addDeviceId (h : s.addDeviceId w d = some t) : Keeps s t := by
  unfold addDeviceId at h
  split_ifs at h with hmap hfit
  · cases h
    exact Keeps.refl _
  obtain ⟨⟨u, e⟩, hu, h⟩ := Option.bind_eq_some_iff.mp h
  have hnone : u.deviceEntityMap d = none := by
    rw [getNewEntityInstance_same hu]
    simpa using hmap
  refine ((keeps_getNewEntity hu).trans (keeps_useDevice hnone hfit e)).trans (keeps_addUnique h ?_)
  intro row hid hkey _
  exact .inl ⟨⟨d, e, Function.update_self .., hid⟩, .inl hkey⟩

theorem keeps_getDeviceEntity (h : s.getDeviceEntity w d = some (t, e)) :
    Keeps s t ∧ t.deviceEntityMap d = some e := by
  obtain ⟨u, hu, h⟩ := Option.bind_eq_some_iff.mp h
  obtain ⟨e', he', heq⟩ := Option.bind_eq_some_iff.mp h
  cases heq
  exact ⟨keeps_addDeviceId hu, he'⟩

/-! ## The operations -/

theorem sendable_type (type : DataType) : Sendable .ATTRIBUTE_TYPE (.num (typeNumber type)) := by
  cases type <;> exact .inl rfl

theorem sendable_direction (dir : DataSetAttributeIOAttribute) :
    Sendable .ATTRIBUTE_DIRECTION (.num (directionNumber dir)) := by
  cases dir <;> exact .inl rfl

theorem keeps_addAttributeToDataSet {n description : List Char} {type : DataType}
    {dir : DataSetAttributeIOAttribute} {size : UInt32}
    (h : s.addAttributeToDataSet w d n description type dir size = some (.ok t)) : Keeps s t := by
  unfold addAttributeToDataSet at h
  split at h
  · cases h
  obtain ⟨⟨u, e⟩, hu, h⟩ := Option.bind_eq_some_iff.mp h
  dsimp only at h
  split_ifs at h
  obtain ⟨⟨v, c⟩, hv, h⟩ := Option.bind_eq_some_iff.mp h
  obtain ⟨x, hx, heq⟩ := Option.bind_eq_some_iff.mp h
  have hall : Keeps s x := by
    refine ((keeps_getDeviceEntity hu).1.trans (keeps_getNewEntity hv)).trans
      (keeps_addUniques hx ?_)
    simp only [List.forall_mem_cons, List.not_mem_nil, false_implies, implies_true, and_true]
    exact ⟨⟨by decide, .inl rfl⟩, ⟨by decide, sendable_type type⟩,
      ⟨by decide, sendable_direction dir⟩, by decide, .inr rfl⟩
  split_ifs at heq
  all_goals cases heq
  · exact hall
  · exact hall.trans (keeps_addChild ..)

theorem keeps_setRange {n : List Char} {rangeInfo : RangeValueInfo}
    (h : s.setDeviceAttributeRangeValueInfo w d n rangeInfo = some t) : Keeps s t := by
  obtain ⟨⟨u, e⟩, hu, h⟩ := Option.bind_eq_some_iff.mp h
  obtain ⟨⟨v, c⟩, hv, h⟩ := Option.bind_eq_some_iff.mp h
  refine ((keeps_getDeviceEntity hu).1.trans (keeps_getDatasetElement hv)).trans
    (keeps_addUniques h ?_)
  simp only [List.forall_mem_cons, List.not_mem_nil, false_implies, implies_true, and_true]
  exact ⟨⟨by decide, .inl rfl⟩, ⟨by decide, .inl rfl⟩, by decide, .inl rfl⟩

theorem mem_readFields {v : DatasetKey × PropertyValue}
    {fields : List (DatasetKey × Field PropertyValue)} (h : v ∈ (readFields fields).1) :
    (v.1, Field.value v.2) ∈ fields := by
  induction fields with
  | nil => cases h
  | cons field fields ih =>
    obtain ⟨keyID, value⟩ := field
    cases value with
    | missing => exact List.mem_cons_of_mem _ (ih h)
    | mistyped => cases h
    | value value =>
      rcases List.mem_cons.mp h with rfl | h
      · exact List.mem_cons_self
      · exact List.mem_cons_of_mem _ (ih h)

theorem map_eq_value {α β : Type} {f : α → β} {field : Field α} {b : β}
    (h : field.map f = .value b) : ∃ a, b = f a := by
  cases field <;> cases h
  exact ⟨_, rfl⟩

theorem elim_eq_value {α : Type} {f : Int32 → α} {number : Option Int32} {a : α}
    (h : number.elim .missing (fun n => Field.value (f n)) = .value a) : ∃ n, a = f n := by
  cases number <;> cases h
  exact ⟨_, rfl⟩

/-- What the fields of an element give are values of their keys that can be sent. -/
theorem sendable_readFields (element : ElementDescription) :
    ∀ v ∈ (readFields element.fields).1, v.1 ∈ attributeKeys ∧ Sendable v.1 v.2 := by
  rintro ⟨keyID, value⟩ hv
  have hmem := mem_readFields hv
  simp only [ElementDescription.fields, List.mem_cons, Prod.mk.injEq, List.not_mem_nil,
    or_false] at hmem
  rcases hmem with ⟨rfl, h⟩ | ⟨rfl, h⟩ | ⟨rfl, h⟩ | ⟨rfl, h⟩ | ⟨rfl, h⟩ | ⟨rfl, h⟩ | ⟨rfl, h⟩
  case inr.inl | inr.inr.inl =>
    obtain ⟨n, rfl⟩ := elim_eq_value h.symm
    exact ⟨by simp [attributeKeys], .inl (by simp [sent, PropertyValue.numValue])⟩
  case inr.inr.inr.inr.inr.inr => exact ⟨by simp [attributeKeys], .inr rfl⟩
  all_goals
    obtain ⟨str, rfl⟩ := map_eq_value h.symm
    exact ⟨by simp [attributeKeys], .inl rfl⟩

theorem keeps_addElements {elements : List (Option ElementDescription)} {went : Bool}
    (h : addElements w device s elements = some (t, went)) : Keeps s t := by
  induction elements generalizing s with
  | nil =>
    cases h
    exact Keeps.refl _
  | cons element elements ih =>
    cases element with
    | none =>
      cases h
      exact Keeps.refl _
    | some element =>
      unfold addElements at h
      split at h
      · exact ih h
      · cases h
        exact Keeps.refl _
      · obtain ⟨⟨u, c⟩, hu, h⟩ := Option.bind_eq_some_iff.mp h
        obtain ⟨v, hv, h⟩ := Option.bind_eq_some_iff.mp h
        have hone := (keeps_getDatasetElement hu).trans
          (keeps_addUniques hv (sendable_readFields element))
        split_ifs at h
        · exact hone.trans (ih h)
        · cases h
          exact hone

theorem keeps_addServers {serverVec : List (Option (List Char))}
    (h : addServers device s serverVec = some t) (he : s.deviceEntityMap d = some device) :
    Keeps s t := by
  induction serverVec generalizing s with
  | nil =>
    cases h
    exact Keeps.refl _
  | cons address serverVec ih =>
    cases address with
    | none =>
      cases h
      exact Keeps.refl _
    | some address =>
      obtain ⟨u, hu, h⟩ := Option.bind_eq_some_iff.mp h
      have hone := keeps_addProperty hu
        (fun row hid hkey _ => .inl ⟨⟨d, device, he, hid⟩, .inr hkey⟩) (.inl rfl)
      exact hone.trans (ih h (hone.kept _ _ he))

theorem keeps_addDescription {elements : Field (List (Option ElementDescription))} {went : Bool}
    (h : s.addDescription w device elements = some (t, went)) : Keeps s t := by
  cases elements with
  | missing | mistyped =>
    cases h
    exact Keeps.refl _
  | value elements => exact keeps_addElements h

theorem keeps_setServers {servers : Field (List (Option (List Char)))}
    (h : s.setServers device servers = some t) (he : s.deviceEntityMap d = some device) :
    Keeps s t := by
  have hclear := keeps_clear s device .CS_DM_LD_SERVER_ADDRESS
  cases servers with
  | missing =>
    cases h
    exact Keeps.refl _
  | mistyped =>
    cases h
    exact hclear
  | value serverVec => exact hclear.trans (keeps_addServers h (hclear.kept _ _ he))

theorem keeps_addPack {pack : AttributeDataWrapper}
    (h : s.addAttributeToDataSetFromDataWrapper w pack = some t) : Keeps s t := by
  unfold addAttributeToDataSetFromDataWrapper at h
  split at h
  · cases h
    exact Keeps.refl _
  · cases h
    exact Keeps.refl _
  · obtain ⟨⟨u, e⟩, hu, h⟩ := Option.bind_eq_some_iff.mp h
    obtain ⟨⟨v, went⟩, hv, h⟩ := Option.bind_eq_some_iff.mp h
    obtain ⟨hdevice, he⟩ := keeps_getDeviceEntity hu
    have hdescription := keeps_addDescription hv
    have hall := hdevice.trans hdescription
    dsimp only at h
    split_ifs at h
    · exact hall.trans (keeps_setServers h (hdescription.kept _ _ he))
    · cases h
      exact hall

theorem step_keeps {a : Label} (h : s.step a = some t) : Keeps s t := by
  cases a with
  | addAttributeToDataSet w d n description type dir size =>
    obtain ⟨result, hr, heq⟩ := Option.bind_eq_some_iff.mp h
    cases result with
    | error ex =>
      cases heq
      exact Keeps.refl _
    | ok u =>
      cases heq
      exact keeps_addAttributeToDataSet hr
  | addAttributeToDataSetFromDataWrapper w pack => exact keeps_addPack h
  | setDeviceAttributeRangeValueInfo w d n rangeInfo => exact keeps_setRange h

/-! ## The calls -/

/-- The attribute of a question, which is added with its device when there is none. -/
def attributeOf (s : CUSchemaDB) (w : World) (d n : List Char) : Option (CUSchemaDB × Entity) := do
  let (s, deviceEntity) ← s.getDeviceEntity w d
  s.getDatasetElement w deviceEntity n

theorem attributeDescription_eq {n : List Char} (old : List Char) : s.getDeviceAttributeDescription w d n old =
    (s.attributeOf w d n).map fun r =>
      (r.1, (r.1.getPropertyByKeyID r.2 [.ATTRIBUTE_DESCRIPTION]).head?.elim old
        fun row => row.value.strValue) := by
  simp only [getDeviceAttributeDescription, attributeOf, Option.bind_eq_bind, Option.map_bind,
    Function.comp_def]
  refine Option.bind_congr fun r _ => ?_
  cases r.1.getDatasetElement w r.2 n with
  | none => rfl
  | some r =>
    simp only [Option.bind_some, Option.map_some]
    cases r.1.getPropertyByKeyID r.2 [.ATTRIBUTE_DESCRIPTION] <;> rfl

theorem attributeDirection_eq {n : List Char} : s.getDeviceAttributeDirection w d n =
    (s.attributeOf w d n).map fun r =>
      (r.1, (r.1.getPropertyByKeyID r.2 [.ATTRIBUTE_DIRECTION]).head?.map
        fun row => row.value.numValue) := by
  simp only [getDeviceAttributeDirection, attributeOf, Option.bind_eq_bind, Option.map_bind,
    Function.comp_def]
  refine Option.bind_congr fun r _ => ?_
  cases r.1.getDatasetElement w r.2 n with
  | none => rfl
  | some r =>
    simp only [Option.bind_some, Option.map_some]
    cases r.1.getPropertyByKeyID r.2 [.ATTRIBUTE_DIRECTION] <;> rfl

theorem keeps_attributeOf {n : List Char} (h : s.attributeOf w d n = some (t, c)) : Keeps s t := by
  obtain ⟨⟨u, e⟩, hu, h⟩ := Option.bind_eq_some_iff.mp h
  exact (keeps_getDeviceEntity hu).1.trans (keeps_getDatasetElement h)

theorem keeps_description {n old r : List Char}
    (h : s.getDeviceAttributeDescription w d n old = some (t, r)) : Keeps s t := by
  rw [attributeDescription_eq] at h
  obtain ⟨⟨u, c⟩, hu, heq⟩ := Option.map_eq_some_iff.mp h
  cases heq
  exact keeps_attributeOf hu

theorem keeps_direction {n : List Char} {r : Option Int64}
    (h : s.getDeviceAttributeDirection w d n = some (t, r)) : Keeps s t := by
  rw [attributeDirection_eq] at h
  obtain ⟨⟨u, c⟩, hu, heq⟩ := Option.map_eq_some_iff.mp h
  cases heq
  exact keeps_attributeOf hu

theorem keeps_range {n : List Char} {old : RangeValueInfo} {r : RangeValueInfo × Bool}
    (h : s.getDeviceAttributeRangeValueInfo w d n old = some (t, r)) : Keeps s t := by
  unfold getDeviceAttributeRangeValueInfo at h
  dsimp only at h
  split_ifs at h
  obtain ⟨⟨u, e⟩, hu, h⟩ := Option.bind_eq_some_iff.mp h
  obtain ⟨⟨v, childs⟩, hv, h⟩ := Option.bind_eq_some_iff.mp h
  have hall := (keeps_getDeviceEntity hu).1.trans (keeps_getChilds hv)
  cases childs with
  | nil =>
    cases h
    exact hall
  | cons child childs =>
    dsimp only at h
    split at h
    all_goals
      cases h
      exact hall

theorem keeps_fill {r : Option DatasetDescription}
    (h : s.fillDataWrapperWithDataSetDescription w d = some (t, r)) : Keeps s t := by
  unfold fillDataWrapperWithDataSetDescription at h
  split at h
  · cases h
    exact Keeps.refl _
  · obtain ⟨⟨u, childs⟩, hu, h⟩ := Option.bind_eq_some_iff.mp h
    dsimp only at h
    split_ifs at h
    cases h
    exact keeps_getChilds hu

/-- Every call keeps the tables tidy. -/
theorem call_keeps {a : Call} (h : s.call a = some t) : Keeps s t := by
  cases a with
  | change a => exact step_keeps h
  | addDeviceId w d => exact keeps_addDeviceId h
  | getDeviceAttributeDescription w d n =>
    obtain ⟨⟨u, r⟩, hu, rfl⟩ := Option.map_eq_some_iff.mp h
    exact keeps_description hu
  | getDeviceAttributeDirection w d n =>
    obtain ⟨⟨u, r⟩, hu, rfl⟩ := Option.map_eq_some_iff.mp h
    exact keeps_direction hu
  | getDeviceAttributeRangeValueInfo w d n =>
    obtain ⟨⟨u, r⟩, hu, rfl⟩ := Option.map_eq_some_iff.mp h
    exact keeps_range hu
  | fillDataWrapperWithDataSetDescription w d =>
    obtain ⟨⟨u, r⟩, hu, rfl⟩ := Option.map_eq_some_iff.mp h
    exact keeps_fill hu

theorem tidy_new : Tidy {} where
  once := List.Pairwise.nil
  rows := nofun
  fit := nofun
  devices := nofun
  group := List.nodup_nil

end CUSchemaDB

end chaos.common.data
