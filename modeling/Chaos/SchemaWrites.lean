-- What the calls on the datasets write in the tables, one row at a time, and the invariant of all
-- writes.
import Mathlib.Logic.Relation
import Chaos.UniqueProperties

namespace chaos.common.data

open chaos.edb

namespace CUSchemaDB

/-! ## The writes -/

def HasRow (s : CUSchemaDB) (k : UInt32) : Prop := ∃ row ∈ s.entityDB.entity, row.id = k

def IsAttributeID (s : CUSchemaDB) (k : UInt32) : Prop :=
  ∃ row ∈ s.entityDB.entity, row.id = k ∧ row.key_id = bindInt (mapDatasetKeyForID .ATTRIBUTE_NAME)

/-- What a call does to the tables, one row at a time. -/
inductive Write : CUSchemaDB → CUSchemaDB → Prop
  | row {s : CUSchemaDB} {keyID : DatasetKey} {str : List Char}
      (key : keyID = .DEVICE_ID ∨ keyID = .ATTRIBUTE_NAME) (free : ¬ s.HasRow s.entityDB.nextID) :
      Write s (s.addRow keyID str)
  | device {s : CUSchemaDB} {d : List Char} {e : Entity} (row : s.HasRow e.entityID) :
      Write s (s.useDevice d e)
  | child {s : CUSchemaDB} (device : Entity) {c : Entity} (row : s.IsAttributeID c.entityID) :
      Write s (s.addChild device c)
  | deleted {s : CUSchemaDB} (propertyID : UInt32) : Write s (s.deleteProperty propertyID)
  | property {s : CUSchemaDB} {k : UInt32} (keyID : DatasetKey) (value : PropertyValue)
      (row : s.HasRow k) : Write s (s.addNewPropertyForEntity k keyID value)

abbrev Writes := Relation.ReflTransGen Write

/-- What all writes keep: the ids of the entities are their own, an entity is a device or an
attribute, children are attributes, and devices and properties are those of entities. -/
structure Rooted (s : CUSchemaDB) : Prop where
  ids : ∀ row ∈ s.entityDB.entity, ∀ row' ∈ s.entityDB.entity, row.id = row'.id → row = row'
  keys : ∀ row ∈ s.entityDB.entity, row.key_id = bindInt (mapDatasetKeyForID .DEVICE_ID) ∨
    row.key_id = bindInt (mapDatasetKeyForID .ATTRIBUTE_NAME)
  children : ∀ g ∈ s.entity_group, s.IsAttributeID g.2
  devices : ∀ d e, s.deviceEntityMap d = some e → s.HasRow e.entityID
  properties : ∀ row ∈ s.property, ∃ k, s.HasRow k ∧ row.entity_id = bindInt k

variable {s t u : CUSchemaDB} {w : World} {e c device : Entity} {keyID : DatasetKey}
  {memory : UInt64} {d n str : List Char} {k : UInt32} {value : PropertyValue}

theorem IsAttributeID.hasRow (h : s.IsAttributeID k) : s.HasRow k := by
  obtain ⟨row, hrow, hid, -⟩ := h
  exact ⟨row, hrow, hid⟩

theorem Write.entities (h : Write s t) :
    t.entityDB = s.entityDB ∨ ∃ keyID str, t = s.addRow keyID str := by
  cases h with
  | row key free => exact .inr ⟨_, _, rfl⟩
  | device row => exact .inl rfl
  | child device =>
    rw [addChild_same]
    exact .inl rfl
  | deleted propertyID => exact .inl rfl
  | property keyID value row =>
    rw [(setOn_addNewProperty s).same]
    exact .inl rfl

theorem Write.rows (h : Write s t) : ∀ row ∈ s.entityDB.entity, row ∈ t.entityDB.entity := by
  intro row hrow
  rcases h.entities with heq | ⟨keyID, str, rfl⟩
  · rwa [heq]
  · exact mem_addRow.mpr (.inl hrow)

theorem writes_rows (h : Writes s t) : ∀ row ∈ s.entityDB.entity, row ∈ t.entityDB.entity := by
  induction h with
  | refl => exact fun _ => id
  | tail _ hwrite ih => exact fun row hrow => hwrite.rows row (ih row hrow)

theorem HasRow.writes (hk : s.HasRow k) (h : Writes s t) : t.HasRow k := by
  obtain ⟨row, hrow, hid⟩ := hk
  exact ⟨row, writes_rows h row hrow, hid⟩

theorem IsAttributeID.writes (hk : s.IsAttributeID k) (h : Writes s t) : t.IsAttributeID k := by
  obtain ⟨row, hrow, hid, hkey⟩ := hk
  exact ⟨row, writes_rows h row hrow, hid, hkey⟩

theorem Rooted.write (hs : Rooted s) (h : Write s t) : Rooted t := by
  have hrow : ∀ {k}, s.HasRow k → t.HasRow k := fun hk => hk.writes (.single h)
  have hattribute : ∀ {k}, s.IsAttributeID k → t.IsAttributeID k := fun hk => hk.writes (.single h)
  cases h with
  | @row keyID str key free =>
    refine ⟨?_, ?_, fun g hg => hattribute (hs.children g hg),
      fun d e he => hrow (hs.devices d e he), fun row hmem => ?_⟩
    · intro row hmem row' hmem' hid
      rcases mem_addRow.mp hmem with hmem | rfl <;> rcases mem_addRow.mp hmem' with hmem' | rfl
      · exact hs.ids row hmem row' hmem' hid
      · exact absurd ⟨row, hmem, hid⟩ free
      · exact absurd ⟨row', hmem', hid.symm⟩ free
      · rfl
    · intro row hmem
      rcases mem_addRow.mp hmem with hmem | rfl
      · exact hs.keys row hmem
      · rcases key with rfl | rfl
        · exact .inl rfl
        · exact .inr rfl
    · obtain ⟨k, hk, heq⟩ := hs.properties row hmem
      exact ⟨k, hrow hk, heq⟩
  | @device d e row =>
    refine ⟨hs.ids, hs.keys, hs.children, fun d' e' he' => ?_, hs.properties⟩
    rcases eq_or_ne d' d with rfl | hne
    · cases (useDevice_map d' e).symm.trans he'
      exact row
    · exact hs.devices d' e' ((Function.update_of_ne hne ..).symm.trans he')
  | @child device c row =>
    have hchildren : ∀ g ∈ (s.addChild device c).entity_group, s.IsAttributeID g.2 := by
      unfold addChild
      split_ifs
      · exact hs.children
      · intro g hg
        rcases List.mem_append.mp hg with hg | hg
        · exact hs.children g hg
        · exact List.mem_singleton.mp hg ▸ row
    rw [addChild_same]
    exact ⟨hs.ids, hs.keys, hchildren, hs.devices, hs.properties⟩
  | deleted propertyID =>
    exact ⟨hs.ids, hs.keys, hs.children, hs.devices,
      fun row hmem => hs.properties row (List.mem_filter.mp hmem).1⟩
  | @property k keyID value row =>
    have hset : SetOn k s (s.addNewPropertyForEntity k keyID value) := setOn_addNewProperty s
    generalize s.addNewPropertyForEntity k keyID value = t at *
    obtain ⟨property, propertySeq, rfl⟩ : ∃ property propertySeq,
        t = { s with property := property, propertySeq := propertySeq } := ⟨_, _, hset.same⟩
    refine ⟨hs.ids, hs.keys, hs.children, hs.devices, fun row' hmem => ?_⟩
    rcases hset.owned row' hmem with hmem | hid
    · exact hs.properties row' hmem
    · exact ⟨k, row, hid⟩

theorem Rooted.writes (hs : Rooted s) (h : Writes s t) : Rooted t := by
  induction h with
  | refl => exact hs
  | tail _ hwrite ih => exact ih.write hwrite

/-! ## The lookups -/

theorem writes_newEntity (hkey : keyID = .DEVICE_ID ∨ keyID = .ATTRIBUTE_NAME)
    (h : s.getNewEntityInstance keyID memory str = some (t, e)) : Writes s t ∧
      ∃ row ∈ t.entityDB.entity, row.id = e.entityID ∧
        row.key_id = bindInt (mapDatasetKeyForID keyID) := by
  rcases newEntity_one_or_new h with ⟨row, hsel, rfl, rfl⟩ | ⟨-, hfree, rfl, rfl⟩
  · have hmem : row ∈ t.entityDB.entity.filter
        (SQLiteEntityDB.selects (kivStr keyID memory str)) := by simp [hsel]
    obtain ⟨hrow, hselects⟩ := List.mem_filter.mp hmem
    rw [SQLiteEntityDB.selects, Bool.and_eq_true, decide_eq_true_eq] at hselects
    exact ⟨.refl, row, hrow, rfl, hselects.1⟩
  · refine ⟨.single (.row hkey hfree), _, mem_addRow.mpr (.inr rfl), rfl, ?_⟩
    rcases hkey with rfl | rfl <;> rfl

theorem writes_getChilds {ids : List UInt32} {childs : List Entity}
    (h : getChilds .ATTRIBUTE_NAME memory s ids = some (t, childs)) :
    Writes s t ∧ ∀ c ∈ childs, t.IsAttributeID c.entityID := by
  induction ids generalizing s t childs with
  | nil =>
    cases h
    exact ⟨.refl, nofun⟩
  | cons i ids ih =>
    simp only [getChilds, Option.bind_eq_bind, Option.bind_eq_some_iff] at h
    obtain ⟨row, -, str, -, ⟨u, child⟩, hu, ⟨v, rest⟩, hv, heq⟩ := h
    cases heq
    obtain ⟨hone, hchild⟩ := writes_newEntity (.inr rfl) hu
    obtain ⟨hmore, hrest⟩ := ih hv
    exact ⟨hone.trans hmore, List.forall_mem_cons.mpr ⟨IsAttributeID.writes hchild hmore, hrest⟩⟩

theorem writes_getDatasetElement (h : s.getDatasetElement w device n = some (t, c)) :
    Writes s t ∧ t.IsAttributeID c.entityID := by
  unfold getDatasetElement at h
  dsimp only at h
  split_ifs at h
  split at h
  · obtain ⟨⟨u, e⟩, hu, heq⟩ := Option.bind_eq_some_iff.mp h
    cases heq
    obtain ⟨hnew, hrow⟩ := writes_newEntity (.inr rfl) hu
    have hadd : Write u (u.addChild device e) := .child device hrow
    exact ⟨hnew.tail hadd, IsAttributeID.writes hrow (.single hadd)⟩
  · obtain ⟨⟨u, childs⟩, hu, h⟩ := Option.bind_eq_some_iff.mp h
    obtain ⟨child, hchild, heq⟩ := Option.bind_eq_some_iff.mp h
    cases heq
    obtain ⟨hwrites, hrows⟩ := writes_getChilds hu
    exact ⟨hwrites, hrows c (List.mem_of_head? hchild)⟩

/-! ## The properties -/

theorem writes_deletes (rows : List PropertyRow) (s : CUSchemaDB) :
    Writes s (rows.foldl (fun s row => s.deleteProperty row.id) s) := by
  induction rows generalizing s with
  | nil => exact .refl
  | cons row rows ih => exact .head (.deleted row.id) (ih _)

theorem writes_deleteUnequal (value : PropertyValue) (rows : List PropertyRow) (s : CUSchemaDB) :
    Writes s (deleteUnequal value s rows).1 := by
  induction rows generalizing s with
  | nil => exact .refl
  | cons row rows ih =>
    unfold deleteUnequal
    split_ifs
    · exact .refl
    · exact .head (.deleted row.id) (ih _)

theorem writes_addProperty (hrow : s.HasRow e.entityID)
    (h : s.addProperty e keyID value = some t) : Writes s t := by
  obtain ⟨-, rfl⟩ := fits_of_addProperty h
  exact .single (.property keyID value hrow)

theorem writes_addUnique {check : Bool} (hrow : s.HasRow e.entityID)
    (h : s.addUniqueAttributeProperty e keyID value check = some t) : Writes s t := by
  unfold addUniqueAttributeProperty at h
  have hdeleted := writes_deleteUnequal value (s.getPropertyByKeyID e [keyID]) s
  cases check with
  | false =>
    simp only [Bool.false_eq_true, if_false] at h
    split_ifs at h
    · cases h
      exact .refl
    · exact writes_addProperty hrow h
  | true =>
    simp only [if_true] at h
    split_ifs at h
    · cases h
      exact hdeleted
    · exact hdeleted.trans (writes_addProperty (hrow.writes hdeleted) h)

theorem writes_addUniques {values : List (DatasetKey × PropertyValue)}
    (hrow : s.HasRow e.entityID) (h : addUniqueAttributeProperties e s values = some t) :
    Writes s t := by
  induction values generalizing s with
  | nil =>
    cases h
    exact .refl
  | cons v values ih =>
    obtain ⟨u, hu, h⟩ := Option.bind_eq_some_iff.mp h
    have hone := writes_addUnique hrow hu
    exact hone.trans (ih (hrow.writes hone) h)

theorem writes_addServers {serverVec : List (Option (List Char))} (hrow : s.HasRow e.entityID)
    (h : addServers e s serverVec = some t) : Writes s t := by
  induction serverVec generalizing s with
  | nil =>
    cases h
    exact .refl
  | cons address serverVec ih =>
    cases address with
    | none =>
      cases h
      exact .refl
    | some address =>
      obtain ⟨u, hu, h⟩ := Option.bind_eq_some_iff.mp h
      have hone := writes_addProperty hrow hu
      exact hone.trans (ih (hrow.writes hone) h)

theorem writes_setServers {servers : Field (List (Option (List Char)))}
    (hrow : s.HasRow e.entityID) (h : s.setServers e servers = some t) : Writes s t := by
  have hclear : Writes s (s.clearAllAttributeForProperty e .CS_DM_LD_SERVER_ADDRESS) :=
    writes_deletes _ s
  cases servers with
  | missing =>
    cases h
    exact .refl
  | mistyped =>
    cases h
    exact hclear
  | value serverVec => exact hclear.trans (writes_addServers (hrow.writes hclear) h)

/-! ## The calls -/

theorem writes_addDeviceId (h : s.addDeviceId w d = some t) : Writes s t := by
  unfold addDeviceId at h
  split_ifs at h with hmap hfit
  · cases h
    exact .refl
  obtain ⟨⟨u, e⟩, hu, h⟩ := Option.bind_eq_some_iff.mp h
  obtain ⟨hnew, row, hrow, hid, -⟩ := writes_newEntity (.inl rfl) hu
  have hhas : u.HasRow e.entityID := ⟨row, hrow, hid⟩
  have huse : Write u (u.useDevice d e) := .device hhas
  exact (hnew.tail huse).trans (writes_addUnique (hhas.writes (.single huse)) h)

theorem writes_getDeviceEntity (hs : Rooted s) (h : s.getDeviceEntity w d = some (t, e)) :
    Writes s t ∧ t.HasRow e.entityID := by
  have he := (keeps_getDeviceEntity h).2
  obtain ⟨u, hu, h⟩ := Option.bind_eq_some_iff.mp h
  obtain ⟨e', -, heq⟩ := Option.bind_eq_some_iff.mp h
  cases heq
  have hwrites := writes_addDeviceId hu
  exact ⟨hwrites, (hs.writes hwrites).devices d e he⟩

theorem writes_setElements {find : CUSchemaDB → List Char → Option (CUSchemaDB × Entity)}
    {elements : List (List Char × List (DatasetKey × PropertyValue))}
    {found : List (Entity × List (DatasetKey × PropertyValue))}
    (hfind : ∀ s n t c, find s n = some (t, c) → Writes s t ∧ t.IsAttributeID c.entityID)
    (h : setElements find s elements = some (t, found)) :
    Writes s t ∧ ∀ f ∈ found, t.IsAttributeID f.1.entityID := by
  induction elements generalizing s t found with
  | nil =>
    cases h
    exact ⟨.refl, nofun⟩
  | cons element elements ih =>
    obtain ⟨⟨u, c⟩, hu, h⟩ := Option.bind_eq_some_iff.mp h
    obtain ⟨v, hv, h⟩ := Option.bind_eq_some_iff.mp h
    obtain ⟨⟨x, rest⟩, hx, heq⟩ := Option.bind_eq_some_iff.mp h
    cases heq
    obtain ⟨hwrites, hrow⟩ := hfind _ _ _ _ hu
    have hset := writes_addUniques hrow.hasRow hv
    obtain ⟨hmore, hrows⟩ := ih hx
    refine ⟨(hwrites.trans hset).trans hmore, ?_⟩
    exact List.forall_mem_cons.mpr ⟨hrow.writes (hset.trans hmore), hrows⟩

theorem writes_resolve (a : Label) (h : a.resolve device s n = some (t, c)) :
    Writes s t ∧ t.IsAttributeID c.entityID := by
  cases a with
  | addAttributeToDataSet w d' n' description type dir size =>
    simp only [Label.resolve] at h
    split_ifs at h
    exact writes_newEntity (.inr rfl) h
  | addAttributeToDataSetFromDataWrapper w pack => exact writes_getDatasetElement h
  | setDeviceAttributeRangeValueInfo w d' n' rangeInfo => exact writes_getDatasetElement h

theorem writes_finish {found : List (Entity × List (DatasetKey × PropertyValue))} (a : Label)
    (hrow : s.HasRow device.entityID) (hfound : ∀ f ∈ found, s.IsAttributeID f.1.entityID)
    (h : a.finish device s found = some t) : Writes s t := by
  cases a with
  | addAttributeToDataSet w d' n' description type dir size =>
    cases h
    clear hrow
    induction found generalizing s with
    | nil => exact .refl
    | cons f found ih =>
      obtain ⟨hfirst, hrest⟩ := List.forall_mem_cons.mp hfound
      have hone : Writes s (if s.isChild device f.1 then s else s.addChild device f.1) := by
        split_ifs
        · exact .refl
        · exact .single (.child device hfirst)
      exact hone.trans (ih fun f' hf' => (hrest f' hf').writes hone)
  | addAttributeToDataSetFromDataWrapper w pack => exact writes_setServers hrow h
  | setDeviceAttributeRangeValueInfo w d' n' rangeInfo =>
    cases h
    exact .refl

theorem writes_step {a : Label} (hs : Rooted s) (h : step s a = some t) : Writes s t := by
  rw [step_eq] at h
  unfold perform at h
  split at h
  · cases h
    exact .refl
  · obtain ⟨⟨u, device⟩, hu, h⟩ := Option.bind_eq_some_iff.mp h
    obtain ⟨⟨v, found⟩, hv, h⟩ := Option.bind_eq_some_iff.mp h
    obtain ⟨hdevice, hrow⟩ := writes_getDeviceEntity hs hu
    obtain ⟨hset, hfound⟩ := writes_setElements (fun _ _ _ _ => writes_resolve a) hv
    exact (hdevice.trans hset).trans (writes_finish a (hrow.writes hset) hfound h)

end CUSchemaDB

end chaos.common.data
