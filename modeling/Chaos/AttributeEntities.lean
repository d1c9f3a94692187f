-- The tables of the datasets of a control unit while no name in play is like another one, read as
-- a pattern: what they keep, and what it leaves alone to make an entity, to set a property or to
-- add a child.
import Mathlib.Data.List.Nodup
import Mathlib.Data.List.ReduceOption
import Chaos.CUSchemaDB

namespace chaos.common.data

open chaos.edb

/-- A device and the name of one of its attributes. -/
abbrev Pair := List Char × List Char

namespace CUSchemaDB

/-! ## The names -/

def name (p : Pair) : List Char := composeAttributeName p.1 p.2

/-- The names of the pairs fit in a value, and none is like that of another pair when it is read as
a pattern. -/
structure Separated (U : Set Pair) : Prop where
  fit : ∀ p ∈ U, fits (name p)
  apart : ∀ p ∈ U, ∀ q ∈ U, like (name p) (name q) → p = q

/-! ## The rows -/

/-- The row of an entity with a text. -/
def textRow (keyID : DatasetKey) (str : List Char) (id : UInt32) : EntityRow :=
  { id := id, key_id := bindInt64 (mapDatasetKeyForID keyID), key_type := .str
    str_value := some str }

/-- The pair has a row with this id. -/
def Named (s : CUSchemaDB) (p : Pair) (id : UInt32) : Prop :=
  textRow .ATTRIBUTE_NAME (name p) id ∈ s.entityDB.entity

variable {s t : CUSchemaDB} {w : World} {U : Set Pair} {p q : Pair} {id id' : UInt32}
  {memory : UInt64} {str str' : List Char}

theorem name_inj (hU : Separated U) (hp : p ∈ U) (hq : q ∈ U) (h : name p = name q) : p = q :=
  hU.apart p hp q hq (h ▸ SQLiteEntityDB.like_refl _)

theorem fits_device (h : fits (name p) = true) : fits p.1 = true := by
  unfold fits name composeAttributeName at *
  rw [decide_eq_true_eq] at *
  rw [List.map_append, List.sum_append] at h
  omega

theorem selects_name (memory : UInt64) (row : EntityRow) :
    SQLiteEntityDB.selects (kivStr .ATTRIBUTE_NAME memory (name p)) row =
      (row.key_id = bindInt (mapDatasetKeyForID .ATTRIBUTE_NAME) &&
        row.str_value.any fun str_value => like (name p) str_value) := by
  have hne : name p ≠ [] := by simp [name, composeAttributeName]
  simp [SQLiteEntityDB.selects, kivStr, hne]

theorem textRow_inj {keyID keyID' : DatasetKey}
    (h : textRow keyID str id = textRow keyID' str' id') :
    mapDatasetKeyForID keyID = mapDatasetKeyForID keyID' ∧ str = str' ∧ id = id' := by
  simp only [textRow, EntityRow.mk.injEq, bindInt64, Int.natCast_inj, UInt32.toNat_inj] at h
  exact ⟨h.2.1, Option.some.inj h.2.2.2.1, h.1⟩

/-- What every run keeps. The rows are those of devices and of attributes in play whose device was
used, and what refers to a row refers to one that is there. -/
structure Inv (U : Set Pair) (s : CUSchemaDB) : Prop where
  rows : ∀ row ∈ s.entityDB.entity, (∃ d, row = textRow .DEVICE_ID d row.id) ∨
    ∃ p ∈ U, row = textRow .ATTRIBUTE_NAME (name p) row.id ∧ (s.deviceEntityMap p.1).isSome
  ids : (s.entityDB.entity.map EntityRow.id).Nodup
  bound : ∀ row ∈ s.entityDB.entity, row.id.toNat ≤ s.entityDB.seq
  once : ∀ p id id', s.Named p id → s.Named p id' → id = id'
  devices : ∀ d e, s.deviceEntityMap d = some e →
    e.strValue = d ∧ ∃ str, textRow .DEVICE_ID str e.entityID ∈ s.entityDB.entity
  group : ∀ g ∈ s.entity_group, ∃ p ∈ U, ∃ e, s.deviceEntityMap p.1 = some e ∧
    g.1 = e.entityID ∧ s.Named p g.2
  properties : ∀ row ∈ s.property, ∃ r ∈ s.entityDB.entity, row.entity_id = bindInt r.id
  propertyIDs : (s.property.map PropertyRow.id).Nodup

/-- Devices have rows of their own. -/
def OwnRows (s : CUSchemaDB) : Prop :=
  ∀ d d' e e', s.deviceEntityMap d = some e → s.deviceEntityMap d' = some e' →
    e.entityID = e'.entityID → d = d'

theorem bindInt_inj {n m : UInt32} (h : bindInt n = bindInt m) : n = m := by
  have h' : n.toInt32 = m.toInt32 := Int32.toInt_inj.mp h
  rw [← UInt32.toUInt32_toInt32 n, h', UInt32.toUInt32_toInt32]

/-- An id that is the same number in both types is one id. -/
theorem bindInt64_inj {n m : UInt32} (h : bindInt n = bindInt64 m) : n = m := by
  have hnonneg : 0 ≤ bindInt n := by
    rw [h]
    exact Int.natCast_nonneg _
  rw [SQLiteEntityDB.bindInt_eq hnonneg] at h
  simpa [bindInt64, UInt32.toNat_inj] using h

section Rows

variable (hU : Separated U) (hs : Inv U s)
include hs

theorem row_eq {row row' : EntityRow} (h : row ∈ s.entityDB.entity)
    (h' : row' ∈ s.entityDB.entity) (hid : row.id = row'.id) : row = row' :=
  List.inj_on_of_nodup_map hs.ids h h' hid

/-- An id is not that of a device and of an attribute. -/
theorem device_ne_named (hd : textRow .DEVICE_ID str id ∈ s.entityDB.entity)
    (hp : s.Named p id') : id ≠ id' := by
  rintro rfl
  have heq := (textRow_inj (row_eq hs hd hp rfl)).1
  simp [mapDatasetKeyForID] at heq

include hU

theorem named_inj (hp : p ∈ U) (hq : q ∈ U) (h : s.Named p id) (h' : s.Named q id) : p = q :=
  name_inj hU hp hq (textRow_inj (row_eq hs h h' rfl)).2.1

/-- The lookup of a name selects the row of its pair and no other. -/
theorem selects_iff (hp : p ∈ U) {row : EntityRow} (hrow : row ∈ s.entityDB.entity) :
    SQLiteEntityDB.selects (kivStr .ATTRIBUTE_NAME memory (name p)) row = true ↔
      row = textRow .ATTRIBUTE_NAME (name p) row.id := by
  rw [selects_name]
  rcases hs.rows row hrow with ⟨d, hd⟩ | ⟨q, hq, hrow', -⟩
  · rw [hd]
    refine iff_of_false ?_ fun heq => ?_
    · simp [textRow, mapDatasetKeyForID, bindInt, bindInt64]
    · have := (textRow_inj heq).1
      simp [mapDatasetKeyForID] at this
  · have hkey : bindInt64 (mapDatasetKeyForID .ATTRIBUTE_NAME) =
        bindInt (mapDatasetKeyForID .ATTRIBUTE_NAME) := rfl
    constructor
    · intro hsel
      rw [hrow'] at hsel ⊢
      simp only [textRow, Bool.and_eq_true, Option.any_some] at hsel
      rw [hU.apart p hp q hq hsel.2]
      rfl
    · intro heq
      rw [heq]
      simp [textRow, hkey, SQLiteEntityDB.like_refl]

theorem filter_named (hp : p ∈ U) (h : s.Named p id) :
    s.entityDB.entity.filter
      (SQLiteEntityDB.selects (kivStr .ATTRIBUTE_NAME memory (name p))) =
      [textRow .ATTRIBUTE_NAME (name p) id] := by
  have hcongr : ∀ row ∈ s.entityDB.entity,
      SQLiteEntityDB.selects (kivStr .ATTRIBUTE_NAME memory (name p)) row =
        decide (row = textRow .ATTRIBUTE_NAME (name p) id) := by
    intro row hrow
    rw [Bool.eq_iff_iff, selects_iff hU hs hp hrow, decide_eq_true_eq]
    constructor
    · intro heq
      rw [heq, hs.once p id row.id h (show s.Named p row.id from heq ▸ hrow)]
    · intro heq
      rw [heq]
      rfl
  rw [List.filter_congr hcongr, List.filter_eq, List.count_eq_one_of_mem _ h]
  · rfl
  · exact List.Nodup.of_map _ hs.ids

theorem filter_not_named (hp : p ∈ U) (h : ∀ id, ¬ s.Named p id) :
    s.entityDB.entity.filter
      (SQLiteEntityDB.selects (kivStr .ATTRIBUTE_NAME memory (name p))) = [] := by
  rw [List.filter_eq_nil_iff]
  intro row hrow hsel
  have heq := (selects_iff hU hs hp hrow).mp hsel
  exact h row.id (show s.Named p row.id from heq ▸ hrow)

end Rows

/-! ## Making an entity -/

/-- The tables with a row for a new entity. -/
def addRow (s : CUSchemaDB) (keyID : DatasetKey) (str : List Char) : CUSchemaDB :=
  { s with
    entityDB := { s.entityDB with
      seq := s.entityDB.seq + 1
      entity := s.entityDB.entity ++ [textRow keyID str s.entityDB.nextID] } }

theorem mem_addRow {keyID : DatasetKey} {row : EntityRow} :
    row ∈ (s.addRow keyID str).entityDB.entity ↔
      row ∈ s.entityDB.entity ∨ row = textRow keyID str s.entityDB.nextID := by
  simp [addRow]

theorem nextID_toNat (hseq : s.entityDB.seq + 1 < 2 ^ 32) :
    s.entityDB.nextID.toNat = s.entityDB.seq + 1 := by
  unfold SQLiteEntityDB.nextID
  rw [UInt32.toNat_ofNat_of_lt' hseq]

theorem nextID_ne (hs : Inv U s) (hseq : s.entityDB.seq + 1 < 2 ^ 32) {row : EntityRow}
    (hrow : row ∈ s.entityDB.entity) : row.id ≠ s.entityDB.nextID := by
  intro heq
  have hbound := hs.bound row hrow
  rw [heq, nextID_toNat hseq] at hbound
  omega

theorem getNewEntityInstance_one {keyID : DatasetKey} {row : EntityRow}
    (hsel : s.entityDB.entity.filter (SQLiteEntityDB.selects (kivStr keyID memory str)) = [row]) :
    s.getNewEntityInstance keyID memory str = some (s, ⟨row.id, str⟩) := by
  have htype : (kivStr keyID memory str).type ≠ .double := nofun
  unfold getNewEntityInstance SQLiteEntityDB.getIDForEntity
  rw [SQLiteEntityDB.searchEntity_eq _ htype, hsel]
  rfl

/-- A lookup that does not select one row adds one, when its id is free. -/
theorem getNewEntityInstance_new {keyID : DatasetKey} (hsel : ∀ row,
    s.entityDB.entity.filter (SQLiteEntityDB.selects (kivStr keyID memory str)) ≠ [row]) :
    s.getNewEntityInstance keyID memory str =
      if ∃ row ∈ s.entityDB.entity, row.id = s.entityDB.nextID then none
      else some (s.addRow keyID str, ⟨s.entityDB.nextID, str⟩) := by
  have htype : (kivStr keyID memory str).type ≠ .double := nofun
  unfold getNewEntityInstance SQLiteEntityDB.getIDForEntity
  rw [SQLiteEntityDB.searchEntity_eq _ htype]
  rcases hfilter : s.entityDB.entity.filter (SQLiteEntityDB.selects (kivStr keyID memory str))
    with _ | ⟨row, _ | ⟨row', rows⟩⟩
  · simp only [List.map_nil, if_neg htype, SQLiteEntityDB.insert_newRow]
    split_ifs <;> rfl
  · exact absurd hfilter (hsel row)
  · simp only [List.map_cons, if_neg htype, SQLiteEntityDB.insert_newRow]
    split_ifs <;> rfl

theorem getNewEntityInstance_add (hs : Inv U s) (hseq : s.entityDB.seq + 1 < 2 ^ 32)
    {keyID : DatasetKey} (hsel : ∀ row,
      s.entityDB.entity.filter (SQLiteEntityDB.selects (kivStr keyID memory str)) ≠ [row]) :
    s.getNewEntityInstance keyID memory str =
      some (s.addRow keyID str, ⟨s.entityDB.nextID, str⟩) := by
  rw [getNewEntityInstance_new hsel, if_neg]
  rintro ⟨row, hrow, hid⟩
  exact nextID_ne hs hseq hrow hid

/-- A new row keeps the invariant when it is that of a device, or that of a pair in play that has
none and whose device was used. -/
theorem Inv.addRow (hs : Inv U s) (hseq : s.entityDB.seq + 1 < 2 ^ 32) {keyID : DatasetKey}
    (hrow : keyID = .DEVICE_ID ∨ ∃ p ∈ U, keyID = .ATTRIBUTE_NAME ∧ str = name p ∧
      (s.deviceEntityMap p.1).isSome ∧ ∀ id, ¬ s.Named p id) :
    Inv U (s.addRow keyID str) where
  rows := by
    intro row hmem
    rcases mem_addRow.mp hmem with hmem | rfl
    · exact hs.rows row hmem
    · rcases hrow with rfl | ⟨p, hp, rfl, rfl, hmap, -⟩
      · exact .inl ⟨str, rfl⟩
      · exact .inr ⟨p, hp, rfl, hmap⟩
  ids := by
    rw [CUSchemaDB.addRow, List.map_append, List.nodup_append]
    refine ⟨hs.ids, by simp, ?_⟩
    intro i hi j hj
    obtain ⟨row, hmem, rfl⟩ := List.mem_map.mp hi
    rw [List.map_singleton, List.mem_singleton] at hj
    rw [hj]
    exact nextID_ne hs hseq hmem
  bound := by
    intro row hmem
    rcases mem_addRow.mp hmem with hmem | rfl
    · exact Nat.le_succ_of_le (hs.bound row hmem)
    · exact (nextID_toNat hseq).le
  once := by
    -- the new row has the name of a pair that had none
    have hnew : ∀ q i j, s.Named q i →
        textRow .ATTRIBUTE_NAME (name q) j ≠ textRow keyID str s.entityDB.nextID := by
      intro q i j hi heq
      obtain ⟨hkey, hname, -⟩ := textRow_inj heq
      rcases hrow with rfl | ⟨p, -, -, rfl, -, hnone⟩
      · simp [mapDatasetKeyForID] at hkey
      · exact hnone i (by rwa [Named, ← hname])
    intro q i j hi hj
    rcases mem_addRow.mp hi with hi | hi <;> rcases mem_addRow.mp hj with hj | hj
    · exact hs.once q i j hi hj
    · exact absurd hj (hnew q i j hi)
    · exact absurd hi (hnew q j i hj)
    · exact (textRow_inj hi).2.2.trans (textRow_inj hj).2.2.symm
  devices := by
    intro d e he
    obtain ⟨hd, str', hmem⟩ := hs.devices d e he
    exact ⟨hd, str', mem_addRow.mpr (.inl hmem)⟩
  group := by
    intro g hg
    obtain ⟨p, hp, e, he, hparent, hchild⟩ := hs.group g hg
    exact ⟨p, hp, e, he, hparent, mem_addRow.mpr (.inl hchild)⟩
  properties := by
    intro row hmem
    obtain ⟨r, hr, heq⟩ := hs.properties row hmem
    exact ⟨r, mem_addRow.mpr (.inl hr), heq⟩
  propertyIDs := hs.propertyIDs

/-! ## Setting properties -/

/-- The properties of the entity with this id. -/
def propsOf (s : CUSchemaDB) (k : UInt32) : List PropertyRow :=
  s.property.filter fun row => row.entity_id = bindInt k

/-- Only the properties of one entity have changed. -/
structure SetOn (k : UInt32) (s t : CUSchemaDB) : Prop where
  same : t = { s with property := t.property, propertySeq := t.propertySeq }
  others : ∀ k', k' ≠ k → t.propsOf k' = s.propsOf k'
  owned : ∀ row ∈ t.property, row ∈ s.property ∨ row.entity_id = bindInt k
  ids : (s.property.map PropertyRow.id).Nodup → (t.property.map PropertyRow.id).Nodup

variable {k : UInt32} {entity : Entity} {keyID : DatasetKey} {value : PropertyValue}

theorem SetOn.refl (k : UInt32) (s : CUSchemaDB) : SetOn k s s :=
  ⟨rfl, fun _ _ => rfl, fun _ => Or.inl, id⟩

theorem SetOn.trans {u : CUSchemaDB} (h : SetOn k s t) (h' : SetOn k t u) : SetOn k s u where
  same := by
    rw [h'.same, h.same]
  others k' hk := (h'.others k' hk).trans (h.others k' hk)
  owned row hrow := (h'.owned row hrow).elim (h.owned row) .inr
  ids hs := h'.ids (h.ids hs)

/-- A row that is deleted by its id is one of the entity. -/
theorem setOn_deleteProperty {i : UInt32}
    (hi : ∀ row ∈ s.property, row.id = i → row.entity_id = bindInt k) :
    SetOn k s (s.deleteProperty i) where
  same := rfl
  others := by
    intro k' hk
    unfold propsOf deleteProperty
    rw [List.filter_filter]
    refine List.filter_congr fun row hrow => ?_
    by_cases hid : row.id = i
    · have hne : row.entity_id ≠ bindInt k' := by
        rw [hi row hrow hid]
        exact fun h => hk (bindInt_inj h.symm)
      simp [hne]
    · simp [hid]
  owned row hrow := .inl (List.mem_filter.mp hrow).1
  ids hs := hs.sublist (List.filter_sublist.map _)

theorem setOn_addNewProperty (s : CUSchemaDB) :
    SetOn k s (s.addNewPropertyForEntity k keyID value) := by
  unfold addNewPropertyForEntity
  by_cases hany : s.property.any fun row => row.id = UInt32.ofNat (s.propertySeq + 1)
  · rw [if_pos hany]
    exact ⟨rfl, fun _ _ => rfl, fun _ => Or.inl, id⟩
  · rw [if_neg hany]
    refine ⟨rfl, ?_, ?_, ?_⟩
    · intro k' hk
      have hne : bindInt k ≠ bindInt k' := fun h => hk (bindInt_inj h.symm)
      simp [propsOf, List.filter_append, hne]
    · intro row hrow
      rcases List.mem_append.mp hrow with hrow | hrow
      · exact .inl hrow
      · cases List.mem_singleton.mp hrow
        exact .inr rfl
    · intro hs
      rw [List.map_append, List.nodup_append]
      refine ⟨hs, by simp, ?_⟩
      intro i hi j hj heq
      obtain ⟨row, hrow, rfl⟩ := List.mem_map.mp hi
      rw [List.map_singleton, List.mem_singleton] at hj
      refine hany (List.any_eq_true.mpr ⟨row, hrow, ?_⟩)
      rw [decide_eq_true_eq, heq, hj]

theorem addProperty_spec (s : CUSchemaDB) (entity : Entity) (keyID : DatasetKey)
    (hfit : fits value.strValue = true) :
    ∃ t, s.addProperty entity keyID value = some t ∧ SetOn entity.entityID s t := by
  unfold addProperty
  rw [if_pos hfit]
  exact ⟨_, rfl, setOn_addNewProperty s⟩

/-- The rows that the code found are those of the entity, also after some of them are deleted. -/
def Finds (s : CUSchemaDB) (k : UInt32) (rows : List PropertyRow) : Prop :=
  ∀ r ∈ rows, ∀ row ∈ s.property, row.id = r.id → row.entity_id = bindInt k

theorem finds_getProperty (entity : Entity) (hids : (s.property.map PropertyRow.id).Nodup)
    (keyIDs : List DatasetKey) :
    s.Finds entity.entityID (s.getPropertyByKeyID entity keyIDs) := by
  intro r hr row hrow hid
  obtain ⟨hmem, hsel⟩ := List.mem_filter.mp hr
  rw [Bool.and_eq_true, decide_eq_true_eq] at hsel
  rw [List.inj_on_of_nodup_map hids hrow hmem hid]
  exact hsel.1

theorem Finds.delete {r : PropertyRow} {rows : List PropertyRow} (h : s.Finds k (r :: rows)) :
    SetOn k s (s.deleteProperty r.id) ∧ (s.deleteProperty r.id).Finds k rows := by
  refine ⟨setOn_deleteProperty (h r List.mem_cons_self), ?_⟩
  intro r' hr' row hrow
  exact h r' (List.mem_cons_of_mem _ hr') row (List.mem_filter.mp hrow).1

theorem setOn_clear (rows : List PropertyRow) (h : s.Finds k rows) :
    SetOn k s (rows.foldl (fun s row => s.deleteProperty row.id) s) := by
  induction rows generalizing s with
  | nil => exact SetOn.refl k s
  | cons r rows ih => exact h.delete.1.trans (ih h.delete.2)

theorem setOn_deleteUnequal (rows : List PropertyRow) (h : s.Finds k rows) :
    SetOn k s (deleteUnequal value s rows).1 := by
  induction rows generalizing s with
  | nil => exact SetOn.refl k s
  | cons r rows ih =>
    unfold deleteUnequal
    split_ifs
    · exact SetOn.refl k s
    · exact h.delete.1.trans (ih h.delete.2)

theorem addUniqueAttributeProperty_spec (entity : Entity) (keyID : DatasetKey)
    (hids : (s.property.map PropertyRow.id).Nodup) (hfit : fits value.strValue = true)
    (check : Bool) :
    ∃ t, s.addUniqueAttributeProperty entity keyID value check = some t ∧
      SetOn entity.entityID s t := by
  unfold addUniqueAttributeProperty
  have hfinds := finds_getProperty entity hids [keyID]
  -- whatever is deleted first is the entity's own
  generalize hfound : (if check = true then
      deleteUnequal value s (s.getPropertyByKeyID entity [keyID])
    else (s, !(s.getPropertyByKeyID entity [keyID]).isEmpty)) = r
  have hfirst : SetOn entity.entityID s r.1 := by
    rw [← hfound]
    split_ifs
    · exact setOn_deleteUnequal _ hfinds
    · exact SetOn.refl _ s
  simp only [hfound]
  by_cases hr : r.2 = true
  · exact ⟨r.1, if_pos hr, hfirst⟩
  · obtain ⟨t, ht, hset⟩ := addProperty_spec r.1 entity keyID hfit
    exact ⟨t, (if_neg hr).trans ht, hfirst.trans hset⟩

theorem addUniqueAttributeProperties_spec (entity : Entity)
    (values : List (DatasetKey × PropertyValue)) (hids : (s.property.map PropertyRow.id).Nodup)
    (hfit : ∀ e ∈ values, fits e.2.strValue = true) :
    ∃ t, addUniqueAttributeProperties entity s values = some t ∧ SetOn entity.entityID s t := by
  induction values generalizing s with
  | nil => exact ⟨s, rfl, SetOn.refl _ s⟩
  | cons e values ih =>
    obtain ⟨u, hu, hset⟩ := addUniqueAttributeProperty_spec entity e.1 hids
      (hfit e List.mem_cons_self) true
    obtain ⟨t, ht, hrest⟩ := ih (hset.ids hids) fun e' he' => hfit e' (List.mem_cons_of_mem _ he')
    refine ⟨t, ?_, hset.trans hrest⟩
    unfold addUniqueAttributeProperties
    rw [hu]
    exact ht

theorem addServers_spec (entity : Entity) (serverVec : List (Option (List Char)))
    (hfit : ∀ str ∈ serverVec.reduceOption, fits str = true) :
    ∃ t, addServers entity s serverVec = some t ∧ SetOn entity.entityID s t := by
  induction serverVec generalizing s with
  | nil => exact ⟨s, rfl, SetOn.refl _ s⟩
  | cons address serverVec ih =>
    cases address with
    | none => exact ⟨s, rfl, SetOn.refl _ s⟩
    | some address =>
      rw [List.reduceOption_cons_of_some] at hfit
      obtain ⟨u, hu, hset⟩ := addProperty_spec s entity .CS_DM_LD_SERVER_ADDRESS
        (show fits (PropertyValue.str address).strValue = true from hfit _ List.mem_cons_self)
      obtain ⟨t, ht, hrest⟩ := ih (s := u) fun str hstr => hfit str (List.mem_cons_of_mem _ hstr)
      refine ⟨t, ?_, hset.trans hrest⟩
      unfold addServers
      rw [hu]
      exact ht

/-! ## What an operation leaves alone -/

/-- The entity is that of one of the devices or of one of the pairs. -/
def Touched (t : CUSchemaDB) (D : Set (List Char)) (P : Set Pair) (k : UInt32) : Prop :=
  (∃ d ∈ D, ∃ e, t.deviceEntityMap d = some e ∧ e.entityID = k) ∨ ∃ p ∈ P, t.Named p k

/-- What is not about the devices `D` and the pairs `P` is as it was, and `n` ids are used up. -/
structure Frame (U : Set Pair) (D : Set (List Char)) (P : Set Pair) (n : Nat)
    (s t : CUSchemaDB) : Prop where
  inv : Inv U t
  seq : t.entityDB.seq ≤ s.entityDB.seq + n
  rows : ∀ row ∈ s.entityDB.entity, row ∈ t.entityDB.entity
  named : ∀ q ∈ U, ∀ id, t.Named q id → s.Named q id ∨ q ∈ P
  kept : ∀ d e, s.deviceEntityMap d = some e → t.deviceEntityMap d = some e
  maps : ∀ d ∉ D, t.deviceEntityMap d = s.deviceEntityMap d
  props : ∀ k, ¬ t.Touched D P k → t.propsOf k = s.propsOf k
  group : ∀ x y, (∀ p ∈ P, ¬ t.Named p y) → ((x, y) ∈ t.entity_group ↔ (x, y) ∈ s.entity_group)
  childs : ∀ x, (∀ d ∈ D, ∀ e, t.deviceEntityMap d = some e → e.entityID ≠ x) →
    t.entity_group.filter (·.1 = x) = s.entity_group.filter (·.1 = x)

/-- An operation that also leaves each device a row of its own. -/
structure Change (U : Set Pair) (D : Set (List Char)) (P : Set Pair) (n : Nat)
    (s t : CUSchemaDB) : Prop extends Frame U D P n s t where
  own : OwnRows s → OwnRows t

variable {D : Set (List Char)} {P : Set Pair} {n m : Nat} {u : CUSchemaDB} {d : List Char}
  {e c : Entity}

theorem Frame.refl (hs : Inv U s) : Frame U D P 0 s s where
  inv := hs
  seq := Nat.le_refl _
  rows _ := id
  named _ _ _ := Or.inl
  kept _ _ := id
  maps _ _ := rfl
  props _ _ := rfl
  group _ _ _ := Iff.rfl
  childs _ _ := rfl

theorem Touched.mono (hframe : Frame U D P n u t) {k : UInt32} (h : u.Touched D P k) :
    t.Touched D P k := by
  rcases h with ⟨d, hd, e, he, hk⟩ | ⟨p, hp, hk⟩
  · exact .inl ⟨d, hd, e, hframe.kept d e he, hk⟩
  · exact .inr ⟨p, hp, hframe.rows _ hk⟩

theorem Frame.trans (h : Frame U D P n s u) (h' : Frame U D P m u t) :
    Frame U D P (n + m) s t where
  inv := h'.inv
  seq := by
    have := h.seq
    have := h'.seq
    omega
  rows row hrow := h'.rows row (h.rows row hrow)
  named q hq i hi := (h'.named q hq i hi).elim (h.named q hq i) .inr
  kept d e he := h'.kept d e (h.kept d e he)
  maps d hd := (h'.maps d hd).trans (h.maps d hd)
  props k hk := (h'.props k hk).trans (h.props k fun hk' => hk (hk'.mono h'))
  group x y hy := (h'.group x y hy).trans (h.group x y fun p hp hk => hy p hp (h'.rows _ hk))
  childs x hx := (h'.childs x hx).trans (h.childs x fun d hd e he => hx d hd e (h'.kept d e he))

theorem Frame.mono {P' : Set Pair} (h : Frame U D P n s t) (hP : P ⊆ P') (hn : n ≤ m) :
    Frame U D P' m s t where
  inv := h.inv
  seq := h.seq.trans (Nat.add_le_add_left hn _)
  rows := h.rows
  named q hq i hi := (h.named q hq i hi).imp_right (hP ·)
  kept := h.kept
  maps := h.maps
  props k hk := h.props k fun hk' => hk (hk'.imp_right fun ⟨p, hp, hp'⟩ => ⟨p, hP hp, hp'⟩)
  group x y hy := h.group x y fun p hp => hy p (hP hp)
  childs := h.childs

theorem Change.refl (hs : Inv U s) : Change U D P 0 s s := ⟨Frame.refl hs, id⟩

theorem Change.trans (h : Change U D P n s u) (h' : Change U D P m u t) :
    Change U D P (n + m) s t :=
  ⟨h.toFrame.trans h'.toFrame, fun hs => h'.own (h.own hs)⟩

theorem Change.mono {P' : Set Pair} (h : Change U D P n s t) (hP : P ⊆ P') (hn : n ≤ m) :
    Change U D P' m s t :=
  ⟨h.toFrame.mono hP hn, h.own⟩

theorem row_of_touched (hs : Inv U s) (hk : s.Touched D P k) :
    ∃ row ∈ s.entityDB.entity, row.id = k := by
  rcases hk with ⟨d, -, e, he, rfl⟩ | ⟨p, -, hp⟩
  · obtain ⟨-, str, hrow⟩ := hs.devices d e he
    exact ⟨_, hrow, rfl⟩
  · exact ⟨_, hp, rfl⟩

/-- The properties of an entity that the operation is on. -/
theorem SetOn.change (h : SetOn k s t) (hs : Inv U s) (hk : s.Touched D P k) :
    Change U D P 0 s t := by
  obtain ⟨r, hr, hrk⟩ := row_of_touched hs hk
  have hnew : ∀ row ∈ t.property, ∃ r ∈ s.entityDB.entity, row.entity_id = bindInt r.id := by
    intro row hrow
    rcases h.owned row hrow with hrow | hrow
    · exact hs.properties row hrow
    · exact ⟨r, hr, by rw [hrow, hrk]⟩
  have hids := h.ids hs.propertyIDs
  have hothers := h.others
  obtain ⟨property, propertySeq, rfl⟩ : ∃ property propertySeq,
      t = { s with property := property, propertySeq := propertySeq } := ⟨_, _, h.same⟩
  refine ⟨?_, id⟩
  exact {
    inv := { hs with properties := hnew, propertyIDs := hids }
    seq := Nat.le_refl _
    rows := fun _ => id
    named := fun _ _ _ => Or.inl
    kept := fun _ _ => id
    maps := fun _ _ => rfl
    props := fun k' hk' => hothers k' fun h => hk' (h ▸ hk)
    group := fun _ _ _ => Iff.rfl
    childs := fun _ _ => rfl }

/-- The row of a pair that the operation is on. -/
theorem change_addRow (hU : Separated U) (hs : Inv U s) (hseq : s.entityDB.seq + 1 < 2 ^ 32)
    (hp : p ∈ U) (hP : p ∈ P) (hmap : (s.deviceEntityMap p.1).isSome)
    (hnone : ∀ id, ¬ s.Named p id) : Change U D P 1 s (s.addRow .ATTRIBUTE_NAME (name p)) := by
  refine ⟨?_, id⟩
  exact {
    inv := hs.addRow hseq (.inr ⟨p, hp, rfl, rfl, hmap, hnone⟩)
    seq := Nat.le_refl _
    rows := fun row hrow => mem_addRow.mpr (.inl hrow)
    named := by
      intro q hq i hi
      rcases mem_addRow.mp hi with hi | hi
      · exact .inl hi
      · exact .inr (name_inj hU hq hp (textRow_inj hi).2.1 ▸ hP)
    kept := fun _ _ => id
    maps := fun _ _ => rfl
    props := fun _ _ => rfl
    group := fun _ _ _ => Iff.rfl
    childs := fun _ _ => rfl }

theorem addChild_same (s : CUSchemaDB) (e c : Entity) :
    s.addChild e c = { s with entity_group := (s.addChild e c).entity_group } := by
  unfold addChild
  split_ifs <;> rfl

theorem mem_addChild (s : CUSchemaDB) (e c : Entity) :
    (e.entityID, c.entityID) ∈ (s.addChild e c).entity_group := by
  unfold addChild
  split_ifs with hmem
  · exact hmem
  · exact List.mem_append_right _ List.mem_cons_self

theorem change_addChild (hs : Inv U s) (hd : p.1 ∈ D) (hp : p ∈ U) (hP : p ∈ P)
    (he : s.deviceEntityMap p.1 = some e) (hc : s.Named p c.entityID) :
    Change U D P 0 s (s.addChild e c) := by
  unfold addChild
  split_ifs
  · exact Change.refl hs
  refine ⟨?_, id⟩
  have hgroup : ∀ g ∈ s.entity_group ++ [(e.entityID, c.entityID)], ∃ p ∈ U, ∃ e,
      s.deviceEntityMap p.1 = some e ∧ g.1 = e.entityID ∧ s.Named p g.2 := by
    intro g hg
    rcases List.mem_append.mp hg with hg | hg
    · exact hs.group g hg
    · cases List.mem_singleton.mp hg
      exact ⟨p, hp, e, he, rfl, hc⟩
  exact {
    inv := { hs with group := hgroup }
    seq := Nat.le_refl _
    rows := fun _ => id
    named := fun _ _ _ => Or.inl
    kept := fun _ _ => id
    maps := fun _ _ => rfl
    props := fun _ _ => rfl
    group := by
      intro x y hy
      have hne : (x, y) ≠ (e.entityID, c.entityID) := by
        rintro ⟨⟩
        exact hy p hP hc
      simp [hne]
    childs := by
      intro x hx
      simp [List.filter_append, hx _ hd e he] }

/-! ## The device -/

/-- The tables when the device is used for the first time, with the entity that it gets. -/
def useDevice (s : CUSchemaDB) (d : List Char) (e : Entity) : CUSchemaDB :=
  { s with deviceEntityMap := Function.update s.deviceEntityMap d (some e) }

theorem useDevice_map (d : List Char) (e : Entity) :
    (s.useDevice d e).deviceEntityMap d = some e := Function.update_self ..

theorem useDevice_kept (hnone : s.deviceEntityMap d = none) {d' : List Char} {e' : Entity}
    (he' : s.deviceEntityMap d' = some e') : (s.useDevice d e).deviceEntityMap d' = some e' := by
  have hne : d' ≠ d := by
    rintro rfl
    rw [hnone] at he'
    cases he'
  exact (Function.update_of_ne hne ..).trans he'

theorem frame_useDevice (hs : Inv U s) (hnone : s.deviceEntityMap d = none)
    (he : e.strValue = d) (hrow : textRow .DEVICE_ID str e.entityID ∈ s.entityDB.entity) :
    Frame U {d} ∅ 0 s (s.useDevice d e) where
  inv := {
    hs with
    rows := by
      intro row hmem
      rcases hs.rows row hmem with h | ⟨p, hp, hrow, hmap⟩
      · exact .inl h
      · obtain ⟨e', he'⟩ := Option.isSome_iff_exists.mp hmap
        exact .inr ⟨p, hp, hrow, by rw [useDevice_kept hnone he']; rfl⟩
    devices := by
      intro d' e' he'
      rcases eq_or_ne d' d with rfl | hne
      · rw [useDevice_map] at he'
        cases he'
        exact ⟨he, str, hrow⟩
      · exact hs.devices d' e' ((Function.update_of_ne hne ..).symm.trans he')
    group := by
      intro g hg
      obtain ⟨p, hp, e', he', hg1, hg2⟩ := hs.group g hg
      exact ⟨p, hp, e', useDevice_kept hnone he', hg1, hg2⟩ }
  seq := Nat.le_refl _
  rows _ := id
  named _ _ _ := Or.inl
  kept _ _ := useDevice_kept hnone
  maps _ hd := Function.update_of_ne hd ..
  props _ _ := rfl
  group _ _ _ := Iff.rfl
  childs _ _ := rfl

/-- A device with an id that no other one has. -/
theorem ownRows_useDevice (hown : OwnRows s)
    (hnew : ∀ a ea, s.deviceEntityMap a = some ea → ea.entityID ≠ e.entityID) :
    OwnRows (s.useDevice d e) := by
  have hold : ∀ a ea, a ≠ d → (s.useDevice d e).deviceEntityMap a = some ea →
      s.deviceEntityMap a = some ea := fun a ea had ha =>
    (Function.update_of_ne had ..).symm.trans ha
  intro a b ea eb ha hb hid
  by_cases had : a = d <;> by_cases hbd : b = d
  · exact had.trans hbd.symm
  · subst had
    rw [useDevice_map] at ha
    cases ha
    exact absurd hid.symm (hnew b eb (hold b eb hbd hb))
  · subst hbd
    rw [useDevice_map] at hb
    cases hb
    exact absurd hid (hnew a ea (hold a ea had ha))
  · exact hown a b ea eb (hold a ea had ha) (hold b eb hbd hb) hid

theorem frame_addDevice (hs : Inv U s) (hseq : s.entityDB.seq + 1 < 2 ^ 32) (str : List Char) :
    Frame U {d} ∅ 1 s (s.addRow .DEVICE_ID str) where
  inv := hs.addRow hseq (.inl rfl)
  seq := Nat.le_refl _
  rows row hrow := mem_addRow.mpr (.inl hrow)
  named := by
    intro q _ i hi
    rcases mem_addRow.mp hi with hi | hi
    · exact .inl hi
    · have hkey := (textRow_inj hi).1
      simp [mapDatasetKeyForID] at hkey
  kept _ _ := id
  maps _ _ := rfl
  props _ _ := rfl
  group _ _ _ := Iff.rfl
  childs _ _ := rfl

/-- The row of a device that was not used is there already or new. It is new when the lookup
selects none. -/
theorem deviceRow_spec (hs : Inv U s) (hseq : s.entityDB.seq + 1 < 2 ^ 32) (memory : UInt64)
    (d : List Char) : ∃ t id str, s.getNewEntityInstance .DEVICE_ID memory d = some (t, ⟨id, d⟩) ∧
      Frame U {d} ∅ 1 s t ∧ t.deviceEntityMap = s.deviceEntityMap ∧
      textRow .DEVICE_ID str id ∈ t.entityDB.entity ∧
      ((∀ row ∈ s.entityDB.entity,
        SQLiteEntityDB.selects (kivStr .DEVICE_ID memory d) row = false) →
        ∀ row ∈ s.entityDB.entity, row.id ≠ id) := by
  by_cases hone : ∃ row, s.entityDB.entity.filter
      (SQLiteEntityDB.selects (kivStr .DEVICE_ID memory d)) = [row]
  · obtain ⟨row, hrow⟩ := hone
    have hmem : row ∈ s.entityDB.entity.filter
        (SQLiteEntityDB.selects (kivStr .DEVICE_ID memory d)) := by simp [hrow]
    obtain ⟨hmem, hsel⟩ := List.mem_filter.mp hmem
    obtain ⟨str, hstr⟩ : ∃ str, row = textRow .DEVICE_ID str row.id := by
      rcases hs.rows row hmem with h | ⟨p, -, hname, -⟩
      · exact h
      · rw [hname] at hsel
        simp [SQLiteEntityDB.selects, kivStr, textRow, mapDatasetKeyForID, bindInt, bindInt64]
          at hsel
    refine ⟨s, row.id, str, getNewEntityInstance_one hrow,
      (Frame.refl hs).mono subset_rfl (by omega), rfl, hstr ▸ hmem, fun hnone => ?_⟩
    rw [hnone row hmem] at hsel
    cases hsel
  · refine ⟨_, _, d, getNewEntityInstance_add hs hseq fun row hrow => hone ⟨row, hrow⟩,
      frame_addDevice hs hseq d, rfl, mem_addRow.mpr (.inr rfl), fun _ row hrow => ?_⟩
    exact nextID_ne hs hseq hrow

theorem getDeviceEntity_spec (hs : Inv U s) (hseq : s.entityDB.seq + 1 < 2 ^ 32)
    (hfit : fits d = true) : ∃ t e, s.getDeviceEntity w d = some (t, e) ∧
      t.deviceEntityMap d = some e ∧ Frame U {d} ∅ 1 s t ∧
      ((s.deviceEntityMap d = none → ∀ row ∈ s.entityDB.entity,
        SQLiteEntityDB.selects (kivStr .DEVICE_ID w.memory d) row = false) →
        OwnRows s → OwnRows t) := by
  unfold getDeviceEntity addDeviceId
  cases hmap : s.deviceEntityMap d with
  | some e =>
    exact ⟨s, e, by simp [hmap], hmap, (Frame.refl hs).mono subset_rfl (by omega), fun _ => id⟩
  | none =>
    obtain ⟨u, i, str, hu, hframe, hmaps, hrow, hnew⟩ := deviceRow_spec hs hseq w.memory d
    have hnone : u.deviceEntityMap d = none := by rw [hmaps, hmap]
    have huse := frame_useDevice (e := ⟨i, d⟩) hframe.inv hnone rfl hrow
    obtain ⟨t, ht, hset⟩ := addUniqueAttributeProperty_spec ⟨i, d⟩ .TIMESTAMP
      huse.inv.propertyIDs (show fits (PropertyValue.num w.timestamp).strValue = true from rfl) false
    have htouch : (u.useDevice d ⟨i, d⟩).Touched {d} ∅ i := .inl ⟨d, rfl, _, useDevice_map .., rfl⟩
    have hmap' : t.deviceEntityMap = (u.useDevice d ⟨i, d⟩).deviceEntityMap := by
      rw [hset.same]
    refine ⟨t, ⟨i, d⟩, ?_, ?_, ?_, ?_⟩
    · rw [if_neg (by simp), if_pos hfit, hu]
      unfold useDevice at ht
      simp [ht, hmap', useDevice_map]
    · rw [hmap', useDevice_map]
    · exact ((hframe.trans huse).trans (hset.change huse.inv htouch).toFrame).mono subset_rfl
        (by omega)
    · intro hfresh hown
      have hnew' : ∀ a ea, u.deviceEntityMap a = some ea → ea.entityID ≠ i := by
        intro a ea ha
        rw [hmaps] at ha
        obtain ⟨-, str, hmem⟩ := hs.devices a ea ha
        exact hnew (hfresh rfl) _ hmem
      have hown' : OwnRows u := by rwa [OwnRows, hmaps]
      rw [OwnRows, hmap']
      exact ownRows_useDevice hown' hnew'

/-! ## The attribute -/

theorem getNewEntityInstance_named (hU : Separated U) (hs : Inv U s) (hp : p ∈ U)
    (h : s.Named p id) :
    s.getNewEntityInstance .ATTRIBUTE_NAME memory (name p) = some (s, ⟨id, name p⟩) :=
  getNewEntityInstance_one (filter_named hU hs hp h)

/-- The row of a pair is there already or new. -/
theorem attributeRow_spec (hU : Separated U) (hs : Inv U s) (hseq : s.entityDB.seq + 1 < 2 ^ 32)
    (hp : p ∈ U) (he : s.deviceEntityMap p.1 = some e) (memory : UInt64) :
    ∃ t id, s.getNewEntityInstance .ATTRIBUTE_NAME memory (name p) = some (t, ⟨id, name p⟩) ∧
      t.Named p id ∧ Change U {p.1} {p} 1 s t ∧ t.property = s.property ∧
      t.propertySeq = s.propertySeq := by
  by_cases hnamed : ∃ id, s.Named p id
  · obtain ⟨i, hi⟩ := hnamed
    exact ⟨s, i, getNewEntityInstance_named hU hs hp hi, hi,
      (Change.refl hs).mono subset_rfl (by omega), rfl, rfl⟩
  · have hnone : ∀ id, ¬ s.Named p id := fun id hid => hnamed ⟨id, hid⟩
    refine ⟨_, _, getNewEntityInstance_add hs hseq ?_, mem_addRow.mpr (.inr rfl),
      change_addRow hU hs hseq hp rfl (by rw [he]; rfl) hnone, rfl, rfl⟩
    rw [filter_not_named hU hs hp hnone]
    nofun

/-- A child that the code has looked up. -/
def Child (U : Set Pair) (s : CUSchemaDB) (c : Entity) : Prop :=
  ∃ p ∈ U, c.strValue = name p ∧ s.Named p c.entityID

theorem find_named (hs : Inv U s) (h : s.Named p id) :
    s.entityDB.entity.find? (fun row => row.id = id) =
      some (textRow .ATTRIBUTE_NAME (name p) id) := by
  obtain ⟨row, hrow⟩ : ∃ row, s.entityDB.entity.find? (fun row => row.id = id) = some row := by
    rw [← Option.isSome_iff_exists, List.find?_isSome]
    exact ⟨_, h, by simp [textRow]⟩
  have hid : row.id = id := by simpa using List.find?_some hrow
  rw [hrow, row_eq hs (List.mem_of_find?_eq_some hrow) h hid]

/-- Children that are looked up again are found as they are. -/
theorem getChilds_eq (memory : UInt64) (hU : Separated U) (hs : Inv U s) (l : List Entity)
    (hl : ∀ c ∈ l, Child U s c) :
    getChilds .ATTRIBUTE_NAME memory s (l.map Entity.entityID) = some (s, l) := by
  induction l with
  | nil => rfl
  | cons c l ih =>
    obtain ⟨p, hp, hstr, hnamed⟩ := hl c List.mem_cons_self
    have hc : c = ⟨c.entityID, name p⟩ := by rw [← hstr]
    rw [List.map_cons, getChilds, find_named hs hnamed]
    simp only [textRow, Option.bind_eq_bind, Option.bind_some,
      getNewEntityInstance_named hU hs hp hnamed,
      ih fun c' hc' => hl c' (List.mem_cons_of_mem _ hc')]
    rw [← hc]
    rfl

theorem exists_childs {R : Entity → Prop} (ids : List UInt32)
    (h : ∀ y ∈ ids, ∃ c : Entity, c.entityID = y ∧ R c) :
    ∃ l : List Entity, l.map Entity.entityID = ids ∧ ∀ c ∈ l, R c := by
  induction ids with
  | nil => exact ⟨[], rfl, nofun⟩
  | cons y ids ih =>
    obtain ⟨l, rfl, hl⟩ := ih fun y' hy' => h y' (List.mem_cons_of_mem _ hy')
    obtain ⟨c, rfl, hc⟩ := h y List.mem_cons_self
    exact ⟨c :: l, rfl, List.forall_mem_cons.mpr ⟨hc, hl⟩⟩

theorem mem_childIDS {x y : UInt32} {selected : EntityRow → Bool} :
    y ∈ s.childIDS x selected ↔ (x, y) ∈ s.entity_group ∧
      ∃ row ∈ s.entityDB.entity, row.id = y ∧ selected row = true := by
  simp only [childIDS, List.mem_map, List.mem_filter, Bool.and_eq_true, decide_eq_true_eq,
    List.any_eq_true]
  constructor
  · rintro ⟨g, ⟨hg, rfl, hrow⟩, rfl⟩
    exact ⟨hg, hrow⟩
  · rintro ⟨hg, hrow⟩
    exact ⟨(x, y), ⟨hg, rfl, hrow⟩, rfl⟩

/-- The children that are found by the name of a pair are those with its row. -/
theorem mem_search_iff (hU : Separated U) (hs : Inv U s) (hp : p ∈ U) {x y : UInt32} :
    y ∈ s.searchEntityByParentIDAndKeyValue x .ATTRIBUTE_NAME (name p) ↔
      (x, y) ∈ s.entity_group ∧ s.Named p y := by
  unfold searchEntityByParentIDAndKeyValue
  rw [mem_childIDS]
  refine and_congr_right fun _ => ?_
  constructor
  · rintro ⟨row, hrow, rfl, hsel⟩
    rw [← selects_name 0] at hsel
    have heq := (selects_iff hU hs hp hrow).mp hsel
    exact show _ ∈ _ from heq ▸ hrow
  · intro hy
    refine ⟨_, hy, rfl, ?_⟩
    rw [← selects_name 0]
    exact (selects_iff hU hs hp hy).mpr rfl

theorem getDatasetElement_spec (hU : Separated U) (hs : Inv U s)
    (hseq : s.entityDB.seq + 1 < 2 ^ 32) (hp : p ∈ U) (he : s.deviceEntityMap p.1 = some e) :
    ∃ t c, s.getDatasetElement w e p.2 = some (t, c) ∧ t.Named p c.entityID ∧
      Change U {p.1} {p} 1 s t ∧ t.property = s.property ∧ t.propertySeq = s.propertySeq ∧
      (e.entityID, c.entityID) ∈ t.entity_group := by
  have hname : composeAttributeName e.strValue p.2 = name p := by
    rw [(hs.devices p.1 e he).1]
    rfl
  unfold getDatasetElement
  simp only [hname, hU.fit p hp, if_true]
  rcases hsearch : s.searchEntityByParentIDAndKeyValue e.entityID .ATTRIBUTE_NAME (name p)
    with _ | ⟨y, ids⟩
  · obtain ⟨t, i, ht, hi, hchange, hprop, hpropSeq⟩ := attributeRow_spec hU hs hseq hp he w.memory
    have hadd := change_addChild (D := {p.1}) (P := {p}) (c := ⟨i, name p⟩) hchange.inv rfl hp rfl
      (hchange.kept _ _ he) hi
    have hsame := addChild_same t e ⟨i, name p⟩
    refine ⟨t.addChild e ⟨i, name p⟩, ⟨i, name p⟩, by simp [ht], hadd.rows _ hi,
      hchange.trans hadd, ?_, ?_, mem_addChild ..⟩
    · rw [hsame, hprop]
    · rw [hsame, hpropSeq]
  · have hall : ∀ y' ∈ y :: ids, (e.entityID, y') ∈ s.entity_group ∧ s.Named p y' := by
      intro y' hy'
      rw [← hsearch] at hy'
      exact (mem_search_iff hU hs hp).mp hy'
    obtain ⟨l, hl, hchild⟩ := exists_childs (R := Child U s) (y :: ids) fun y' hy' =>
      ⟨⟨y', name p⟩, rfl, p, hp, rfl, (hall y' hy').2⟩
    cases l with
    | nil => cases hl
    | cons c l =>
      obtain ⟨hmem, hc⟩ := hall c.entityID (by rw [← hl]; exact List.mem_cons_self)
      refine ⟨s, c, ?_, hc, (Change.refl hs).mono subset_rfl (by omega), rfl, rfl, hmem⟩
      simp only [← hl, getChilds_eq w.memory hU hs (c :: l) hchild]
      rfl

end CUSchemaDB

end chaos.common.data
