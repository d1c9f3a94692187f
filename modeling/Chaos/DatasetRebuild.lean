-- What a new database of datasets holds after the description of a dataset is fed to it. Every
-- element of the description gets an entity of its own, with the values that were sent.
import Mathlib.Data.List.Perm.Subperm
import Chaos.DatasetReading

namespace chaos.common.data

open chaos.edb cache

namespace CUSchemaDB

variable {s t u : CUSchemaDB} {w : World} {U : Set Pair} {p : Pair} {d : List Char} {e c : Entity}
  {id k : UInt32} {keyID : DatasetKey} {value : PropertyValue} {n m : Nat}

/-! ## New properties -/

/-- There are ids for `n` more properties. -/
structure Roomy (n : Nat) (t : CUSchemaDB) : Prop where
  ids : ∀ row ∈ t.property, row.id.toNat ≤ t.propertySeq
  room : t.propertySeq + n < 2 ^ 32

theorem Roomy.mono (h : Roomy m t) (hn : n ≤ m) : Roomy n t :=
  ⟨h.ids, (Nat.add_le_add_left hn _).trans_lt h.room⟩

theorem valuesOf_eq_nil : t.valuesOf k = [] ↔ t.propsOf k = [] := List.map_eq_nil_iff

/-- A property that there is an id for is the last one of the entity. -/
theorem addProperty_new (c : Entity) (keyID : DatasetKey) (h : Roomy (n + 1) t)
    (hfit : fits value.strValue = true) :
    ∃ u, t.addProperty c keyID value = some u ∧ Roomy n u ∧
      u.valuesOf c.entityID = t.valuesOf c.entityID ++ [(mapDatasetKeyForID keyID, value)] := by
  have hroom := h.room
  have hid : (UInt32.ofNat (t.propertySeq + 1)).toNat = t.propertySeq + 1 :=
    UInt32.toNat_ofNat_of_lt' (show _ < 2 ^ 32 by omega)
  have hnone : (t.property.any fun row => row.id = UInt32.ofNat (t.propertySeq + 1)) = false := by
    refine List.any_eq_false.mpr fun row hrow heq => ?_
    have hle := h.ids row hrow
    rw [of_decide_eq_true heq, hid] at hle
    omega
  unfold addProperty addNewPropertyForEntity
  rw [if_pos hfit]
  simp only [hnone, Bool.false_eq_true, if_false]
  refine ⟨_, rfl, ⟨?_, by simp only; omega⟩, ?_⟩
  · intro row hrow
    rcases List.mem_append.mp hrow with hrow | hrow
    · exact Nat.le_succ_of_le (h.ids row hrow)
    · cases List.mem_singleton.mp hrow
      exact hid.le
  · simp [valuesOf, propsOf, List.filter_append, keyAndValue]

theorem getProperty_eq_nil (h : mapDatasetKeyForID keyID ∉ (t.valuesOf c.entityID).map Prod.fst) :
    t.getPropertyByKeyID c [keyID] = [] := by
  rw [getPropertyByKeyID_eq]
  refine List.filter_eq_nil_iff.mpr fun row hrow hmem => h ?_
  have hkey : row.key_id = mapDatasetKeyForID keyID := by simpa using hmem
  exact hkey ▸ List.mem_map_of_mem (List.mem_map_of_mem (f := keyAndValue) hrow)

theorem addUniques_new (values : List (DatasetKey × PropertyValue))
    (h : Roomy (values.length + n) t) (hfit : ∀ v ∈ values, fits v.2.strValue = true)
    (hkeys : (values.map Prod.fst).Nodup)
    (hnone : ∀ v ∈ values, mapDatasetKeyForID v.1 ∉ (t.valuesOf c.entityID).map Prod.fst) :
    ∃ u, addUniqueAttributeProperties c t values = some u ∧ Roomy n u ∧
      u.valuesOf c.entityID =
        t.valuesOf c.entityID ++ values.map fun v => (mapDatasetKeyForID v.1, v.2) := by
  induction values generalizing t with
  | nil => exact ⟨t, rfl, by simpa using h, by simp⟩
  | cons v values ih =>
    rw [List.map_cons, List.nodup_cons] at hkeys
    have hroom : Roomy (values.length + n + 1) t := h.mono (by rw [List.length_cons]; omega)
    obtain ⟨u, hu, hroomy, hvalues⟩ := addProperty_new c v.1 hroom (hfit v List.mem_cons_self)
    have hadd : t.addUniqueAttributeProperty c v.1 v.2 true = some u := by
      simp [addUniqueAttributeProperty, getProperty_eq_nil (hnone v List.mem_cons_self),
        deleteUnequal, hu]
    obtain ⟨x, hx, hroomy', hvalues'⟩ := ih hroomy
      (fun v' hv' => hfit v' (List.mem_cons_of_mem _ hv')) hkeys.2 fun v' hv' hmem => by
        rw [hvalues, List.map_append, List.mem_append, List.map_singleton,
          List.mem_singleton] at hmem
        rcases hmem with hmem | hmem
        · exact hnone v' (List.mem_cons_of_mem _ hv') hmem
        · exact hkeys.1 (mapDatasetKeyForID_inj.mp hmem ▸ List.mem_map_of_mem hv')
    refine ⟨x, ?_, hroomy', by simp [hvalues', hvalues]⟩
    unfold addUniqueAttributeProperties
    rw [hadd]
    exact hx

theorem addServers_new (serverVec : List (List Char)) (h : Roomy (serverVec.length + n) t)
    (hfit : ∀ str ∈ serverVec, fits str = true) :
    ∃ u, addServers c t (serverVec.map some) = some u ∧ Roomy n u ∧
      u.valuesOf c.entityID = t.valuesOf c.entityID ++ serverVec.map fun str =>
        (mapDatasetKeyForID .CS_DM_LD_SERVER_ADDRESS, PropertyValue.str str) := by
  induction serverVec generalizing t with
  | nil => exact ⟨t, rfl, by simpa using h, by simp⟩
  | cons str serverVec ih =>
    have hroom : Roomy (serverVec.length + n + 1) t := h.mono (by rw [List.length_cons]; omega)
    obtain ⟨u, hu, hroomy, hvalues⟩ := addProperty_new c .CS_DM_LD_SERVER_ADDRESS hroom
      (show fits (PropertyValue.str str).strValue = true from hfit str List.mem_cons_self)
    obtain ⟨x, hx, hroomy', hvalues'⟩ := ih hroomy fun str' hstr' =>
      hfit str' (List.mem_cons_of_mem _ hstr')
    refine ⟨x, ?_, hroomy', by simp [hvalues', hvalues]⟩
    rw [List.map_cons, addServers, hu]
    exact hx

/-! ## The values that are sent -/

variable {values : List (UInt32 × PropertyValue)}

theorem mem_sentValues {v : DatasetKey × PropertyValue} :
    v ∈ sentValues values ↔ v.1 ∈ attributeKeys ∧
      ∃ value, values.lookup (mapDatasetKeyForID v.1) = some value ∧ v.2 = sent v.1 value := by
  simp only [sentValues, List.mem_filterMap, Option.map_eq_some_iff]
  constructor
  · rintro ⟨keyID, hkey, value, hvalue, rfl⟩
    exact ⟨hkey, value, hvalue, rfl⟩
  · rintro ⟨hkey, value, hvalue, heq⟩
    exact ⟨v.1, hkey, value, hvalue, by rw [← heq]⟩

theorem sentValues_keys (values : List (UInt32 × PropertyValue)) :
    ((sentValues values).map Prod.fst).Nodup := by
  have hsub : ∀ keyIDs : List DatasetKey, (keyIDs.filterMap fun keyID =>
      (values.lookup (mapDatasetKeyForID keyID)).map fun value =>
        (keyID, sent keyID value)).map Prod.fst |>.Sublist keyIDs := by
    intro keyIDs
    induction keyIDs with
    | nil => exact List.Sublist.refl _
    | cons keyID keyIDs ih =>
      rw [List.filterMap_cons]
      cases values.lookup (mapDatasetKeyForID keyID) with
      | none => exact ih.cons keyID
      | some value => exact ih.cons_cons keyID
  exact List.Nodup.sublist (hsub attributeKeys) (by decide)

theorem length_sentValues (values : List (UInt32 × PropertyValue)) :
    (sentValues values).length ≤ values.length := by
  have hkeys : (((sentValues values).map Prod.fst).map mapDatasetKeyForID).Nodup :=
    (sentValues_keys values).map fun _ _ => mapDatasetKeyForID_inj.mp
  have hsub : ((sentValues values).map Prod.fst).map mapDatasetKeyForID ⊆
      values.map Prod.fst := by
    intro i hi
    rw [List.map_map] at hi
    obtain ⟨v, hv, rfl⟩ := List.mem_map.mp hi
    obtain ⟨-, value, hvalue, -⟩ := mem_sentValues.mp hv
    obtain ⟨l, l', rfl, -⟩ := List.lookup_eq_some_iff.mp hvalue
    simp
  simpa using (hkeys.subperm hsub).length_le

theorem fits_sent (h : fits value.strValue = true) (keyID : DatasetKey) :
    fits (sent keyID value).strValue = true := by
  cases keyID with
  | ATTRIBUTE_TYPE | ATTRIBUTE_DIRECTION | VALUE_MAX_SIZE => rfl
  | _ => exact h

theorem fits_sentValues (h : ∀ v ∈ values, fits v.2.strValue = true) :
    ∀ v ∈ sentValues values, fits v.2.strValue = true := by
  intro v hv
  obtain ⟨-, value, hvalue, heq⟩ := mem_sentValues.mp hv
  obtain ⟨l, l', rfl, -⟩ := List.lookup_eq_some_iff.mp hvalue
  have hfit : fits value.strValue = true := h (mapDatasetKeyForID v.1, value) (by simp)
  rw [heq]
  exact fits_sent hfit v.1

/-- The values of an entity that has those that were sent. -/
theorem lookup_sentValues (values : List (UInt32 × PropertyValue)) (hkey : keyID ∈ attributeKeys) :
    ((sentValues values).map fun v => (mapDatasetKeyForID v.1, v.2)).lookup
      (mapDatasetKeyForID keyID) =
        (values.lookup (mapDatasetKeyForID keyID)).map (sent keyID) := by
  have hmem : ∀ value', (mapDatasetKeyForID keyID, value') ∈
      (sentValues values).map (fun v => (mapDatasetKeyForID v.1, v.2)) →
        (values.lookup (mapDatasetKeyForID keyID)).map (sent keyID) = some value' := by
    intro value' hvalue'
    obtain ⟨v, hv, heq⟩ := List.mem_map.mp hvalue'
    obtain ⟨-, value, hvalue, hsent⟩ := mem_sentValues.mp hv
    rw [Prod.mk.injEq, mapDatasetKeyForID_inj] at heq
    rw [← heq.1, hvalue, ← heq.2, hsent]
    rfl
  cases hlookup : ((sentValues values).map fun v => (mapDatasetKeyForID v.1, v.2)).lookup
      (mapDatasetKeyForID keyID) with
  | some value' =>
    obtain ⟨l, l', hsplit, -⟩ := List.lookup_eq_some_iff.mp hlookup
    rw [hmem value' (by simp [hsplit])]
  | none =>
    cases hvalue : values.lookup (mapDatasetKeyForID keyID) with
    | none => rfl
    | some value =>
      have hv : (keyID, sent keyID value) ∈ sentValues values :=
        mem_sentValues.mpr ⟨hkey, value, hvalue, rfl⟩
      have hne := List.lookup_eq_none_iff.mp hlookup _ (List.mem_map_of_mem hv)
      simp at hne

/-! ## The elements -/

/-- The name of an attribute with its keys and values. -/
abbrev Described := List Char × List (UInt32 × PropertyValue)

/-- The number of the values that are sent. -/
def sentSize (xs : List Described) : Nat := (xs.map fun x => (sentValues x.2).length).sum

def elementOf (x : Described) : Option ElementDescription :=
  some (fillCDataWrapperDSAtribute x.1 x.2)

/-- The database holds the attributes of the list and no others, with the values that were sent. -/
structure Rebuilt (U : Set Pair) (d : List Char) (e : Entity) (xs : List Described)
    (t : CUSchemaDB) : Prop where
  inv : Inv U t
  device : t.deviceEntityMap d = some e
  seq : t.entityDB.seq ≤ xs.length + 1
  pairs : ∀ x ∈ xs, (d, x.1) ∈ U
  only : ∀ p ∈ U, ∀ id, t.Named p id → p.1 = d ∧ p.2 ∈ xs.map Prod.fst
  rows : ∀ x ∈ xs, ∃ id, t.Named (d, x.1) id ∧ (e.entityID, id) ∈ t.entity_group ∧
    t.valuesOf id = (sentValues x.2).map fun v => (mapDatasetKeyForID v.1, v.2)

variable {xs ys : List Described} {x : Described}

theorem valuesOf_congr (h : t.propsOf k = s.propsOf k) : t.valuesOf k = s.valuesOf k :=
  congrArg (List.map keyAndValue) h

/-- An attribute that is not there is added with the values that were sent. -/
theorem Rebuilt.add (hU : Separated U) (h : Rebuilt U d e xs t) (hp : (d, x.1) ∈ U)
    (hnew : x.1 ∉ xs.map Prod.fst) (hlength : xs.length + 2 < 2 ^ 32)
    (hroomy : Roomy ((sentValues x.2).length + n) t) (hfit : ∀ v ∈ x.2, fits v.2.strValue = true) :
    ∃ u c v, t.getDatasetElement w e x.1 = some (u, c) ∧
      addUniqueAttributeProperties c u (sentValues x.2) = some v ∧
      Rebuilt U d e (xs ++ [x]) v ∧ Roomy n v ∧ v.valuesOf e.entityID = t.valuesOf e.entityID := by
  have hseq := h.seq
  obtain ⟨u, c, hu, hc, hchange, hprop, hpropSeq, hmem⟩ :=
    getDatasetElement_spec (w := w) hU h.inv (by omega) hp h.device
  have hnone : ∀ id, ¬ t.Named (d, x.1) id := fun id hid => hnew (h.only _ hp id hid).2
  have hempty : u.propsOf c.entityID = [] := by
    rw [propsOf_element h.inv hchange.toFrame hprop hc, known_not_named hnone]
  have hroomy' : Roomy ((sentValues x.2).length + n) u :=
    ⟨by rw [hprop, hpropSeq]; exact hroomy.ids, by rw [hpropSeq]; exact hroomy.room⟩
  have hfit' := fits_sentValues hfit
  obtain ⟨v, hv, hroom, hvalues⟩ := addUniques_new (c := c) (sentValues x.2) hroomy' hfit'
    (sentValues_keys x.2) (by simp [valuesOf_eq_nil.mpr hempty])
  obtain ⟨v', hv', hset⟩ := addUniqueAttributeProperties_spec c (sentValues x.2)
    hchange.inv.propertyIDs hfit'
  cases hv.symm.trans hv'
  have hset' := hset.change (D := {d}) (P := {(d, x.1)}) hchange.inv (.inr ⟨_, rfl, hc⟩)
  have hall := hchange.trans hset'
  have hP : ({(d, x.1)} : Set Pair) ⊆ U := Set.singleton_subset_iff.mpr hp
  refine ⟨u, c, v, hu, hv, ⟨hall.inv, hall.kept _ _ h.device, ?_, ?_, ?_, ?_⟩, hroom, ?_⟩
  · have hseq' := hall.seq
    rw [List.length_append, List.length_singleton]
    omega
  · simpa [or_imp, forall_and] using ⟨fun a b hab => h.pairs (a, b) hab, hp⟩
  · intro q hq i hi
    rw [List.map_append, List.mem_append]
    rcases hall.named q hq i hi with hi | rfl
    · exact (h.only q hq i hi).imp_right .inl
    · exact ⟨rfl, .inr List.mem_cons_self⟩
  · intro x' hx'
    rcases List.mem_append.mp hx' with hx' | hx'
    · obtain ⟨i, hi, hgroup, hvalues'⟩ := h.rows x' hx'
      have hq : (d, x'.1) ∉ ({(d, x.1)} : Set Pair) := by
        intro heq
        have hname : x'.1 = x.1 := congrArg Prod.snd heq
        exact hnew (hname ▸ List.mem_map_of_mem hx')
      have hi' := hall.rows _ hi
      have hnot := named_not_touched (D := {d}) hU hall.inv hP (h.pairs x' hx') hq hi'
      refine ⟨i, hi', (hall.group _ _ fun p hp hpi => hnot (.inr ⟨p, hp, hpi⟩)).mpr hgroup, ?_⟩
      rw [valuesOf_congr (hall.props i hnot), hvalues']
    · cases List.mem_singleton.mp hx'
      refine ⟨c.entityID, hset'.rows _ hc, ?_, ?_⟩
      · rw [hset.same]
        exact hmem
      · rw [hvalues, valuesOf_eq_nil.mpr hempty]
        rfl
  · obtain ⟨-, str, hrow⟩ := hchange.inv.devices d e (hchange.kept _ _ h.device)
    rw [valuesOf_congr (hset.others e.entityID (device_ne_named hchange.inv hrow hc))]
    unfold valuesOf propsOf
    rw [hprop]

theorem name_elementOf (x : Described) :
    (fillCDataWrapperDSAtribute x.1 x.2).ATTRIBUTE_NAME = .value x.1 := by
  have hfold : ∀ (values : List (UInt32 × PropertyValue)) (element : ElementDescription),
      (values.foldl ElementDescription.addProperty element).ATTRIBUTE_NAME =
        element.ATTRIBUTE_NAME := by
    intro values
    induction values with
    | nil => exact fun _ => rfl
    | cons v values ih =>
      intro element
      rw [List.foldl_cons, ih]
      unfold ElementDescription.addProperty
      split_ifs <;> rfl
  exact hfold ..

/-- The elements of a description are added one after the other. -/
theorem Rebuilt.addElements (hU : Separated U) (h : Rebuilt U d e xs t)
    (hpairs : ∀ x ∈ ys, (d, x.1) ∈ U) (hnames : ((xs ++ ys).map Prod.fst).Nodup)
    (hlength : xs.length + ys.length + 2 < 2 ^ 32) (hroomy : Roomy (sentSize ys + n) t)
    (hfit : ∀ x ∈ ys, ∀ v ∈ x.2, fits v.2.strValue = true) :
    ∃ v, CUSchemaDB.addElements w e t (ys.map elementOf) = some (v, true) ∧
      Rebuilt U d e (xs ++ ys) v ∧ Roomy n v ∧ v.valuesOf e.entityID = t.valuesOf e.entityID := by
  induction ys generalizing xs t with
  | nil =>
    refine ⟨t, rfl, by simpa using h, ?_, rfl⟩
    simpa [sentSize] using hroomy
  | cons x ys ih =>
    have hnew : x.1 ∉ xs.map Prod.fst := by
      rw [List.map_append, List.map_cons] at hnames
      exact fun hmem => (List.nodup_append.mp hnames).2.2 _ hmem _ List.mem_cons_self rfl
    rw [List.length_cons] at hlength
    have hroomy' : Roomy ((sentValues x.2).length + (sentSize ys + n)) t := by
      refine hroomy.mono (le_of_eq ?_)
      simp [sentSize, Nat.add_assoc]
    obtain ⟨u, c, v, hu, hv, hbuilt, hroom, hvalues⟩ := h.add (w := w) hU
      (hpairs x List.mem_cons_self) hnew (by omega) hroomy' (hfit x List.mem_cons_self)
    have happend : xs ++ x :: ys = xs ++ [x] ++ ys := by simp
    rw [happend] at hnames ⊢
    obtain ⟨t', ht', hbuilt', hroom', hvalues'⟩ := ih hbuilt
      (fun x' hx' => hpairs x' (List.mem_cons_of_mem _ hx')) hnames
      (by rw [List.length_append, List.length_singleton]; omega) hroom
      fun x' hx' => hfit x' (List.mem_cons_of_mem _ hx')
    refine ⟨t', ?_, hbuilt', hroom', hvalues'.trans hvalues⟩
    rw [List.map_cons, elementOf, CUSchemaDB.addElements]
    simp only [name_elementOf, hu, hv, readFields_fill, Option.bind_eq_bind, Option.bind_some,
      if_true]
    exact ht'

/-! ## The device -/

/-- In a new database a device gets the first entity, and its timestamp is the first property. -/
theorem getDeviceEntity_new (hfit : fits d = true) :
    ∃ t e, ({} : CUSchemaDB).getDeviceEntity w d = some (t, e) ∧ t.propertySeq = 1 ∧
      t.property = [⟨1, bindInt e.entityID, mapDatasetKeyForID .TIMESTAMP, .num w.timestamp⟩] := by
  have htext : fits [] = true := rfl
  simp [getDeviceEntity, addDeviceId, getNewEntityInstance, SQLiteEntityDB.getIDForEntity,
    SQLiteEntityDB.searchEntityByKeyAndValue, SQLiteEntityDB.insert, hfit, kivStr,
    addUniqueAttributeProperty, getPropertyByKeyID, addProperty, addNewPropertyForEntity,
    PropertyValue.strValue, htext, SQLiteEntityDB.newRow]

theorem rebuilt_nil (h : ({} : CUSchemaDB).getDeviceEntity w d = some (t, e))
    (hfit : fits d = true) : Rebuilt U d e [] t := by
  obtain ⟨t', e', ht', he, hframe, -⟩ :=
    getDeviceEntity_spec (w := w) (inv_new U) (show 0 + 1 < 2 ^ 32 by omega) hfit
  cases h.symm.trans ht'
  refine ⟨hframe.inv, he, hframe.seq, nofun, ?_, nofun⟩
  intro p hp i hi
  exact (hframe.named p hp i hi).elim nofun nofun

/-- Properties of the device leave its attributes alone. -/
theorem Rebuilt.setOn (hU : Separated U) (h : Rebuilt U d e xs t) (hset : SetOn e.entityID t u) :
    Rebuilt U d e xs u := by
  have hchange := hset.change (D := {d}) (P := ∅) h.inv (.inl ⟨d, rfl, e, h.device, rfl⟩)
  refine ⟨hchange.inv, hchange.kept _ _ h.device, hchange.seq.trans h.seq, h.pairs, ?_, ?_⟩
  · intro p hp i hi
    exact (hchange.named p hp i hi).elim (h.only p hp i) nofun
  · intro x hx
    obtain ⟨i, hi, hgroup, hvalues⟩ := h.rows x hx
    have hi' := hchange.rows _ hi
    refine ⟨i, hi', (hchange.group _ _ nofun).mpr hgroup, ?_⟩
    rw [valuesOf_congr (hchange.props i (named_not_touched hU hchange.inv (Set.empty_subset U)
      (h.pairs x hx) (Set.notMem_empty _) hi')), hvalues]

theorem getProperty_values (s : CUSchemaDB) (c : Entity) (keyID : DatasetKey) :
    (s.getPropertyByKeyID c [keyID]).map PropertyRow.value =
      ((s.valuesOf c.entityID).filter fun v => v.1 = mapDatasetKeyForID keyID).map Prod.snd := by
  rw [getPropertyByKeyID_eq, valuesOf, List.filter_map, List.map_map]
  refine congrArg (List.map PropertyRow.value) (List.filter_congr fun row _ => ?_)
  rw [Bool.eq_iff_iff, Function.comp_apply, decide_eq_true_eq]
  simp [keyAndValue]

/-- A new database takes a description as it is. -/
theorem addPack_new (hU : Separated U) (description : DatasetDescription)
    (hpairs : ∀ x ∈ description.DESCRIPTION, (description.DEVICE_ID, x.1) ∈ U)
    (hnames : (description.DESCRIPTION.map Prod.fst).Nodup)
    (hlength : description.DESCRIPTION.length + 2 < 2 ^ 32)
    (hroom : sentSize description.DESCRIPTION + description.CS_DM_LD_SERVER_ADDRESS.length + 1 <
      2 ^ 32)
    (hdevice : fits description.DEVICE_ID = true)
    (hfit : ∀ x ∈ description.DESCRIPTION, ∀ v ∈ x.2, fits v.2.strValue = true)
    (hservers : ∀ str ∈ description.CS_DM_LD_SERVER_ADDRESS, fits str = true) :
    ∃ t e, ({} : CUSchemaDB).addAttributeToDataSetFromDataWrapper w description.pack = some t ∧
      Rebuilt U description.DEVICE_ID e description.DESCRIPTION t ∧
      (t.getPropertyByKeyID e [.CS_DM_LD_SERVER_ADDRESS]).map (fun row => row.value.strValue) =
        description.CS_DM_LD_SERVER_ADDRESS := by
  obtain ⟨s, e, hs, hpropSeq, hprop⟩ := getDeviceEntity_new (w := w) hdevice
  have hvalues : s.valuesOf e.entityID =
      [(mapDatasetKeyForID .TIMESTAMP, .num w.timestamp)] := by
    simp [valuesOf, propsOf, hprop, keyAndValue]
  have hroomy : Roomy (sentSize description.DESCRIPTION +
      (description.CS_DM_LD_SERVER_ADDRESS.length + 0)) s :=
    ⟨by simp [hprop, hpropSeq], by omega⟩
  obtain ⟨u, hu, hbuilt, hroomy', hvalues'⟩ := (rebuilt_nil hs hdevice).addElements (w := w) hU
    hpairs hnames (by simpa using hlength) hroomy hfit
  -- there are no servers to remove
  have hnone : u.getPropertyByKeyID e [.CS_DM_LD_SERVER_ADDRESS] = [] := by
    refine getProperty_eq_nil ?_
    rw [hvalues', hvalues]
    simp [mapDatasetKeyForID]
  obtain ⟨t, ht, -, hvalues''⟩ := addServers_new (c := e) _ hroomy' hservers
  obtain ⟨t', ht', hset⟩ := addServers_spec (s := u) e
    (description.CS_DM_LD_SERVER_ADDRESS.map some) (by simpa [List.reduceOption] using hservers)
  cases ht.symm.trans ht'
  refine ⟨t, e, ?_, hbuilt.setOn hU hset, ?_⟩
  · have hdescription : u.setServers e description.pack.CS_DM_LD_SERVER_ADDRESS = some t := by
      simp only [DatasetDescription.pack, setServers, clearAllAttributeForProperty, hnone,
        List.foldl_nil, ht]
    have hadd : s.addDescription w e description.pack.DESCRIPTION = some (u, true) := hu
    unfold addAttributeToDataSetFromDataWrapper
    simp only [show description.pack.DEVICE_ID = .value description.DEVICE_ID from rfl, hs,
      Option.bind_eq_bind, Option.bind_some, hadd, if_true, hdescription]
  · have hall := getProperty_values t e .CS_DM_LD_SERVER_ADDRESS
    rw [hvalues'', hvalues', hvalues] at hall
    have hmap := congrArg (List.map PropertyValue.strValue) hall
    rw [List.map_map] at hmap
    refine hmap.trans ?_
    simp [mapDatasetKeyForID, Function.comp_def, PropertyValue.strValue, List.filter_map]

end CUSchemaDB

end chaos.common.data
