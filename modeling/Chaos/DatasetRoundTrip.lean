-- The laws of the description of a dataset. While no name in play is like another one, a new
-- database that is fed the description of a device has the same attributes and servers. The entity
-- of a device is found with wildcards, so that `%%` is given the attributes of another device.
import Chaos.DatasetRebuild

namespace chaos.common.data

open runs chaos.edb cache

namespace CUSchemaDB

/-! ## What is claimed -/

/-- The pair is an attribute of its device, and something is known of it. -/
def Attribute (s : CUSchemaDB) (p : Pair) : Prop :=
  ∃ e id, s.deviceEntityMap p.1 = some e ∧ (e.entityID, id) ∈ s.entity_group ∧ s.Named p id ∧
    s.propsOf id ≠ []

def servers (s : CUSchemaDB) (d : List Char) : List (List Char) :=
  ((s.deviceEntityMap d).map fun e =>
    (s.getPropertyByKeyID e [.CS_DM_LD_SERVER_ADDRESS]).map fun row => row.value.strValue).getD []

/-- The device has the same attributes in both databases, of which the same is read, and the same
servers. -/
structure SameDataset (d : List Char) (s t : CUSchemaDB) : Prop where
  attributes : ∀ n, s.Attribute (d, n) ↔ t.Attribute (d, n)
  description : ∀ n, s.Attribute (d, n) → ∀ w w' attributeDescription,
    ∃ r, s.description w (d, n) attributeDescription = some r ∧
      t.description w' (d, n) attributeDescription = some r
  direction : ∀ n, s.Attribute (d, n) → ∀ w w',
    ∃ r, s.direction w (d, n) = some r ∧ t.direction w' (d, n) = some r
  range : ∀ n, s.Attribute (d, n) → ∀ w w' rangeInfo,
    ∃ r, s.range w (d, n) rangeInfo = some r ∧ t.range w' (d, n) rangeInfo = some r
  servers : s.servers d = t.servers d

/-- The device has a description, a new database takes it, and has the same dataset then. -/
def RoundTrips (s : CUSchemaDB) (d : List Char) : Prop :=
  ∀ w w', ∃ description t, s.dataset w d = some (some description) ∧
    ({} : CUSchemaDB).addAttributeToDataSetFromDataWrapper w' description.pack = some t ∧
    SameDataset d s t

/-! ## The condition -/

/-- The device is in use, or its lookup selects no row, and there are ids for the rows that a read
may add. -/
structure Usable (s : CUSchemaDB) (w : World) (d : List Char) : Prop where
  fit : fits d
  fresh : s.deviceEntityMap d = none → ∀ row ∈ s.entityDB.entity,
    SQLiteEntityDB.selects (kivStr .DEVICE_ID w.memory d) row = false
  ids : s.entityDB.seq + 2 < 2 ^ 32

instance Usable.decidable (s : CUSchemaDB) (w : World) (d : List Char) : Decidable (Usable s w d) :=
  decidable_of_iff (fits d ∧ (s.deviceEntityMap d = none → ∀ row ∈ s.entityDB.entity,
      SQLiteEntityDB.selects (kivStr .DEVICE_ID w.memory d) row = false) ∧
      s.entityDB.seq + 2 < 2 ^ 32)
    ⟨fun ⟨fit, fresh, ids⟩ => ⟨fit, fresh, ids⟩, fun h => ⟨h.fit, h.fresh, h.ids⟩⟩

/-- The call is on pairs in play, and on a device that can be used. -/
def CallOk (U : Set Pair) (s : CUSchemaDB) : Call → Prop
  | .change a => Clear U s a
  | .addDeviceId w d => Usable s w d
  | .getDeviceAttributeDescription w d n | .getDeviceAttributeDirection w d n
  | .getDeviceAttributeRangeValueInfo w d n => (d, n) ∈ U ∧ Usable s w d
  | .fillDataWrapperWithDataSetDescription _ _ => True

instance CallOk.decidable (l : List Pair) (s : CUSchemaDB) :
    (a : Call) → Decidable (CallOk {p | p ∈ l} s a)
  | .change a => Clear.decidable l s a
  | .addDeviceId w d => Usable.decidable s w d
  | .getDeviceAttributeDescription w d n | .getDeviceAttributeDirection w d n
  | .getDeviceAttributeRangeValueInfo w d n =>
    inferInstanceAs (Decidable ((d, n) ∈ l ∧ Usable s w d))
  | .fillDataWrapperWithDataSetDescription _ _ => isTrue trivial

/-- The ids of the entities are the same as `int` and as `int64_t`, and the properties of a device
fit in a new database. -/
structure Room (s : CUSchemaDB) : Prop where
  entities : s.entityDB.seq < 2 ^ 31
  properties : s.property.length + 1 < 2 ^ 32

/-! ## The calls -/

variable {s t u : CUSchemaDB} {w : World} {U : Set Pair} {p : Pair} {d n : List Char}
  {e c : Entity} {id : UInt32}

theorem Usable.spec (h : Usable s w d) (hs : Inv U s) :
    ∃ t e, s.getDeviceEntity w d = some (t, e) ∧ t.deviceEntityMap d = some e ∧
      Change U {d} ∅ 1 s t :=
  useDevice_spec hs (by have := h.ids; omega) h.fit h.fresh

theorem element_change (hU : Separated U) (hs : Inv U s) (hp : (d, n) ∈ U) (h : Usable s w d) :
    ∃ t e u c, s.getDeviceEntity w d = some (t, e) ∧ t.getDatasetElement w e n = some (u, c) ∧
      Change U {d} {(d, n)} 2 s u := by
  have hseq := h.ids
  obtain ⟨t, e, ht, he, hdevice⟩ := h.spec hs
  have hseq' := hdevice.seq
  obtain ⟨u, c, hu, -, hrow, -⟩ := getDatasetElement_spec (w := w) hU hdevice.inv (by omega) hp he
  exact ⟨t, e, u, c, ht, hu, (hdevice.mono (Set.empty_subset _) le_rfl).trans hrow⟩

/-- A call on pairs in play can be made, and leaves each device a row of its own. -/
theorem call_change (hU : Separated U) (hs : Inv U s) (hown : OwnRows s) {a : Call}
    (hok : CallOk U s a) : ∃ t, s.call a = some t ∧ Inv U t ∧ OwnRows t := by
  cases a with
  | change a =>
    obtain ⟨t, ht, hchange⟩ := step_change hU hs hok
    exact ⟨t, ht, hchange.inv, hchange.own hown⟩
  | addDeviceId w d =>
    obtain ⟨t, e, ht, -, hchange⟩ := Usable.spec hok hs
    obtain ⟨u, hu, h⟩ := Option.bind_eq_some_iff.mp ht
    obtain ⟨e', -, heq⟩ := Option.bind_eq_some_iff.mp h
    cases heq
    exact ⟨t, hu, hchange.inv, hchange.own hown⟩
  | getDeviceAttributeDescription w d n =>
    obtain ⟨t, e, u, c, ht, hu, hchange⟩ := element_change hU hs hok.1 hok.2
    refine ⟨u, ?_, hchange.inv, hchange.own hown⟩
    simp only [call, getDeviceAttributeDescription, ht, hu, Option.bind_eq_bind, Option.bind_some]
    cases u.getPropertyByKeyID c [.ATTRIBUTE_DESCRIPTION] <;> rfl
  | getDeviceAttributeDirection w d n =>
    obtain ⟨t, e, u, c, ht, hu, hchange⟩ := element_change hU hs hok.1 hok.2
    refine ⟨u, ?_, hchange.inv, hchange.own hown⟩
    simp only [call, getDeviceAttributeDirection, ht, hu, Option.bind_eq_bind, Option.bind_some]
    cases u.getPropertyByKeyID c [.ATTRIBUTE_DIRECTION] <;> rfl
  | getDeviceAttributeRangeValueInfo w d n =>
    obtain ⟨t, e, ht, -, hchange⟩ := hok.2.spec hs
    refine ⟨t, ?_, hchange.inv, hchange.own hown⟩
    have hname : composeAttributeName d n = name (d, n) := rfl
    obtain ⟨l, hl, hchild⟩ := exists_childs (R := Child U t)
      (t.searchEntityByParentIDAndKeyValue e.entityID .ATTRIBUTE_NAME (name (d, n))) fun y hy =>
        ⟨⟨y, name (d, n)⟩, rfl, (d, n), hok.1, rfl,
          ((mem_search_iff hU hchange.inv hok.1).mp hy).2⟩
    simp only [call, getDeviceAttributeRangeValueInfo, hname, hU.fit _ hok.1, if_true, ht, ← hl,
      getChilds_eq w.memory hU hchange.inv l hchild, Option.bind_eq_bind, Option.bind_some]
    cases l with
    | nil => rfl
    | cons c l =>
      dsimp only
      cases t.getPropertyByKeyID c [.MAX_RANGE, .MIN_RANGE, .DEFAULT_VALUE, .ATTRIBUTE_TYPE,
        .VALUE_MAX_SIZE] <;> rfl
  | fillDataWrapperWithDataSetDescription w d =>
    refine ⟨s, ?_, hs, hown⟩
    cases he : s.deviceEntityMap d with
    | none => simp [call, fillDataWrapperWithDataSetDescription, he]
    | some e =>
      obtain ⟨l, hl, hchild⟩ := exists_childsOf hs hown he
      have hfill := fill_eq hU hs he hchild ((childIDS_spec (U := U) hs hown he).1.trans hl.symm) w
      simp [call, hfill]

/-! ## The description -/

theorem bindInt_nonneg (h : id.toNat < 2 ^ 31) : 0 ≤ bindInt id := by
  change 0 ≤ id.toBitVec.toInt
  have hid : id.toBitVec.toNat < 2 ^ 31 := h
  rw [BitVec.toInt_eq_toNat_cond]
  split_ifs <;> omega

theorem name_cancel {m : List Char} (h : name (d, m) = name (d, n)) : m = n :=
  (List.cons.inj (List.append_cancel_left h)).2

/-- The rows of a pair are those of its name. -/
theorem named_name (hs : Inv U s) {q : Pair} (h : s.Named p id) (h' : s.Named q id) :
    name p = name q :=
  (textRow_inj (row_eq hs h h' rfl)).2.1

/-- A child of which something is known is described by its name and the values of its keys. -/
theorem describe_child (hs : Inv U s) (hroom : Room s) (he : s.deviceEntityMap d = some e)
    (hchild : ChildOf U s d c) : ∃ n, (d, n) ∈ U ∧ s.Named (d, n) c.entityID ∧
      s.describeAttribute e c =
        if s.propsOf c.entityID = [] then none else some (n, s.valuesOf c.entityID) := by
  obtain ⟨⟨d, n⟩, hp, hstr, hnamed, rfl⟩ := hchild
  have hbound : c.entityID.toNat < 2 ^ 31 := (hs.bound _ hnamed).trans_lt hroom.entities
  refine ⟨n, hp, hnamed, ?_⟩
  have hname : c.strValue.drop (e.strValue.length + 1) = n := by
    rw [hstr, (hs.devices _ e he).1]
    simp [name, composeAttributeName, List.drop_append]
  unfold describeAttribute
  rw [getAllProperty_eq hs, if_pos (bindInt_nonneg hbound), hname]
  unfold valuesOf
  cases s.propsOf c.entityID <;> rfl

/-- What is described of a child is its name and the values of its keys. -/
theorem describe_some (hs : Inv U s) (hroom : Room s) (he : s.deviceEntityMap d = some e)
    (hchild : ChildOf U s d c) {x : Described} (h : s.describeAttribute e c = some x) :
    (d, x.1) ∈ U ∧ s.Named (d, x.1) c.entityID ∧ s.valuesOf c.entityID = x.2 ∧
      s.propsOf c.entityID ≠ [] := by
  obtain ⟨n, hp, hnamed, heq⟩ := describe_child hs hroom he hchild
  rw [heq] at h
  split_ifs at h with hempty
  cases h
  exact ⟨hp, hnamed, rfl, hempty⟩

/-- What the description of a device says of its attributes and servers. -/
structure Describes (U : Set Pair) (s : CUSchemaDB) (d : List Char) (e : Entity)
    (description : DatasetDescription) : Prop where
  device : description.DEVICE_ID = d
  servers : description.CS_DM_LD_SERVER_ADDRESS = s.servers d
  pairs : ∀ x ∈ description.DESCRIPTION, (d, x.1) ∈ U
  names : (description.DESCRIPTION.map Prod.fst).Nodup
  rows : ∀ x ∈ description.DESCRIPTION, ∃ id, s.Named (d, x.1) id ∧
    (e.entityID, id) ∈ s.entity_group ∧ s.valuesOf id = x.2 ∧ s.propsOf id ≠ []
  all : ∀ n, s.Attribute (d, n) → n ∈ description.DESCRIPTION.map Prod.fst
  length : description.DESCRIPTION.length ≤ s.entityDB.seq + 1
  size : sentSize description.DESCRIPTION + description.CS_DM_LD_SERVER_ADDRESS.length ≤
    s.property.length

theorem childs_nodup (ht : Tidy s) (x : UInt32) :
    ((s.entity_group.filter (·.1 = x)).map Prod.snd).Nodup := by
  refine List.Nodup.map_on ?_ (ht.group.filter _)
  intro g hg g' hg' hsnd
  have hfst := of_decide_eq_true (List.mem_filter.mp hg).2
  have hfst' := of_decide_eq_true (List.mem_filter.mp hg').2
  exact Prod.ext (hfst.trans hfst'.symm) hsnd

/-- There are no more children than entities. -/
theorem childs_length (hs : Inv U s) {l : List Entity} (hids : (l.map Entity.entityID).Nodup)
    (hchild : ∀ c ∈ l, ChildOf U s d c) : l.length ≤ s.entityDB.seq + 1 := by
  have hnodup : ((l.map Entity.entityID).map UInt32.toNat).Nodup :=
    hids.map fun _ _ => UInt32.toNat_inj.mp
  have hsub : (l.map Entity.entityID).map UInt32.toNat ⊆ List.range (s.entityDB.seq + 1) := by
    intro i hi
    rw [List.map_map] at hi
    obtain ⟨c, hc, rfl⟩ := List.mem_map.mp hi
    obtain ⟨p, -, -, hnamed, -⟩ := hchild c hc
    exact List.mem_range.mpr (Nat.lt_succ_of_le (hs.bound _ hnamed))
  simpa using (hnodup.subperm hsub).length_le

/-- The properties of the children and the servers are different rows of the table. -/
theorem childs_size (hs : Inv U s) (he : s.deviceEntityMap d = some e) {l : List Entity}
    (hids : (l.map Entity.entityID).Nodup) (hchild : ∀ c ∈ l, ChildOf U s d c)
    (keyIDs : List DatasetKey) : (l.map fun c => (s.propsOf c.entityID).length).sum +
      (s.getPropertyByKeyID e keyIDs).length ≤ s.property.length := by
  have hproperty : s.property.Nodup := List.Nodup.of_map _ hs.propertyIDs
  have hnodup : (l.flatMap (fun c => s.propsOf c.entityID) ++
      s.getPropertyByKeyID e keyIDs).Nodup := by
    refine List.nodup_append.mpr ⟨List.nodup_flatMap.mpr ⟨?_, ?_⟩, hproperty.filter _, ?_⟩
    · exact fun c _ => hproperty.filter _
    · refine (List.pairwise_map.mp hids).imp fun {c c'} hne row hrow hrow' => hne ?_
      exact bindInt_inj ((of_decide_eq_true (List.mem_filter.mp hrow).2).symm.trans
        (of_decide_eq_true (List.mem_filter.mp hrow').2))
    · rintro row hrow _ hrow' rfl
      obtain ⟨c, hc, hrow⟩ := List.mem_flatMap.mp hrow
      obtain ⟨p, -, -, hnamed, -⟩ := hchild c hc
      obtain ⟨-, str, hdevice⟩ := hs.devices d e he
      have hid := (mem_getProperty.mp hrow').2.1
      exact device_ne_named hs hdevice hnamed
        (bindInt_inj (hid.symm.trans (of_decide_eq_true (List.mem_filter.mp hrow).2)))
  have hsub : l.flatMap (fun c => s.propsOf c.entityID) ++ s.getPropertyByKeyID e keyIDs ⊆
      s.property := by
    intro row hrow
    rcases List.mem_append.mp hrow with hrow | hrow
    · obtain ⟨c, -, hrow⟩ := List.mem_flatMap.mp hrow
      exact (List.mem_filter.mp hrow).1
    · exact (mem_getProperty.mp hrow).1
  simpa [List.length_flatMap] using (hnodup.subperm hsub).length_le

theorem sentSize_childs (hs : Inv U s) (hroom : Room s) (he : s.deviceEntityMap d = some e)
    {l : List Entity} (hchild : ∀ c ∈ l, ChildOf U s d c) :
    sentSize (l.filterMap (s.describeAttribute e)) ≤
      (l.map fun c => (s.propsOf c.entityID).length).sum := by
  induction l with
  | nil => rfl
  | cons c l ih =>
    obtain ⟨n, -, -, hdescribe⟩ := describe_child hs hroom he (hchild c List.mem_cons_self)
    have htail := ih fun c' hc' => hchild c' (List.mem_cons_of_mem _ hc')
    rw [List.filterMap_cons, hdescribe, List.map_cons, List.sum_cons]
    split_ifs
    · exact htail.trans (Nat.le_add_left _ _)
    · have hlength : (sentValues (s.valuesOf c.entityID)).length ≤
          (s.propsOf c.entityID).length := by
        simpa [valuesOf] using length_sentValues (s.valuesOf c.entityID)
      exact Nat.add_le_add hlength htail

/-- The description of a device says what the database holds of it. -/
theorem exists_description (hU : Separated U) (hs : Inv U s) (hown : OwnRows s) (ht : Tidy s)
    (hroom : Room s) (he : s.deviceEntityMap d = some e) :
    ∃ description, (∀ w, s.dataset w d = some (some description)) ∧
      Describes U s d e description := by
  obtain ⟨l, hl, hchild⟩ := exists_childsOf (U := U) hs hown he
  have hids : (l.map Entity.entityID).Nodup := hl ▸ childs_nodup ht e.entityID
  have hmem : ∀ c, c ∈ l → (e.entityID, c.entityID) ∈ s.entity_group := by
    intro c hc
    have hid := List.mem_map_of_mem (f := Entity.entityID) hc
    rw [hl] at hid
    obtain ⟨g, hg, hsnd⟩ := List.mem_map.mp hid
    obtain ⟨hg, hfst⟩ := List.mem_filter.mp hg
    rw [← of_decide_eq_true hfst, ← hsnd]
    exact hg
  refine ⟨_, dataset_eq hU hs he hchild ((childIDS_spec (U := U) hs hown he).1.trans hl.symm),
    ⟨(hs.devices d e he).1, by simp [servers, he], ?_, ?_, ?_, ?_, ?_, ?_⟩⟩
  · intro x hx
    obtain ⟨c, hc, hdescribe⟩ := List.mem_filterMap.mp hx
    exact (describe_some hs hroom he (hchild c hc) hdescribe).1
  · -- two children with one name would have one row
    refine List.pairwise_map.mpr (List.pairwise_filterMap.mpr ?_)
    refine (List.pairwise_map.mp hids).imp_of_mem fun {c c'} hc hc' hne x hx x' hx' heq => hne ?_
    obtain ⟨-, hnamed, -⟩ := describe_some hs hroom he (hchild c hc) hx
    obtain ⟨-, hnamed', -⟩ := describe_some hs hroom he (hchild c' hc') hx'
    exact hs.once _ _ _ hnamed (heq ▸ hnamed')
  · intro x hx
    obtain ⟨c, hc, hdescribe⟩ := List.mem_filterMap.mp hx
    obtain ⟨-, hnamed, hvalues, hne⟩ := describe_some hs hroom he (hchild c hc) hdescribe
    exact ⟨c.entityID, hnamed, hmem c hc, hvalues, hne⟩
  · rintro n ⟨e', i, he', hgroup, hnamed, hne⟩
    cases he.symm.trans he'
    have hid : i ∈ l.map Entity.entityID := by
      rw [hl]
      exact List.mem_map.mpr ⟨(e.entityID, i), List.mem_filter.mpr ⟨hgroup, by simp⟩, rfl⟩
    obtain ⟨c, hc, rfl⟩ := List.mem_map.mp hid
    obtain ⟨m, -, hnamed', hdescribe⟩ := describe_child hs hroom he (hchild c hc)
    rw [if_neg hne] at hdescribe
    have hm : m = n := name_cancel (named_name hs hnamed' hnamed)
    exact hm ▸ List.mem_map_of_mem (List.mem_filterMap.mpr ⟨c, hc, hdescribe⟩)
  · exact (List.length_filterMap_le _ l).trans (childs_length hs hids hchild)
  · refine le_trans ?_ (childs_size hs he hids hchild [.CS_DM_LD_SERVER_ADDRESS])
    rw [List.length_map]
    exact Nat.add_le_add_right (sentSize_childs hs hroom he hchild) _

/-! ## The round trip -/

theorem fits_valuesOf (ht : Tidy s) (k : UInt32) :
    ∀ v ∈ s.valuesOf k, fits v.2.strValue = true := by
  intro v hv
  obtain ⟨row, hrow, rfl⟩ := List.mem_map.mp hv
  exact ht.fit row (List.mem_filter.mp hrow).1

theorem fits_servers (ht : Tidy s) (d : List Char) : ∀ str ∈ s.servers d, fits str = true := by
  intro str hstr
  unfold servers at hstr
  cases he : s.deviceEntityMap d with
  | none => simp [he] at hstr
  | some e =>
    rw [he] at hstr
    obtain ⟨row, hrow, rfl⟩ := List.mem_map.mp hstr
    exact ht.fit row (mem_getProperty.mp hrow).1

/-- An attribute of which something is known is still known after it was sent. -/
theorem sentValues_ne_nil (hs : Inv U s) (ht : Tidy s) (h : s.Named p id)
    (hne : s.propsOf id ≠ []) : sentValues (s.valuesOf id) ≠ [] := by
  obtain ⟨row, hrow⟩ := List.exists_mem_of_ne_nil _ hne
  obtain ⟨keyID, hkey, hid, -⟩ := attribute_rows hs ht h row hrow
  cases hvalue : (s.valuesOf id).lookup (mapDatasetKeyForID keyID) with
  | none =>
    have hnone := List.lookup_eq_none_iff.mp hvalue _ (List.mem_map_of_mem hrow)
    simp [keyAndValue, hid] at hnone
  | some value =>
    exact List.ne_nil_of_mem (mem_sentValues.mpr ⟨hkey, value, hvalue, rfl⟩ :
      (keyID, sent keyID value) ∈ _)

/-- What the new database holds of an attribute was sent from what the old one holds. -/
theorem sentFrom_rebuilt (hs : Inv U s) (ht : Tidy s) (h : s.Named p id) {i : UInt32}
    (hvalues : t.valuesOf i =
      (sentValues (s.valuesOf id)).map fun v => (mapDatasetKeyForID v.1, v.2)) :
    SentFrom (s.valueOf id) (t.valueOf i) where
  sendable _ _ := sendable_valueOf hs ht h
  sent keyID hkey := by
    have hlookup := lookup_sentValues (s.valuesOf id) hkey
    rw [← hvalues] at hlookup
    exact hlookup

/-- An attribute that is described has an entity in both databases, with the values that were sent
in the new one. -/
theorem exists_rebuilt (hs : Inv U s) (ht : Tidy s) {description : DatasetDescription}
    (hdesc : Describes U s d e description) (he : s.deviceEntityMap d = some e)
    (hbuilt : Rebuilt U d c description.DESCRIPTION t)
    (hn : n ∈ description.DESCRIPTION.map Prod.fst) : (d, n) ∈ U ∧ s.Attribute (d, n) ∧
      t.Attribute (d, n) ∧ ∃ i j, s.Named (d, n) i ∧ t.Named (d, n) j ∧
        SentFrom (s.valueOf i) (t.valueOf j) := by
  obtain ⟨x, hx, rfl⟩ := List.mem_map.mp hn
  obtain ⟨i, hi, hgroup, hvalues, hne⟩ := hdesc.rows x hx
  obtain ⟨j, hj, hgroup', hvalues'⟩ := hbuilt.rows x hx
  rw [← hvalues] at hvalues'
  refine ⟨hdesc.pairs x hx, ⟨e, i, he, hgroup, hi, hne⟩, ⟨c, j, hbuilt.device, hgroup', hj, ?_⟩,
    i, j, hi, hj, sentFrom_rebuilt hs ht hi hvalues'⟩
  intro hempty
  rw [← valuesOf_eq_nil, hvalues', List.map_eq_nil_iff] at hempty
  exact sentValues_ne_nil hs ht hi hne hempty

theorem Attribute.listed (h : s.Attribute p) : s.Listed p := by
  obtain ⟨e, i, he, hgroup, hi, -⟩ := h
  exact ⟨e, i, he, hgroup, hi⟩

/-- A new database has no other attributes than those that it was fed. -/
theorem Rebuilt.mem_of_attribute {xs : List Described} (h : Rebuilt U d e xs t)
    (hn : t.Attribute (d, n)) : n ∈ xs.map Prod.fst := by
  obtain ⟨e', i, -, hgroup, hi, -⟩ := hn
  obtain ⟨⟨d', m⟩, hp, -, -, -, hi'⟩ := h.inv.group _ hgroup
  obtain ⟨rfl, hm⟩ := h.only _ hp i hi'
  exact name_cancel (named_name h.inv hi' hi) ▸ hm

theorem same_rebuilt (hU : Separated U) (hs : Inv U s) (ht : Tidy s)
    {description : DatasetDescription} (hdesc : Describes U s d e description)
    (he : s.deviceEntityMap d = some e) (hbuilt : Rebuilt U d c description.DESCRIPTION t)
    (ht' : Tidy t) (hseq : s.entityDB.seq + 4 < 2 ^ 32) (hservers : s.servers d = t.servers d) :
    SameDataset d s t := by
  have hlength := hdesc.length
  have hseq' := hbuilt.seq
  have hattribute : ∀ n, s.Attribute (d, n) → (d, n) ∈ U ∧ t.Attribute (d, n) ∧
      ∃ i j, s.Named (d, n) i ∧ t.Named (d, n) j ∧ SentFrom (s.valueOf i) (t.valueOf j) := by
    intro n hn
    obtain ⟨hp, -, hrest⟩ := exists_rebuilt hs ht hdesc he hbuilt (hdesc.all n hn)
    exact ⟨hp, hrest⟩
  refine ⟨fun n => ⟨fun hn => (hattribute n hn).2.1, fun hn => ?_⟩, ?_, ?_, ?_, hservers⟩
  · exact (exists_rebuilt hs ht hdesc he hbuilt (hbuilt.mem_of_attribute hn)).2.1
  · intro n hn w w' old
    obtain ⟨hp, -, i, j, hi, hj, hsent⟩ := hattribute n hn
    refine ⟨_, description_valueOf hU hs (by omega) hp hi w old, ?_⟩
    rw [description_valueOf hU hbuilt.inv (by omega) hp hj,
      hsent.same .ATTRIBUTE_DESCRIPTION (by decide) (by decide)]
  · intro n hn w w'
    obtain ⟨hp, -, i, j, hi, hj, hsent⟩ := hattribute n hn
    refine ⟨_, direction_valueOf hU hs (by omega) hp hi w, ?_⟩
    rw [direction_valueOf hU hbuilt.inv (by omega) hp hj,
      hsent.same .ATTRIBUTE_DIRECTION (by decide) (by decide)]
  · intro n hn w w' rangeInfo
    obtain ⟨hp, hn', i, j, hi, hj, hsent⟩ := hattribute n hn
    obtain ⟨found, hrange, hfound⟩ :=
      range_valueOf hU hs ht (by omega) hp hi hn.listed w rangeInfo
    obtain ⟨found', hrange', hfound'⟩ :=
      range_valueOf hU hbuilt.inv ht' (by omega) hp hj hn'.listed w' rangeInfo
    have hkeys : ∀ keyID ∈ rangeKeys, keyID ∈ attributeKeys := by decide
    have hsame : found' = found := by
      have hiff : found' = false ↔ found = false := by
        rw [hfound, hfound']
        exact forall₂_congr fun keyID hkey => hsent.none_iff (hkeys keyID hkey)
      cases found <;> simpa using hiff
    exact ⟨_, hrange, by rw [hrange', hsent.range, hsame]⟩

theorem round_trip (hU : Separated U) (hs : Inv U s) (hown : OwnRows s) (ht : Tidy s)
    (hroom : Room s) (hd : (s.deviceEntityMap d).isSome) : RoundTrips s d := by
  obtain ⟨e, he⟩ := Option.isSome_iff_exists.mp hd
  obtain ⟨description, hdataset, hdesc⟩ := exists_description hU hs hown ht hroom he
  intro w w'
  have hentities := hroom.entities
  have hproperties := hroom.properties
  have hlength := hdesc.length
  have hsize := hdesc.size
  have hdevice := hdesc.device
  subst hdevice
  obtain ⟨t, c, hadd, hbuilt, hservers⟩ := addPack_new (w := w') hU description hdesc.pairs
    hdesc.names (by omega) (by omega) (ht.devices _ e he)
    (fun x hx => by
      obtain ⟨i, -, -, hvalues, -⟩ := hdesc.rows x hx
      exact hvalues ▸ fits_valuesOf ht i)
    (hdesc.servers ▸ fits_servers ht _)
  refine ⟨description, t, hdataset w, hadd, same_rebuilt hU hs ht hdesc he hbuilt
    ((keeps_addPack hadd).tidy tidy_new) (by omega) ?_⟩
  rw [← hdesc.servers, servers, hbuilt.device]
  exact hservers.symm

/-- In every run of calls on separated names, the dataset of every device round trips in the state
that is reached, when there is room for it. -/
theorem datasets_round_trip (hU : Separated U) {as : List Call}
    (hok : RunOk call (CallOk U) {} as) :
    ∃ s, run call {} as = some s ∧
      (Room s → ∀ d, (s.deviceEntityMap d).isSome → RoundTrips s d) := by
  have hown : OwnRows {} := nofun
  obtain ⟨s, hr, hs, hown, ht⟩ := run_ends_of_ok (fun s => Inv U s ∧ OwnRows s ∧ Tidy s)
    (fun s a h hok => by
      obtain ⟨t, ht, hinv, hown⟩ := call_change hU h.1 h.2.1 hok
      exact ⟨t, ht, hinv, hown, (call_keeps ht).tidy h.2.2⟩)
    ⟨inv_new U, hown, tidy_new⟩ hok
  exact ⟨s, hr, fun hroom d hd => round_trip hU hs hown ht hroom hd⟩

/-! ## Names that are not patterns -/

def Plain (str : List Char) : Prop := '%' ∉ str ∧ '_' ∉ str

instance (str : List Char) : Decidable (Plain str) :=
  inferInstanceAs (Decidable ('%' ∉ str ∧ '_' ∉ str))

/-- The letters of ASCII in one case. -/
def lower (str : List Char) : List Char := str.map Char.toLower

theorem like_plain {pattern : List Char} (h : Plain pattern) (str : List Char) :
    like pattern str = true ↔ lower pattern = lower str := by
  unfold lower
  induction pattern generalizing str with
  | nil => cases str <;> simp [like]
  | cons c pattern ih =>
    have hc : c ≠ '%' ∧ c ≠ '_' ∧ Plain pattern := by
      unfold Plain at h ⊢
      simp only [List.mem_cons, not_or] at h
      exact ⟨Ne.symm h.1.1, Ne.symm h.2.1, h.1.2, h.2.2⟩
    cases str with
    | nil => simp [like, hc]
    | cons c' str => simp [like, hc, ih hc.2.2]

theorem toLower_eq_colon {c : Char} (h : c.toLower = ':') : c = ':' := by
  unfold Char.toLower at h
  split at h
  · rename_i hupper
    have hval := congrArg (fun c : Char => c.val.toNat) h
    simp only [ge_iff_le, UInt32.le_iff_toNat_le] at hupper
    simp at hval hupper
    omega
  · exact h

theorem colon_split {a a' b b' : List Char} (h : a ++ ':' :: b = a' ++ ':' :: b')
    (hb : ':' ∉ b) (hb' : ':' ∉ b') : a = a' ∧ b = b' := by
  rcases List.append_eq_append_iff.mp h with ⟨m, rfl, hm⟩ | ⟨m, rfl, hm⟩
  all_goals
    cases m with
    | nil => simpa [eq_comm] using hm
    | cons c m =>
      obtain ⟨-, rfl⟩ := List.cons.inj hm
      simp at hb hb'

/-- Attributes with plain names in which no colon stands, on devices with plain ids, are separated
when they differ in more than the case of their letters. -/
theorem separated_of_plain (hfit : ∀ p ∈ U, fits (name p) = true) (hplain : ∀ p ∈ U, Plain (name p))
    (hcolon : ∀ p ∈ U, ':' ∉ p.2) (hcase : ∀ p ∈ U, ∀ q ∈ U, lower p.1 = lower q.1 →
      lower p.2 = lower q.2 → p = q) : Separated U where
  fit := hfit
  apart := by
    intro p hp q hq hlike
    have hlower := (like_plain (hplain p hp) _).mp hlike
    have hcolon' : ∀ n : List Char, ':' ∉ n → ':' ∉ lower n := by
      intro n hn hmem
      obtain ⟨c, hc, hlow⟩ := List.mem_map.mp hmem
      exact hn (toLower_eq_colon hlow ▸ hc)
    simp only [name, composeAttributeName, lower, List.map_append, List.map_cons] at hlower
    obtain ⟨hdevice, hname⟩ := colon_split hlower (hcolon' _ (hcolon p hp))
      (hcolon' _ (hcolon q hq))
    exact hcase p hp q hq hdevice hname

/-! ## Runs -/

/-- Two attributes and two servers, with a range and a read. -/
def oneDevice : List Call :=
  [.change (addInt32 ['D'] ['a'] ['1']),
    .change (.setDeviceAttributeRangeValueInfo ⟨0, 7⟩ ['D'] ['a']
      { maxRange := ['9'], minRange := ['0'], defaultValue := ['5'] }),
    .change (.addAttributeToDataSetFromDataWrapper ⟨0, 7⟩
      { DEVICE_ID := .value ['D']
        CS_DM_LD_SERVER_ADDRESS := .value [some ['s'], some ['r']] }),
    .getDeviceAttributeDescription ⟨0, 7⟩ ['D'] ['b']]

def onePairs : List Pair := [(['D'], ['a']), (['D'], ['b'])]

theorem separated_onePairs : Separated {p | p ∈ onePairs} :=
  separated_of_plain (show ∀ p ∈ onePairs, fits (name p) = true by decide)
    (show ∀ p ∈ onePairs, Plain (name p) by decide) (show ∀ p ∈ onePairs, ':' ∉ p.2 by decide)
    (show ∀ p ∈ onePairs, ∀ q ∈ onePairs, lower p.1 = lower q.1 → lower p.2 = lower q.2 → p = q by
      decide)

theorem one_device_round_trips : ∃ s, run call {} oneDevice = some s ∧ RoundTrips s ['D'] := by
  obtain ⟨s, hs, hall⟩ := datasets_round_trip separated_onePairs
    (show RunOk call (CallOk {p | p ∈ onePairs}) {} oneDevice by decide)
  have hstate : (run call {} oneDevice).all (fun s => decide (s.entityDB.seq < 2 ^ 31) &&
      decide (s.property.length + 1 < 2 ^ 32) && (s.deviceEntityMap ['D']).isSome) = true := by
    decide
  rw [hs] at hstate
  simp only [Option.all_some, Bool.and_eq_true, decide_eq_true_eq] at hstate
  exact ⟨s, hs, hall ⟨hstate.1.1, hstate.1.2⟩ ['D'] hstate.2⟩

/-- The attributes that a call names. -/
def Call.names : Call → List (List Char)
  | .change a => a.names
  | .getDeviceAttributeDescription _ _ n | .getDeviceAttributeDirection _ _ n
  | .getDeviceAttributeRangeValueInfo _ _ n => [n]
  | .addDeviceId _ _ | .fillDataWrapperWithDataSetDescription _ _ => []

/-- The device `%%` finds the entity of the device `A`, and adds its attribute there. -/
def wildcardDevice : List Call :=
  [.change (addInt32 ['A'] ['x'] ['1']), .change (addInt32 ['%', '%'] ['y'] ['2'])]

/-- The attribute that the description of `A` takes from `%%` is a new one. -/
theorem wildcard_attribute : ∃ s, run call {} wildcardDevice = some s ∧
    (s.deviceEntityMap ['A']).isSome ∧ ¬ s.Attribute (['A'], [':', 'y']) ∧
    ∀ description t, s.dataset ⟨0, 7⟩ ['A'] = some (some description) →
      ({} : CUSchemaDB).addAttributeToDataSetFromDataWrapper ⟨0, 7⟩ description.pack = some t →
      t.Attribute (['A'], [':', 'y']) := by
  have hstate : (run call {} wildcardDevice).any (fun s => (s.deviceEntityMap ['A']).isSome &&
      (s.entityDB.entity.all fun row => decide (row.str_value ≠ some ['A', ':', ':', 'y'])) &&
      ((s.dataset ⟨0, 7⟩ ['A']).join.bind fun description =>
        ({} : CUSchemaDB).addAttributeToDataSetFromDataWrapper ⟨0, 7⟩ description.pack).all fun t =>
          decide (t.deviceEntityMap ['A'] = some ⟨1, ['A']⟩) && decide ((1, 3) ∈ t.entity_group) &&
            decide (textRow .ATTRIBUTE_NAME ['A', ':', ':', 'y'] 3 ∈ t.entityDB.entity) &&
            !(t.propsOf 3).isEmpty) = true := by
    decide
  obtain ⟨s, hs⟩ : ∃ s, run call {} wildcardDevice = some s :=
    Option.isSome_iff_exists.mp (by decide)
  rw [hs] at hstate
  simp only [Option.any_some, Bool.and_eq_true, List.all_eq_true, decide_eq_true_eq] at hstate
  obtain ⟨⟨hdevice, hrows⟩, hnew⟩ := hstate
  refine ⟨s, hs, hdevice, ?_, ?_⟩
  · rintro ⟨e, i, -, -, hnamed, -⟩
    exact hrows _ hnamed rfl
  · intro description t hdescription ht
    simp only [hdescription, Option.join_some, Option.bind_some, ht, Option.all_some,
      Bool.and_eq_true, decide_eq_true_eq, Bool.not_eq_true', List.isEmpty_eq_false_iff] at hnew
    obtain ⟨⟨⟨he, hgroup⟩, hnamed⟩, hprops⟩ := hnew
    exact ⟨⟨1, ['A']⟩, 3, he, hgroup, hnamed, hprops⟩

theorem wildcard_device_is_confused : ¬ ∀ (as : List Call) (s : CUSchemaDB) (d : List Char),
    (∀ n ∈ as.flatMap Call.names, Plain n ∧ ':' ∉ n) →
    (∀ n ∈ as.flatMap Call.names, ∀ n' ∈ as.flatMap Call.names, lower n = lower n' → n = n') →
    run call {} as = some s → (s.deviceEntityMap d).isSome → RoundTrips s d := by
  intro h
  obtain ⟨s, hs, hdevice, hnone, hnew⟩ := wildcard_attribute
  obtain ⟨description, t, hdescription, ht, hsame⟩ :=
    h wildcardDevice s ['A'] (by decide) (by decide) hs hdevice ⟨0, 7⟩ ⟨0, 7⟩
  exact hnone ((hsame.attributes [':', 'y']).mpr (hnew description t hdescription ht))

end CUSchemaDB

end chaos.common.data
