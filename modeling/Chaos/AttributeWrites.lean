-- The parts of the calls on a dataset, for any names: a device is looked up, attributes are found and
-- set one after the other, and the servers of the device are replaced.
import Chaos.PropertyWrites

namespace chaos.common.data

open chaos.edb

namespace CUSchemaDB

variable {s t u : CUSchemaDB} {w : World} {e c device : Entity} {keyID : DatasetKey}
  {memory : UInt64} {d n str : List Char}

/-! ## The lookups of entities -/

/-- An entity is the one that is selected, or it takes the next id. -/
theorem newEntity_one_or_new (h : s.getNewEntityInstance keyID memory str = some (t, e)) :
    (∃ row, s.entityDB.entity.filter (SQLiteEntityDB.selects (kivStr keyID memory str)) = [row] ∧
      t = s ∧ e = ⟨row.id, str⟩) ∨
    ((∀ row, s.entityDB.entity.filter (SQLiteEntityDB.selects (kivStr keyID memory str)) ≠ [row]) ∧
      (¬ ∃ row ∈ s.entityDB.entity, row.id = s.entityDB.nextID) ∧ t = s.addRow keyID str ∧
      e = ⟨s.entityDB.nextID, str⟩) := by
  by_cases hsel : ∃ row,
      s.entityDB.entity.filter (SQLiteEntityDB.selects (kivStr keyID memory str)) = [row]
  · obtain ⟨row, hsel⟩ := hsel
    rw [getNewEntityInstance_one hsel] at h
    cases h
    exact .inl ⟨row, hsel, rfl, rfl⟩
  · have hnone := not_exists.mp hsel
    rw [getNewEntityInstance_new hnone] at h
    split_ifs at h with hfree
    cases h
    exact .inr ⟨hnone, hfree, rfl, rfl⟩

theorem exists_newEntity (hs : Good s) (hseq : s.entityDB.seq + 1 < 2 ^ 32) (keyID : DatasetKey)
    (memory : UInt64) (str : List Char) :
    ∃ r, s.getNewEntityInstance keyID memory str = some r := by
  by_cases hsel : ∃ row,
      s.entityDB.entity.filter (SQLiteEntityDB.selects (kivStr keyID memory str)) = [row]
  · obtain ⟨row, hsel⟩ := hsel
    exact ⟨_, getNewEntityInstance_one hsel⟩
  · rw [getNewEntityInstance_new (not_exists.mp hsel), if_neg]
    · exact ⟨_, rfl⟩
    · rintro ⟨row, hrow, hid⟩
      have hbound := hs.bound row hrow
      rw [hid, nextID_toNat hseq] at hbound
      omega

theorem newEntity_effect (hs : Good s)
    (h : s.getNewEntityInstance keyID memory str = some (t, e)) :
    Effect [] 1 0 0 s t ∧ e.strValue = str ∧ ∃ row ∈ t.entityDB.entity, row.id = e.entityID := by
  have htidy := (keeps_getNewEntity h).tidy hs.tidy
  rcases newEntity_one_or_new h with ⟨row, hsel, rfl, rfl⟩ | ⟨-, -, rfl, rfl⟩
  · have hrow : row ∈ t.entityDB.entity.filter
        (SQLiteEntityDB.selects (kivStr keyID memory str)) := by simp [hsel]
    exact ⟨(Effect.refl hs).mono (Nat.zero_le _) le_rfl le_rfl, rfl, row,
      (List.mem_filter.mp hrow).1, rfl⟩
  · have hnew : textRow keyID str s.entityDB.nextID ∈ (s.addRow keyID str).entityDB.entity :=
      mem_addRow.mpr (.inr rfl)
    refine ⟨?_, rfl, ⟨_, hnew, rfl⟩⟩
    refine
      { good := ?_, kept := fun _ _ => id, rows := fun row hrow => mem_addRow.mpr (.inl hrow)
        seq := Nat.le_refl _, group := Nat.le_refl _, propertySeq := Nat.le_refl _, wrote := fun _ => Wrote.refl s }
    refine
      { tidy := htidy, texts := ?_, bound := ?_, group := ?_, devices := hs.devices
        propertyIDs := hs.propertyIDs, propertyBound := hs.propertyBound }
    · intro row hrow
      rcases mem_addRow.mp hrow with hrow | rfl
      · exact hs.texts row hrow
      · rfl
    · intro row hrow
      rcases mem_addRow.mp hrow with hrow | rfl
      · exact Nat.le_succ_of_le (hs.bound row hrow)
      · change (UInt32.ofNat (s.entityDB.seq + 1)).toNat ≤ s.entityDB.seq + 1
        rw [UInt32.toNat_ofNat']
        exact Nat.mod_le ..
    · intro g hg
      obtain ⟨row, hrow, hid⟩ := hs.group g hg
      exact ⟨row, mem_addRow.mpr (.inl hrow), hid⟩

theorem addChild_effect (hs : Good s) (device : Entity)
    (hc : ∃ row ∈ s.entityDB.entity, row.id = c.entityID) :
    Effect [] 0 1 0 s (s.addChild device c) := by
  have htidy := (keeps_addChild s device c).tidy hs.tidy
  unfold addChild at *
  split_ifs with hmem
  · exact (Effect.refl hs).mono le_rfl (Nat.zero_le _) le_rfl
  · rw [if_neg hmem] at htidy
    refine
      { good := { hs with tidy := htidy, group := ?_ }, kept := fun _ _ => id
        rows := fun _ => id, seq := Nat.le_refl _, group := by simp, propertySeq := Nat.le_refl _
        wrote := fun _ => Wrote.refl s }
    intro g hg
    rcases List.mem_append.mp hg with hg | hg
    · exact hs.group g hg
    · cases List.mem_singleton.mp hg
      exact hc

theorem childs_effect {ids : List UInt32} {childs : List Entity} (hs : Good s)
    (h : getChilds keyID memory s ids = some (t, childs)) :
    Effect [] ids.length 0 0 s t ∧
      ∀ child ∈ childs, ∃ row ∈ t.entityDB.entity, row.id = child.entityID := by
  induction ids generalizing s t childs with
  | nil =>
    cases h
    exact ⟨Effect.refl hs, nofun⟩
  | cons i ids ih =>
    simp only [getChilds, Option.bind_eq_bind, Option.bind_eq_some_iff] at h
    obtain ⟨row, -, str, -, ⟨u, child⟩, hu, ⟨v, rest⟩, hv, heq⟩ := h
    cases heq
    obtain ⟨hone, -, r, hr, hid⟩ := newEntity_effect hs hu
    obtain ⟨hmore, hrows⟩ := ih hone.good hv
    refine ⟨(hone.trans hmore).mono (Nat.add_comm ..).le le_rfl le_rfl, ?_⟩
    exact List.forall_mem_cons.mpr ⟨⟨r, hmore.rows r hr, hid⟩, hrows⟩

/-- The row of an id has a text. -/
theorem exists_row {i : UInt32} (hs : Good s) (h : ∃ row ∈ s.entityDB.entity, row.id = i) :
    ∃ row str, (s.entityDB.entity.find? fun row => row.id = i) = some row ∧
      row ∈ s.entityDB.entity ∧ row.id = i ∧ row.str_value = some str := by
  obtain ⟨row₀, hrow₀, hid₀⟩ := h
  have hfind : (s.entityDB.entity.find? fun row => row.id = i).isSome := by
    rw [List.find?_isSome]
    exact ⟨row₀, hrow₀, decide_eq_true hid₀⟩
  obtain ⟨row, hrow⟩ := Option.isSome_iff_exists.mp hfind
  have hmem := List.mem_of_find?_eq_some hrow
  obtain ⟨str, hstr⟩ := Option.isSome_iff_exists.mp (hs.texts row hmem)
  exact ⟨row, str, hrow, hmem, by simpa using List.find?_some hrow, hstr⟩

/-- The children of an id are looked up again, each by the text of its row. -/
theorem exists_getChilds (keyID : DatasetKey) (memory : UInt64) (ids : List UInt32) (hs : Good s)
    (hrows : ∀ i ∈ ids, ∃ row ∈ s.entityDB.entity, row.id = i)
    (hseq : s.entityDB.seq + ids.length < 2 ^ 32) :
    ∃ t childs, getChilds keyID memory s ids = some (t, childs) ∧ childs.length = ids.length := by
  induction ids generalizing s with
  | nil => exact ⟨s, [], rfl, rfl⟩
  | cons i ids ih =>
    obtain ⟨row, str, hrow, -, -, hstr⟩ := exists_row hs (hrows i List.mem_cons_self)
    rw [List.length_cons] at hseq
    obtain ⟨⟨u, child⟩, hu⟩ := exists_newEntity hs (by omega) keyID memory str
    have hone := (newEntity_effect hs hu).1
    have hseq' := hone.seq
    obtain ⟨t, childs, ht, hlen⟩ := ih hone.good
      (fun i' hi' => by
        obtain ⟨r, hr, hid⟩ := hrows i' (List.mem_cons_of_mem _ hi')
        exact ⟨r, hone.rows r hr, hid⟩) (by omega)
    refine ⟨t, child :: childs, ?_, by rw [List.length_cons, List.length_cons, hlen]⟩
    simp [getChilds, hrow, hstr, hu, ht]

/-! ## The device and its attributes -/

theorem length_childIDS {x : UInt32} {selected : EntityRow → Bool} :
    (s.childIDS x selected).length ≤ s.entity_group.length := by
  unfold childIDS
  rw [List.length_map]
  exact List.length_filter_le ..

theorem datasetElement_effect (hs : Good s) (h : s.getDatasetElement w device n = some (t, c)) :
    fits (composeAttributeName device.strValue n) = true ∧
      Effect [] (s.entity_group.length + 1) 1 0 s t ∧
      ∃ row ∈ t.entityDB.entity, row.id = c.entityID := by
  unfold getDatasetElement at h
  dsimp only at h
  split_ifs at h with hfit
  refine ⟨hfit, ?_⟩
  split at h
  · obtain ⟨⟨u, e⟩, hu, heq⟩ := Option.bind_eq_some_iff.mp h
    cases heq
    obtain ⟨hnew, -, r, hr, hid⟩ := newEntity_effect hs hu
    have hadd := addChild_effect hnew.good device ⟨r, hr, hid⟩
    exact ⟨(hnew.trans hadd).mono (by omega) le_rfl le_rfl, r, hadd.rows r hr, hid⟩
  · obtain ⟨⟨u, childs⟩, hu, h⟩ := Option.bind_eq_some_iff.mp h
    obtain ⟨child, hchild, heq⟩ := Option.bind_eq_some_iff.mp h
    cases heq
    obtain ⟨heffect, hrows⟩ := childs_effect hs hu
    refine ⟨heffect.mono ?_ (Nat.zero_le _) le_rfl, hrows c (List.mem_of_head? hchild)⟩
    exact Nat.le_succ_of_le length_childIDS

theorem exists_datasetElement (hs : Good s)
    (hseq : s.entityDB.seq + s.entity_group.length + 1 < 2 ^ 32)
    (hfit : fits (composeAttributeName device.strValue n) = true) :
    ∃ r, s.getDatasetElement w device n = some r := by
  unfold getDatasetElement
  simp only [hfit, if_true]
  rcases hids : s.searchEntityByParentIDAndKeyValue device.entityID .ATTRIBUTE_NAME
    (composeAttributeName device.strValue n) with _ | ⟨i, ids⟩
  · obtain ⟨⟨u, e⟩, hu⟩ := exists_newEntity hs (by omega) .ATTRIBUTE_NAME w.memory
      (composeAttributeName device.strValue n)
    exact ⟨(u.addChild device e, e), by simp [hu]⟩
  · have hlen : (i :: ids).length ≤ s.entity_group.length := hids ▸ length_childIDS
    obtain ⟨t, childs, ht, hchilds⟩ := exists_getChilds .ATTRIBUTE_NAME w.memory (i :: ids) hs
      (by
        intro i' hi'
        rw [← hids] at hi'
        exact hs.group _ (mem_childIDS.mp hi').1) (by omega)
    cases childs with
    | nil => cases hchilds
    | cons child childs => exact ⟨(t, child), by simp [ht]⟩

theorem useDevice_effect (hs : Good s) (hnone : s.deviceEntityMap d = none)
    (hfit : fits d = true) (hstr : e.strValue = d) : Effect [] 0 0 0 s
      { s with deviceEntityMap := Function.update s.deviceEntityMap d (some e) } := by
  have hdevices : ∀ d' e', Function.update s.deviceEntityMap d (some e) d' = some e' →
      e'.strValue = d' := by
    intro d' e' he'
    rcases eq_or_ne d' d with rfl | hne
    · rw [Function.update_self, Option.some.injEq] at he'
      exact he' ▸ hstr
    · rw [Function.update_of_ne hne] at he'
      exact hs.devices d' e' he'
  exact {
    good := { hs with tidy := (keeps_useDevice hnone hfit e).tidy hs.tidy, devices := hdevices }
    kept := (keeps_useDevice hnone hfit e).kept
    rows := fun _ => id
    seq := Nat.le_refl _
    group := Nat.le_refl _
    propertySeq := Nat.le_refl _
    wrote := fun _ => Wrote.refl s }

/-- The time of a device is none of the properties of an attribute. -/
theorem timestamp_effect {timestamp : PropertyValue} (hs : Good s) (htidy : Tidy t)
    (h : s.addUniqueAttributeProperty e .TIMESTAMP timestamp false = some t) :
    Effect [] 0 0 1 s t := by
  unfold addUniqueAttributeProperty at h
  simp only [Bool.false_eq_true, if_false] at h
  split_ifs at h
  · cases h
    exact (Effect.refl hs).mono le_rfl le_rfl (Nat.zero_le _)
  · obtain ⟨-, rfl⟩ := fits_of_addProperty h
    have hkey : DatasetKey.TIMESTAMP ∉ attributeKeys := by decide
    exact { addNewProperty_effect hs (fun hk => absurd hk hkey) htidy with
      wrote := fun _ => wrote_addNewProperty_other hkey s }

theorem device_effect (hs : Good s) (h : s.getDeviceEntity w d = some (t, e)) :
    fits d = true ∧ e.strValue = d ∧ Effect [] 1 0 1 s t := by
  obtain ⟨hkeeps, he⟩ := keeps_getDeviceEntity h
  have htidy := hkeeps.tidy hs.tidy
  obtain ⟨t', ht, h⟩ := Option.bind_eq_some_iff.mp h
  obtain ⟨e', -, heq⟩ := Option.bind_eq_some_iff.mp h
  cases heq
  suffices heffect : Effect [] 1 0 1 s t from
    ⟨htidy.devices d e he, heffect.good.devices d e he, heffect⟩
  unfold addDeviceId at ht
  split_ifs at ht with hmap hfit
  · cases ht
    exact (Effect.refl hs).mono (Nat.zero_le _) le_rfl (Nat.zero_le _)
  obtain ⟨⟨u, e⟩, hu, ht⟩ := Option.bind_eq_some_iff.mp ht
  obtain ⟨hnew, hstr, -⟩ := newEntity_effect hs hu
  have hnone : u.deviceEntityMap d = none := by
    rw [getNewEntityInstance_same hu]
    simpa using hmap
  have huse := useDevice_effect hnew.good hnone hfit hstr
  exact (hnew.trans huse).trans (timestamp_effect huse.good htidy ht)

theorem exists_device (hs : Good s) (hseq : s.entityDB.seq + 1 < 2 ^ 32) (hfit : fits d = true) :
    ∃ r, s.getDeviceEntity w d = some r := by
  unfold getDeviceEntity addDeviceId
  rcases hmap : s.deviceEntityMap d with _ | device
  · obtain ⟨⟨u, e⟩, hu⟩ := exists_newEntity hs hseq .DEVICE_ID w.memory d
    obtain ⟨hnew, hstr, -⟩ := newEntity_effect hs hu
    have hnone : u.deviceEntityMap d = none := by
      rw [getNewEntityInstance_same hu]
      exact hmap
    have huse := useDevice_effect hnew.good hnone hfit hstr
    obtain ⟨t, ht, hset⟩ := addUniqueAttributeProperty_spec e .TIMESTAMP huse.good.propertyIDs
      (show fits (PropertyValue.num w.timestamp).strValue = true from rfl) false
    have hdevice : t.deviceEntityMap d = some e := by
      rw [hset.same]
      exact Function.update_self ..
    exact ⟨(t, e), by simp [hfit, hu, ht, hdevice]⟩
  · exact ⟨(s, device), by simp [hmap]⟩

/-! ## The attributes of a call -/

/-- The attributes are found and set, one after the other. What is found is given too. -/
def setElements (find : CUSchemaDB → List Char → Option (CUSchemaDB × Entity)) :
    CUSchemaDB → List (List Char × List (DatasetKey × PropertyValue)) →
      Option (CUSchemaDB × List (Entity × List (DatasetKey × PropertyValue)))
  | s, [] => some (s, [])
  | s, (attrName, values) :: elements => do
    let (s, attributeEntity) ← find s attrName
    let s ← addUniqueAttributeProperties attributeEntity s values
    let (s, found) ← setElements find s elements
    return (s, (attributeEntity, values) :: found)

def valuesCount (elements : List (List Char × List (DatasetKey × PropertyValue))) : Nat :=
  (elements.map fun element => element.2.length).sum

/-- Attributes of the device `d` are found when their names fit. -/
structure Resolves (find : CUSchemaDB → List Char → Option (CUSchemaDB × Entity))
    (d : List Char) : Prop where
  effect : ∀ s n t c, Good s → find s n = some (t, c) →
    fits (composeAttributeName d n) = true ∧ Effect [] (s.entity_group.length + 1) 1 0 s t ∧
      ∃ row ∈ t.entityDB.entity, row.id = c.entityID
  defined : ∀ s n, Good s → s.entityDB.seq + s.entity_group.length + 1 < 2 ^ 32 →
    fits (composeAttributeName d n) = true → ∃ r, find s n = some r

variable {find : CUSchemaDB → List Char → Option (CUSchemaDB × Entity)}
  {elements : List (List Char × List (DatasetKey × PropertyValue))}
  {found : List (Entity × List (DatasetKey × PropertyValue))}

theorem setElements_effect (hfind : Resolves find d) (hs : Good s)
    (hvalues : ∀ element ∈ elements, ∀ v ∈ element.2, v.1 ∈ attributeKeys ∧ Sendable v.1 v.2)
    (h : setElements find s elements = some (t, found)) :
    (∀ element ∈ elements, fits (composeAttributeName d element.1) = true ∧
      ∀ v ∈ element.2, fits v.2.strValue = true) ∧
    (∀ f ∈ found, ∃ row ∈ t.entityDB.entity, row.id = f.1.entityID) ∧
    Effect (found.flatMap fun f => placed f.1 f.2)
      (elements.length * (s.entity_group.length + elements.length)) elements.length
      (valuesCount elements) s t := by
  induction elements generalizing s t found with
  | nil =>
    cases h
    exact ⟨nofun, nofun, (Effect.refl hs).mono (Nat.zero_le _) le_rfl le_rfl⟩
  | cons element elements ih =>
    obtain ⟨⟨u, c⟩, hu, h⟩ := Option.bind_eq_some_iff.mp h
    obtain ⟨v, hv, h⟩ := Option.bind_eq_some_iff.mp h
    obtain ⟨⟨x, rest⟩, hx, heq⟩ := Option.bind_eq_some_iff.mp h
    cases heq
    obtain ⟨hname, hfound, r, hr, hid⟩ := hfind.effect _ _ _ _ hs hu
    obtain ⟨hfits, hset⟩ := addUniques_effect hfound.good (hvalues element List.mem_cons_self) hv
    obtain ⟨hfits', hrows, hmore⟩ := ih hset.good
      (fun element' h' => hvalues element' (List.mem_cons_of_mem _ h')) hx
    refine ⟨List.forall_mem_cons.mpr ⟨⟨hname, hfits⟩, hfits'⟩, ?_, ?_⟩
    · exact List.forall_mem_cons.mpr ⟨⟨r, hmore.rows r (hset.rows r hr), hid⟩, hrows⟩
    · refine ((hfound.trans hset).trans hmore).mono ?_ ?_ ?_
      · have hgroup := hfound.group
        have hgroup' := hset.group
        have hle : elements.length * (v.entity_group.length + elements.length) ≤
            elements.length * (s.entity_group.length + (elements.length + 1)) :=
          Nat.mul_le_mul_left _ (by omega)
        rw [List.length_cons, Nat.succ_mul]
        omega
      · simp only [List.length_cons]
        omega
      · simp only [valuesCount, List.map_cons, List.sum_cons]
        omega

theorem exists_setElements (hfind : Resolves find d) (hs : Good s)
    (hvalues : ∀ element ∈ elements, ∀ v ∈ element.2, v.1 ∈ attributeKeys ∧ Sendable v.1 v.2)
    (hfits : ∀ element ∈ elements, fits (composeAttributeName d element.1) = true ∧
      ∀ v ∈ element.2, fits v.2.strValue = true)
    (hseq : s.entityDB.seq + elements.length * (s.entity_group.length + elements.length) <
      2 ^ 32) : ∃ r, setElements find s elements = some r := by
  induction elements generalizing s with
  | nil => exact ⟨_, rfl⟩
  | cons element elements ih =>
    obtain ⟨hname, htexts⟩ := hfits element List.mem_cons_self
    rw [List.length_cons, Nat.succ_mul] at hseq
    obtain ⟨⟨u, c⟩, hu⟩ := hfind.defined s element.1 hs (by omega) hname
    obtain ⟨-, hfound, -⟩ := hfind.effect _ _ _ _ hs hu
    obtain ⟨v, hv, -⟩ := addUniqueAttributeProperties_spec c element.2 hfound.good.propertyIDs htexts
    have hset := (addUniques_effect hfound.good (hvalues element List.mem_cons_self) hv).2
    have hone := hfound.trans hset
    have hle : elements.length * (v.entity_group.length + elements.length) ≤
        elements.length * (s.entity_group.length + (elements.length + 1)) :=
      Nat.mul_le_mul_left _ (by have := hone.group; omega)
    obtain ⟨⟨x, rest⟩, hx⟩ := ih hone.good
      (fun element' h' => hvalues element' (List.mem_cons_of_mem _ h'))
      (fun element' h' => hfits element' (List.mem_cons_of_mem _ h'))
      (by have := hone.seq; omega)
    exact ⟨(x, (c, element.2) :: rest), by simp [setElements, hu, hv, hx]⟩

/-! ## The servers -/

theorem wrote_clear {q : Place} (hq : q.2 ∉ attributeKeys) (rows : List PropertyRow) (hs : Good s)
    (hmem : ∀ r ∈ rows, r ∈ s.rowsAt q) (hnodup : (rows.map PropertyRow.id).Nodup) :
    let t := rows.foldl (fun s row => s.deleteProperty row.id) s
    Good t ∧ Wrote [] s t := by
  induction rows generalizing s with
  | nil => exact ⟨hs, Wrote.refl s⟩
  | cons r rows ih =>
    obtain ⟨hgood, hrest⟩ := ih (hs.deleteProperty r.id) (rowsAt_delete_rest hmem hnodup)
      (List.nodup_cons.mp hnodup).2
    refine ⟨hgood, fun p hp => (hrest p hp).trans ?_⟩
    have hne : p ≠ q := by
      rintro rfl
      exact hq hp
    exact congrArg _ (values_delete_ne hs.propertyIDs (hmem r List.mem_cons_self) hne)

/-- The addresses that are read before an element of another type. -/
def addresses (serverVec : List (Option (List Char))) : List (List Char) :=
  (serverVec.takeWhile Option.isSome).reduceOption

theorem addresses_cons {address : List Char} {serverVec : List (Option (List Char))} :
    addresses (some address :: serverVec) = address :: addresses serverVec := by
  simp [addresses, List.reduceOption_cons_of_some]

theorem addServers_effect {serverVec : List (Option (List Char))} (hs : Good s)
    (he : s.deviceEntityMap d = some device) (h : addServers device s serverVec = some t) :
    (∀ str ∈ addresses serverVec, fits str = true) ∧ Good t ∧ Wrote [] s t := by
  induction serverVec generalizing s with
  | nil =>
    cases h
    exact ⟨nofun, hs, Wrote.refl _⟩
  | cons address serverVec ih =>
    cases address with
    | none =>
      cases h
      exact ⟨nofun, hs, Wrote.refl _⟩
    | some address =>
      obtain ⟨u, hu, h⟩ := Option.bind_eq_some_iff.mp h
      have hkeeps := keeps_addProperty hu
        (fun row hid hkey _ => .inl ⟨⟨d, device, he, hid⟩, .inr hkey⟩) (.inl rfl)
      obtain ⟨hfit, rfl⟩ := fits_of_addProperty hu
      have hkey : DatasetKey.CS_DM_LD_SERVER_ADDRESS ∉ attributeKeys := by decide
      have hadd := addNewProperty_effect hs (fun hk => absurd hk hkey) (hkeeps.tidy hs.tidy)
      obtain ⟨hfits, hgood, hwrote⟩ := ih hadd.good (hkeeps.kept _ _ he) h
      refine ⟨?_, hgood, (wrote_addNewProperty_other hkey s).trans hwrote⟩
      rw [addresses_cons]
      exact List.forall_mem_cons.mpr ⟨hfit, hfits⟩

theorem exists_addServers (serverVec : List (Option (List Char))) (s : CUSchemaDB)
    (hfit : ∀ str ∈ addresses serverVec, fits str = true) :
    ∃ t, addServers device s serverVec = some t := by
  induction serverVec generalizing s with
  | nil => exact ⟨s, rfl⟩
  | cons address serverVec ih =>
    cases address with
    | none => exact ⟨s, rfl⟩
    | some address =>
      rw [addresses_cons] at hfit
      obtain ⟨hfirst, hrest⟩ := List.forall_mem_cons.mp hfit
      obtain ⟨u, hu, -⟩ := addProperty_spec s device .CS_DM_LD_SERVER_ADDRESS
        (show fits (PropertyValue.str address).strValue = true from hfirst)
      obtain ⟨t, ht⟩ := ih u hrest
      refine ⟨t, ?_⟩
      unfold addServers
      rw [hu]
      exact ht

/-- The texts of the addresses that a pack gives. -/
def serverTexts : Field (List (Option (List Char))) → List (List Char)
  | .value serverVec => addresses serverVec
  | _ => []

theorem setServers_effect {servers : Field (List (Option (List Char)))} (hs : Good s)
    (he : s.deviceEntityMap d = some device) (h : s.setServers device servers = some t) :
    (∀ str ∈ serverTexts servers, fits str = true) ∧ Good t ∧ Wrote [] s t := by
  have hkey : DatasetKey.CS_DM_LD_SERVER_ADDRESS ∉ attributeKeys := by decide
  have hclear := wrote_clear (q := (device.entityID, .CS_DM_LD_SERVER_ADDRESS)) hkey _ hs
    (fun _ => id) (hs.propertyIDs.sublist (List.filter_sublist.map _))
  rw [← getProperty_rowsAt] at hclear
  cases servers with
  | missing =>
    cases h
    exact ⟨nofun, hs, Wrote.refl _⟩
  | mistyped =>
    cases h
    exact ⟨nofun, hclear⟩
  | value serverVec =>
    have hkept := (keeps_clear s device .CS_DM_LD_SERVER_ADDRESS).kept _ _ he
    obtain ⟨hfits, hgood, hwrote⟩ := addServers_effect hclear.1 hkept h
    exact ⟨hfits, hgood, hclear.2.trans hwrote⟩

theorem exists_setServers (device : Entity) (s : CUSchemaDB)
    {servers : Field (List (Option (List Char)))}
    (hfit : ∀ str ∈ serverTexts servers, fits str = true) :
    ∃ t, s.setServers device servers = some t := by
  cases servers with
  | missing => exact ⟨s, rfl⟩
  | mistyped => exact ⟨_, rfl⟩
  | value serverVec => exact exists_addServers serverVec _ hfit

end CUSchemaDB

end chaos.common.data
