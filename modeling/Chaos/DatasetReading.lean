-- What is read of the attributes of a dataset, from the first value of each key. A value that was
-- sent is read as it was: only a maximum size loses the bits that no getter reads.
import Chaos.AttributeIndependence
import Chaos.DatasetTables

namespace chaos.common.data

open chaos.edb cache

namespace CUSchemaDB

variable {s t : CUSchemaDB} {w : World} {U : Set Pair} {p : Pair} {d : List Char} {e : Entity}
  {id id' : UInt32} {keyID : DatasetKey} {value : PropertyValue}

/-! ## The values of a key -/

def keyAndValue (row : PropertyRow) : UInt32 × PropertyValue := (row.key_id, row.value)

/-- The keys and the values of the properties of an entity. -/
def valuesOf (s : CUSchemaDB) (k : UInt32) : List (UInt32 × PropertyValue) :=
  (s.propsOf k).map keyAndValue

/-- The first value of a key. -/
def valueIn (rows : List PropertyRow) (keyID : DatasetKey) : Option PropertyValue :=
  (rows.map keyAndValue).lookup (mapDatasetKeyForID keyID)

def valueOf (s : CUSchemaDB) (k : UInt32) (keyID : DatasetKey) : Option PropertyValue :=
  valueIn (s.propsOf k) keyID

@[simp] theorem valueIn_cons (row : PropertyRow) (rows : List PropertyRow) (keyID : DatasetKey) :
    valueIn (row :: rows) keyID =
      if row.key_id = mapDatasetKeyForID keyID then some row.value else valueIn rows keyID := by
  unfold valueIn
  rw [List.map_cons, keyAndValue, List.lookup_cons]
  split_ifs with h
  · rw [h, beq_self_eq_true]
  · rw [beq_false_of_ne (Ne.symm h)]

/-- The rows of an attribute are not those of a device. -/
theorem attribute_rows (hs : Inv U s) (ht : Tidy s) (h : s.Named p id) :
    ∀ row ∈ s.propsOf id, OfAttribute row := by
  intro row hrow
  obtain ⟨hmem, hid⟩ := List.mem_filter.mp hrow
  refine (ht.rows row hmem).resolve_left ?_
  rintro ⟨⟨d, e, he, hid'⟩, -⟩
  obtain ⟨-, str, hdevice⟩ := hs.devices d e he
  exact device_ne_named hs hdevice h (bindInt_inj (hid'.symm.trans (of_decide_eq_true hid)))

/-- An attribute has one value of a key at most. -/
theorem keys_nodup (hs : Inv U s) (ht : Tidy s) (h : s.Named p id) :
    ((s.propsOf id).map PropertyRow.key_id).Nodup := by
  refine List.pairwise_map.mpr ?_
  refine (ht.once.sublist List.filter_sublist).imp_of_mem fun {a b} ha hb hone hkey => ?_
  have hid : a.entity_id = b.entity_id :=
    (of_decide_eq_true (List.mem_filter.mp ha).2).trans
      (of_decide_eq_true (List.mem_filter.mp hb).2).symm
  obtain ⟨keyID, hkeyID, hkey', -⟩ := attribute_rows hs ht h a ha
  have hserver := mapDatasetKeyForID_inj.mp (hkey'.symm.trans (hone hid hkey))
  subst hserver
  simp [attributeKeys] at hkeyID

theorem sendable_valueOf (hs : Inv U s) (ht : Tidy s) (h : s.Named p id)
    (hvalue : s.valueOf id keyID = some value) : Sendable keyID value := by
  obtain ⟨l, l', hsplit, -⟩ := List.lookup_eq_some_iff.mp hvalue
  have hmem : (mapDatasetKeyForID keyID, value) ∈ (s.propsOf id).map keyAndValue := by
    rw [hsplit]
    simp
  obtain ⟨row, hrow, heq⟩ := List.mem_map.mp hmem
  obtain ⟨keyID', -, hkey, hsend⟩ := attribute_rows hs ht h row hrow
  simp only [keyAndValue, Prod.mk.injEq] at heq
  rw [← mapDatasetKeyForID_inj.mp (hkey.symm.trans heq.1), ← heq.2]
  exact hsend

/-! ## Reading -/

theorem head_filter (rows : List PropertyRow) (keyID : DatasetKey) :
    ((rows.filter fun row => ([keyID].map mapDatasetKeyForID).contains row.key_id).head?).map
      PropertyRow.value = valueIn rows keyID := by
  induction rows with
  | nil => rfl
  | cons row rows ih =>
    rw [valueIn_cons]
    split_ifs with h
    · simp [h]
    · simpa [h] using ih

theorem knownBy_head (hs : Inv U s) (h : s.Named p id) (keyID : DatasetKey) :
    ((s.knownBy p [keyID]).head?).map PropertyRow.value = s.valueOf id keyID := by
  unfold knownBy
  rw [known_named hs h]
  exact head_filter _ keyID

theorem description_valueOf (hU : Separated U) (hs : Inv U s) (hseq : s.entityDB.seq + 2 < 2 ^ 32)
    (hp : p ∈ U) (h : s.Named p id) (w : World) (old : List Char) : s.description w p old =
      some (((s.valueOf id .ATTRIBUTE_DESCRIPTION).map PropertyValue.strValue).getD old) := by
  rw [description_eq hU hs hseq hp, ← knownBy_head hs h]
  cases s.knownBy p [.ATTRIBUTE_DESCRIPTION] <;> rfl

theorem direction_valueOf (hU : Separated U) (hs : Inv U s) (hseq : s.entityDB.seq + 2 < 2 ^ 32)
    (hp : p ∈ U) (h : s.Named p id) (w : World) : s.direction w p =
      some ((s.valueOf id .ATTRIBUTE_DIRECTION).map PropertyValue.numValue) := by
  rw [direction_eq hU hs hseq hp, ← knownBy_head hs h]
  cases s.knownBy p [.ATTRIBUTE_DIRECTION] <;> rfl

/-- The keys that are read for a range. -/
def rangeKeys : List DatasetKey :=
  [.MAX_RANGE, .MIN_RANGE, .DEFAULT_VALUE, .ATTRIBUTE_TYPE, .VALUE_MAX_SIZE]

/-- The fields of a range with the values of their keys. -/
def rangeWith (value : DatasetKey → Option PropertyValue) (rangeInfo : RangeValueInfo) :
    RangeValueInfo where
  maxSize := (value .VALUE_MAX_SIZE).elim rangeInfo.maxSize fun v => v.numValue.toUInt64.toUInt32
  maxRange := (value .MAX_RANGE).elim rangeInfo.maxRange PropertyValue.strValue
  minRange := (value .MIN_RANGE).elim rangeInfo.minRange PropertyValue.strValue
  defaultValue := (value .DEFAULT_VALUE).elim rangeInfo.defaultValue fun v =>
    match v with
    | .num numValue => (toString numValue.toInt).toList
    | .str strValue => strValue
  valueType := (value .ATTRIBUTE_TYPE).elim rangeInfo.valueType fun v => v.numValue.toInt32

/-- With one value of a key at most, the loop over the properties takes the value of each key. -/
theorem foldl_fillRange (rows : List PropertyRow)
    (hkeys : (rows.map PropertyRow.key_id).Nodup) (rangeInfo : RangeValueInfo) :
    rows.foldl fillRange rangeInfo = rangeWith (valueIn rows) rangeInfo := by
  induction rows generalizing rangeInfo with
  | nil => rfl
  | cons row rows ih =>
    rw [List.map_cons, List.nodup_cons] at hkeys
    obtain ⟨hnew, hkeys⟩ := hkeys
    have hnone : ∀ keyID, row.key_id = mapDatasetKeyForID keyID → valueIn rows keyID = none := by
      intro keyID hkey
      refine List.lookup_eq_none_iff.mpr fun x hx => bne_iff_ne.mpr fun heq => ?_
      obtain ⟨row', hrow', rfl⟩ := List.mem_map.mp hx
      exact hnew (hkey ▸ heq ▸ List.mem_map_of_mem hrow')
    rw [List.foldl_cons, ih hkeys]
    unfold fillRange
    -- the key of the row is that of one field at most
    split_ifs with h h h h h
    case neg => simp_all [rangeWith]
    all_goals
      cases hvalue : row.value <;>
        simp [rangeWith, h, hnone _ h, mapDatasetKeyForID_inj, hvalue]

/-- A row with another key is not read for a range. -/
theorem fillRange_other {row : PropertyRow} (h : row.key_id ∉ rangeKeys.map mapDatasetKeyForID)
    (rangeInfo : RangeValueInfo) : fillRange rangeInfo row = rangeInfo := by
  simp only [rangeKeys, List.map_cons, List.map_nil, List.mem_cons, List.not_mem_nil, or_false,
    not_or] at h
  simp [fillRange, h]

theorem foldl_filter_range (rows : List PropertyRow) (rangeInfo : RangeValueInfo) :
    (rows.filter fun row => (rangeKeys.map mapDatasetKeyForID).contains row.key_id).foldl fillRange
      rangeInfo = rows.foldl fillRange rangeInfo := by
  induction rows generalizing rangeInfo with
  | nil => rfl
  | cons row rows ih =>
    by_cases h : row.key_id ∈ rangeKeys.map mapDatasetKeyForID
    · have hmem := List.contains_iff_mem.mpr h
      simp only [List.filter_cons, hmem, if_true, List.foldl_cons]
      exact ih _
    · have hmem : (rangeKeys.map mapDatasetKeyForID).contains row.key_id = false := by
        rw [← Bool.not_eq_true, List.contains_iff_mem]
        exact h
      simp only [List.filter_cons, hmem, List.foldl_cons, fillRange_other h]
      exact ih _

/-- No row has one of the keys just when no key has a value. -/
theorem filter_eq_nil_iff (rows : List PropertyRow) (keyIDs : List DatasetKey) :
    (rows.filter fun row => (keyIDs.map mapDatasetKeyForID).contains row.key_id) = [] ↔
      ∀ keyID ∈ keyIDs, valueIn rows keyID = none := by
  simp only [List.filter_eq_nil_iff, List.contains_iff_mem, List.mem_map, not_exists, not_and,
    valueIn, List.lookup_eq_none_iff, bne_iff_ne, keyAndValue, forall_exists_index, and_imp]
  constructor
  · rintro h keyID hkey x row hrow rfl heq
    exact h row hrow keyID hkey heq
  · intro h row hrow keyID hkey heq
    exact h keyID hkey _ row hrow rfl heq

theorem range_valueOf (hU : Separated U) (hs : Inv U s) (ht : Tidy s)
    (hseq : s.entityDB.seq + 2 < 2 ^ 32) (hp : p ∈ U) (h : s.Named p id) (hin : s.Listed p)
    (w : World) (rangeInfo : RangeValueInfo) :
    ∃ found, s.range w p rangeInfo = some (rangeWith (s.valueOf id) rangeInfo, found) ∧
      (found = false ↔ ∀ keyID ∈ rangeKeys, s.valueOf id keyID = none) := by
  have hrange : s.rangeOf p rangeInfo = ((s.knownBy p rangeKeys).foldl fillRange rangeInfo,
      !(s.knownBy p rangeKeys).isEmpty) := by
    unfold rangeOf rangeKeys
    cases s.knownBy p [.MAX_RANGE, .MIN_RANGE, .DEFAULT_VALUE, .ATTRIBUTE_TYPE,
      .VALUE_MAX_SIZE] <;> rfl
  rw [(range_eq hU hs hseq hp w rangeInfo).1 hin, hrange]
  unfold knownBy
  rw [known_named hs h, foldl_filter_range, foldl_fillRange _ (keys_nodup hs ht h)]
  refine ⟨_, rfl, ?_⟩
  rw [Bool.not_eq_false', List.isEmpty_iff, filter_eq_nil_iff]
  rfl

/-! ## Values that were sent -/

theorem size_sent (n : Int64) : n.toInt32.toInt64.toUInt64.toUInt32 = n.toUInt64.toUInt32 := by
  refine UInt32.toBitVec_inj.mp ?_
  change BitVec.setWidth 32 (BitVec.signExtend 64 (BitVec.signExtend 32 n.toBitVec)) =
    BitVec.setWidth 32 n.toBitVec
  ext i hi
  have hlt : i < 64 := by omega
  simp only [BitVec.getElem_setWidth, BitVec.getLsbD_signExtend]
  simp [hi, hlt]

/-- The values of an attribute after they were sent. -/
structure SentFrom (value value' : DatasetKey → Option PropertyValue) : Prop where
  sendable : ∀ keyID v, value keyID = some v → Sendable keyID v
  sent : ∀ keyID ∈ attributeKeys, value' keyID = (value keyID).map (sent keyID)

variable {value value' : DatasetKey → Option PropertyValue}

theorem SentFrom.none_iff (h : SentFrom value value') (hkey : keyID ∈ attributeKeys) :
    value' keyID = none ↔ value keyID = none := by
  rw [h.sent keyID hkey, Option.map_eq_none_iff]

theorem SentFrom.same (h : SentFrom value value') (keyID : DatasetKey)
    (hkey : keyID ∈ attributeKeys) (hsize : keyID ≠ .VALUE_MAX_SIZE) :
    value' keyID = value keyID := by
  rw [h.sent keyID hkey]
  cases hvalue : value keyID with
  | none => rfl
  | some v => exact congrArg some ((h.sendable keyID v hvalue).resolve_right hsize)

theorem SentFrom.range (h : SentFrom value value') (rangeInfo : RangeValueInfo) :
    rangeWith value' rangeInfo = rangeWith value rangeInfo := by
  have hmaxSize := h.sent .VALUE_MAX_SIZE (by decide)
  have hmaxRange := h.same .MAX_RANGE (by decide) (by decide)
  have hminRange := h.same .MIN_RANGE (by decide) (by decide)
  have hdefault := h.same .DEFAULT_VALUE (by decide) (by decide)
  have htype := h.same .ATTRIBUTE_TYPE (by decide) (by decide)
  simp only [rangeWith, hmaxSize, hmaxRange, hminRange, hdefault, htype]
  cases value .VALUE_MAX_SIZE with
  | none => rfl
  | some v => simp [CUSchemaDB.sent, PropertyValue.numValue, size_sent]

end CUSchemaDB

end chaos.common.data
