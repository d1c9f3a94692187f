-- What the questions on the attributes of a device write. They share the lookups of the writers, so
-- that a device or an attribute that is not there is added by the question.
import Chaos.ChildLookups
import Chaos.DatasetReading
import Chaos.SchemaQueries

namespace chaos.common.data

open runs chaos.edb

namespace CUSchemaDB

/-! ## The questions -/

inductive Query where
  | getDeviceDatasetAttributesName (w : World) (deviceID : List Char)
  | getDeviceDatasetAttributesNameOf (w : World) (deviceID : List Char)
      (directionType : DataSetAttributeIOAttribute)
  | getDeviceAttributeDescription (w : World) (deviceID attributesName : List Char)
  | getDeviceAttributeRangeValueInfo (w : World) (deviceID attributesName : List Char)
  | getDeviceAttributeDirection (w : World) (deviceID attributesName : List Char)

/-- What the references hold that a question is given to write to. -/
structure Held where
  attributeDescription : List Char := []
  rangeInfo : RangeValueInfo := {}

/-- The answers. Names are `none` where `substr` throws, a direction where the call returns 1. -/
inductive Answer where
  | names (attributesName : Option (List (List Char)))
  | description (attributeDescription : List Char)
  | range (rangeInfo : RangeValueInfo) (returns0 : Bool)
  | direction (directionType : Option Int64)

def ask (s : CUSchemaDB) (old : Held) : Query → Option (CUSchemaDB × Answer)
  | .getDeviceDatasetAttributesName w deviceID =>
    (s.getDeviceDatasetAttributesName w deviceID).map fun r => (r.1, .names (some r.2))
  | .getDeviceDatasetAttributesNameOf w deviceID directionType =>
    (s.getDeviceDatasetAttributesNameOf w deviceID directionType).map fun r => (r.1, .names r.2)
  | .getDeviceAttributeDescription w deviceID attributesName =>
    (s.getDeviceAttributeDescription w deviceID attributesName old.attributeDescription).map
      fun r => (r.1, .description r.2)
  | .getDeviceAttributeRangeValueInfo w deviceID attributesName =>
    (s.getDeviceAttributeRangeValueInfo w deviceID attributesName old.rangeInfo).map
      fun r => (r.1, .range r.2.1 r.2.2)
  | .getDeviceAttributeDirection w deviceID attributesName =>
    (s.getDeviceAttributeDirection w deviceID attributesName).map fun r => (r.1, .direction r.2)

/-! ## What is claimed -/

/-- The device has an attribute with this composed name. -/
def IsAttribute (s : CUSchemaDB) (d str : List Char) : Prop :=
  ∃ e, s.deviceEntityMap d = some e ∧ ∃ row ∈ s.entityDB.entity,
    (e.entityID, row.id) ∈ s.entity_group ∧
      row.key_id = bindInt (mapDatasetKeyForID .ATTRIBUTE_NAME) ∧ row.str_value = some str

/-- The devices are the same, and so are the attributes of each. -/
structure SameView (s t : CUSchemaDB) : Prop where
  present : ∀ d, t.deviceIsPresent d = s.deviceIsPresent d
  devices : ∀ deviceNames, t.AllDeviceId deviceNames ↔ s.AllDeviceId deviceNames
  attributes : ∀ d str, t.IsAttribute d str ↔ s.IsAttribute d str

def Query.deviceID : Query → List Char
  | .getDeviceDatasetAttributesName _ deviceID => deviceID
  | .getDeviceDatasetAttributesNameOf _ deviceID _ => deviceID
  | .getDeviceAttributeDescription _ deviceID _ => deviceID
  | .getDeviceAttributeRangeValueInfo _ deviceID _ => deviceID
  | .getDeviceAttributeDirection _ deviceID _ => deviceID

/-- A question on a device or on an attribute that is not there. -/
def Unknown (s : CUSchemaDB) : Query → Prop
  | .getDeviceDatasetAttributesName _ d => s.deviceIsPresent d = false
  | .getDeviceDatasetAttributesNameOf _ d _ => s.deviceIsPresent d = false
  | .getDeviceAttributeDescription _ d n => ¬ s.IsAttribute d (composeAttributeName d n)
  | .getDeviceAttributeRangeValueInfo _ d n => ¬ s.IsAttribute d (composeAttributeName d n)
  | .getDeviceAttributeDirection _ d n => ¬ s.IsAttribute d (composeAttributeName d n)

/-- A failure or an empty result. What the references held is still there. -/
def Answer.Nothing (old : Held) : Answer → Prop
  | .names attributesName => attributesName = some []
  | .description attributeDescription => attributeDescription = old.attributeDescription
  | .range rangeInfo returns0 => rangeInfo = old.rangeInfo ∧ returns0 = false
  | .direction directionType => directionType = none

/-- The question comes to its end, writes nothing that is seen, and has no answer on what is not
there. -/
def OnlyReads (s : CUSchemaDB) (q : Query) : Prop :=
  ∀ old, ∃ t answer, s.ask old q = some (t, answer) ∧ SameView s t ∧
    (s.Unknown q → answer.Nothing old)

/-! ## The condition -/

section Condition

variable (s : CUSchemaDB)

/-- The attributes of the device that the name selects. -/
def attributeIDs (d n : List Char) : List UInt32 :=
  (s.deviceEntityMap d).elim [] fun e =>
    s.searchEntityByParentIDAndKeyValue e.entityID .ATTRIBUTE_NAME (composeAttributeName d n)

/-- The device is there, the name fits in a value, and it is the name of an attribute, or the first
one that it selects has nothing to read. -/
structure Safe (w : World) (d n : List Char) (keyIDs : List DatasetKey) : Prop where
  present : s.deviceIsPresent d = true
  fit : fits (composeAttributeName d n) = true
  free : s.IdsFree w.memory (s.attributeIDs d n)
  own : s.IsAttribute d (composeAttributeName d n) ∨
    s.firstProperties w.memory keyIDs (s.attributeIDs d n) = []

def Harmless : Query → Prop
  | .getDeviceDatasetAttributesName _ d => s.deviceIsPresent d = true
  | .getDeviceDatasetAttributesNameOf w d dir => ∃ e, s.deviceEntityMap d = some e ∧
    s.IdsFree w.memory (s.searchEntityByParentAndPropertyIDAndKeyValue e.entityID
      .ATTRIBUTE_DIRECTION (directionNumber dir))
  | .getDeviceAttributeDescription w d n =>
    s.Safe w d n [.ATTRIBUTE_DESCRIPTION] ∧ s.attributeIDs d n ≠ []
  | .getDeviceAttributeRangeValueInfo w d n => s.Safe w d n rangeKeys
  | .getDeviceAttributeDirection w d n =>
    s.Safe w d n [.ATTRIBUTE_DIRECTION] ∧ s.attributeIDs d n ≠ []

end Condition

/-! ## What is seen after a question -/

variable {s t : CUSchemaDB} {w : World} {e c : Entity} {memory : UInt64} {d n str : List Char}
  {row : EntityRow}

theorem present_of (he : s.deviceEntityMap d = some e) : s.deviceIsPresent d = true := by
  simp [deviceIsPresent, he]

/-- A new entity is no child, so that only those that were there are attributes. -/
theorem sameView_addsRows (hs : Good s) (h : AddsRows s t) : SameView s t := by
  obtain ⟨entityDB, rfl⟩ : ∃ entityDB, t = { s with entityDB := entityDB } := ⟨_, h.same⟩
  refine ⟨fun _ => rfl, fun names => ⟨?_, ?_⟩, fun d str => ⟨?_, ?_⟩⟩
  · exact fun hnames => ⟨hnames.ordered, hnames.keys⟩
  · exact fun hnames => ⟨hnames.ordered, hnames.keys⟩
  · rintro ⟨e, he, row, hrow, hgroup, hattribute⟩
    rcases h.fresh row hrow with hold | hnew
    · exact ⟨e, he, row, hold, hgroup, hattribute⟩
    · exact absurd (hs.group _ hgroup) hnew
  · rintro ⟨e, he, row, hrow, hattribute⟩
    exact ⟨e, he, row, h.rows row hrow, hattribute⟩

theorem attributeIDs_eq (he : s.deviceEntityMap d = some e) : s.attributeIDs d n =
    s.searchEntityByParentIDAndKeyValue e.entityID .ATTRIBUTE_NAME (composeAttributeName d n) := by
  simp [attributeIDs, he]

theorem attributeIDs_attributes (hs : Rooted s) (he : s.deviceEntityMap d = some e) :
    ∀ i ∈ s.attributeIDs d n, s.IsAttributeID i := by
  intro i hi
  rw [attributeIDs_eq he] at hi
  exact hs.children _ (mem_childIDS.mp hi).1

/-- Where the name selects no attribute of the device, none has a text that it selects. -/
theorem not_isAttribute (he : s.deviceEntityMap d = some e) (hnone : s.attributeIDs d n = [])
    (hkey : row.key_id = bindInt (mapDatasetKeyForID .ATTRIBUTE_NAME))
    (hstr : row.str_value = some str)
    (hsel : SQLiteEntityDB.selects (kivStr .ATTRIBUTE_NAME memory (composeAttributeName d n)) row =
      true) : ¬ s.IsAttribute d str := by
  rintro ⟨e', he', row', hrow', hgroup', hkey', hstr'⟩
  cases he.symm.trans he'
  have hsel' := hsel
  rw [selects_congr (hkey.trans hkey'.symm) (hstr.trans hstr'.symm)] at hsel'
  have hname : composeAttributeName d n = name (d, n) := rfl
  rw [hname, selects_name] at hsel'
  have hmem : row'.id ∈ s.attributeIDs d n := by
    rw [attributeIDs_eq he]
    exact mem_childIDS.mpr ⟨hgroup', row', hrow', rfl, hsel'⟩
  rw [hnone] at hmem
  cases hmem

theorem isAttribute_addChild (he : s.deviceEntityMap d = some e) (hrow : row ∈ s.entityDB.entity)
    (hid : row.id = c.entityID) (hkey : row.key_id = bindInt (mapDatasetKeyForID .ATTRIBUTE_NAME))
    (hstr : row.str_value = some str) : (s.addChild e c).IsAttribute d str := by
  have hgroup := mem_addChild s e c
  rw [addChild_same] at *
  exact ⟨e, he, row, hrow, hid ▸ hgroup, hkey, hstr⟩

/-- Where the name selects no attribute of the device, the lookup adds one. -/
theorem attribute_added (hs : Good s) (he : s.deviceEntityMap d = some e)
    (hnone : s.attributeIDs d n = []) (h : s.getDatasetElement w e n = some (t, c)) :
    ∃ str, t.IsAttribute d str ∧ ¬ s.IsAttribute d str := by
  have hdevice : e.strValue = d := hs.devices d e he
  have hsearch := (attributeIDs_eq he).symm.trans hnone
  unfold getDatasetElement at h
  simp only [hdevice, hsearch] at h
  split_ifs at h
  obtain ⟨⟨u, c⟩, hu, heq⟩ := Option.bind_eq_some_iff.mp h
  cases heq
  rcases newEntity_one_or_new hu with ⟨row, hone, rfl, rfl⟩ | ⟨-, -, rfl, rfl⟩
  · -- the row that is selected was a child of other devices only
    obtain ⟨hrow, hsel⟩ := List.mem_filter.mp (hone ▸ List.mem_singleton_self row)
    obtain ⟨str, hstr⟩ := Option.isSome_iff_exists.mp (hs.texts row hrow)
    have hkey : row.key_id = bindInt (mapDatasetKeyForID .ATTRIBUTE_NAME) := by
      rw [SQLiteEntityDB.selects, Bool.and_eq_true, decide_eq_true_eq] at hsel
      exact hsel.1
    exact ⟨str, isAttribute_addChild he hrow rfl hkey hstr, not_isAttribute he hnone hkey hstr hsel⟩
  · have hnew : textRow .ATTRIBUTE_NAME (composeAttributeName d n) s.entityDB.nextID ∈
        (s.addRow .ATTRIBUTE_NAME (composeAttributeName d n)).entityDB.entity :=
      mem_addRow.mpr (.inr rfl)
    have hsel : SQLiteEntityDB.selects (kivStr .ATTRIBUTE_NAME w.memory (composeAttributeName d n))
        (textRow .ATTRIBUTE_NAME (composeAttributeName d n) s.entityDB.nextID) = true :=
      selects_self rfl rfl
    exact ⟨_, isAttribute_addChild he hnew rfl rfl rfl, not_isAttribute he hnone rfl rfl hsel⟩

/-! ## The answers -/

theorem ask_present (hs : Rooted s) {q : Query} {old : Held} {answer : Answer}
    (h : s.ask old q = some (t, answer)) : t.deviceIsPresent q.deviceID = true := by
  cases q with
  | getDeviceDatasetAttributesName w d =>
    obtain ⟨⟨u, r⟩, hu, heq⟩ := Option.map_eq_some_iff.mp h
    cases heq
    exact (asksDevice_attributesName hs hu).present
  | getDeviceDatasetAttributesNameOf w d dir =>
    obtain ⟨⟨u, r⟩, hu, heq⟩ := Option.map_eq_some_iff.mp h
    cases heq
    exact (asksDevice_attributesNameOf hu).present
  | getDeviceAttributeDescription w d n =>
    obtain ⟨⟨u, r⟩, hu, heq⟩ := Option.map_eq_some_iff.mp h
    cases heq
    exact (asksDevice_description hu).present
  | getDeviceAttributeRangeValueInfo w d n =>
    obtain ⟨⟨u, r⟩, hu, heq⟩ := Option.map_eq_some_iff.mp h
    cases heq
    exact (asksDevice_range hu).present
  | getDeviceAttributeDirection w d n =>
    obtain ⟨⟨u, r⟩, hu, heq⟩ := Option.map_eq_some_iff.mp h
    cases heq
    exact (asksDevice_direction hu).present

theorem OnlyReads.present (hs : Rooted s) {q : Query} (h : s.OnlyReads q) :
    s.deviceIsPresent q.deviceID = true := by
  obtain ⟨t, answer, hask, hview, -⟩ := h {}
  rw [← hview.present]
  exact ask_present hs hask

theorem attributeOf_found (hs : Good s) (he : s.deviceEntityMap d = some e)
    (hsome : s.attributeIDs d n ≠ []) : s.attributeOf w d n =
      if fits (composeAttributeName d n) then
        (getChilds .ATTRIBUTE_NAME w.memory s (s.attributeIDs d n)).bind fun r =>
          r.2.head?.map fun c => (r.1, c)
      else none := by
  have hstr : e.strValue = d := hs.devices d e he
  rw [attributeIDs_eq he] at hsome ⊢
  simp only [attributeOf, getDeviceEntity_present he, Option.bind_eq_bind, Option.bind_some]
  unfold getDatasetElement
  simp only [hstr]
  cases hids : s.searchEntityByParentIDAndKeyValue e.entityID .ATTRIBUTE_NAME
    (composeAttributeName d n) with
  | nil => exact absurd hids hsome
  | cons i ids =>
    split_ifs
    · refine Option.bind_congr fun r _ => ?_
      cases r.2.head? <;> rfl
    · rfl

/-- The first attribute that the name selects is read. -/
def readFirst (s : CUSchemaDB) (w : World) (d n : List Char) (keyIDs : List DatasetKey)
    (answer : List PropertyRow → Answer) : Option (CUSchemaDB × Answer) :=
  if fits (composeAttributeName d n) then
    (getChilds .ATTRIBUTE_NAME w.memory s (s.attributeIDs d n)).map fun r =>
      (r.1, answer (r.2.head?.elim [] fun c => r.1.getPropertyByKeyID c keyIDs))
  else none

theorem attributeOf_readFirst (hs : Good s) (he : s.deviceEntityMap d = some e)
    (hsome : s.attributeIDs d n ≠ []) (keyIDs : List DatasetKey)
    (answer : List PropertyRow → Answer) :
    ((s.attributeOf w d n).map fun r => (r.1, answer (r.1.getPropertyByKeyID r.2 keyIDs))) =
      s.readFirst w d n keyIDs answer := by
  rw [attributeOf_found hs he hsome]
  unfold readFirst
  split_ifs
  · cases hchilds : getChilds .ATTRIBUTE_NAME w.memory s (s.attributeIDs d n) with
    | none => rfl
    | some r =>
      obtain ⟨t, childs⟩ := r
      have hlen := (addsRows_getChilds hchilds).2
      cases childs with
      | nil => exact absurd (List.length_eq_zero_iff.mp hlen.symm) hsome
      | cons c childs => rfl
  · rfl

def descriptionAnswer (old : Held) (rows : List PropertyRow) : Answer :=
  .description (rows.head?.elim old.attributeDescription fun row => row.value.strValue)

def directionAnswer (rows : List PropertyRow) : Answer :=
  .direction (rows.head?.map fun row => row.value.numValue)

def rangeAnswer (old : Held) : List PropertyRow → Answer
  | [] => .range old.rangeInfo false
  | row :: rows => .range ((row :: rows).foldl fillRange old.rangeInfo) true

theorem ask_description (old : Held) : s.ask old (.getDeviceAttributeDescription w d n) =
    (s.attributeOf w d n).map fun r =>
      (r.1, descriptionAnswer old (r.1.getPropertyByKeyID r.2 [.ATTRIBUTE_DESCRIPTION])) := by
  rw [ask, attributeDescription_eq, Option.map_map]
  rfl

theorem ask_direction (old : Held) : s.ask old (.getDeviceAttributeDirection w d n) =
    (s.attributeOf w d n).map fun r =>
      (r.1, directionAnswer (r.1.getPropertyByKeyID r.2 [.ATTRIBUTE_DIRECTION])) := by
  rw [ask, attributeDirection_eq, Option.map_map]
  rfl

theorem ask_range (he : s.deviceEntityMap d = some e) (old : Held) :
    s.ask old (.getDeviceAttributeRangeValueInfo w d n) =
      s.readFirst w d n rangeKeys (rangeAnswer old) := by
  unfold ask getDeviceAttributeRangeValueInfo readFirst
  simp only [attributeIDs_eq he, getDeviceEntity_present he, Option.bind_eq_bind, Option.bind_some]
  split_ifs
  · cases getChilds .ATTRIBUTE_NAME w.memory s (s.searchEntityByParentIDAndKeyValue e.entityID
      .ATTRIBUTE_NAME (composeAttributeName d n)) with
    | none => rfl
    | some r =>
      obtain ⟨t, _ | ⟨c, childs⟩⟩ := r
      · rfl
      · simp only [Option.bind_some, List.head?_cons, Option.elim_some, Option.map_some]
        unfold rangeKeys
        cases t.getPropertyByKeyID c
          [.MAX_RANGE, .MIN_RANGE, .DEFAULT_VALUE, .ATTRIBUTE_TYPE, .VALUE_MAX_SIZE] <;> rfl
  · rfl

/-! ## The law -/

/-- A question that reads the first attribute that the name selects. -/
theorem onlyReads_of_readFirst (hs : Good s ∧ Rooted s) (he : s.deviceEntityMap d = some e)
    {q : Query} {keyIDs : List DatasetKey} {answer : Held → List PropertyRow → Answer}
    (hunknown : s.Unknown q ↔ ¬ s.IsAttribute d (composeAttributeName d n))
    (hask : ∀ old, s.ask old q = s.readFirst w d n keyIDs (answer old))
    (hnothing : ∀ old, (answer old []).Nothing old)
    (hrows : ∀ rows, rows ≠ [] → ∃ old, ¬ (answer old rows).Nothing old) :
    s.OnlyReads q ↔ s.Safe w d n keyIDs := by
  have hids := attributeIDs_attributes (n := n) hs.2 he
  have hfirst : ∀ {old t r}, s.readFirst w d n keyIDs (answer old) = some (t, r) →
      fits (composeAttributeName d n) = true ∧ s.IdsFree w.memory (s.attributeIDs d n) ∧
        AddsRows s t ∧ r = answer old (s.firstProperties w.memory keyIDs (s.attributeIDs d n)) := by
    intro old t r h
    unfold readFirst at h
    split_ifs at h with hfit
    obtain ⟨⟨u, childs⟩, hu, heq⟩ := Option.map_eq_some_iff.mp h
    cases heq
    refine ⟨hfit, (exists_getChilds_iff hs hids).mp ⟨_, hu⟩, (addsRows_getChilds hu).1, ?_⟩
    rw [getChilds_first hs hids hu]
  constructor
  · intro h
    obtain ⟨t, r, ht, -⟩ := h {}
    rw [hask] at ht
    obtain ⟨hfit, hfree, -⟩ := hfirst ht
    refine ⟨present_of he, hfit, hfree, ?_⟩
    by_contra hnot
    obtain ⟨hforeign, hsome⟩ := not_or.mp hnot
    obtain ⟨old, hold⟩ := hrows _ hsome
    obtain ⟨t, r, ht, -, hreport⟩ := h old
    rw [hask] at ht
    obtain ⟨-, -, -, rfl⟩ := hfirst ht
    exact hold (hreport (hunknown.mpr hforeign))
  · intro h old
    obtain ⟨⟨t, childs⟩, ht⟩ := (exists_getChilds_iff hs hids).mpr h.free
    have hread : ∃ r, s.readFirst w d n keyIDs (answer old) = some r := by
      unfold readFirst
      rw [if_pos h.fit, ht]
      exact ⟨_, rfl⟩
    obtain ⟨⟨t, r⟩, hread⟩ := hread
    obtain ⟨-, -, hadds, rfl⟩ := hfirst hread
    refine ⟨t, _, (hask old).trans hread, sameView_addsRows hs.1 hadds, fun hun => ?_⟩
    rw [h.own.resolve_left (hunknown.mp hun)]
    exact hnothing old

/-- A lookup that adds an attribute is seen. -/
theorem not_onlyReads_of_added (hs : Good s) (he : s.deviceEntityMap d = some e)
    (hnone : s.attributeIDs d n = []) {q : Query} {keyIDs : List DatasetKey}
    {answer : List PropertyRow → Answer} (hask : s.ask {} q = (s.attributeOf w d n).map fun r =>
      (r.1, answer (r.1.getPropertyByKeyID r.2 keyIDs))) : ¬ s.OnlyReads q := by
  intro h
  obtain ⟨t, r, ht, hview, -⟩ := h {}
  rw [hask, attributeOf, getDeviceEntity_present he] at ht
  obtain ⟨⟨u, c⟩, hu, heq⟩ := Option.map_eq_some_iff.mp ht
  cases heq
  obtain ⟨str, hafter, hbefore⟩ := attribute_added hs he hnone hu
  exact hbefore ((hview.attributes d str).mp hafter)

theorem onlyReads_attributesNameOf (hs : Good s ∧ Rooted s) (he : s.deviceEntityMap d = some e)
    (dir : DataSetAttributeIOAttribute) :
    s.OnlyReads (.getDeviceDatasetAttributesNameOf w d dir) ↔ ∃ e, s.deviceEntityMap d = some e ∧
      s.IdsFree w.memory (s.searchEntityByParentAndPropertyIDAndKeyValue e.entityID
        .ATTRIBUTE_DIRECTION (directionNumber dir)) := by
  have hids : ∀ i ∈ s.searchEntityByParentAndPropertyIDAndKeyValue e.entityID
      .ATTRIBUTE_DIRECTION (directionNumber dir), s.IsAttributeID i := fun i hi =>
    hs.2.children _ (mem_childIDS.mp hi).1
  have hnames := attributesNameOf_eq (w := w) he dir
  constructor
  · intro h
    obtain ⟨t, r, ht, -⟩ := h {}
    rw [ask, hnames, Option.map_map] at ht
    obtain ⟨r, hr, -⟩ := Option.map_eq_some_iff.mp ht
    exact ⟨e, he, (exists_getChilds_iff hs hids).mp ⟨r, hr⟩⟩
  · rintro ⟨e', he', hfree⟩ old
    cases he.symm.trans he'
    obtain ⟨⟨t, childs⟩, ht⟩ := (exists_getChilds_iff hs hids).mpr hfree
    have hask : ∃ answer,
        s.ask old (.getDeviceDatasetAttributesNameOf w d dir) = some (t, answer) := by
      rw [ask, hnames, ht]
      exact ⟨_, rfl⟩
    obtain ⟨answer, hask⟩ := hask
    refine ⟨t, answer, hask, sameView_addsRows hs.1 (addsRows_getChilds ht).1, fun hun => ?_⟩
    rw [Unknown, present_of he] at hun
    cases hun

theorem Harmless.present {q : Query} (h : s.Harmless q) : s.deviceIsPresent q.deviceID = true := by
  cases q with
  | getDeviceDatasetAttributesName w d => exact h
  | getDeviceDatasetAttributesNameOf w d dir =>
    obtain ⟨e, he, -⟩ := h
    exact present_of he
  | getDeviceAttributeDescription w d n => exact h.1.present
  | getDeviceAttributeRangeValueInfo w d n => exact Safe.present h
  | getDeviceAttributeDirection w d n => exact h.1.present

theorem onlyReads_attributesName (hs : Good s ∧ Rooted s) (he : s.deviceEntityMap d = some e) :
    s.OnlyReads (.getDeviceDatasetAttributesName w d) := by
  refine fun old => ⟨s, .names (some []), ?_, ?_, fun _ => rfl⟩
  · rw [ask, attributesName_eq hs.2, getDeviceEntity_present he]
    rfl
  · exact sameView_addsRows hs.1 (AddsRows.refl s)

theorem onlyReads_description (hs : Good s ∧ Rooted s) (he : s.deviceEntityMap d = some e) :
    s.OnlyReads (.getDeviceAttributeDescription w d n) ↔
      s.Safe w d n [.ATTRIBUTE_DESCRIPTION] ∧ s.attributeIDs d n ≠ [] := by
  by_cases hnone : s.attributeIDs d n = []
  · exact iff_of_false (not_onlyReads_of_added hs.1 he hnone (ask_description {}))
      fun h => h.2 hnone
  · rw [onlyReads_of_readFirst hs he Iff.rfl (fun old => (ask_description old).trans
      (attributeOf_readFirst hs.1 he hnone _ (descriptionAnswer old))) fun _ => rfl]
    · exact (and_iff_left hnone).symm
    · rintro (_ | ⟨row, rows⟩) hrows
      · exact absurd rfl hrows
      · refine ⟨{ attributeDescription := 'x' :: row.value.strValue }, fun h => ?_⟩
        exact List.cons_ne_self _ _ h.symm

theorem onlyReads_range (hs : Good s ∧ Rooted s) (he : s.deviceEntityMap d = some e) :
    s.OnlyReads (.getDeviceAttributeRangeValueInfo w d n) ↔ s.Safe w d n rangeKeys := by
  refine onlyReads_of_readFirst hs he Iff.rfl (ask_range he) (fun _ => ⟨rfl, rfl⟩) ?_
  rintro (_ | ⟨row, rows⟩) hrows
  · exact absurd rfl hrows
  · exact ⟨{}, fun h => Bool.noConfusion h.2⟩

theorem onlyReads_direction (hs : Good s ∧ Rooted s) (he : s.deviceEntityMap d = some e) :
    s.OnlyReads (.getDeviceAttributeDirection w d n) ↔
      s.Safe w d n [.ATTRIBUTE_DIRECTION] ∧ s.attributeIDs d n ≠ [] := by
  by_cases hnone : s.attributeIDs d n = []
  · exact iff_of_false (not_onlyReads_of_added hs.1 he hnone (ask_direction {}))
      fun h => h.2 hnone
  · rw [onlyReads_of_readFirst hs he Iff.rfl (fun old => (ask_direction old).trans
      (attributeOf_readFirst hs.1 he hnone _ directionAnswer)) fun _ => rfl]
    · exact (and_iff_left hnone).symm
    · rintro (_ | ⟨row, rows⟩) hrows
      · exact absurd rfl hrows
      · exact ⟨{}, fun h => Option.some_ne_none _ h⟩

/-- The questions that only read, after any run of all calls. -/
theorem onlyReads_iff {as : List Access} (hr : run access {} as = some s) (q : Query) :
    s.OnlyReads q ↔ s.Harmless q := by
  have hs := good_of_accesses hr
  cases he : s.deviceEntityMap q.deviceID with
  | none =>
    have hnot : s.deviceIsPresent q.deviceID ≠ true := by simp [deviceIsPresent, he]
    exact iff_of_false (fun h => hnot (h.present hs.2)) fun h => hnot h.present
  | some e =>
    cases q with
    | getDeviceDatasetAttributesName w d =>
      exact iff_of_true (onlyReads_attributesName hs he) (present_of he)
    | getDeviceDatasetAttributesNameOf w d dir => exact onlyReads_attributesNameOf hs he dir
    | getDeviceAttributeDescription w d n => exact onlyReads_description hs he
    | getDeviceAttributeRangeValueInfo w d n => exact onlyReads_range hs he
    | getDeviceAttributeDirection w d n => exact onlyReads_direction hs he

/-- The direction of an attribute that was added is only read. -/
theorem onlyReads_known : ∃ s,
    run access {} [.call (.change (addInt32 ['D'] ['a'] ['1']))] = some s ∧
      s.OnlyReads (.getDeviceAttributeDirection ⟨0, 7⟩ ['D'] ['a']) := by
  refine ⟨_, rfl, ?_⟩
  have hr : run access {} [.call (.change (addInt32 ['D'] ['a'] ['1']))] = some _ := rfl
  refine (onlyReads_iff hr _).mpr ?_
  refine ⟨⟨rfl, by decide, ?_, .inl ?_⟩, nofun⟩
  · intro j hj
    exact absurd hj (Nat.not_lt_zero j)
  · exact ⟨⟨1, ['D']⟩, rfl, _, .tail _ (.head _), List.mem_singleton.mpr rfl, rfl, rfl⟩

/-- A question on a database with no device adds the device. -/
theorem question_adds_the_device : ¬ ∀ (as : List Access) (s : CUSchemaDB) (q : Query),
    run access {} as = some s → s.OnlyReads q := by
  intro hclaim
  obtain ⟨t, answer, ht, hview, -⟩ :=
    hclaim [] {} (.getDeviceAttributeDirection ⟨0, 7⟩ ['D'] ['a']) rfl {}
  have hpresent : t.deviceIsPresent ['D'] = true := by
    cases ht
    rfl
  rw [hview.present] at hpresent
  cases hpresent

end CUSchemaDB

end chaos.common.data
