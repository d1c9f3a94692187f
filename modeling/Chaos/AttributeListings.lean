-- The three listings of the attributes of a device. The one of all attributes looks for children
-- whose own key is that of the directions, and there are none, so that it is always empty.
import Chaos.ChildLookups
import Chaos.SchemaQueries

namespace chaos.common.data

open runs chaos.edb

namespace CUSchemaDB

/-! ## What is claimed -/

section Claim

variable (s : CUSchemaDB) (w : World) (d : List Char) (device : Entity)

/-- An attribute of the device with a direction. -/
def Directed (y : UInt32) : Prop :=
  (device.entityID, y) ∈ s.entity_group ∧ s.rowsAt (y, .ATTRIBUTE_DIRECTION) ≠ []

/-- The attribute was added under the name `n`. -/
def AddedAs (y : UInt32) (n : List Char) : Prop :=
  ∃ row ∈ s.entityDB.entity, row.id = y ∧ row.str_value = some (composeAttributeName d n)

/-- The description of the dataset has an attribute of this name, with a direction. -/
def IsDescribed (n : List Char) : Prop :=
  ∃ t description, s.fillDataWrapperWithDataSetDescription w d = some (t, some description) ∧
    ∃ values, (n, values) ∈ description.DESCRIPTION ∧
      ∃ value, (mapDatasetKeyForID .ATTRIBUTE_DIRECTION, value) ∈ values

/-- The names are those of the attributes with a direction, in all listings. -/
structure NamesDirected (names : List (List Char)) : Prop where
  once : names.Nodup
  union : ∃ namesOf : DataSetAttributeIOAttribute → List (List Char),
    (∀ dir, ∃ t, s.getDeviceDatasetAttributesNameOf w d dir = some (t, some (namesOf dir))) ∧
      ∀ n, n ∈ names ↔ ∃ dir, n ∈ namesOf dir
  added : ∀ n ∈ names, ∃ y, s.Directed device y ∧ s.AddedAs d y n
  all : ∀ y, s.Directed device y → ∃ n ∈ names, s.AddedAs d y n
  described : ∀ n, n ∈ names ↔ s.IsDescribed w d n

def ListingsAgree : Prop :=
  ∃ t names, s.getDeviceDatasetAttributesName w d = some (t, names) ∧
    s.NamesDirected w d device names

end Claim

/-! ## Where no attribute has a direction -/

variable {s t : CUSchemaDB} {w : World} {d n : List Char} {device : Entity}

theorem namesOf_nil (he : s.deviceEntityMap d = some device)
    (hnone : ∀ y, ¬ s.Directed device y) (dir : DataSetAttributeIOAttribute) :
    s.getDeviceDatasetAttributesNameOf w d dir = some (s, some []) := by
  have hsearch : s.searchEntityByParentAndPropertyIDAndKeyValue device.entityID
      .ATTRIBUTE_DIRECTION (directionNumber dir) = [] := by
    rw [List.eq_nil_iff_forall_not_mem]
    intro y hy
    obtain ⟨hgroup, row, -, rfl, hany⟩ := mem_childIDS.mp hy
    obtain ⟨property, hmem, hproperty⟩ := List.any_eq_true.mp hany
    simp only [Bool.and_eq_true, decide_eq_true_eq] at hproperty
    obtain ⟨⟨hkey, -⟩, hid⟩ := hproperty
    exact hnone row.id ⟨hgroup, List.ne_nil_of_mem (mem_rowsAt.mpr ⟨hmem, hid, hkey⟩)⟩
  simp [attributesNameOf_eq he, hsearch, getChilds]

/-- A property in the description is one of an attribute of the device. -/
theorem directed_of_described (hs : Good s ∧ Rooted s) (he : s.deviceEntityMap d = some device)
    (h : s.IsDescribed w d n) : ∃ y, s.Directed device y := by
  obtain ⟨t, description, hfill, values, hvalues, value, hvalue⟩ := h
  unfold fillDataWrapperWithDataSetDescription at hfill
  simp only [he] at hfill
  obtain ⟨⟨u, childs⟩, hu, hfill⟩ := Option.bind_eq_some_iff.mp hfill
  dsimp only at hfill
  split_ifs at hfill
  cases hfill
  obtain ⟨c, hc, hdescribe⟩ := List.mem_filterMap.mp hvalues
  obtain ⟨row, hrow, hkey⟩ : ∃ row ∈ t.getAllProperty c,
      row.key_id = mapDatasetKeyForID .ATTRIBUTE_DIRECTION := by
    unfold describeAttribute at hdescribe
    split at hdescribe
    · cases hdescribe
    · cases hdescribe
      obtain ⟨row, hrow, heq⟩ := List.mem_map.mp hvalue
      exact ⟨row, hrow, congrArg Prod.fst heq⟩
  obtain ⟨hmem, hid⟩ := List.mem_filter.mp hrow
  rw [decide_eq_true_eq] at hid
  rw [(addsRows_getChilds hu).1.same] at hmem
  obtain ⟨k, hk, hkid⟩ := hs.2.properties row hmem
  obtain rfl := bindInt64_inj (hkid.symm.trans hid)
  rcases getChilds_own hs.2 (fun i hi => hs.2.children _ (mem_childIDS.mp hi).1) hu c hc
    with hmem' | hnew
  · refine ⟨c.entityID, (mem_childIDS.mp hmem').1, ?_⟩
    exact List.ne_nil_of_mem (mem_rowsAt.mpr ⟨hmem, hkid, hkey⟩)
  · exact absurd hk hnew

/-! ## The law -/

/-- The listings of a device agree just when none of its attributes has a direction. -/
theorem listings_agree_iff {as : List Access} (hr : run access {} as = some s)
    (he : s.deviceEntityMap d = some device) :
    s.ListingsAgree w d device ↔ ∀ y, ¬ s.Directed device y := by
  have hs := good_of_accesses hr
  have hnames : s.getDeviceDatasetAttributesName w d = some (s, []) := by
    rw [attributesName_eq hs.2, getDeviceEntity_present he]
    rfl
  constructor
  · rintro ⟨t, names, ht, hagree⟩ y hy
    cases hnames.symm.trans ht
    obtain ⟨n, hn, -⟩ := hagree.all y hy
    cases hn
  · intro hnone
    refine ⟨s, [], hnames, ?_⟩
    exact {
      once := List.nodup_nil
      union := ⟨fun _ => [], fun dir => ⟨s, namesOf_nil he hnone dir⟩, by simp⟩
      added := nofun
      all := fun y hy => absurd hy (hnone y)
      described := fun n => ⟨nofun, fun h => by
        obtain ⟨y, hy⟩ := directed_of_described hs he h
        exact absurd hy (hnone y)⟩ }

/-- The range of an attribute is set, which has no direction then. -/
def onlyRange : Access :=
  .call (.change (.setDeviceAttributeRangeValueInfo ⟨0, 7⟩ ['D'] ['a'] { maxRange := ['9'] }))

theorem listings_agree_on_a_range : ∃ s device, run access {} [onlyRange] = some s ∧
    s.deviceEntityMap ['D'] = some device ∧ s.ListingsAgree ⟨0, 7⟩ ['D'] device := by
  refine ⟨_, ⟨1, ['D']⟩, rfl, rfl, ?_⟩
  have hr : run access {} [onlyRange] = some _ := rfl
  refine (listings_agree_iff hr rfl).mpr ?_
  rintro y ⟨hgroup, hrows⟩
  cases List.mem_singleton.mp hgroup
  exact hrows rfl

/-- The attribute `a` of the device `D` is an input, and the listing of all attributes is empty. -/
theorem input_is_not_listed : ¬ ∀ (as : List Access) (s : CUSchemaDB) (w : World) (d : List Char)
    (device : Entity), run access {} as = some s → s.deviceEntityMap d = some device →
      s.ListingsAgree w d device := by
  intro hclaim
  obtain ⟨t, names, ht, hagree⟩ := hclaim [.call (.change (addInt32 ['D'] ['a'] ['1']))] _ ⟨0, 7⟩
    ['D'] ⟨1, ['D']⟩ rfl rfl
  have hnames : names = [] := congrArg Prod.snd (Option.some.inj ht).symm
  obtain ⟨n, hn, -⟩ := hagree.all 2 ⟨List.mem_singleton.mpr rfl, nofun⟩
  rw [hnames] at hn
  cases hn

end CUSchemaDB

end chaos.common.data
