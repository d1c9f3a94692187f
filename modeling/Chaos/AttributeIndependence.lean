-- The laws of the datasets of a control unit. While no name in play is like another one, an
-- operation on an attribute leaves alone what is read of all others, and the datasets of all other
-- devices. An attribute is found by its name as a pattern, so that `A` takes the place of `a`.
import Mathlib.Data.List.ProdSigma
import Chaos.AttributeEntities
import Chaos.Runs

namespace chaos.common.data

open runs chaos.edb cache

namespace CUSchemaDB

/-! ## What is claimed -/

/-- The attributes that a pack names. -/
def elementNames (elements : List (Option ElementDescription)) : List (List Char) :=
  elements.filterMap fun element =>
    match element.map ElementDescription.ATTRIBUTE_NAME with
    | some (.value attrName) => some attrName
    | _ => none

namespace Label

def world : Label → World
  | .addAttributeToDataSet w _ _ _ _ _ _ => w
  | .addAttributeToDataSetFromDataWrapper w _ => w
  | .setDeviceAttributeRangeValueInfo w _ _ _ => w

/-- The devices that an operation is on, of which there is one at most. -/
def devices : Label → List (List Char)
  | .addAttributeToDataSet _ deviceID _ _ _ _ _ => [deviceID]
  | .addAttributeToDataSetFromDataWrapper _ pack =>
    match pack.DEVICE_ID with
    | .value deviceID => [deviceID]
    | _ => []
  | .setDeviceAttributeRangeValueInfo _ deviceID _ _ => [deviceID]

/-- The attributes that an operation names. -/
def names : Label → List (List Char)
  | .addAttributeToDataSet _ _ attributeName _ _ _ _ => [attributeName]
  | .addAttributeToDataSetFromDataWrapper _ pack =>
    match pack.DESCRIPTION with
    | .value elements => elementNames elements
    | _ => []
  | .setDeviceAttributeRangeValueInfo _ _ attributesName _ => [attributesName]

def pairs (a : Label) : List Pair := a.devices.product a.names

theorem mem_pairs {a : Label} {p : Pair} : p ∈ a.pairs ↔ p.1 ∈ a.devices ∧ p.2 ∈ a.names :=
  List.mem_product

end Label

variable (s : CUSchemaDB) (w : World)

def description (p : Pair) (attributeDescription : List Char) : Option (List Char) :=
  (s.getDeviceAttributeDescription w p.1 p.2 attributeDescription).map Prod.snd

def direction (p : Pair) : Option (Option Int64) :=
  (s.getDeviceAttributeDirection w p.1 p.2).map Prod.snd

def range (p : Pair) (rangeInfo : RangeValueInfo) : Option (RangeValueInfo × Bool) :=
  (s.getDeviceAttributeRangeValueInfo w p.1 p.2 rangeInfo).map Prod.snd

def dataset (deviceID : List Char) : Option (Option DatasetDescription) :=
  (s.fillDataWrapperWithDataSetDescription w deviceID).map Prod.snd

/-- What is read of every pair that the operation is not on is the same before it and after it, and
so is the whole dataset of every device that it is not on. -/
structure Independent (U : Set Pair) (s : CUSchemaDB) (a : Label) (t : CUSchemaDB) : Prop where
  description : ∀ q ∈ U, q ∉ a.pairs → ∀ w w' attributeDescription,
    ∃ r, s.description w q attributeDescription = some r ∧
      t.description w' q attributeDescription = some r
  direction : ∀ q ∈ U, q ∉ a.pairs → ∀ w w',
    ∃ r, s.direction w q = some r ∧ t.direction w' q = some r
  range : ∀ q ∈ U, q ∉ a.pairs → ∀ w w' rangeInfo,
    ∃ r, s.range w q rangeInfo = some r ∧ t.range w' q rangeInfo = some r
  dataset : ∀ deviceID ∉ a.devices, ∀ w w',
    ∃ r, s.dataset w deviceID = some r ∧ t.dataset w' deviceID = some r

/-! ## The condition -/

/-- The texts that a pack gives for its attributes. -/
def elementTexts (elements : List (Option ElementDescription)) : List (List Char) :=
  elements.reduceOption.flatMap fun element =>
    (readFields element.fields).1.map fun e => e.2.strValue

namespace Label

/-- The texts that an operation stores as properties. -/
def texts : Label → List (List Char)
  | .addAttributeToDataSet _ _ _ attributeDescription _ _ _ => [attributeDescription]
  | .addAttributeToDataSetFromDataWrapper _ pack =>
    (match pack.DESCRIPTION with
    | .value elements => elementTexts elements
    | _ => []) ++
    match pack.CS_DM_LD_SERVER_ADDRESS with
    | .value serverVec => serverVec.reduceOption
    | _ => []
  | .setDeviceAttributeRangeValueInfo _ _ _ rangeInfo =>
    [rangeInfo.maxRange, rangeInfo.minRange, rangeInfo.defaultValue]

end Label

/-- The operation is on pairs in play, its texts fit in a value, the lookup of a device that was not
used selects no row, and there are ids left, also for two rows that a read may add. -/
structure Clear (U : Set Pair) (s : CUSchemaDB) (a : Label) : Prop where
  pairs : ∀ p ∈ a.pairs, p ∈ U
  texts : ∀ str ∈ a.texts, fits str
  devices : ∀ d ∈ a.devices, fits d
  fresh : ∀ d ∈ a.devices, s.deviceEntityMap d = none → ∀ row ∈ s.entityDB.entity,
    SQLiteEntityDB.selects (kivStr .DEVICE_ID a.world.memory d) row = false
  ids : s.entityDB.seq + a.names.length + 3 < 2 ^ 32

/-- The condition is decided for a list of pairs, so that a fixed run can be checked. -/
instance Clear.decidable (l : List Pair) (s : CUSchemaDB) (a : Label) :
    Decidable (Clear {p | p ∈ l} s a) :=
  decidable_of_iff ((∀ p ∈ a.pairs, p ∈ l) ∧ (∀ str ∈ a.texts, fits str) ∧
      (∀ d ∈ a.devices, fits d) ∧ (∀ d ∈ a.devices, s.deviceEntityMap d = none →
        ∀ row ∈ s.entityDB.entity,
          SQLiteEntityDB.selects (kivStr .DEVICE_ID a.world.memory d) row = false) ∧
      s.entityDB.seq + a.names.length + 3 < 2 ^ 32)
    ⟨fun ⟨pairs, texts, devices, fresh, ids⟩ => ⟨pairs, texts, devices, fresh, ids⟩,
      fun h => ⟨h.pairs, h.texts, h.devices, h.fresh, h.ids⟩⟩

/-! ## The operations -/

variable {s t u : CUSchemaDB} {w : World} {U P : Set Pair} {D : Set (List Char)} {p q : Pair}
  {d str : List Char} {e : Entity} {id : UInt32} {n : Nat}

/-- The device that an operation is on is used, and has a row of its own. -/
theorem useDevice_spec (hs : Inv U s) (hseq : s.entityDB.seq + 1 < 2 ^ 32) (hfit : fits d = true)
    (hfresh : s.deviceEntityMap d = none → ∀ row ∈ s.entityDB.entity,
      SQLiteEntityDB.selects (kivStr .DEVICE_ID w.memory d) row = false) :
    ∃ t e, s.getDeviceEntity w d = some (t, e) ∧ t.deviceEntityMap d = some e ∧
      Change U {d} P 1 s t := by
  obtain ⟨t, e, ht, he, hframe, hown⟩ := getDeviceEntity_spec (w := w) hs hseq hfit
  exact ⟨t, e, ht, he, hframe.mono (Set.empty_subset P) le_rfl, hown hfresh⟩

theorem addAttributeToDataSet_spec (hU : Separated U) (hs : Inv U s)
    (hseq : s.entityDB.seq + 2 < 2 ^ 32) (hp : p ∈ U) (hstr : fits str = true)
    (hfresh : s.deviceEntityMap p.1 = none → ∀ row ∈ s.entityDB.entity,
      SQLiteEntityDB.selects (kivStr .DEVICE_ID w.memory p.1) row = false)
    (type : DataType) (dir : DataSetAttributeIOAttribute) (maxDimension : UInt32) :
    ∃ r, s.addAttributeToDataSet w p.1 p.2 str type dir maxDimension = some r ∧
      ∀ t, r = .ok t → Change U {p.1} {p} 2 s t := by
  unfold addAttributeToDataSet
  cases hsize : typeMaxDimension type maxDimension with
  | error ex => exact ⟨.error ex, rfl, nofun⟩
  | ok size =>
    obtain ⟨u, e, hu, he, hdevice⟩ := useDevice_spec (w := w) (P := {p}) hs (by omega)
      (fits_device (hU.fit p hp)) hfresh
    have hseq' := hdevice.seq
    obtain ⟨v, i, hv, hi, hrow, -⟩ := attributeRow_spec hU hdevice.inv (by omega) hp he w.memory
    obtain ⟨t, ht, hset⟩ := addUniqueAttributeProperties_spec ⟨i, name p⟩
      [(.ATTRIBUTE_DESCRIPTION, .str str), (.ATTRIBUTE_TYPE, .num (typeNumber type)),
        (.ATTRIBUTE_DIRECTION, .num (directionNumber dir)),
        (.VALUE_MAX_SIZE, .num (.ofNat size.toNat))] hrow.inv.propertyIDs
      (by simpa using ⟨hstr, rfl, rfl, rfl⟩)
    have hprops := hset.change (D := {p.1}) (P := {p}) hrow.inv (.inr ⟨p, rfl, hi⟩)
    have hchild := change_addChild (D := {p.1}) (P := {p}) (c := ⟨i, name p⟩) hprops.inv rfl hp rfl
      (hprops.kept _ _ (hrow.kept _ _ he)) (hprops.rows _ hi)
    have hname : composeAttributeName p.1 p.2 = name p := rfl
    refine ⟨.ok (if t.isChild e ⟨i, name p⟩ then t else t.addChild e ⟨i, name p⟩), ?_, ?_⟩
    · simp [hu, hname, hU.fit p hp, hv, ht]
    · rintro _ ⟨⟩
      have hall := (hdevice.trans hrow).trans hprops
      split_ifs
      · exact hall
      · exact hall.trans hchild

theorem setDeviceAttributeRangeValueInfo_spec (hU : Separated U) (hs : Inv U s)
    (hseq : s.entityDB.seq + 2 < 2 ^ 32) (hp : p ∈ U) (rangeInfo : RangeValueInfo)
    (hfit : ∀ str ∈ [rangeInfo.maxRange, rangeInfo.minRange, rangeInfo.defaultValue],
      fits str = true)
    (hfresh : s.deviceEntityMap p.1 = none → ∀ row ∈ s.entityDB.entity,
      SQLiteEntityDB.selects (kivStr .DEVICE_ID w.memory p.1) row = false) :
    ∃ t, s.setDeviceAttributeRangeValueInfo w p.1 p.2 rangeInfo = some t ∧
      Change U {p.1} {p} 2 s t := by
  obtain ⟨u, e, hu, he, hdevice⟩ := useDevice_spec (w := w) (P := {p}) hs (by omega)
    (fits_device (hU.fit p hp)) hfresh
  have hseq' := hdevice.seq
  obtain ⟨v, c, hv, hc, hrow, -⟩ := getDatasetElement_spec (w := w) hU hdevice.inv (by omega) hp he
  obtain ⟨t, ht, hset⟩ := addUniqueAttributeProperties_spec c
    [(.MAX_RANGE, .str rangeInfo.maxRange), (.MIN_RANGE, .str rangeInfo.minRange),
      (.DEFAULT_VALUE, .str rangeInfo.defaultValue)] hrow.inv.propertyIDs
    (by simpa [PropertyValue.strValue] using hfit)
  refine ⟨t, ?_, (hdevice.trans hrow).trans (hset.change hrow.inv (.inr ⟨p, rfl, hc⟩))⟩
  unfold setDeviceAttributeRangeValueInfo
  simp [hu, hv, ht]

theorem elementTexts_cons {element : ElementDescription}
    {elements : List (Option ElementDescription)} : elementTexts (some element :: elements) =
      (readFields element.fields).1.map (fun e => e.2.strValue) ++ elementTexts elements := by
  simp [elementTexts, List.reduceOption_cons_of_some]

/-- Each element of a pack changes what is known of the pair that it names. -/
theorem addElements_spec (hU : Separated U) (elements : List (Option ElementDescription))
    (hs : Inv U s) (hseq : s.entityDB.seq + (elementNames elements).length < 2 ^ 32)
    (hpairs : ∀ n ∈ elementNames elements, (d, n) ∈ U)
    (hfit : ∀ str ∈ elementTexts elements, fits str = true)
    (he : s.deviceEntityMap d = some e) :
    ∃ t went, addElements w e s elements = some (t, went) ∧
      Change U {d} {p | p.1 = d ∧ p.2 ∈ elementNames elements} (elementNames elements).length
        s t := by
  induction elements generalizing s with
  | nil => exact ⟨s, true, rfl, Change.refl hs⟩
  | cons element elements ih =>
    cases element with
    | none => exact ⟨s, false, rfl, (Change.refl hs).mono subset_rfl (Nat.zero_le _)⟩
    | some element =>
      have hfirst : ∀ e ∈ (readFields element.fields).1, fits e.2.strValue = true := fun e he =>
        hfit _ (elementTexts_cons ▸ List.mem_append_left _ (List.mem_map_of_mem he))
      have hrest : ∀ str ∈ elementTexts elements, fits str = true := fun str hstr =>
        hfit str (elementTexts_cons ▸ List.mem_append_right _ hstr)
      unfold addElements
      cases hname : element.ATTRIBUTE_NAME with
      | missing =>
        have hnames : elementNames (some element :: elements) = elementNames elements := by
          simp [elementNames, hname]
        rw [hnames] at hseq hpairs ⊢
        exact ih hs hseq hpairs hrest he
      | mistyped => exact ⟨s, false, rfl, (Change.refl hs).mono subset_rfl (Nat.zero_le _)⟩
      | value n =>
        have hnames : elementNames (some element :: elements) = n :: elementNames elements := by
          simp [elementNames, hname]
        rw [hnames] at hseq hpairs ⊢
        rw [List.length_cons] at hseq
        have hp : (d, n) ∈ U := hpairs n List.mem_cons_self
        obtain ⟨u, c, hu, hc, hrow, -⟩ :=
          getDatasetElement_spec (w := w) hU hs (by omega) hp he
        obtain ⟨v, hv, hset⟩ := addUniqueAttributeProperties_spec c
          (readFields element.fields).1 hrow.inv.propertyIDs hfirst
        have hone := hrow.trans (hset.change hrow.inv (.inr ⟨_, rfl, hc⟩))
        have hseq' := hone.seq
        have hsub : ({(d, n)} : Set Pair) ⊆ {p | p.1 = d ∧ p.2 ∈ n :: elementNames elements} := by
          rintro _ rfl
          exact ⟨rfl, List.mem_cons_self⟩
        by_cases hwent : (readFields element.fields).2 = true
        · obtain ⟨t, went, ht, hmore⟩ := ih hone.inv (by omega)
            (fun n' hn' => hpairs n' (List.mem_cons_of_mem _ hn')) hrest (hone.kept _ _ he)
          refine ⟨t, went, by simp [hu, hv, hwent, ht], ?_⟩
          have hsub' : {p : Pair | p.1 = d ∧ p.2 ∈ elementNames elements} ⊆
              {p | p.1 = d ∧ p.2 ∈ n :: elementNames elements} :=
            fun q hq => ⟨hq.1, List.mem_cons_of_mem _ hq.2⟩
          have htail := hmore.mono hsub' le_rfl
          refine ((hone.mono hsub le_rfl).trans htail).mono subset_rfl ?_
          simp only [List.length_cons]
          omega
        · refine ⟨v, false, by simp [hu, hv, hwent], hone.mono hsub ?_⟩
          simp

theorem setServers_spec (hs : Inv U s) (servers : Field (List (Option (List Char))))
    (hfit : ∀ serverVec, servers = .value serverVec → ∀ str ∈ serverVec.reduceOption,
      fits str = true) (hk : s.Touched D P e.entityID) :
    ∃ t, s.setServers e servers = some t ∧ Change U D P 0 s t := by
  have hclear := setOn_clear _ (finds_getProperty e hs.propertyIDs
    [.CS_DM_LD_SERVER_ADDRESS])
  cases servers with
  | missing => exact ⟨s, rfl, Change.refl hs⟩
  | mistyped => exact ⟨_, rfl, hclear.change hs hk⟩
  | value serverVec =>
    obtain ⟨t, ht, hset⟩ := addServers_spec
      (s := s.clearAllAttributeForProperty e .CS_DM_LD_SERVER_ADDRESS) e serverVec
      (hfit serverVec rfl)
    exact ⟨t, ht, (hclear.trans hset).change hs hk⟩

theorem addDescription_spec (hU : Separated U) (hs : Inv U s) {pack : AttributeDataWrapper}
    (hdevice : d ∈ (Label.addAttributeToDataSetFromDataWrapper w pack).devices)
    (hclear : Clear U u (.addAttributeToDataSetFromDataWrapper w pack))
    (hseq : s.entityDB.seq +
      (Label.addAttributeToDataSetFromDataWrapper w pack).names.length < 2 ^ 32)
    (he : s.deviceEntityMap d = some e) :
    ∃ t went, s.addDescription w e pack.DESCRIPTION = some (t, went) ∧
      Change U {d} {p | p ∈ (Label.addAttributeToDataSetFromDataWrapper w pack).pairs}
        (Label.addAttributeToDataSetFromDataWrapper w pack).names.length s t := by
  cases hdesc : pack.DESCRIPTION with
  | missing => exact ⟨s, true, rfl, (Change.refl hs).mono subset_rfl (Nat.zero_le _)⟩
  | mistyped => exact ⟨s, false, rfl, (Change.refl hs).mono subset_rfl (Nat.zero_le _)⟩
  | value elements =>
    have hnames : (Label.addAttributeToDataSetFromDataWrapper w pack).names =
        elementNames elements := by simp [Label.names, hdesc]
    have hpair : ∀ n ∈ elementNames elements,
        (d, n) ∈ (Label.addAttributeToDataSetFromDataWrapper w pack).pairs := fun n hn =>
      Label.mem_pairs.mpr ⟨hdevice, hnames ▸ hn⟩
    rw [hnames] at hseq ⊢
    obtain ⟨t, went, ht, hchange⟩ := addElements_spec (w := w) hU elements hs hseq
      (fun n hn => hclear.pairs _ (hpair n hn))
      (fun str hstr => hclear.texts str (by simp [Label.texts, hdesc, hstr])) he
    refine ⟨t, went, ht, hchange.mono ?_ le_rfl⟩
    rintro ⟨d', n⟩ ⟨rfl, hn⟩
    exact hpair n hn

theorem addAttributeToDataSetFromDataWrapper_spec (hU : Separated U) (hs : Inv U s)
    {pack : AttributeDataWrapper} (hdevice : pack.DEVICE_ID = .value d)
    (hclear : Clear U s (.addAttributeToDataSetFromDataWrapper w pack)) :
    ∃ t, s.addAttributeToDataSetFromDataWrapper w pack = some t ∧
      Change U {d} {p | p ∈ (Label.addAttributeToDataSetFromDataWrapper w pack).pairs}
        ((Label.addAttributeToDataSetFromDataWrapper w pack).names.length + 1) s t := by
  have hseq := hclear.ids
  have hmem : d ∈ (Label.addAttributeToDataSetFromDataWrapper w pack).devices := by
    simp [Label.devices, hdevice]
  obtain ⟨u, e, hu, he, huse⟩ := useDevice_spec (w := w)
    (P := {p | p ∈ (Label.addAttributeToDataSetFromDataWrapper w pack).pairs}) hs (by omega)
    (hclear.devices d hmem) (hclear.fresh d hmem)
  have hseq' := huse.seq
  obtain ⟨v, went, hv, hrows⟩ := addDescription_spec hU huse.inv hmem hclear (by omega) he
  have hall := huse.trans hrows
  obtain ⟨t, ht, hservers⟩ := setServers_spec (D := {d})
    (P := {p | p ∈ (Label.addAttributeToDataSetFromDataWrapper w pack).pairs}) hrows.inv
    pack.CS_DM_LD_SERVER_ADDRESS
    (fun serverVec hvalue str hstr => hclear.texts str (by simp [Label.texts, hvalue, hstr]))
    (.inl ⟨d, rfl, e, hrows.kept d e he, rfl⟩)
  unfold addAttributeToDataSetFromDataWrapper
  simp only [hdevice, hu, Option.bind_eq_bind, Option.bind_some, hv]
  cases went with
  | false => exact ⟨v, rfl, hall.mono subset_rfl (by omega)⟩
  | true => exact ⟨t, ht, (hall.trans hservers).mono subset_rfl (by omega)⟩

theorem step_change (hU : Separated U) (hs : Inv U s) {a : Label} (hclear : Clear U s a) :
    ∃ t, s.step a = some t ∧
      Change U {d | d ∈ a.devices} {p | p ∈ a.pairs} (a.names.length + 1) s t := by
  cases a with
  | addAttributeToDataSet w d n str type dir size =>
    have hseq : s.entityDB.seq + 1 + 3 < 2 ^ 32 := hclear.ids
    have hdevices : {d' | d' ∈ (Label.addAttributeToDataSet w d n str type dir size).devices} =
        {d} := by simp [Label.devices]
    have hpairs : {p | p ∈ (Label.addAttributeToDataSet w d n str type dir size).pairs} =
        {(d, n)} := by simp [Label.pairs, Label.devices, Label.names, List.product]
    have hp : (d, n) ∈ U :=
      hclear.pairs _ (Label.mem_pairs.mpr ⟨List.mem_cons_self, List.mem_cons_self⟩)
    obtain ⟨r, hr, hchange⟩ : ∃ r, s.addAttributeToDataSet w d n str type dir size = some r ∧
        ∀ t, r = .ok t → Change U {d} {(d, n)} 2 s t :=
      addAttributeToDataSet_spec hU hs (by omega) hp (hclear.texts _ List.mem_cons_self)
        (hclear.fresh d List.mem_cons_self) type dir size
    rw [hpairs, hdevices, step, hr]
    cases r with
    | error ex => exact ⟨s, rfl, (Change.refl hs).mono subset_rfl (Nat.zero_le _)⟩
    | ok t => exact ⟨t, rfl, hchange t rfl⟩
  | addAttributeToDataSetFromDataWrapper w pack =>
    cases hdevice : pack.DEVICE_ID with
    | value d =>
      have hdevices : {d' | d' ∈ (Label.addAttributeToDataSetFromDataWrapper w pack).devices} =
          {d} := by simp [Label.devices, hdevice]
      rw [hdevices]
      exact addAttributeToDataSetFromDataWrapper_spec hU hs hdevice hclear
    | missing | mistyped =>
      refine ⟨s, ?_, (Change.refl hs).mono subset_rfl (Nat.zero_le _)⟩
      simp [step, addAttributeToDataSetFromDataWrapper, hdevice]
  | setDeviceAttributeRangeValueInfo w d n rangeInfo =>
    have hseq : s.entityDB.seq + 1 + 3 < 2 ^ 32 := hclear.ids
    have hdevices : {d' | d' ∈ (Label.setDeviceAttributeRangeValueInfo w d n rangeInfo).devices} =
        {d} := by simp [Label.devices]
    have hpairs : {p | p ∈ (Label.setDeviceAttributeRangeValueInfo w d n rangeInfo).pairs} =
        {(d, n)} := by simp [Label.pairs, Label.devices, Label.names, List.product]
    have hp : (d, n) ∈ U :=
      hclear.pairs _ (Label.mem_pairs.mpr ⟨List.mem_cons_self, List.mem_cons_self⟩)
    rw [hpairs, hdevices]
    exact setDeviceAttributeRangeValueInfo_spec hU hs (by omega) hp rangeInfo hclear.texts
      (hclear.fresh d List.mem_cons_self)

/-! ## What is known of a pair -/

/-- The properties of the row of a pair. -/
def known (s : CUSchemaDB) (p : Pair) : List PropertyRow :=
  s.property.filter fun row => s.entityDB.entity.any fun r =>
    r = textRow .ATTRIBUTE_NAME (name p) r.id && row.entity_id = bindInt r.id

/-- Those with one of these keys. -/
def knownBy (s : CUSchemaDB) (p : Pair) (keyIDs : List DatasetKey) : List PropertyRow :=
  (s.known p).filter fun row => (keyIDs.map mapDatasetKeyForID).contains row.key_id

/-- The row of a pair is a child of the device. -/
def Listed (s : CUSchemaDB) (p : Pair) : Prop :=
  ∃ e y, s.deviceEntityMap p.1 = some e ∧ (e.entityID, y) ∈ s.entity_group ∧ s.Named p y

theorem known_named (hs : Inv U s) (h : s.Named p id) : s.known p = s.propsOf id := by
  refine List.filter_congr fun row _ => ?_
  rw [Bool.eq_iff_iff, List.any_eq_true, decide_eq_true_eq]
  simp only [Bool.and_eq_true, decide_eq_true_eq]
  constructor
  · rintro ⟨r, hr, heq, hrow⟩
    rw [hrow, hs.once p r.id id (show s.Named p r.id from heq ▸ hr) h]
  · exact fun hrow => ⟨_, h, rfl, hrow⟩

theorem known_not_named (h : ∀ id, ¬ s.Named p id) : s.known p = [] := by
  refine List.filter_eq_nil_iff.mpr fun row _ hany => ?_
  obtain ⟨r, hr, hsel⟩ := List.any_eq_true.mp hany
  rw [Bool.and_eq_true, decide_eq_true_eq] at hsel
  exact h r.id (show s.Named p r.id from hsel.1 ▸ hr)

theorem named_not_touched (hU : Separated U) (ht : Inv U t) (hP : P ⊆ U) (hq : q ∈ U)
    (hqP : q ∉ P) (h : t.Named q id) : ¬ t.Touched D P id := by
  rintro (⟨d, -, e, he, rfl⟩ | ⟨p, hp, hid⟩)
  · obtain ⟨-, str, hrow⟩ := ht.devices d e he
    exact device_ne_named ht hrow h rfl
  · exact hqP (named_inj hU ht (hP hp) hq hid h ▸ hp)

/-- An operation leaves alone what is known of the pairs that it is not on. -/
theorem Frame.known (hframe : Frame U D P n s t) (hU : Separated U) (hs : Inv U s) (hP : P ⊆ U)
    (hq : q ∈ U) (hqP : q ∉ P) : t.known q = s.known q := by
  by_cases hnamed : ∃ id, s.Named q id
  · obtain ⟨i, hi⟩ := hnamed
    have hi' : t.Named q i := hframe.rows _ hi
    rw [known_named hs hi, known_named hframe.inv hi',
      hframe.props i (named_not_touched hU hframe.inv hP hq hqP hi')]
  · have hs' : ∀ id, ¬ s.Named q id := fun id hid => hnamed ⟨id, hid⟩
    have ht' : ∀ id, ¬ t.Named q id := fun id hid =>
      (hframe.named q hq id hid).elim (hs' id) hqP
    rw [known_not_named hs', known_not_named ht']

/-- An operation does not add a pair that it is not on to its device, or take it away. -/
theorem Frame.listed (hframe : Frame U D P n s t) (hU : Separated U) (hs : Inv U s) (hP : P ⊆ U)
    (hq : q ∈ U) (hqP : q ∉ P) : t.Listed q ↔ s.Listed q := by
  have hgroup : ∀ x y, t.Named q y → ((x, y) ∈ t.entity_group ↔ (x, y) ∈ s.entity_group) := by
    intro x y hy
    refine hframe.group x y fun p hp hpy => ?_
    exact named_not_touched (D := D) hU hframe.inv hP hq hqP hy (.inr ⟨p, hp, hpy⟩)
  constructor
  · rintro ⟨e, y, he, hmem, hy⟩
    have hy' : s.Named q y := (hframe.named q hq y hy).resolve_right hqP
    -- the device of a pair with a row was used
    obtain ⟨e', he'⟩ : ∃ e', s.deviceEntityMap q.1 = some e' := by
      rcases hs.rows _ hy' with ⟨d, hd⟩ | ⟨p, hp, hrow, hmap⟩
      · have hkey := (textRow_inj hd).1
        simp [mapDatasetKeyForID] at hkey
      · rw [name_inj hU hq hp (textRow_inj hrow).2.1]
        exact Option.isSome_iff_exists.mp hmap
    have heq : some e' = some e := (hframe.kept _ _ he').symm.trans he
    cases heq
    exact ⟨e, y, he', (hgroup _ _ hy).mp hmem, hy'⟩
  · rintro ⟨e, y, he, hmem, hy⟩
    have hy' : t.Named q y := hframe.rows _ hy
    exact ⟨e, y, hframe.kept _ _ he, (hgroup _ _ hy').mpr hmem, hy'⟩

/-! ## Reading -/

theorem getPropertyByKeyID_eq (s : CUSchemaDB) (c : Entity) (keyIDs : List DatasetKey) :
    s.getPropertyByKeyID c keyIDs = (s.propsOf c.entityID).filter fun row =>
      (keyIDs.map mapDatasetKeyForID).contains row.key_id := by
  unfold getPropertyByKeyID propsOf
  rw [List.filter_filter]
  exact List.filter_congr fun row _ => Bool.and_comm ..

/-- The entity that is made for a pair has the properties that are known of it. -/
theorem propsOf_element (hs : Inv U s) (hframe : Frame U D P n s t)
    (hprop : t.property = s.property) (h : t.Named q id) : t.propsOf id = s.known q := by
  have hsame : t.propsOf id = s.propsOf id := by
    unfold propsOf
    rw [hprop]
  rw [hsame]
  by_cases hnamed : ∃ i, s.Named q i
  · obtain ⟨i, hi⟩ := hnamed
    rw [known_named hs hi, hframe.inv.once q id i h (hframe.rows _ hi)]
  · have hnone : ∀ i, ¬ s.Named q i := fun i hi => hnamed ⟨i, hi⟩
    rw [known_not_named hnone]
    refine List.filter_eq_nil_iff.mpr fun row hrow heq => ?_
    rw [decide_eq_true_eq] at heq
    obtain ⟨r, hr, hid⟩ := hs.properties row hrow
    -- a property of the new row would be of a row that was there
    have hrid : r.id = id := bindInt_inj (hid.symm.trans heq)
    have hrow' := row_eq hframe.inv (hframe.rows r hr) h hrid
    exact hnone id (by rwa [Named, ← hrow'])

theorem element_read (hU : Separated U) (hs : Inv U s) (hseq : s.entityDB.seq + 2 < 2 ^ 32)
    (hq : q ∈ U) : ∃ t e t' c, s.getDeviceEntity w q.1 = some (t, e) ∧
      t.getDatasetElement w e q.2 = some (t', c) ∧
      ∀ keyIDs, t'.getPropertyByKeyID c keyIDs = s.knownBy q keyIDs := by
  obtain ⟨t, e, ht, he, hdevice, -⟩ := getDeviceEntity_spec (w := w) hs (by omega)
    (fits_device (hU.fit q hq))
  have hseq' := hdevice.seq
  obtain ⟨t', c, ht', hc, hrow, hprop, -⟩ :=
    getDatasetElement_spec (w := w) hU hdevice.inv (by omega) hq he
  refine ⟨t, e, t', c, ht, ht', fun keyIDs => ?_⟩
  rw [getPropertyByKeyID_eq, propsOf_element hdevice.inv hrow.toFrame hprop hc,
    hdevice.known hU hs (Set.empty_subset U) hq (Set.notMem_empty q)]
  rfl

theorem description_eq (hU : Separated U) (hs : Inv U s) (hseq : s.entityDB.seq + 2 < 2 ^ 32)
    (hq : q ∈ U) (w : World) (old : List Char) : s.description w q old =
      some (match s.knownBy q [.ATTRIBUTE_DESCRIPTION] with
        | [] => old
        | row :: _ => row.value.strValue) := by
  obtain ⟨t, e, t', c, ht, ht', hread⟩ := element_read (w := w) hU hs hseq hq
  unfold description getDeviceAttributeDescription
  simp only [ht, ht', Option.bind_eq_bind, Option.bind_some, hread]
  cases s.knownBy q [.ATTRIBUTE_DESCRIPTION] <;> rfl

theorem direction_eq (hU : Separated U) (hs : Inv U s) (hseq : s.entityDB.seq + 2 < 2 ^ 32)
    (hq : q ∈ U) (w : World) : s.direction w q =
      some (match s.knownBy q [.ATTRIBUTE_DIRECTION] with
        | [] => none
        | row :: _ => some row.value.numValue) := by
  obtain ⟨t, e, t', c, ht, ht', hread⟩ := element_read (w := w) hU hs hseq hq
  unfold direction getDeviceAttributeDirection
  simp only [ht, ht', Option.bind_eq_bind, Option.bind_some, hread]
  cases s.knownBy q [.ATTRIBUTE_DIRECTION] <;> rfl

/-- What the loop over the properties of a range reads. -/
def rangeOf (s : CUSchemaDB) (q : Pair) (rangeInfo : RangeValueInfo) : RangeValueInfo × Bool :=
  match s.knownBy q [.MAX_RANGE, .MIN_RANGE, .DEFAULT_VALUE, .ATTRIBUTE_TYPE, .VALUE_MAX_SIZE] with
  | [] => (rangeInfo, false)
  | rows => (rows.foldl fillRange rangeInfo, true)

theorem range_eq (hU : Separated U) (hs : Inv U s) (hseq : s.entityDB.seq + 2 < 2 ^ 32)
    (hq : q ∈ U) (w : World) (rangeInfo : RangeValueInfo) :
    (s.Listed q → s.range w q rangeInfo = some (s.rangeOf q rangeInfo)) ∧
      (¬ s.Listed q → s.range w q rangeInfo = some (rangeInfo, false)) := by
  obtain ⟨t, e, ht, he, hdevice, -⟩ := getDeviceEntity_spec (w := w) hs (by omega)
    (fits_device (hU.fit q hq))
  have hlisted := hdevice.listed hU hs (Set.empty_subset U) hq (Set.notMem_empty q)
  have hknown := hdevice.known hU hs (Set.empty_subset U) hq (Set.notMem_empty q)
  have hname : composeAttributeName q.1 q.2 = name q := rfl
  unfold range getDeviceAttributeRangeValueInfo
  simp only [hname, hU.fit q hq, if_true, ht, Option.bind_eq_bind, Option.bind_some]
  rcases hsearch : t.searchEntityByParentIDAndKeyValue e.entityID .ATTRIBUTE_NAME (name q)
    with _ | ⟨y, ids⟩
  · refine ⟨fun h => ?_, fun _ => rfl⟩
    obtain ⟨e', y, he', hmem, hy⟩ := hlisted.mpr h
    cases he.symm.trans he'
    have hfound := (mem_search_iff hU hdevice.inv hq).mpr ⟨hmem, hy⟩
    rw [hsearch] at hfound
    cases hfound
  · have hall : ∀ y' ∈ y :: ids, (e.entityID, y') ∈ t.entity_group ∧ t.Named q y' := by
      intro y' hy'
      rw [← hsearch] at hy'
      exact (mem_search_iff hU hdevice.inv hq).mp hy'
    have hin : s.Listed q := hlisted.mp ⟨e, y, he, hall y List.mem_cons_self⟩
    refine ⟨fun _ => ?_, fun h => absurd hin h⟩
    obtain ⟨l, hl, hchild⟩ := exists_childs (R := Child U t) (y :: ids) fun y' hy' =>
      ⟨⟨y', name q⟩, rfl, q, hq, rfl, (hall y' hy').2⟩
    cases l with
    | nil => cases hl
    | cons c l =>
      have hc : t.Named q c.entityID := (hall _ (by rw [← hl]; exact List.mem_cons_self)).2
      have hprops : ∀ keyIDs, t.getPropertyByKeyID c keyIDs = s.knownBy q keyIDs := by
        intro keyIDs
        rw [getPropertyByKeyID_eq, ← known_named hdevice.inv hc, hknown]
        rfl
      simp only [← hl, getChilds_eq w.memory hU hdevice.inv (c :: l) hchild, Option.bind_some, hprops,
        rangeOf]
      cases s.knownBy q [.MAX_RANGE, .MIN_RANGE, .DEFAULT_VALUE, .ATTRIBUTE_TYPE,
        .VALUE_MAX_SIZE] <;> rfl

/-! ## The dataset of a device -/

theorem getAllProperty_eq (hs : Inv U s) (c : Entity) :
    s.getAllProperty c = if 0 ≤ bindInt c.entityID then s.propsOf c.entityID else [] := by
  unfold getAllProperty propsOf
  split_ifs with hpos
  · rw [SQLiteEntityDB.bindInt_eq hpos]
  · refine List.filter_eq_nil_iff.mpr fun row hrow heq => hpos ?_
    rw [decide_eq_true_eq] at heq
    obtain ⟨r, -, hr⟩ := hs.properties row hrow
    have hid : r.id = c.entityID := bindInt64_inj (hr.symm.trans heq)
    rw [← hid, ← hr, heq]
    exact Int.natCast_nonneg _

/-- All children of a device are those of pairs in play, and a device with a row of its own has
those of its own pairs. -/
theorem childIDS_spec (hs : Inv U s) (hown : OwnRows s) (he : s.deviceEntityMap d = some e) :
    s.searchEntityByParentIDAndKeyID e.entityID .ATTRIBUTE_NAME =
      (s.entity_group.filter (·.1 = e.entityID)).map Prod.snd ∧
    ∀ y ∈ (s.entity_group.filter (·.1 = e.entityID)).map Prod.snd,
      ∃ p ∈ U, s.Named p y ∧ p.1 = d := by
  have hgroup : ∀ g ∈ s.entity_group, g.1 = e.entityID → ∃ p ∈ U, s.Named p g.2 ∧ p.1 = d := by
    intro g hg hparent
    obtain ⟨p, hp, e', he', hg', hnamed⟩ := hs.group g hg
    exact ⟨p, hp, hnamed, hown _ _ _ _ he' he (hg'.symm.trans hparent)⟩
  constructor
  · unfold searchEntityByParentIDAndKeyID childIDS
    refine congrArg _ (List.filter_congr fun g hg => ?_)
    by_cases hparent : g.1 = e.entityID
    · obtain ⟨p, -, hnamed, -⟩ := hgroup g hg hparent
      have hany : (s.entityDB.entity.any fun row => row.id = g.2 &&
          row.key_id = bindInt (mapDatasetKeyForID .ATTRIBUTE_NAME)) = true :=
        List.any_eq_true.mpr ⟨_, hnamed, by simp [textRow]; rfl⟩
      simp [hparent, hany]
    · simp [hparent]
  · intro y hy
    obtain ⟨g, hg, rfl⟩ := List.mem_map.mp hy
    obtain ⟨hmem, hparent⟩ := List.mem_filter.mp hg
    exact hgroup g hmem (of_decide_eq_true hparent)

/-- A child of a device that was looked up, with a name that starts with the device. -/
def ChildOf (U : Set Pair) (s : CUSchemaDB) (d : List Char) (c : Entity) : Prop :=
  ∃ p ∈ U, c.strValue = name p ∧ s.Named p c.entityID ∧ p.1 = d

/-- The children of a device with a row of its own. -/
theorem exists_childsOf (hs : Inv U s) (hown : OwnRows s) (he : s.deviceEntityMap d = some e) :
    ∃ l : List Entity, l.map Entity.entityID =
        (s.entity_group.filter (·.1 = e.entityID)).map Prod.snd ∧ ∀ c ∈ l, ChildOf U s d c :=
  exists_childs _ fun y hy => by
    obtain ⟨p, hp, hnamed, hpd⟩ := (childIDS_spec hs hown he).2 y hy
    exact ⟨⟨y, name p⟩, rfl, p, hp, rfl, hnamed, hpd⟩

theorem fill_eq (hU : Separated U) (hs : Inv U s) (he : s.deviceEntityMap d = some e)
    {l : List Entity} (hchild : ∀ c ∈ l, ChildOf U s d c)
    (hids : s.searchEntityByParentIDAndKeyID e.entityID .ATTRIBUTE_NAME = l.map Entity.entityID)
    (w : World) : s.fillDataWrapperWithDataSetDescription w d = some (s, some {
      DEVICE_ID := e.strValue
      TIMESTAMP := (s.getPropertyByKeyID e [.TIMESTAMP]).head?.map fun row => row.value.numValue
      DESCRIPTION := l.filterMap (s.describeAttribute e)
      CS_DM_LD_SERVER_ADDRESS := (s.getPropertyByKeyID e [.CS_DM_LD_SERVER_ADDRESS]).map fun row =>
        row.value.strValue }) := by
  have hlong : (l.all fun child => (s.getAllProperty child).isEmpty ||
      e.strValue.length < child.strValue.length) = true := by
    refine List.all_eq_true.mpr fun c hc => ?_
    obtain ⟨p, hp, hstr, -, rfl⟩ := hchild c hc
    have hlength : e.strValue.length < c.strValue.length := by
      rw [hstr, (hs.devices _ e he).1]
      simp [name, composeAttributeName]
    simp [hlength]
  have hget := getChilds_eq w.memory hU hs l fun c hc => by
    obtain ⟨p, hp, hstr, hnamed, -⟩ := hchild c hc
    exact ⟨p, hp, hstr, hnamed⟩
  unfold fillDataWrapperWithDataSetDescription
  simp only [he, hids, hget, Option.bind_eq_bind, Option.bind_some, hlong, if_true]
  rfl

theorem dataset_eq (hU : Separated U) (hs : Inv U s) (he : s.deviceEntityMap d = some e)
    {l : List Entity} (hchild : ∀ c ∈ l, ChildOf U s d c)
    (hids : s.searchEntityByParentIDAndKeyID e.entityID .ATTRIBUTE_NAME = l.map Entity.entityID)
    (w : World) : s.dataset w d = some (some {
      DEVICE_ID := e.strValue
      TIMESTAMP := (s.getPropertyByKeyID e [.TIMESTAMP]).head?.map fun row => row.value.numValue
      DESCRIPTION := l.filterMap (s.describeAttribute e)
      CS_DM_LD_SERVER_ADDRESS := (s.getPropertyByKeyID e [.CS_DM_LD_SERVER_ADDRESS]).map fun row =>
        row.value.strValue }) := by
  unfold dataset
  rw [fill_eq hU hs he hchild hids w]
  rfl

/-- An operation leaves alone the dataset of the devices that it is not on. -/
theorem Change.dataset (hchange : Change U D P n s t) (hU : Separated U) (hs : Inv U s)
    (hown : OwnRows s) (hP : P ⊆ U) (hPD : ∀ p ∈ P, p.1 ∈ D) (hd : d ∉ D) (w w' : World) :
    ∃ r, s.dataset w d = some r ∧ t.dataset w' d = some r := by
  have hmap := hchange.maps d hd
  cases he : s.deviceEntityMap d with
  | none =>
    have he' : t.deviceEntityMap d = none := hmap.trans he
    unfold CUSchemaDB.dataset fillDataWrapperWithDataSetDescription
    exact ⟨none, by simp [he], by simp [he']⟩
  | some e =>
    have he' : t.deviceEntityMap d = some e := hmap.trans he
    have hownt := hchange.own hown
    -- the entity of the device is not one that the operation is on
    have hother : ∀ d' ∈ D, ∀ e', t.deviceEntityMap d' = some e' → e'.entityID ≠ e.entityID := by
      intro d' hd' e' hmem heq
      exact hd (hownt _ _ _ _ hmem he' heq ▸ hd')
    have hdevice : ¬ t.Touched D P e.entityID := by
      rintro (⟨d', hd', e', hmem, heq⟩ | ⟨p, -, hp⟩)
      · exact hother d' hd' e' hmem heq
      · obtain ⟨-, str, hrow⟩ := hchange.inv.devices d e he'
        exact device_ne_named hchange.inv hrow hp rfl
    obtain ⟨hsearch, -⟩ := childIDS_spec (U := U) hs hown he
    obtain ⟨hsearch', -⟩ := childIDS_spec hchange.inv hownt he'
    rw [hchange.childs e.entityID hother] at hsearch'
    obtain ⟨l, hl, hchild⟩ := exists_childsOf hs hown he
    have hchild' : ∀ c ∈ l, ChildOf U t d c := by
      intro c hc
      obtain ⟨p, hp, hstr, hnamed, hpd⟩ := hchild c hc
      exact ⟨p, hp, hstr, hchange.rows _ hnamed, hpd⟩
    have hprops : ∀ keyIDs, t.getPropertyByKeyID e keyIDs = s.getPropertyByKeyID e keyIDs := by
      intro keyIDs
      rw [getPropertyByKeyID_eq, getPropertyByKeyID_eq, hchange.props _ hdevice]
    have hdescribe : l.filterMap (t.describeAttribute e) = l.filterMap (s.describeAttribute e) := by
      refine List.filterMap_congr fun c hc => ?_
      obtain ⟨p, hp, -, hnamed, rfl⟩ := hchild' c hc
      have hsame : t.propsOf c.entityID = s.propsOf c.entityID := hchange.props _
        (named_not_touched hU hchange.inv hP hp (fun hpP => hd (hPD p hpP)) hnamed)
      unfold describeAttribute
      rw [getAllProperty_eq hs, getAllProperty_eq hchange.inv, hsame]
    refine ⟨_, dataset_eq hU hs he hchild (hsearch.trans hl.symm) w, ?_⟩
    rw [dataset_eq hU hchange.inv he' hchild' (hsearch'.trans hl.symm) w', hprops, hprops,
      hdescribe]

/-! ## The laws -/

theorem inv_new (U : Set Pair) : Inv U {} where
  rows := nofun
  ids := List.nodup_nil
  bound := nofun
  once := nofun
  devices := nofun
  group := nofun
  properties := nofun
  propertyIDs := List.nodup_nil

theorem step_independent (hU : Separated U) (hs : Inv U s) (hown : OwnRows s) {a : Label}
    (hclear : Clear U s a) :
    ∃ t, s.step a = some t ∧ Inv U t ∧ OwnRows t ∧ Independent U s a t := by
  obtain ⟨t, ht, hchange⟩ := step_change hU hs hclear
  have hseq := hclear.ids
  have hseq' := hchange.seq
  have hP : {p | p ∈ a.pairs} ⊆ U := hclear.pairs
  have hknown : ∀ q ∈ U, q ∉ a.pairs → ∀ keyIDs, t.knownBy q keyIDs = s.knownBy q keyIDs := by
    intro q hq hqa keyIDs
    exact congrArg (List.filter _) (hchange.known hU hs hP hq hqa)
  refine ⟨t, ht, hchange.inv, hchange.own hown, ?_⟩
  constructor
  · intro q hq hqa w w' old
    refine ⟨_, description_eq hU hs (by omega) hq w old, ?_⟩
    rw [description_eq hU hchange.inv (by omega) hq w' old, hknown q hq hqa]
  · intro q hq hqa w w'
    refine ⟨_, direction_eq hU hs (by omega) hq w, ?_⟩
    rw [direction_eq hU hchange.inv (by omega) hq w', hknown q hq hqa]
  · intro q hq hqa w w' rangeInfo
    have hlisted := hchange.listed hU hs hP hq hqa
    have hbefore := range_eq hU hs (by omega) hq w rangeInfo
    have hafter := range_eq hU hchange.inv (by omega) hq w' rangeInfo
    by_cases hin : s.Listed q
    · refine ⟨_, hbefore.1 hin, ?_⟩
      rw [hafter.1 (hlisted.mpr hin)]
      unfold rangeOf
      rw [hknown q hq hqa]
    · exact ⟨_, hbefore.2 hin, hafter.2 fun h => hin (hlisted.mp h)⟩
  · intro d hd w w'
    exact hchange.dataset hU hs hown hP (fun p hp => (Label.mem_pairs.mp hp).1) hd w w'

/-- In every run of operations on separated names, each leaves alone what is read of all pairs that
it is not on, and the datasets of all other devices. -/
theorem attributes_are_independent (hU : Separated U) {as : List Label} {a : Label}
    (hok : RunOk step (Clear U) {} (as ++ [a])) :
    ∃ s t, run step {} as = some s ∧ s.step a = some t ∧ Independent U s a t := by
  obtain ⟨hrun, hlast⟩ := runOk_append.mp hok
  have hown : OwnRows {} := nofun
  obtain ⟨s, hs, hinv, hown⟩ := run_ends_of_ok (fun s => Inv U s ∧ OwnRows s)
    (fun s a h hclear => by
      obtain ⟨t, ht, hinv, hown, -⟩ := step_independent hU h.1 h.2 hclear
      exact ⟨t, ht, hinv, hown⟩) ⟨inv_new U, hown⟩ hrun
  obtain ⟨t, ht, -, -, hind⟩ := step_independent hU hinv hown (hlast s hs).1
  exact ⟨s, t, hs, ht, hind⟩

/-- An attribute of an integer. -/
def addInt32 (deviceID attributeName attributeDescription : List Char) : Label :=
  .addAttributeToDataSet ⟨0, 7⟩ deviceID attributeName attributeDescription .TYPE_INT32 .Input 0

def twoPairs : List Pair := [(['D'], ['a']), (['D'], ['b'])]

theorem separated_twoPairs : Separated {p | p ∈ twoPairs} where
  fit := show ∀ p ∈ twoPairs, fits (name p) = true by decide
  apart := show ∀ p ∈ twoPairs, ∀ q ∈ twoPairs, like (name p) (name q) = true → p = q by decide

theorem two_attributes_are_independent :
    ∃ s t, run step {} [addInt32 ['D'] ['a'] ['1']] = some s ∧
      s.step (addInt32 ['D'] ['b'] ['2']) = some t ∧
      Independent {p | p ∈ twoPairs} s (addInt32 ['D'] ['b'] ['2']) t :=
  attributes_are_independent separated_twoPairs (by decide)

/-- The attribute `A` takes the place of the attribute `a`. -/
theorem upper_case_is_confused : ¬ ∀ (as : List Label) (a : Label) (s t : CUSchemaDB),
    (∀ b ∈ as ++ [a], ∀ p ∈ b.pairs, fits (name p) = true) → run step {} as = some s →
      s.step a = some t → Independent {p | fits (name p) = true} s a t := by
  intro h
  obtain ⟨r, hbefore, hafter⟩ := (h [addInt32 ['D'] ['a'] ['1']] (addInt32 ['D'] ['A'] ['2']) _ _
    (by decide) rfl rfl).description (['D'], ['a']) (by decide) (by decide) ⟨0, 7⟩ ⟨0, 7⟩ []
  have hone : r = ['1'] := (Option.some.inj hbefore).symm
  have htwo : r = ['2'] := (Option.some.inj hafter).symm
  rw [hone] at htwo
  cases htwo

end CUSchemaDB

end chaos.common.data
