-- A property of an attribute has one value, which is the last one that was given for it, whatever the
-- names are. The texts that do not fit in a value are those that a call cannot store.
import Chaos.AttributeIndependence
import Chaos.AttributeWrites

namespace chaos.common.data

open runs chaos.edb

namespace CUSchemaDB

variable {s t : CUSchemaDB} {w : World} {device : Entity} {d : List Char} {a : Label}
  {found : List (Entity × List (DatasetKey × PropertyValue))}

/-! ## The parts of a call -/

/-- The elements of a pack that are named, up to one that throws, with the values they give. The
flag says that none throws. -/
def reached : List (Option ElementDescription) →
    List (List Char × List (DatasetKey × PropertyValue)) × Bool
  | [] => ([], true)
  | none :: _ => ([], false)
  | some elementDescription :: elements =>
    match elementDescription.ATTRIBUTE_NAME with
    | .missing => reached elements
    | .mistyped => ([], false)
    | .value attrName =>
      let (values, went) := readFields elementDescription.fields
      if went then ((attrName, values) :: (reached elements).1, (reached elements).2)
      else ([(attrName, values)], false)

theorem addElements_eq (elements : List (Option ElementDescription)) (s : CUSchemaDB) :
    addElements w device s elements =
      (setElements (fun s n => s.getDatasetElement w device n) s (reached elements).1).map
        fun r => (r.1, (reached elements).2) := by
  induction elements generalizing s with
  | nil => rfl
  | cons element elements ih =>
    cases element with
    | none => rfl
    | some element =>
      unfold addElements reached
      cases hname : element.ATTRIBUTE_NAME with
      | missing => exact ih s
      | mistyped => rfl
      | value n =>
        dsimp only
        split_ifs with hwent
        · simp only [ih, setElements, Option.bind_eq_bind, Option.map_bind, Function.comp_def]
          refine Option.bind_congr fun r _ => Option.bind_congr fun u _ => ?_
          cases setElements (fun s n => s.getDatasetElement w device n) u (reached elements).1 <;>
            rfl
        · simp only [setElements, Option.bind_eq_bind, Option.map_bind, Function.comp_def]
          refine Option.bind_congr fun r _ => Option.bind_congr fun u _ => ?_
          rfl

namespace Label

/-- The device that a call is on. A call that is refused is on none. -/
def deviceID : Label → Option (List Char)
  | .addAttributeToDataSet _ deviceID _ _ attributeType _ maxDimension =>
    (typeMaxDimension attributeType maxDimension).toOption.map fun _ => deviceID
  | .addAttributeToDataSetFromDataWrapper _ pack =>
    match pack.DEVICE_ID with
    | .value deviceID => some deviceID
    | _ => none
  | .setDeviceAttributeRangeValueInfo _ deviceID _ _ => some deviceID

/-- The attributes that a call gives values for, up to an exception. -/
def elements : Label → List (List Char × List (DatasetKey × PropertyValue))
  | .addAttributeToDataSet _ _ attributeName attributeDescription attributeType attributeDirection
      maxDimension =>
    match typeMaxDimension attributeType maxDimension with
    | .error _ => []
    | .ok typeMaxDimension =>
      [(attributeName, [(.ATTRIBUTE_DESCRIPTION, .str attributeDescription),
        (.ATTRIBUTE_TYPE, .num (typeNumber attributeType)),
        (.ATTRIBUTE_DIRECTION, .num (directionNumber attributeDirection)),
        (.VALUE_MAX_SIZE, .num (.ofNat typeMaxDimension.toNat))])]
  | .addAttributeToDataSetFromDataWrapper _ pack =>
    match pack.DESCRIPTION with
    | .value elements => (reached elements).1
    | _ => []
  | .setDeviceAttributeRangeValueInfo _ _ attributesName rangeInfo =>
    [(attributesName, [(.MAX_RANGE, .str rangeInfo.maxRange), (.MIN_RANGE, .str rangeInfo.minRange),
      (.DEFAULT_VALUE, .str rangeInfo.defaultValue)])]

/-- The pack of a call gives its servers, when no attribute throws. -/
def servers : Label → Field (List (Option (List Char)))
  | .addAttributeToDataSetFromDataWrapper _ pack =>
    match pack.DESCRIPTION with
    | .missing => pack.CS_DM_LD_SERVER_ADDRESS
    | .mistyped => .missing
    | .value elements =>
      if (reached elements).2 then pack.CS_DM_LD_SERVER_ADDRESS else .missing
  | _ => .missing

/-- An attribute that is added by hand is looked up among all entities. -/
def resolve (a : Label) (device : Entity) (s : CUSchemaDB) (n : List Char) :
    Option (CUSchemaDB × Entity) :=
  match a with
  | .addAttributeToDataSet w deviceID _ _ _ _ _ =>
    let a_name := composeAttributeName deviceID n
    if fits a_name then s.getNewEntityInstance .ATTRIBUTE_NAME w.memory a_name else none
  | a => s.getDatasetElement a.world device n

/-- The end of a call. An attribute that is added by hand becomes a child of its device. -/
def finish (a : Label) (device : Entity) (s : CUSchemaDB)
    (found : List (Entity × List (DatasetKey × PropertyValue))) : Option CUSchemaDB :=
  match a with
  | .addAttributeToDataSet .. =>
    some (found.foldl (fun s f => if s.isChild device f.1 then s else s.addChild device f.1) s)
  | a => s.setServers device a.servers

end Label

/-- What a call does, in the same parts for all three. -/
def perform (s : CUSchemaDB) (a : Label) : Option CUSchemaDB :=
  match a.deviceID with
  | none => some s
  | some d => do
    let (s, device) ← s.getDeviceEntity a.world d
    let (s, found) ← setElements (a.resolve device) s a.elements
    a.finish device s found

theorem step_eq (s : CUSchemaDB) (a : Label) : step s a = s.perform a := by
  cases a with
  | addAttributeToDataSet w d n description type dir size =>
    cases hsize : typeMaxDimension type size with
    | error ex => simp [step, addAttributeToDataSet, perform, Label.deviceID, hsize, Except.toOption]
    | ok size =>
      simp only [step, addAttributeToDataSet, perform, Label.deviceID, Label.elements, hsize,
        Except.toOption, Option.map_some, Option.bind_eq_bind, Option.bind_assoc, setElements,
        Label.resolve, Label.finish, Label.world]
      refine Option.bind_congr fun r _ => ?_
      split_ifs
      · simp only [Option.bind_assoc]
        refine Option.bind_congr fun r' _ => Option.bind_congr fun u _ => ?_
        rfl
      · rfl
  | addAttributeToDataSetFromDataWrapper w pack =>
    simp only [step, addAttributeToDataSetFromDataWrapper, perform, Label.deviceID, Label.elements,
      Label.world]
    cases hdevice : pack.DEVICE_ID with
    | missing => rfl
    | mistyped => rfl
    | value d =>
      refine Option.bind_congr fun r _ => ?_
      cases hdesc : pack.DESCRIPTION with
      | missing => simp [addDescription, setElements, Label.finish, Label.servers, hdesc]
      | mistyped => simp [addDescription, setElements, Label.finish, Label.servers, hdesc, setServers]
      | value elements =>
        simp only [addDescription, addElements_eq, Option.bind_eq_bind, Option.bind_map,
          Function.comp_def]
        refine Option.bind_congr fun r' _ => ?_
        simp only [Label.finish, Label.servers, hdesc]
        split_ifs <;> rfl
  | setDeviceAttributeRangeValueInfo w d n rangeInfo =>
    simp only [step, setDeviceAttributeRangeValueInfo, perform, Label.deviceID, Label.elements,
      Option.bind_eq_bind, setElements, Label.resolve, Label.finish, Label.world, Label.servers,
      setServers, Option.bind_assoc]
    refine Option.bind_congr fun r _ => Option.bind_congr fun r' _ => ?_
    exact (Option.bind_fun_some _).symm

/-! ## What is claimed -/

namespace Label

/-- The texts that a call puts in a value. -/
def copied (a : Label) : List (List Char) :=
  match a.deviceID with
  | none => []
  | some d =>
    d :: a.elements.flatMap (fun element =>
      composeAttributeName d element.1 :: element.2.map fun v => v.2.strValue) ++
      serverTexts a.servers

def Fit (a : Label) : Prop := ∀ str ∈ a.copied, fits str = true

instance (a : Label) : Decidable a.Fit :=
  inferInstanceAs (Decidable (∀ str ∈ a.copied, fits str = true))

end Label

/-- What a call gives for the properties of the entities that it finds, in order. -/
def writes (s : CUSchemaDB) (a : Label) : List (Place × PropertyValue) :=
  let result := do
    let d ← a.deviceID
    let (s, device) ← s.getDeviceEntity a.world d
    setElements (a.resolve device) s a.elements
  result.elim [] fun r => r.2.flatMap fun f => placed f.1 f.2

/-- There are ids for the entities and for the properties that a call may add. A lookup that selects
more than one row adds another one. -/
def IdsLeft (s : CUSchemaDB) (a : Label) : Prop :=
  s.entityDB.seq + 1 + a.elements.length * (s.entity_group.length + a.elements.length) < 2 ^ 32 ∧
    s.propertySeq + 1 + valuesCount a.elements < 2 ^ 32

instance (s : CUSchemaDB) (a : Label) : Decidable (s.IdsLeft a) :=
  inferInstanceAs (Decidable (_ ∧ _))

/-! ## What the calls do -/

theorem sendable_reached (elements : List (Option ElementDescription)) :
    ∀ element ∈ (reached elements).1, ∀ v ∈ element.2, v.1 ∈ attributeKeys ∧ Sendable v.1 v.2 := by
  induction elements with
  | nil => exact nofun
  | cons element elements ih =>
    cases element with
    | none => exact nofun
    | some element =>
      unfold reached
      split
      · exact ih
      · exact nofun
      · dsimp only
        split_ifs
        · exact List.forall_mem_cons.mpr ⟨sendable_readFields element, ih⟩
        · exact List.forall_mem_cons.mpr ⟨sendable_readFields element, nofun⟩

theorem sendable_elements (a : Label) :
    ∀ element ∈ a.elements, ∀ v ∈ element.2, v.1 ∈ attributeKeys ∧ Sendable v.1 v.2 := by
  cases a with
  | addAttributeToDataSet w d n description type dir size =>
    cases hsize : typeMaxDimension type size with
    | error ex => simp [Label.elements, hsize]
    | ok size =>
      simp only [Label.elements, hsize, List.forall_mem_cons, List.not_mem_nil, false_implies, implies_true, and_true]
      exact ⟨⟨by decide, .inl rfl⟩, ⟨by decide, sendable_type type⟩,
        ⟨by decide, sendable_direction dir⟩, by decide, .inr rfl⟩
  | addAttributeToDataSetFromDataWrapper w pack =>
    cases hdesc : pack.DESCRIPTION with
    | missing | mistyped => simp [Label.elements, hdesc]
    | value elements =>
      simp only [Label.elements, hdesc]
      exact sendable_reached elements
  | setDeviceAttributeRangeValueInfo w d n rangeInfo =>
    simp only [Label.elements, List.forall_mem_cons, List.not_mem_nil, false_implies, implies_true,
      and_true]
    exact ⟨⟨by decide, .inl rfl⟩, ⟨by decide, .inl rfl⟩, by decide, .inl rfl⟩

theorem resolves_datasetElement (hstr : device.strValue = d) :
    Resolves (fun s n => s.getDatasetElement w device n) d where
  effect _ _ _ _ hs h := hstr ▸ datasetElement_effect hs h
  defined _ _ hs hseq hfit := exists_datasetElement hs hseq (hstr ▸ hfit)

theorem resolves (ha : a.deviceID = some d) (hstr : device.strValue = d) :
    Resolves (a.resolve device) d := by
  cases a with
  | addAttributeToDataSet w d' n description type dir size =>
    have hd : d' = d := by
      obtain ⟨-, -, rfl⟩ := Option.map_eq_some_iff.mp ha
      rfl
    subst hd
    refine ⟨?_, ?_⟩
    · intro s n t c hs h
      simp only [Label.resolve] at h
      split_ifs at h with hfit
      obtain ⟨hnew, -, hrow⟩ := newEntity_effect hs h
      exact ⟨hfit, hnew.mono (by omega) (Nat.zero_le _) le_rfl, hrow⟩
    · intro s n hs hseq hfit
      simp only [Label.resolve, hfit, if_true]
      exact exists_newEntity hs (by omega) ..
  | addAttributeToDataSetFromDataWrapper w pack => exact resolves_datasetElement hstr
  | setDeviceAttributeRangeValueInfo w d n rangeInfo => exact resolves_datasetElement hstr

theorem addChilds_effect (hs : Good s)
    (hrows : ∀ f ∈ found, ∃ row ∈ s.entityDB.entity, row.id = f.1.entityID) :
    let t := found.foldl (fun s f => if s.isChild device f.1 then s else s.addChild device f.1) s
    Good t ∧ Wrote [] s t := by
  induction found generalizing s with
  | nil => exact ⟨hs, Wrote.refl s⟩
  | cons f found ih =>
    obtain ⟨hrow, hrows⟩ := List.forall_mem_cons.mp hrows
    have hone : Effect [] 0 1 0 s (if s.isChild device f.1 then s else s.addChild device f.1) := by
      split_ifs
      · exact (Effect.refl hs).mono le_rfl (Nat.zero_le _) le_rfl
      · exact addChild_effect hs device hrow
    obtain ⟨hgood, hwrote⟩ := ih hone.good fun f' hf' => by
      obtain ⟨r, hr, hid⟩ := hrows f' hf'
      exact ⟨r, hone.rows r hr, hid⟩
    refine ⟨hgood, fun p hp => (hwrote p hp).trans ?_⟩
    have hsame : (if s.isChild device f.1 then s else s.addChild device f.1).property =
        s.property := by
      split_ifs
      · rfl
      · rw [addChild_same]
    unfold values rowsAt
    rw [hsame]

theorem finish_effect (hs : Good s) (he : s.deviceEntityMap d = some device)
    (hrows : ∀ f ∈ found, ∃ row ∈ s.entityDB.entity, row.id = f.1.entityID)
    (h : a.finish device s found = some t) :
    (∀ str ∈ serverTexts a.servers, fits str = true) ∧ Good t ∧ Wrote [] s t := by
  cases a with
  | addAttributeToDataSet w d n description type dir size =>
    cases h
    exact ⟨nofun, addChilds_effect hs hrows⟩
  | addAttributeToDataSetFromDataWrapper w pack => exact setServers_effect hs he h
  | setDeviceAttributeRangeValueInfo w d n rangeInfo => exact setServers_effect hs he h

theorem exists_finish (device : Entity) (s : CUSchemaDB)
    (found : List (Entity × List (DatasetKey × PropertyValue)))
    (hfit : ∀ str ∈ serverTexts a.servers, fits str = true) :
    ∃ t, a.finish device s found = some t := by
  cases a with
  | addAttributeToDataSet w d n description type dir size => exact ⟨_, rfl⟩
  | addAttributeToDataSetFromDataWrapper w pack => exact exists_setServers device s hfit
  | setDeviceAttributeRangeValueInfo w d n rangeInfo => exact exists_setServers device s hfit

/-- The texts of a call on the device `d` fit just when those of its parts do. -/
theorem fit_iff (ha : a.deviceID = some d) : a.Fit ↔ fits d = true ∧
    (∀ element ∈ a.elements, fits (composeAttributeName d element.1) = true ∧
      ∀ v ∈ element.2, fits v.2.strValue = true) ∧
    ∀ str ∈ serverTexts a.servers, fits str = true := by
  unfold Label.Fit Label.copied
  simp only [ha, List.cons_append, List.forall_mem_cons, List.forall_mem_append,
    List.forall_mem_flatMap, List.forall_mem_map]

/-- A call that comes to its end keeps the tables good, and its texts fit. While there are ids it
stores what it gives. -/
theorem step_effect (hs : Good s) (h : step s a = some t) :
    a.Fit ∧ Good t ∧ (IdsLeft s a → Wrote (s.writes a) s t) := by
  rw [step_eq] at h
  unfold perform at h
  cases ha : a.deviceID with
  | none =>
    simp only [ha, Option.some.injEq] at h
    subst h
    refine ⟨?_, hs, fun _ => ?_⟩
    · simp [Label.Fit, Label.copied, ha]
    · simpa [writes, ha] using Wrote.refl s
  | some d =>
    simp only [ha] at h
    obtain ⟨⟨u, device⟩, hu, h⟩ := Option.bind_eq_some_iff.mp h
    obtain ⟨⟨v, found⟩, hv, h⟩ := Option.bind_eq_some_iff.mp h
    have he := (keeps_getDeviceEntity hu).2
    obtain ⟨hfit, hstr, hdevice⟩ := device_effect hs hu
    obtain ⟨hfits, hrows, hset⟩ :=
      setElements_effect (resolves ha hstr) hdevice.good (sendable_elements a) hv
    obtain ⟨hservers, hgood, hwrote⟩ := finish_effect hset.good (hset.kept _ _ he) hrows h
    refine ⟨(fit_iff ha).mpr ⟨hfit, hfits, hservers⟩, hgood, fun hids => ?_⟩
    have hwrites : s.writes a = found.flatMap fun f => placed f.1 f.2 := by
      simp [writes, ha, hu, hv]
    have hids := hids.2
    have hall := ((hdevice.trans hset).wrote (by omega)).trans hwrote
    rw [List.append_nil] at hall
    rw [hwrites]
    exact hall

theorem exists_step (hs : Good s) (hids : IdsLeft s a) (hfit : a.Fit) : ∃ t, step s a = some t := by
  rw [step_eq]
  unfold perform
  cases ha : a.deviceID with
  | none => exact ⟨s, rfl⟩
  | some d =>
    obtain ⟨hdfit, hfits, hservers⟩ := (fit_iff ha).mp hfit
    have hids := hids.1
    obtain ⟨⟨u, device⟩, hu⟩ := exists_device (w := a.world) hs (by omega) hdfit
    obtain ⟨-, hstr, hdevice⟩ := device_effect hs hu
    have hgroup : u.entity_group.length ≤ s.entity_group.length := hdevice.group
    have hle : a.elements.length * (u.entity_group.length + a.elements.length) ≤
        a.elements.length * (s.entity_group.length + a.elements.length) :=
      Nat.mul_le_mul_left _ (by omega)
    obtain ⟨⟨v, found⟩, hv⟩ := exists_setElements (resolves ha hstr) hdevice.good
      (sendable_elements a) hfits (by have := hdevice.seq; omega)
    obtain ⟨t, ht⟩ := exists_finish device v found hservers
    exact ⟨t, by simp [hu, hv, ht]⟩

/-! ## What holds of the runs -/

theorem good_new : Good {} where
  tidy := tidy_new
  texts := nofun
  bound := nofun
  group := nofun
  devices := nofun
  propertyIDs := List.nodup_nil
  propertyBound := nofun

/-- In a run of calls whose texts fit, and that have ids, each property has one value at most. The next
call that has ids stores the values that it gives just when its texts fit. -/
theorem attribute_properties_have_the_last_value {as : List Label}
    (hok : RunOk step (fun s a => s.IdsLeft a ∧ a.Fit) {} as) :
    ∃ s, run step {} as = some s ∧ Unique s ∧ ∀ a, s.IdsLeft a →
      ((∃ t, step s a = some t ∧ Unique t ∧ Wrote (s.writes a) s t) ↔ a.Fit) := by
  obtain ⟨s, hr, hs⟩ := run_ends_of_ok Good
    (fun s a hs hok => by
      obtain ⟨t, ht⟩ := exists_step hs hok.1 hok.2
      exact ⟨t, ht, (step_effect hs ht).2.1⟩) good_new hok
  refine ⟨s, hr, hs.tidy.unique, fun a hids => ?_⟩
  constructor
  · rintro ⟨t, ht, -⟩
    exact (step_effect hs ht).1
  · intro hfit
    obtain ⟨t, ht⟩ := exists_step hs hids hfit
    obtain ⟨-, hgood, hwrote⟩ := step_effect hs ht
    exact ⟨t, ht, hgood.tidy.unique, hwrote hids⟩

/-- The description of an attribute is set twice, by hand and by a pack that has an element of another
type behind it, and then the range. -/
def describedTwice : List Label :=
  [addInt32 ['D'] ['a'] ['1'],
    .addAttributeToDataSetFromDataWrapper ⟨0, 7⟩
      { DEVICE_ID := .value ['D']
        DESCRIPTION := .value
          [some { ATTRIBUTE_NAME := .value ['a'], ATTRIBUTE_DESCRIPTION := .value ['2'] }, none] },
    .setDeviceAttributeRangeValueInfo ⟨0, 7⟩ ['D'] ['a'] { maxRange := ['9'] }]

theorem described_twice_has_the_last_value :
    ∃ s, run step {} describedTwice = some s ∧ Unique s ∧ ∀ a, s.IdsLeft a →
      ((∃ t, step s a = some t ∧ Unique t ∧ Wrote (s.writes a) s t) ↔ a.Fit) :=
  attribute_properties_have_the_last_value (by decide +kernel)

/-- A description of 256 bytes is copied over the end of its buffer. -/
theorem long_description_is_not_stored : ¬ ∀ as : List Label, ∃ s, run step {} as = some s ∧
    Unique s ∧ ∀ a, ∃ t, step s a = some t ∧ Unique t ∧ Wrote (s.writes a) s t := by
  intro hclaim
  obtain ⟨s, hs, -, hnext⟩ := hclaim []
  cases hs
  obtain ⟨t, ht, -⟩ := hnext (addInt32 ['D'] ['a'] (List.replicate 256 'x'))
  have hnone : (step {} (addInt32 ['D'] ['a'] (List.replicate 256 'x'))).isNone := by
    decide +kernel
  rw [ht] at hnone
  cases hnone

end CUSchemaDB

end chaos.common.data
