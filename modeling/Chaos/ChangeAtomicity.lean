-- A refused request has stored the values before the refused one. It changes nothing just when each of
-- them was there already, with its bit set.
import Chaos.AttributeChange
import Chaos.RangeChecks

/-! ## Writes one after the other -/

namespace chaos.common.data.cache

open pointer_map

/-- The same values and the same bits. -/
structure SameValues (s t : AttributesSetting) : Prop where
  values : ∀ n, pointer t.mapAttributeIndexSettings n = pointer s.mapAttributeIndexSettings n
  bitmap : t.bitmapChangedAttribute = s.bitmapChangedAttribute

/-- An index, and the bytes that are written there. -/
abbrev Store := UInt16 × List UInt8

namespace AttributesSetting

def storeAll (s : AttributesSetting) (l : List Store) : Option AttributesSetting :=
  l.foldlM (fun s w => (s.write w.1 w.2).toOption) s

/-- The value has room for the bytes, as far as they are not cut. -/
def RoomAt (s : AttributesSetting) (w : Store) : Prop :=
  ∀ v, pointer s.mapAttributeIndexSettings w.1 = some v →
    v.value_buffer ≠ none ∨ min w.2.length v.size.toNat = 0

/-- The bytes are there, and the value is marked as changed. -/
def HeldAt (s : AttributesSetting) (w : Store) : Prop :=
  ∃ v, pointer s.mapAttributeIndexSettings w.1 = some v ∧ v.setValue w.2 = .ok v ∧
    s.bitmapChangedAttribute[v.index.toNat]? = some true

/-- The value of an index that a pointer leads to, and its bit. -/
def ThereAt (s : AttributesSetting) (n : UInt16) : Prop :=
  ∃ v, s.mapAttributeIndexSettings[n]? = some (some v) ∧
    v.index.toNat < s.bitmapChangedAttribute.length

end AttributesSetting

variable {s t u : AttributesSetting} {n : UInt16} {v v' : ValueSetting} {w w' : Store}
  {value : List UInt8} {l : List Store}

theorem ValueSetting.setValue_ok (h : v.setValue value = .ok v') :
    v'.index = v.index ∧ v'.size = v.size ∧ v'.type = v.type ∧ v'.name = v.name ∧
      (v'.value_buffer = none ↔ v.value_buffer = none) := by
  unfold ValueSetting.setValue at h
  cases hb : v.value_buffer with
  | some buffer =>
    simp only [hb] at h
    cases h
    simp
  | none =>
    simp only [hb] at h
    split at h
    · cases h
      simp [hb]
    · cases h

/-- Bytes that are written twice are there after the first time. -/
theorem ValueSetting.setValue_again (h : v.setValue value = .ok v') :
    v'.setValue value = .ok v' := by
  unfold ValueSetting.setValue at h ⊢
  cases hb : v.value_buffer with
  | some buffer =>
    simp only [hb] at h
    cases h
    simp
  | none =>
    simp only [hb] at h
    split at h
    · rename_i hzero
      cases h
      simp [hb, hzero]
    · cases h

theorem ValueSetting.setValue_eq_ok_iff :
    (∃ v', v.setValue value = .ok v') ↔
      v.value_buffer ≠ none ∨ min value.length v.size.toNat = 0 := by
  unfold ValueSetting.setValue
  cases hb : v.value_buffer with
  | some buffer => simp
  | none =>
    dsimp only
    split <;> simp_all

namespace AttributesSetting

/-- The effect of a write that is made. -/
structure Written (s : AttributesSetting) (w : Store) (t : AttributesSetting) (v v' : ValueSetting) :
    Prop where
  found : s.mapAttributeIndexSettings[w.1]? = some (some v)
  there : v.index.toNat < s.bitmapChangedAttribute.length
  set : v.setValue w.2 = .ok v'
  names : t.mapAttributeNameIndex = s.mapAttributeNameIndex
  values : ∀ k, t.mapAttributeIndexSettings[k]? =
    if k = w.1 then some (some v') else s.mapAttributeIndexSettings[k]?
  bitmap : t.bitmapChangedAttribute = s.bitmapChangedAttribute.set v.index.toNat true

theorem write_of_setValue (hv : s.mapAttributeIndexSettings[w.1]? = some (some v))
    (hlt : v.index.toNat < s.bitmapChangedAttribute.length) (hset : v.setValue w.2 = .ok v') :
    ∃ t, s.write w.1 w.2 = .ok t ∧ Written s w t v v' := by
  have hmem : w.1 ∈ s.mapAttributeIndexSettings := by
    rw [Std.TreeMap.mem_iff_isSome_getElem?, hv]
    rfl
  have hindex := (ValueSetting.setValue_ok hset).1
  unfold write setValueForAttribute
  simp only [pointer_of_getElem? hv, hset, setBit, store, touch, hindex, hlt, if_true]
  refine ⟨_, rfl, hv, hlt, hset, rfl, fun k => ?_, rfl⟩
  rw [Std.TreeMap.getElem?_insert, getElem?_touched_of_mem hmem]
  by_cases hk : k = w.1
  · rw [if_pos hk, if_pos (hk ▸ Std.ReflCmp.compare_self)]
  · rw [if_neg hk, if_neg fun heq => hk (Std.LawfulEqCmp.eq_of_compare heq).symm]

/-- A write is defined just with room. -/
theorem ThereAt.write_cases (h : s.ThereAt w.1) :
    (s.RoomAt w ∧ ∃ t v v', s.write w.1 w.2 = .ok t ∧ Written s w t v v') ∨
      (¬ s.RoomAt w ∧ ∃ failure, s.write w.1 w.2 = .error failure) := by
  obtain ⟨v, hv, hlt⟩ := h
  have hpointer := pointer_of_getElem? hv
  have hroom : s.RoomAt w ↔ ∃ v', v.setValue w.2 = .ok v' := by
    rw [ValueSetting.setValue_eq_ok_iff]
    refine ⟨fun h => h v hpointer, fun h u hu => ?_⟩
    cases hpointer.symm.trans hu
    exact h
  rw [hroom]
  cases hset : v.setValue w.2 with
  | ok v' =>
    obtain ⟨t, ht, hw⟩ := write_of_setValue hv hlt hset
    exact .inl ⟨⟨v', rfl⟩, t, v, v', ht, hw⟩
  | error failure =>
    refine .inr ⟨nofun, failure, ?_⟩
    rw [write, setValueForAttribute, hpointer]
    dsimp only
    rw [hset]

namespace Written

theorem pointer_self (h : Written s w t v v') :
    pointer t.mapAttributeIndexSettings w.1 = some v' :=
  pointer_of_getElem? ((h.values w.1).trans (if_pos rfl))

theorem pointer_ne (h : Written s w t v v') (hn : n ≠ w.1) :
    pointer t.mapAttributeIndexSettings n = pointer s.mapAttributeIndexSettings n := by
  rw [pointer, pointer, h.values, if_neg hn]

theorem thereAt (h : Written s w t v v') (hn : s.ThereAt n) : t.ThereAt n := by
  obtain ⟨u, hu, hlt⟩ := hn
  by_cases heq : n = w.1
  · subst heq
    refine ⟨v', (h.values w.1).trans (if_pos rfl), ?_⟩
    rw [(ValueSetting.setValue_ok h.set).1, h.bitmap, List.length_set]
    exact h.there
  · refine ⟨u, by rw [h.values, if_neg heq, hu], ?_⟩
    rw [h.bitmap, List.length_set]
    exact hlt

theorem roomAt_iff (h : Written s w t v v') : t.RoomAt w' ↔ s.RoomAt w' := by
  unfold RoomAt
  by_cases heq : w'.1 = w.1
  · obtain ⟨-, hsize, -, -, hbuffer⟩ := ValueSetting.setValue_ok h.set
    simp only [heq, h.pointer_self, pointer_of_getElem? h.found, Option.some.injEq, forall_eq',
      hsize, ne_eq, hbuffer]
  · rw [h.pointer_ne heq]

theorem heldAt_self (h : Written s w t v v') : t.HeldAt w := by
  refine ⟨v', h.pointer_self, ValueSetting.setValue_again h.set, ?_⟩
  rw [(ValueSetting.setValue_ok h.set).1, h.bitmap, List.getElem?_set_self h.there]

/-- What is there stays there, unless other bytes are written to its index. -/
theorem heldAt (h : Written s w t v v') (hheld : s.HeldAt w')
    (hsame : w'.1 = w.1 → w'.2 = w.2) : t.HeldAt w' := by
  by_cases heq : w'.1 = w.1
  · rw [show w' = w from Prod.ext heq (hsame heq)]
    exact h.heldAt_self
  · obtain ⟨u, hu, hset, hbit⟩ := hheld
    refine ⟨u, (h.pointer_ne heq).trans hu, hset, ?_⟩
    rw [h.bitmap, List.getElem?_set]
    split
    · rw [if_pos h.there]
    · exact hbit

/-- A write of what is there changes nothing. -/
theorem sameValues (h : Written s w t v v') (hheld : s.HeldAt w) : SameValues s t := by
  obtain ⟨u, hu, hset, hbit⟩ := hheld
  cases (pointer_of_getElem? h.found).symm.trans hu
  cases h.set.symm.trans hset
  refine ⟨fun n => ?_, ?_⟩
  · by_cases hn : n = w.1
    · rw [hn, h.pointer_self, hu]
    · exact h.pointer_ne hn
  · obtain ⟨hlt, hbit⟩ := List.getElem?_eq_some_iff.mp hbit
    rw [h.bitmap, ← hbit, List.set_getElem_self]

end Written

theorem heldAt_iff_of_same (h : SameValues s t) : t.HeldAt w ↔ s.HeldAt w := by
  unfold HeldAt
  rw [h.values, h.bitmap]

/-- All writes are made just when all values have room. -/
theorem storeAll_eq_some_iff (hthere : ∀ w ∈ l, s.ThereAt w.1) :
    (∃ t, s.storeAll l = some t) ↔ ∀ w ∈ l, s.RoomAt w := by
  unfold storeAll
  induction l generalizing s with
  | nil => simp
  | cons w l ih =>
    rw [List.foldlM_cons, List.forall_mem_cons]
    rcases (hthere w List.mem_cons_self).write_cases with
      ⟨hroom, u, v, v', hu, hw⟩ | ⟨hroom, failure, hfail⟩
    · rw [hu]
      have hrest := ih fun w' hw' => hw.thereAt (hthere w' (List.mem_cons_of_mem w hw'))
      refine hrest.trans ?_
      simp only [hw.roomAt_iff, hroom, true_and]
    · rw [hfail]
      simp [hroom, Except.toOption]

/-- What is there stays through writes that do not write other bytes to its index. -/
theorem heldAt_storeAll (hthere : ∀ w ∈ l, s.ThereAt w.1) (ht : s.storeAll l = some t)
    (hheld : s.HeldAt w) (hsame : ∀ w' ∈ l, w.1 = w'.1 → w.2 = w'.2) : t.HeldAt w := by
  unfold storeAll at ht
  induction l generalizing s with
  | nil =>
    cases ht
    exact hheld
  | cons w' l ih =>
    rw [List.foldlM_cons] at ht
    rcases (hthere w' List.mem_cons_self).write_cases with
      ⟨-, u, v, v', hu, hw⟩ | ⟨-, failure, hfail⟩
    · rw [hu] at ht
      exact ih (fun x hx => hw.thereAt (hthere x (List.mem_cons_of_mem w' hx))) ht
        (hw.heldAt hheld (hsame w' List.mem_cons_self))
        fun x hx => hsame x (List.mem_cons_of_mem w' hx)
    · rw [hfail] at ht
      cases ht

/-- After the writes all bytes are there. -/
theorem heldAt_of_storeAll (hthere : ∀ w ∈ l, s.ThereAt w.1) (ht : s.storeAll l = some t)
    (hsame : ∀ w ∈ l, ∀ w' ∈ l, w.1 = w'.1 → w.2 = w'.2) : ∀ w ∈ l, t.HeldAt w := by
  induction l generalizing s with
  | nil => simp
  | cons w l ih =>
    rw [storeAll, List.foldlM_cons] at ht
    rcases (hthere w List.mem_cons_self).write_cases with
      ⟨-, u, v, v', hu, hw⟩ | ⟨-, failure, hfail⟩
    · rw [hu] at ht
      have hthere' : ∀ x ∈ l, u.ThereAt x.1 := fun x hx =>
        hw.thereAt (hthere x (List.mem_cons_of_mem w hx))
      refine List.forall_mem_cons.mpr ⟨?_, ?_⟩
      · exact heldAt_storeAll hthere' ht hw.heldAt_self fun x hx =>
          hsame w List.mem_cons_self x (List.mem_cons_of_mem w hx)
      · exact ih hthere' ht fun x hx y hy =>
          hsame x (List.mem_cons_of_mem w hx) y (List.mem_cons_of_mem w hy)
    · rw [hfail] at ht
      cases ht

/-- The writes of what is there change nothing. -/
theorem sameValues_storeAll (hthere : ∀ w ∈ l, s.ThereAt w.1) (ht : s.storeAll l = some t)
    (hheld : ∀ w ∈ l, s.HeldAt w) : SameValues s t := by
  induction l generalizing s with
  | nil =>
    cases ht
    exact ⟨fun _ => rfl, rfl⟩
  | cons w l ih =>
    rw [storeAll, List.foldlM_cons] at ht
    rcases (hthere w List.mem_cons_self).write_cases with
      ⟨-, u, v, v', hu, hw⟩ | ⟨-, failure, hfail⟩
    · rw [hu] at ht
      have hsame := hw.sameValues (hheld w List.mem_cons_self)
      have hrest := ih (fun x hx => hw.thereAt (hthere x (List.mem_cons_of_mem w hx))) ht
        fun x hx => (heldAt_iff_of_same hsame).mpr (hheld x (List.mem_cons_of_mem w hx))
      exact ⟨fun n => (hrest.values n).trans (hsame.values n), hrest.bitmap.trans hsame.bitmap⟩
    · rw [hfail] at ht
      cases ht

/-- Writes of one and the same value for each index change nothing just when all of it was
there. -/
theorem sameValues_iff (hthere : ∀ w ∈ l, s.ThereAt w.1) (ht : s.storeAll l = some t)
    (hsame : ∀ w ∈ l, ∀ w' ∈ l, w.1 = w'.1 → w.2 = w'.2) :
    SameValues s t ↔ ∀ w ∈ l, s.HeldAt w :=
  ⟨fun h w hw => (heldAt_iff_of_same h).mp (heldAt_of_storeAll hthere ht hsame w hw),
    sameValues_storeAll hthere ht⟩

end AttributesSetting

end chaos.common.data.cache

/-! ## The request -/

namespace chaos.cu.control_manager

open chaos.common.data.cache pointer_map AttributesSetting

namespace InputUnit

/-- The type of an attribute in the cache. -/
def typeOf (s : AttributesSetting) (name : List Char) : Option DataType :=
  (s.mapAttributeNameIndex[String.ofList name]?).bind fun n =>
    (pointer s.mapAttributeIndexSettings n).map ValueSetting.type

variable (u : InputUnit)

/-- The unit as it checks values, which needs just the types of the cache. -/
def unit (s : AttributesSetting) : ControlUnit where
  dataset := u.dataset
  inputs := u.inputs
  cache := typeOf s
  doubles := u.doubles

/-- Where the values go. -/
def stores (s : AttributesSetting) (values : List (List Char × PackValue)) : List Store :=
  values.map fun e => ((s.mapAttributeNameIndex[String.ofList e.1]?).getD 0, e.2.bytes)

/-- The device of a request that the values are read from. -/
def Addressed (r : ChangeRequest) : Prop :=
  r.preChange = none ∧ ∃ id, r.data.getStringValue ControlUnit.DEVICE_ID = .ok id

/-- The values of the request that pass their checks, up to the first one that does not. -/
def accepted (s : AttributesSetting) (r : ChangeRequest) : List (List Char × PackValue) :=
  ((u.unit s).setLoop r.data {} [] u.inputs).set

/-- The handler before the change throws, or the device is no text, or a value does not pass its
check, or the push throws, or the handler after the change. -/
def Throws (s : AttributesSetting) (r : ChangeRequest) : Prop :=
  r.preChange ≠ none ∨
    (r.data.hasKey ControlUnit.DEVICE_ID = false ∧ r.changed ≠ none) ∨
    (r.data.hasKey ControlUnit.DEVICE_ID = true ∧ ¬ Addressed r) ∨
    (Addressed r ∧ (((u.unit s).setLoop r.data {} [] u.inputs).refused ≠ none ∨ r.push ≠ none ∨
      r.changed ≠ none))

/-- What is claimed: the call ends, and where it throws the values and the bits are the same. -/
def KeepsOnThrow (s : AttributesSetting) (r : ChangeRequest) : Prop :=
  ∃ t failure, u.setDatasetAttribute s r = some (t, failure) ∧
    (failure ≠ none → SameValues s t)

/-- Each value that passes has room, and where the call throws it is there already, with its
bit. -/
def ChangeOk (s : AttributesSetting) (r : ChangeRequest) : Prop :=
  Addressed r → ∀ w ∈ stores s (u.accepted s r),
    s.RoomAt w ∧ (u.Throws s r → s.HeldAt w)

/-- Each name has a value of its own. -/
structure Indexed (s : AttributesSetting) : Prop where
  there : ∀ (name : String) (n : UInt16), s.mapAttributeNameIndex[name]? = some n → s.ThereAt n
  inj : ∀ (name other : String) (n : UInt16), s.mapAttributeNameIndex[name]? = some n →
    s.mapAttributeNameIndex[other]? = some n → name = other

variable {u} {s t : AttributesSetting} {a : Attributes} {data : CDataWrapper}
  {info : RangeValueInfo} {names : List (List Char)} {w : Store} {v v' : ValueSetting}

theorem Indexed.of_coherent (h : Coherent s a) : Indexed s where
  there name n hn := by
    have hname := (h.nameIndex name n.toNat).mp (by rw [hn]; rfl)
    have hlt := (List.getElem?_eq_some_iff.mp hname).1
    obtain ⟨v, hv, -, hindex, -⟩ := h.exists_value hlt
    exact ⟨v, hv, by rw [h.bitmap, hindex]; exact hlt⟩
  inj name other n hn hother := by
    have hname := (h.nameIndex name n.toNat).mp (by rw [hn]; rfl)
    have hother := (h.nameIndex other n.toNat).mp (by rw [hother]; rfl)
    exact Option.some.inj (hname.symm.trans hother)

theorem Indexed.written (h : Indexed s) (hw : Written s w t v v') : Indexed t where
  there name n hn := hw.thereAt (h.there name n (hw.names ▸ hn))
  inj name other n hn hother := h.inj name other n (hw.names ▸ hn) (hw.names ▸ hother)

/-- A write changes no type. -/
theorem typeOf_written (hw : Written s w t v v') : typeOf t = typeOf s := by
  funext name
  unfold typeOf
  rw [hw.names]
  refine congrArg _ (funext fun n => ?_)
  by_cases hn : n = w.1
  · rw [hn, hw.pointer_self, pointer_of_getElem? hw.found, Option.map_some, Option.map_some,
      (ValueSetting.setValue_ok hw.set).2.2.1]
  · rw [hw.pointer_ne hn]

/-- The values that the loop was started with come first. -/
theorem setLoop_done (c : ControlUnit) (done : List (List Char × PackValue)) :
    (c.setLoop data info done names).set = done ++ (c.setLoop data info [] names).set ∧
      (c.setLoop data info done names).refused = (c.setLoop data info [] names).refused := by
  induction names generalizing info done with
  | nil => simp [ControlUnit.setLoop]
  | cons name rest ih =>
    unfold ControlUnit.setLoop
    split
    · split
      · simp
      · dsimp only
        split
        · simp
        · rename_i value hvalue
          obtain ⟨hset, hrefused⟩ :=
            @ih (getAttributeRangeValueInfo c.dataset name info) (done ++ [(name, value)])
          obtain ⟨hset', hrefused'⟩ :=
            @ih (getAttributeRangeValueInfo c.dataset name info) ([] ++ [(name, value)])
          exact ⟨by rw [hset, hset']; simp, hrefused.trans hrefused'.symm⟩
    · exact ih done

/-- The loop stores the values that pass, one after the other. -/
theorem changeLoop_eq (h : Indexed s) :
    u.changeLoop data info s names =
      (s.storeAll (stores s ((u.unit s).setLoop data info [] names).set)).map fun t =>
        (t, ((u.unit s).setLoop data info [] names).refused.map Prod.snd) := by
  induction names generalizing s info with
  | nil => rfl
  | cons name rest ih =>
    unfold changeLoop ControlUnit.setLoop
    by_cases hkey : data.hasKey name
    · rw [if_pos hkey, if_pos hkey]
      cases hn : s.mapAttributeNameIndex[String.ofList name]? with
      | none =>
        have htype : (u.unit s).cache name = none := by
          change typeOf s name = none
          rw [typeOf, hn]
          rfl
        have hget : s.getVariableValue (String.ofList name) = .error (.thrown ControlUnit.noName) := by
          rw [getVariableValue, getIndexForName, hn]
          rfl
        rw [htype, hget]
        rfl
      | some n =>
        obtain ⟨v, hv, hlt⟩ := h.there _ n hn
        have hpointer := pointer_of_getElem? hv
        have htype : (u.unit s).cache name = some v.type := by
          change typeOf s name = some v.type
          rw [typeOf, hn, Option.bind_some, hpointer]
          rfl
        have hget : s.getVariableValue (String.ofList name) = .ok (some n) := by
          have hmem : n ∈ s.mapAttributeIndexSettings := by
            rw [Std.TreeMap.mem_iff_isSome_getElem?, hv]
            rfl
          rw [getVariableValue, getIndexForName, hn]
          change (s.getValueSettingForIndex n).bind _ = _
          rw [getValueSettingForIndex, if_pos hmem, hpointer]
          rfl
        have hdataset : (u.unit s).dataset = u.dataset := rfl
        have hdoubles : (u.unit s).doubles = u.doubles := rfl
        simp only [htype, hget, hpointer, hdataset, hdoubles]
        cases hset : valueToSet "AbstractControlUnit::setDatasetAttribute" u.doubles data name
            (getAttributeRangeValueInfo u.dataset name info) v.type with
        | error refusal => rfl
        | ok value =>
          obtain ⟨hdone, hrefused⟩ := @setLoop_done data
            (getAttributeRangeValueInfo u.dataset name info) rest (u.unit s) ([] ++ [(name, value)])
          have hfirst : stores s ([(name, value)] ++ ((u.unit s).setLoop data
              (getAttributeRangeValueInfo u.dataset name info) [] rest).set) =
              (n, value.bytes) :: stores s ((u.unit s).setLoop data
                (getAttributeRangeValueInfo u.dataset name info) [] rest).set := by
            rw [stores, List.map_append, List.map_singleton, hn]
            rfl
          dsimp only
          rw [hdone, hrefused, List.nil_append, hfirst, storeAll, List.foldlM_cons]
          dsimp only
          rcases (h.there _ n hn).write_cases (w := (n, value.bytes)) with
            ⟨-, t, x, x', ht, hw⟩ | ⟨-, failure, hfail⟩
          · have hunit : u.unit t = u.unit s := by rw [unit, unit, typeOf_written hw]
            have hstores : ∀ l, stores t l = stores s l := fun l => by
              rw [stores, stores, hw.names]
            rw [ht]
            dsimp only
            rw [ih (h.written hw), hunit, hstores]
            rfl
          · rw [hfail]
            rfl
    · rw [if_neg hkey, if_neg hkey]
      exact ih h

/-- What is set has a type in the cache, and is what the request has under its name. -/
theorem readValue_of_setLoop (c : ControlUnit) {e : List Char × PackValue}
    (he : e ∈ (c.setLoop data info [] names).set) :
    ∃ type, c.cache e.1 = some type ∧ c.readValue data e.1 type = some e.2 := by
  induction names generalizing info with
  | nil => cases he
  | cons name rest ih =>
    unfold ControlUnit.setLoop at he
    by_cases hkey : data.hasKey name
    · rw [if_pos hkey] at he
      cases htype : c.cache name with
      | none =>
        rw [htype] at he
        cases he
      | some type =>
        rw [htype] at he
        dsimp only at he
        cases hset : valueToSet "AbstractControlUnit::setDatasetAttribute" c.doubles data name
            (getAttributeRangeValueInfo c.dataset name info) type with
        | error refusal =>
          rw [hset] at he
          cases he
        | ok value =>
          rw [hset] at he
          dsimp only at he
          rw [(setLoop_done c ([] ++ [(name, value)])).1, List.nil_append] at he
          rcases List.mem_append.mp he with he | he
          · cases List.mem_singleton.mp he
            exact ⟨type, htype, readValue_of_ok c hset⟩
          · exact ih he
    · rw [if_neg hkey] at he
      exact ih he

section Accepted

variable {r : ChangeRequest}

/-- The index of a value that is stored. -/
theorem index_of_accepted {e : List Char × PackValue} (he : e ∈ u.accepted s r) :
    ∃ n type, s.mapAttributeNameIndex[String.ofList e.1]? = some n ∧
      (u.unit s).readValue r.data e.1 type = some e.2 ∧ typeOf s e.1 = some type := by
  obtain ⟨type, htype, hread⟩ := readValue_of_setLoop (u.unit s) he
  obtain ⟨n, hn, -⟩ := Option.bind_eq_some_iff.mp htype
  exact ⟨n, type, hn, hread, htype⟩

theorem thereAt_stores (h : Indexed s) : ∀ w ∈ stores s (u.accepted s r), s.ThereAt w.1 := by
  intro w hw
  obtain ⟨e, he, rfl⟩ := List.mem_map.mp hw
  obtain ⟨n, -, hn, -⟩ := index_of_accepted he
  dsimp only
  rw [hn]
  exact h.there _ n hn

/-- One index gets one and the same value. -/
theorem stores_consistent (h : Indexed s) : ∀ w ∈ stores s (u.accepted s r),
    ∀ w' ∈ stores s (u.accepted s r), w.1 = w'.1 → w.2 = w'.2 := by
  intro w hw w' hw' heq
  obtain ⟨e, he, rfl⟩ := List.mem_map.mp hw
  obtain ⟨e', he', rfl⟩ := List.mem_map.mp hw'
  obtain ⟨n, type, hn, hread, htype⟩ := index_of_accepted he
  obtain ⟨n', type', hn', hread', htype'⟩ := index_of_accepted he'
  dsimp only at heq ⊢
  rw [hn, hn', Option.getD_some, Option.getD_some] at heq
  subst heq
  have hname := String.ofList_injective (h.inj _ _ n hn hn')
  rw [← hname] at hread' htype'
  cases htype.symm.trans htype'
  rw [Option.some.inj (hread.symm.trans hread')]

end Accepted

/-- What the handler for an exception throws takes the place of another exception. -/
theorem keepsOnThrow_iff_try {r : ChangeRequest} : u.KeepsOnThrow s r ↔
    ∃ t failure, u.tryChange s r = some (t, failure) ∧ (failure ≠ none → SameValues s t) := by
  unfold KeepsOnThrow setDatasetAttribute
  cases htry : u.tryChange s r with
  | none => simp
  | some p =>
    obtain ⟨t, failure⟩ := p
    rw [Option.map_some]
    rcases failure with _ | (ex | _ | _) <;> simp

/-- A refused request keeps the values and the bits just when what was stored before had room, and
was there already. -/
theorem keepsOnThrow_iff (u : InputUnit) (s : AttributesSetting) (a : Attributes)
    (hs : Coherent s a) (r : ChangeRequest) : u.KeepsOnThrow s r ↔ u.ChangeOk s r := by
  have h := Indexed.of_coherent hs
  rw [keepsOnThrow_iff_try]
  by_cases hpre : r.preChange = none
  · by_cases hid : ∃ id, r.data.getStringValue ControlUnit.DEVICE_ID = .ok id
    · have haddr : Addressed r := ⟨hpre, hid⟩
      obtain ⟨id, hid⟩ := hid
      have hkey : r.data.hasKey ControlUnit.DEVICE_ID = true := by
        rw [CDataWrapper.hasKey, getStringValue_ok hid]
        rfl
      have htry : u.tryChange s r = (s.storeAll (stores s (u.accepted s r))).map fun t =>
          (t, (((u.unit s).setLoop r.data {} [] u.inputs).refused.map Prod.snd).or
            ((r.push.or r.changed).map .thrown)) := by
        rw [tryChange, hpre]
        dsimp only
        rw [if_pos hkey, hid]
        dsimp only
        rw [changeLoop_eq h, Option.map_map]
        refine congrArg (fun f => Option.map f _) (funext fun t => ?_)
        cases ((u.unit s).setLoop r.data {} [] u.inputs).refused <;> rfl
      have hthrows : u.Throws s r ↔ (((u.unit s).setLoop r.data {} [] u.inputs).refused.map
          Prod.snd).or ((r.push.or r.changed).map Refusal.thrown) ≠ none := by
        simp only [Throws, hpre, ne_eq, not_true_eq_false, hkey, Bool.true_eq_false, false_and,
          haddr, true_and, false_or, not_true_eq_false, and_false, Option.or_eq_none_iff,
          Option.map_eq_none_iff]
        tauto
      have hthere : ∀ w ∈ stores s (u.accepted s r), s.ThereAt w.1 := thereAt_stores h
      have hrooms := storeAll_eq_some_iff hthere
      rw [htry]
      constructor
      · rintro ⟨t, failure, heq, hsame⟩ _ w hw
        obtain ⟨t', ht, hpair⟩ := Option.map_eq_some_iff.mp heq
        cases hpair
        refine ⟨hrooms.mp ⟨t, ht⟩ w hw, fun hthrow => ?_⟩
        exact (sameValues_iff hthere ht (stores_consistent h)).mp (hsame (hthrows.mp hthrow)) w hw
      · intro hok
        obtain ⟨t, ht⟩ := hrooms.mpr fun w hw => (hok haddr w hw).1
        refine ⟨t, _, by rw [ht]; rfl, fun hthrow => ?_⟩
        exact (sameValues_iff hthere ht (stores_consistent h)).mpr fun w hw =>
          (hok haddr w hw).2 (hthrows.mpr hthrow)
    · refine iff_of_true ?_ fun haddr => absurd haddr.2 hid
      rw [tryChange, hpre]
      dsimp only
      split
      · cases hget : r.data.getStringValue ControlUnit.DEVICE_ID with
        | ok id => exact absurd ⟨id, hget⟩ hid
        | error refusal => exact ⟨s, _, rfl, fun _ => ⟨fun _ => rfl, rfl⟩⟩
      · exact ⟨s, _, rfl, fun _ => ⟨fun _ => rfl, rfl⟩⟩
  · refine iff_of_true ?_ fun haddr => absurd haddr.1 hpre
    obtain ⟨ex, hex⟩ := Option.ne_none_iff_exists'.mp hpre
    rw [tryChange, hex]
    exact ⟨s, _, rfl, fun _ => ⟨fun _ => rfl, rfl⟩⟩

/-- Two attributes of 32 bits, of which `b` has the range of 0 to 10. -/
def rangedUnit : InputUnit where
  dataset name := if name = ['b'] then [.MAX_RANGE ['1', '0'], .MIN_RANGE ['0']] else []
  inputs := [['a'], ['b'], ['c']]
  doubles := ⟨fun _ => 0, fun _ => 0, fun _ _ => .ok ()⟩

def rangedCache : AttributesSetting :=
  ((AttributesSetting.create.addAttribute "a" 0 .TYPE_INT32 true).addAttribute "b" 0 .TYPE_INT32
    true).addAttribute "c" 0 .TYPE_INT32 true

theorem rangedCache_coherent : Coherent rangedCache ⟨["a", "b", "c"], ∅⟩ := by
  have ha := @Coherent.addAttribute _ _ Coherent.create "a" (by decide) (by decide) 0 .TYPE_INT32
    true
  have hb := @Coherent.addAttribute _ _ ha "b" (by decide) (by decide) 0 .TYPE_INT32 true
  exact hb.addAttribute (by decide) (by decide) 0 .TYPE_INT32 true

def requestOf (values : CDataWrapper) : ChangeRequest where
  data := (ControlUnit.DEVICE_ID, .string ['d']) :: values
  preChange := none
  push := none
  changed := none
  again := none

/-- The first value is refused, and the second one is not stored. -/
theorem keepsOnThrow_first_refused : rangedUnit.KeepsOnThrow rangedCache
    (requestOf [(['b'], .numberInt 11), (['c'], .numberInt 1)]) := by
  refine (keepsOnThrow_iff rangedUnit rangedCache _ rangedCache_coherent _).mpr fun _ w hw => ?_
  have hnone : rangedUnit.accepted rangedCache
      (requestOf [(['b'], .numberInt 11), (['c'], .numberInt 1)]) = [] := by decide +kernel
  rw [hnone] at hw
  cases hw

/-- The second value is refused, and the first one stays. -/
theorem not_keepsOnThrow_second_refused : ¬ rangedUnit.KeepsOnThrow rangedCache
    (requestOf [(['a'], .numberInt 1), (['b'], .numberInt 11)]) := by
  rw [keepsOnThrow_iff_try]
  rintro ⟨t, failure, htry, hsame⟩
  have hrun : (rangedUnit.tryChange rangedCache
      (requestOf [(['a'], .numberInt 1), (['b'], .numberInt 11)])).map
      (fun p => (p.1.bitmapChangedAttribute, p.2.isSome)) = some ([true, false, false], true) := by
    decide +kernel
  rw [htry, Option.map_some, Option.some.injEq, Prod.mk.injEq] at hrun
  have hbits := (hsame (Option.isSome_iff_ne_none.mp hrun.2)).bitmap
  rw [hrun.1] at hbits
  revert hbits
  decide +kernel

end InputUnit

end chaos.cu.control_manager
