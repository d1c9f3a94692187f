-- The values of a set of attributes by their names. A name is looked up once, and the value that is
-- found can be written from then on. A write changes what is stored under that one name.
import Chaos.AttributesCoherence

namespace chaos.common.data.cache

open numbered_list pointer_map

namespace AttributesSetting

variable (s : AttributesSetting)

def getIndexForName (name : String) : Except Failure UInt16 :=
  match s.mapAttributeNameIndex[name]? with
  | none =>
    .error (.thrown
      ⟨-1, "No name present in Attribute setting", "AttributesSetting::getIndexForName"⟩)
  | some n => .ok n

/-- `getVariableValue`. A pointer to a value of the set is given by the index of the value. -/
def getVariableValue (name : String) : Except Failure (Option UInt16) := do
  let n ← s.getIndexForName name
  let v ← s.getValueSettingForIndex n
  return v.map fun _ => n

/-- `setValue` through a pointer to a value of the set. -/
def write (n : UInt16) (value : List UInt8) : Except Failure AttributesSetting :=
  match s.setValueForAttribute n value with
  | (s', .ok ()) => .ok s'
  | (_, .error failure) => .error failure

def hasChanged : Bool := s.bitmapChangedAttribute.any id

/-- What is stored under a name. -/
def namedValue (name : String) : Option (List UInt8) :=
  (s.mapAttributeNameIndex[name]?).bind fun n =>
    (pointer s.mapAttributeIndexSettings n).bind ValueSetting.value_buffer

end AttributesSetting

/-- The attributes of a set with the sizes of their values. Each value has its buffer. -/
structure HoldsAttributes (s : AttributesSetting) (attributes : List (String × UInt32)) : Prop where
  coherent : ∃ changed, Coherent s ⟨attributes.map Prod.fst, changed⟩
  buffers : ∀ n v, pointer s.mapAttributeIndexSettings n = some v →
    ∃ buffer, v.value_buffer = some buffer ∧ buffer.length = v.size.toNat ∧
      (v.name, v.size) ∈ attributes

/-- A value of the set with its index, its name and its size. -/
structure AttributeSlot (s : AttributesSetting) (name : String) (size : UInt32) (n : UInt16)
    (v : ValueSetting) : Prop where
  index : s.mapAttributeNameIndex[name]? = some n
  value : s.mapAttributeIndexSettings[n]? = some (some v)
  name : v.name = name
  size : v.size = size
  bit : v.index.toNat < s.bitmapChangedAttribute.length

/-! ## What is found -/

variable {s : AttributesSetting} {attributes : List (String × UInt32)} {name : String}
  {size : UInt32} {n : UInt16} {v : ValueSetting} {value : List UInt8}

namespace HoldsAttributes

theorem create : HoldsAttributes .create [] := by
  refine ⟨⟨∅, Coherent.create⟩, ?_⟩
  intro n v hv
  simp [AttributesSetting.create, pointer] at hv

/-- Each attribute has a value of its own. -/
theorem exists_slot (h : HoldsAttributes s attributes) (hmem : (name, size) ∈ attributes) :
    ∃ n v, AttributeSlot s name size n v := by
  obtain ⟨changed, hcoherent⟩ := h.coherent
  obtain ⟨k, hk⟩ := List.mem_iff_getElem?.mp hmem
  have hname : (attributes.map Prod.fst)[k]? = some name := by
    rw [List.getElem?_map, hk]
    rfl
  obtain ⟨n, hn, rfl⟩ := Option.map_eq_some_iff.mp ((hcoherent.nameIndex name k).mpr hname)
  have hlt := (List.getElem?_eq_some_iff.mp hname).1
  obtain ⟨v, hv, hpointer, hindex, hvname⟩ := hcoherent.exists_value hlt
  obtain ⟨buffer, -, -, hpair⟩ := h.buffers n v hpointer
  have heq : v.name = name := Option.some.inj (hvname.symm.trans hname)
  refine ⟨n, v, hn, hv, heq, ?_, ?_⟩
  · -- the names are all different, so that there is one size only
    obtain ⟨j, hj⟩ := List.mem_iff_getElem?.mp hpair
    have hjname : (attributes.map Prod.fst)[j]? = some name := by
      rw [List.getElem?_map, hj, ← heq]
      rfl
    have hjk := (List.getElem?_inj hlt hcoherent.nodup).mp (hname.trans hjname.symm)
    rw [← hjk, hk] at hj
    exact (congrArg Prod.snd (Option.some.inj hj)).symm
  · rw [hcoherent.bitmap, hindex]
    exact hlt

/-- The values of two names have different indexes. -/
theorem index_inj (h : HoldsAttributes s attributes) {other : String}
    (hname : s.mapAttributeNameIndex[name]? = some n)
    (hother : s.mapAttributeNameIndex[other]? = some n) : other = name := by
  obtain ⟨changed, hcoherent⟩ := h.coherent
  have hget := (hcoherent.nameIndex name n.toNat).mp (by rw [hname]; rfl)
  have hget' := (hcoherent.nameIndex other n.toNat).mp (by rw [hother]; rfl)
  exact Option.some.inj (hget'.symm.trans hget)

/-- The attribute that was added last has the last index. -/
theorem index_last (h : HoldsAttributes s (attributes ++ [(name, size)])) :
    s.mapAttributeNameIndex[name]? = some (s.index - 1) := by
  obtain ⟨changed, hcoherent⟩ := h.coherent
  have hget : ((attributes ++ [(name, size)]).map Prod.fst)[attributes.length]? = some name := by
    simp
  obtain ⟨n, hn, hnat⟩ := Option.map_eq_some_iff.mp ((hcoherent.nameIndex name _).mpr hget)
  rw [hn, hcoherent.index]
  simp [← hnat, UInt16.ofNat_add]

end HoldsAttributes

theorem AttributeSlot.getVariableValue (h : AttributeSlot s name size n v) :
    s.getVariableValue name = .ok (some n) := by
  have hmem : n ∈ s.mapAttributeIndexSettings := by
    rw [Std.TreeMap.mem_iff_isSome_getElem?, h.value]
    rfl
  have hindex : s.getIndexForName name = .ok n := by
    rw [AttributesSetting.getIndexForName, h.index]
  have hvalue : s.getValueSettingForIndex n = .ok (some v) := by
    rw [AttributesSetting.getValueSettingForIndex, if_pos hmem, pointer_of_getElem? h.value]
  unfold AttributesSetting.getVariableValue
  rw [hindex]
  change (s.getValueSettingForIndex n).bind _ = _
  rw [hvalue]
  rfl

/-! ## What is written -/

/-- The write of a value that has a buffer. -/
theorem AttributeSlot.write (h : AttributeSlot s name size n v) {buffer : List UInt8}
    (hbuffer : v.value_buffer = some buffer) (value : List UInt8) :
    ∃ s', s.write n value = .ok s' ∧ s'.mapAttributeNameIndex = s.mapAttributeNameIndex ∧
      pointer s'.mapAttributeIndexSettings n = some { v with
        value_buffer := some (value.take (min value.length size.toNat) ++
          buffer.drop (min value.length size.toNat)) } ∧
      ∀ k ≠ n, pointer s'.mapAttributeIndexSettings k = pointer s.mapAttributeIndexSettings k := by
  have hmem : n ∈ s.mapAttributeIndexSettings := by
    rw [Std.TreeMap.mem_iff_isSome_getElem?, h.value]
    rfl
  unfold AttributesSetting.write AttributesSetting.setValueForAttribute ValueSetting.setValue
  simp only [pointer_of_getElem? h.value, hbuffer, h.size]
  simp only [AttributesSetting.setBit, AttributesSetting.store, AttributesSetting.touch, h.bit,
    if_true]
  refine ⟨_, rfl, rfl, ?_, ?_⟩
  · simp [pointer]
  · intro k hk
    have hne : ¬ compare n k = .eq := fun heq => hk (Std.LawfulEqCmp.eq_of_compare heq).symm
    simp only [pointer, Std.TreeMap.getElem?_insert, hne, if_false, getElem?_touched_of_mem hmem]

namespace HoldsAttributes

/-- A write keeps the attributes, and what is stored under all names but the one. A value of the
size of the attribute takes the place of what was stored. -/
theorem write (h : HoldsAttributes s attributes) (hslot : AttributeSlot s name size n v)
    (value : List UInt8) :
    ∃ s', s.write n value = .ok s' ∧ HoldsAttributes s' attributes ∧
      s'.mapAttributeNameIndex = s.mapAttributeNameIndex ∧
      (value.length = size.toNat → s'.namedValue name = some value) ∧
      ∀ other ≠ name, s'.namedValue other = s.namedValue other := by
  obtain ⟨buffer, hbuffer, hlength, hpair⟩ := h.buffers n v (pointer_of_getElem? hslot.value)
  obtain ⟨s', hwrite, hnames, hself, hothers⟩ := hslot.write hbuffer value
  refine ⟨s', hwrite, ⟨?_, ?_⟩, hnames, ?_, ?_⟩
  · obtain ⟨changed, hcoherent⟩ := h.coherent
    have hlt := (hcoherent.settings n).mp (Std.TreeMap.mem_iff_isSome_getElem?.mpr (by
      rw [hslot.value]
      rfl))
    have hok : s.setValueForAttribute n value = (s', .ok ()) := by
      unfold AttributesSetting.write at hwrite
      split at hwrite
      · rename_i heq
        cases hwrite
        exact heq
      · cases hwrite
    have hkept := hcoherent.setValueForAttribute hlt value (by simp [hok])
    rw [hok] at hkept
    unfold Attributes.setBit at hkept
    rw [if_pos hlt] at hkept
    exact ⟨_, hkept⟩
  · intro k u hu
    by_cases hk : k = n
    · subst hk
      cases hself.symm.trans hu
      refine ⟨_, rfl, ?_, hpair⟩
      rw [List.length_append, List.length_take, List.length_drop, hlength, hslot.size]
      omega
    · exact h.buffers k u ((hothers k hk).symm.trans hu)
  · intro hvalue
    unfold AttributesSetting.namedValue
    rw [hnames, hslot.index, Option.bind_some, hself, Option.bind_some, hvalue, Nat.min_self,
      List.take_of_length_le (Nat.le_of_eq hvalue),
      List.drop_eq_nil_of_le (by rw [hlength, hslot.size]), List.append_nil]
  · intro other hother
    unfold AttributesSetting.namedValue
    rw [hnames]
    cases hindex : s.mapAttributeNameIndex[other]? with
    | none => rfl
    | some k =>
      have hk : k ≠ n := by
        rintro rfl
        exact hother (h.index_inj hslot.index hindex)
      rw [Option.bind_some, Option.bind_some, hothers k hk]

/-- The changed attributes are forgotten. -/
theorem resetChangedIndex (h : HoldsAttributes s attributes) :
    HoldsAttributes s.resetChangedIndex attributes := by
  obtain ⟨changed, hcoherent⟩ := h.coherent
  have hreset : Coherent s.resetChangedIndex ⟨attributes.map Prod.fst, ∅⟩ :=
    hcoherent.setAll false fun k =>
      ⟨fun hk => absurd hk (Set.notMem_empty k), fun hk => by cases hk.1⟩
  exact ⟨⟨_, hreset⟩, h.buffers⟩

/-- A new attribute whose value is not empty, while an index is left for it. -/
theorem addAttribute (h : HoldsAttributes s attributes) (name : String) (size : UInt32)
    (type : DataType) (hnew : name ∉ attributes.map Prod.fst) (hroom : attributes.length < 2 ^ 16)
    (hsize : AttributesSetting.attributeSize size type ≠ 0) :
    HoldsAttributes (s.addAttribute name size type true)
      (attributes ++ [(name, AttributesSetting.attributeSize size type)]) := by
  obtain ⟨changed, hcoherent⟩ := h.coherent
  have hadded := hcoherent.addAttribute hnew (by simpa using hroom) size type true
  refine ⟨⟨changed, by simpa using hadded⟩, ?_⟩
  intro n v hv
  have hmap : name ∉ s.mapAttributeNameIndex :=
    fun hmem => hnew ((hcoherent.mem_nameIndex_iff name).mp hmem)
  unfold AttributesSetting.addAttribute at hv
  rw [if_neg hmap, pointer, Std.TreeMap.getElem?_insertIfNew] at hv
  split at hv
  · cases hv
    exact ⟨_, if_pos (by simpa using hsize), List.length_replicate, by simp [ValueSetting.new]⟩
  · obtain ⟨buffer, hbuffer, hlength, hpair⟩ := h.buffers n v hv
    exact ⟨buffer, hbuffer, hlength, List.mem_append_left _ hpair⟩

end HoldsAttributes

end chaos.common.data.cache
