-- The text that a dataset carries for a string attribute is what stands in its buffer before the
-- first zero. Whether that is the text set last depends on the byte that was there behind it.
import Chaos.DatasetPush

namespace chaos.cu.control_manager

open chaos.common.data.cache pointer_map

/-! ## The calls on a string attribute -/

/-- A text that is set: by a request, or by its pointer and a size of 32 bits. -/
inductive StringSet
  | setDatasetAttribute (str : List Char)
  | setValue (value : { value : List UInt8 // value.length < 2 ^ 32 })

namespace StringSet

/-- The bytes that `setValue` gets. -/
def bytes : StringSet → List UInt8
  | setDatasetAttribute str => (PackValue.string str).bytes
  | setValue value => value.val

/-- The text as it is meant. -/
def text : StringSet → List UInt8
  | setDatasetAttribute str => str.map fun c => c.val.toUInt8
  | setValue value => value.val

end StringSet

inductive StringCall
  | set (s : StringSet)
  | setNewSize (new_size : UInt32) (found : Option (Nat → UInt8))

def StringCall.apply (v : ValueSetting) : StringCall → Option ValueSetting
  | .set s => (v.setValue s.bytes).toOption
  | .setNewSize new_size found => some (v.setNewSize new_size found).1

/-- A string attribute of a size that is declared. -/
structure StringAttribute where
  name : String
  index : UInt32
  size : UInt32
  /-- Whether `calloc` gets the memory. -/
  allocated : Bool

namespace StringAttribute

variable (a : StringAttribute)

/-- The attribute after some calls, the latest first. -/
def after : List StringCall → Option ValueSetting
  | [] => some (.new a.name a.index a.size .TYPE_STRING a.allocated)
  | c :: earlier => (after earlier).bind c.apply

/-- The size that is declared after some calls, the latest first. -/
def declaredSize : List StringCall → UInt32
  | [] => a.size
  | .set _ :: earlier => declaredSize earlier
  | .setNewSize new_size _ :: _ => new_size

/-- The byte that some calls leave at a place of the buffer: the one of the last text that reached
the place, or else the one that was there with the memory. -/
def byteLeft (i : Nat) : List StringCall → Option UInt8
  | [] => if i < a.size.toNat ∧ a.allocated then some 0 else none
  | .set s :: earlier => (byteLeft i earlier).map fun old => (s.bytes[i]?).getD old
  | .setNewSize new_size found :: earlier =>
    found.bind fun byte =>
      if i < new_size.toNat then some ((byteLeft i earlier).getD (byte i)) else none

end StringAttribute

/-! ## What a push carries -/

/-- A push that sends the values of its domain, `v` and others, all of them but `v` readable. -/
structure SendsWith (c : DomainCache) (domain : Domain) (answers : PushAnswers)
    (before : List ValueSetting) (v : ValueSetting) (behind : List ValueSetting) : Prop where
  changed : c.setting.hasChanged = true
  wrapper : ∃ dataset, answers.wrapper = .given dataset
  stored : answers.stored = true
  timestamp : domain = .output → c.cached ≠ [] ∧
    ∃ t, c.timestamp.bind (pointer c.setting.mapAttributeIndexSettings) = some t ∧
      (t.number 8).isSome
  values : c.valuesAt (if domain = .output then c.cached.dropLast else c.cached) =
    some (before ++ v :: behind)
  readable : ∀ u ∈ before ++ behind, (publishedValue u).isSome

/-- Each dataset that is pushed with an attribute has the text in its field. -/
def Carries (v : ValueSetting) (text : List UInt8) : Prop :=
  ∀ c domain answers before behind, SendsWith c domain answers before v behind →
    ∃ c' front back, c.push domain answers =
      some (c', .sent (front ++ (publishedKey v, .string (textOf text)) :: back)) ∧
        back.length = behind.length

/-- The text that is set behind some calls is the one that is carried, cut to the size. -/
def PublishesLast (a : StringAttribute) (earlier : List StringCall) (s : StringSet) : Prop :=
  ∃ v, a.after (.set s :: earlier) = some v ∧
    Carries v (s.text.take (a.declaredSize earlier).toNat)

/-! ## Filling a dataset -/

variable {v u : ValueSetting} {vs before behind : List ValueSetting} {dataset filled : CDataWrapper}
  {text bytes : List UInt8}

theorem textOf_inj (h : textOf text = textOf bytes) : text = bytes := by
  unfold textOf at h
  refine List.map_injective_iff.mpr ?_ h
  intro b c hbc
  have hvalid : ∀ d : UInt8, (Char.ofNat d.toNat).toNat = d.toNat := fun d => by
    have hlt := d.toNat_lt
    rw [Char.ofNat, dif_pos (.inl (by omega))]
    rfl
  have hnat := congrArg Char.toNat hbc
  rw [hvalid, hvalid] at hnat
  exact UInt8.toNat_inj.mp hnat

theorem fill_of_readable (h : ∀ u ∈ vs, (publishedValue u).isSome) (dataset : CDataWrapper) :
    ∃ fields, fillCDatawrapperWithCachedValue vs dataset = some (dataset ++ fields) ∧
      fields.length = vs.length := by
  induction vs generalizing dataset with
  | nil => exact ⟨[], by simp [fillCDatawrapperWithCachedValue], rfl⟩
  | cons v vs ih =>
    obtain ⟨value, hvalue⟩ := Option.isSome_iff_exists.mp (h v List.mem_cons_self)
    obtain ⟨fields, hfill, hlength⟩ :=
      ih (fun u hu => h u (List.mem_cons_of_mem v hu)) (dataset ++ [(publishedKey v, value)])
    refine ⟨(publishedKey v, value) :: fields, ?_, by rw [List.length_cons, hlength]; rfl⟩
    unfold fillCDatawrapperWithCachedValue at hfill ⊢
    rw [List.foldlM_cons, publishedField, hvalue]
    simpa using hfill

theorem fill_append (vs us : List ValueSetting) (dataset : CDataWrapper) :
    fillCDatawrapperWithCachedValue (vs ++ us) dataset =
      (fillCDatawrapperWithCachedValue vs dataset).bind (fillCDatawrapperWithCachedValue us) := by
  unfold fillCDatawrapperWithCachedValue
  rw [List.foldlM_append]
  rfl

/-- The field of a value stands at the place of the value. -/
theorem fill_with (hothers : ∀ u ∈ before ++ behind, (publishedValue u).isSome) {value : PackValue}
    (hvalue : publishedValue v = some value) (dataset : CDataWrapper) :
    ∃ front back, fillCDatawrapperWithCachedValue (before ++ v :: behind) dataset =
      some (front ++ (publishedKey v, value) :: back) ∧ back.length = behind.length := by
  obtain ⟨fields, hbefore, -⟩ := fill_of_readable
    (fun u hu => hothers u (List.mem_append_left behind hu)) dataset
  obtain ⟨back, hbehind, hlength⟩ := fill_of_readable
    (fun u hu => hothers u (List.mem_append_right before hu))
    (dataset ++ fields ++ [(publishedKey v, value)])
  refine ⟨dataset ++ fields, back, ?_, hlength⟩
  rw [fill_append, hbefore, Option.bind_some]
  unfold fillCDatawrapperWithCachedValue at hbehind ⊢
  rw [List.foldlM_cons, publishedField, hvalue]
  simpa using hbehind

/-- A push fills its dataset with the values. -/
theorem SendsWith.push {c : DomainCache} {domain : Domain} {answers : PushAnswers}
    (h : SendsWith c domain answers before v behind) :
    ∃ c' dataset, c.push domain answers =
      (fillCDatawrapperWithCachedValue (before ++ v :: behind) dataset).map
        fun filled => (c', .sent filled) := by
  obtain ⟨hchanged, ⟨wrapper, hwrapper⟩, hstored, htimestamp, hvalues, -⟩ := h
  have hsend : ∀ d, c.valuesAt c.cached = some (before ++ v :: behind) →
      ∃ dataset, c.sendChanged d answers =
        (fillCDatawrapperWithCachedValue (before ++ v :: behind) dataset).map .sent := by
    intro d hcached
    refine ⟨wrapper ++ [(DataPackCommonKey.DPCK_TIMESTAMP, .numberLong answers.timeStamp),
      (DataPackCommonKey.DPCK_DATASET_TYPE, .numberInt d.datasetType)], ?_⟩
    unfold DomainCache.sendChanged
    simp only [hchanged, hwrapper, hcached, hstored, Bool.not_true, Bool.false_eq_true, if_false,
      if_true, Option.bind_eq_bind, Option.bind_some, Option.map_eq_bind]
    rfl
  cases domain with
  | output =>
    obtain ⟨hne, t, ht, hnumber⟩ := htimestamp rfl
    obtain ⟨n, hn⟩ := Option.isSome_iff_exists.mp hnumber
    rw [if_pos rfl] at hvalues
    refine ⟨c.resetChangedIndex,
      wrapper ++ [(publishedKey t, .numberLong (UInt64.ofNat n).toInt64),
        (DataPackCommonKey.DPCK_DATASET_TYPE, .numberInt Domain.output.datasetType)], ?_⟩
    unfold DomainCache.push DomainCache.pushOutputDataset
    simp only [hchanged, hwrapper, hvalues, hstored, ht, hn, hne, Bool.not_true,
      Bool.false_eq_true, if_false, if_true, Option.bind_eq_bind, Option.bind_some,
      Option.map_eq_bind]
    rfl
  | input =>
    rw [if_neg nofun] at hvalues
    obtain ⟨dataset, hdataset⟩ := hsend .input hvalues
    refine ⟨c, dataset, ?_⟩
    simp only [DomainCache.push, DomainCache.pushInputDataset, hdataset, Option.map_map]
    rfl
  | custom =>
    rw [if_neg nofun] at hvalues
    obtain ⟨dataset, hdataset⟩ := hsend .custom hvalues
    refine ⟨c, dataset, ?_⟩
    simp only [DomainCache.push, DomainCache.pushCustomDataset, hdataset, Option.map_map]
    rfl
  | system =>
    rw [if_neg nofun] at hvalues
    obtain ⟨dataset, hdataset⟩ := hsend .system hvalues
    refine ⟨c.resetChangedIndex, dataset, ?_⟩
    simp only [DomainCache.push, DomainCache.pushSystemDataset, hdataset, Option.map_map]
    rfl

/-- A domain with one value. -/
def onlyValue (v : ValueSetting) : DomainCache where
  setting := ⟨1, [true], ∅, (∅ : PointerMap UInt16 ValueSetting).insert 0 (some v)⟩
  cached := [0]
  timestamp := none

theorem sendsWith_onlyValue (v : ValueSetting) :
    SendsWith (onlyValue v) .input ⟨.given [], 0, true⟩ [] v [] where
  changed := rfl
  wrapper := ⟨[], rfl⟩
  stored := rfl
  timestamp := nofun
  values := by
    rw [if_neg nofun, DomainCache.valuesAt]
    simp [onlyValue, pointer]
  readable := nofun

theorem carries_iff : Carries v text ↔ publishedValue v = some (.string (textOf text)) := by
  constructor
  · intro h
    obtain ⟨c', front, back, hpush, hback⟩ := h _ _ _ _ _ (sendsWith_onlyValue v)
    obtain ⟨c'', dataset, hfill⟩ := (sendsWith_onlyValue v).push
    obtain rfl := List.eq_nil_of_length_eq_zero hback
    rw [hpush] at hfill
    obtain ⟨filled, hfilled, heq⟩ := Option.map_eq_some_iff.mp hfill.symm
    rw [List.nil_append, fillCDatawrapperWithCachedValue, List.foldlM_cons] at hfilled
    obtain ⟨one, hone, hrest⟩ := Option.bind_eq_some_iff.mp hfilled
    obtain ⟨field, hfield, rfl⟩ := Option.map_eq_some_iff.mp hone
    obtain ⟨value, hvalue, rfl⟩ := Option.map_eq_some_iff.mp hfield
    cases hrest
    simp only [Prod.mk.injEq, PushEnd.sent.injEq] at heq
    have hlast := (List.append_inj' heq.2 rfl).2
    simp only [List.cons.injEq, Prod.mk.injEq, and_true, true_and] at hlast
    rw [hvalue, hlast]
  · intro hvalue c domain answers before behind hsends
    obtain ⟨c', dataset, hpush⟩ := hsends.push
    obtain ⟨front, back, hfill, hlength⟩ := fill_with hsends.readable hvalue dataset
    exact ⟨c', front, back, by rw [hpush, hfill]; rfl, hlength⟩

/-! ## The buffer -/

namespace StringAttribute

variable {a : StringAttribute} {calls earlier : List StringCall} {s : StringSet}

/-- What is known of the value after some calls. -/
structure Holds (a : StringAttribute) (calls : List StringCall) (v : ValueSetting) : Prop where
  type : v.type = .TYPE_STRING
  size : v.size = a.declaredSize calls
  length : ∀ buffer, v.value_buffer = some buffer → buffer.length = v.size.toNat
  byte : ∀ i, v.value_buffer.bind (·[i]?) = a.byteLeft i calls

theorem getElem?_setValue {buffer value : List UInt8} (i : Nat) :
    (value.take (min value.length buffer.length) ++
      buffer.drop (min value.length buffer.length))[i]? =
        (buffer[i]?).map fun old => (value[i]?).getD old := by
  by_cases hi : i < buffer.length
  · rw [List.getElem?_eq_getElem hi, Option.map_some]
    by_cases hv : i < value.length
    · rw [List.getElem?_append_left (by simp; omega), List.getElem?_take_of_lt (by omega),
        List.getElem?_eq_getElem hv, Option.getD_some]
    · have hmin : min value.length buffer.length = value.length := by omega
      rw [hmin, List.take_length, List.getElem?_append_right (by omega), List.getElem?_drop,
        Nat.add_sub_cancel' (by omega), List.getElem?_eq_getElem hi,
        List.getElem?_eq_none (by omega), Option.getD_none]
  · rw [List.getElem?_eq_none (l := buffer) (by omega), Option.map_none]
    exact List.getElem?_eq_none (by simp; omega)

/-- A text is copied over the bytes that it reaches. -/
theorem Holds.set (h : Holds a earlier u) (hset : u.setValue s.bytes = .ok v) :
    Holds a (.set s :: earlier) v := by
  unfold ValueSetting.setValue at hset
  cases hbuffer : u.value_buffer with
  | some buffer =>
    simp only [hbuffer] at hset
    cases hset
    have hlength := h.length buffer hbuffer
    refine ⟨h.type, h.size, ?_, fun i => ?_⟩
    · rintro _ ⟨⟩
      simp only [List.length_append, List.length_take, List.length_drop]
      omega
    · rw [byteLeft, ← h.byte i, hbuffer, Option.bind_some, Option.bind_some, ← hlength,
        getElem?_setValue]
  | none =>
    simp only [hbuffer] at hset
    split at hset
    · cases hset
      refine ⟨h.type, h.size, h.length, fun i => ?_⟩
      rw [byteLeft, ← h.byte i, hbuffer]
      rfl
    · cases hset

theorem Holds.setNewSize (h : Holds a earlier u) (new_size : UInt32)
    (found : Option (Nat → UInt8)) :
    Holds a (.setNewSize new_size found :: earlier) (u.setNewSize new_size found).1 := by
  unfold ValueSetting.setNewSize
  rw [h.type]
  dsimp only
  refine ⟨rfl, rfl, ?_, fun i => ?_⟩
  · intro buffer hbuffer
    obtain ⟨byte, -, rfl⟩ := Option.map_eq_some_iff.mp hbuffer
    simp
  · rw [byteLeft, ← h.byte i]
    cases found with
    | none => rfl
    | some byte =>
      rw [Option.map_some, Option.bind_some, Option.bind_some, List.getElem?_map]
      by_cases hi : i < new_size.toNat
      · rw [if_pos hi, List.getElem?_range hi, Option.map_some]
        cases u.value_buffer <;> rfl
      · rw [if_neg hi, List.getElem?_eq_none (by simp; omega), Option.map_none]

theorem holds_of_after (h : a.after calls = some v) : Holds a calls v := by
  induction calls generalizing v with
  | nil =>
    cases h
    refine ⟨rfl, rfl, ?_, fun i => ?_⟩
    · intro buffer hbuffer
      simp only [ValueSetting.new, Option.ite_none_right_eq_some, Option.some.injEq] at hbuffer
      rw [← hbuffer.2, List.length_replicate]
      rfl
    · rw [byteLeft, ValueSetting.new]
      by_cases hi : i < a.size.toNat
      · have hsize : a.size ≠ 0 := by
          intro hzero
          rw [hzero] at hi
          exact Nat.not_lt_zero i hi
        cases a.allocated <;> simp [hsize, hi]
      · by_cases hsize : a.size = 0 <;> cases a.allocated <;> simp [hsize, hi]
  | cons c earlier ih =>
    obtain ⟨u, hu, hc⟩ := Option.bind_eq_some_iff.mp h
    cases c with
    | set s =>
      cases hset : u.setValue s.bytes with
      | ok w =>
        rw [StringCall.apply, hset] at hc
        cases hc
        exact (ih hu).set hset
      | error failure =>
        rw [StringCall.apply, hset] at hc
        cases hc
    | setNewSize new_size found =>
      cases hc
      exact (ih hu).setNewSize new_size found

/-- A text of the request is cut only where it is longer than any buffer. -/
theorem bytes_eq_text (h : s.text.length < 2 ^ 32) : s.bytes = s.text := by
  cases s with
  | setDatasetAttribute str =>
    simp only [StringSet.text, List.length_map] at h
    rw [StringSet.bytes, StringSet.text, PackValue.bytes, Nat.mod_eq_of_lt h, List.take_of_length_le]
    rw [List.length_map]
  | setValue value => rfl

/-- The last text does not reach the place behind it. -/
theorem byteLeft_behind (h : s.text.length < 2 ^ 32) :
    a.byteLeft s.text.length (.set s :: earlier) = a.byteLeft s.text.length earlier := by
  rw [byteLeft, bytes_eq_text h, List.getElem?_eq_none (Nat.le_refl _)]
  cases a.byteLeft s.text.length earlier <;> rfl

theorem publishedValue_string (h : Holds a calls v) :
    publishedValue v = some (.string (textOf text)) ↔
      ∃ buffer, v.value_buffer = some buffer ∧ cString buffer = some text := by
  rw [publishedValue, h.type]
  simp only [Option.map_eq_some_iff, Option.bind_eq_some_iff, PackValue.string.injEq]
  constructor
  · rintro ⟨bytes, ⟨buffer, hbuffer, hbytes⟩, hsame⟩
    exact ⟨buffer, hbuffer, textOf_inj hsame ▸ hbytes⟩
  · rintro ⟨buffer, hbuffer, htext⟩
    exact ⟨text, ⟨buffer, hbuffer, htext⟩, rfl⟩

/-- What is carried is the text set last just where a zero stands behind it. -/
theorem publishesLast_iff (hearlier : a.after earlier = some u) (s : StringSet) :
    PublishesLast a earlier s ↔
      0 ∉ s.text ∧ a.byteLeft s.text.length earlier = some 0 := by
  have hholds := holds_of_after hearlier
  have hsize := (a.declaredSize earlier).toNat_lt
  constructor
  · rintro ⟨v, hv, hcarries⟩
    have hlast := holds_of_after hv
    obtain ⟨buffer, hbuffer, hstring⟩ := (publishedValue_string hlast).mp (carries_iff.mp hcarries)
    obtain ⟨hzero, rest, hsplit⟩ := cString_eq_some.mp hstring
    -- the zero has a place of its own, and nothing was cut
    have hlength : buffer.length = (a.declaredSize earlier).toNat := by
      rw [hlast.length buffer hbuffer, hlast.size]
      rfl
    have hshort : s.text.length < (a.declaredSize earlier).toNat := by
      have hcount := congrArg List.length hsplit
      simp only [List.length_append, List.length_take, List.length_cons] at hcount
      omega
    rw [List.take_of_length_le (Nat.le_of_lt hshort)] at hzero hsplit
    refine ⟨hzero, ?_⟩
    rw [← byteLeft_behind (Nat.lt_trans hshort hsize), ← hlast.byte, hbuffer, Option.bind_some,
      hsplit, List.getElem?_append_right (Nat.le_refl _), Nat.sub_self]
    rfl
  · rintro ⟨hzero, hbyte⟩
    rw [← hholds.byte] at hbyte
    obtain ⟨buffer, hbuffer, hget⟩ := Option.bind_eq_some_iff.mp hbyte
    obtain ⟨hlt, hlast⟩ := List.getElem?_eq_some_iff.mp hget
    have hlength := hholds.length buffer hbuffer
    rw [hholds.size] at hlength
    have hmin : min s.text.length u.size.toNat = s.text.length := by
      rw [hholds.size]
      omega
    have hset : u.setValue s.bytes = .ok
        { u with value_buffer := some (s.text ++ buffer.drop s.text.length) } := by
      rw [ValueSetting.setValue, bytes_eq_text (by omega), hbuffer]
      simp only [hmin, List.take_length]
    have hv : a.after (.set s :: earlier) = some
        { u with value_buffer := some (s.text ++ buffer.drop s.text.length) } := by
      rw [after, hearlier, Option.bind_some, StringCall.apply, hset]
      rfl
    refine ⟨_, hv, carries_iff.mpr ((publishedValue_string (holds_of_after hv)).mpr ⟨_, rfl, ?_⟩)⟩
    rw [List.take_of_length_le (by omega)]
    refine cString_eq_some.mpr ⟨hzero, buffer.drop (s.text.length + 1), ?_⟩
    rw [List.drop_eq_getElem_cons hlt, hlast]

/-- An attribute of 8 bytes. -/
def message : StringAttribute := ⟨"message", 0, 8, true⟩

/-- A longer text behind a shorter one. -/
theorem publishesLast_longer :
    PublishesLast message [.set (.setValue ⟨[97, 98], by decide⟩)]
      (.setDatasetAttribute ['a', 'b', 'c']) :=
  (publishesLast_iff rfl _).mpr ⟨by decide, by decide⟩

/-- A shorter text is carried with the end of the longer one that was there. -/
theorem not_publishesLast_shorter :
    ¬ PublishesLast message [.set (.setDatasetAttribute ['a', 'b', 'c'])]
      (.setValue ⟨[120], by decide⟩) := by
  rintro ⟨v, hv, hcarries⟩
  have hvalue : (message.after [.set (.setValue ⟨[120], by decide⟩),
      .set (.setDatasetAttribute ['a', 'b', 'c'])]).map publishedValue =
        some (some (.string ['x', 'b', 'c'])) := by
    decide +kernel
  rw [hv, Option.map_some, Option.some.injEq, carries_iff.mp hcarries] at hvalue
  revert hvalue
  decide +kernel

end StringAttribute

end chaos.cu.control_manager
