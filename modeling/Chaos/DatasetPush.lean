-- The datasets that a control unit pushes: what is read from the values of a domain, and the four
-- functions that test the bitmap of the domain, send the dataset and reset the bitmap or not.
import Chaos.AttributeChange

/-! ## Reading a value -/

namespace chaos.common.data.cache

open little_endian

/-- The text that a pointer to bytes stands for ends before the first zero. -/
def cString : List UInt8 → Option (List UInt8)
  | [] => none
  | b :: bytes => if b = 0 then some [] else (cString bytes).map (b :: ·)

theorem cString_eq_some {bytes text : List UInt8} :
    cString bytes = some text ↔ 0 ∉ text ∧ ∃ rest, bytes = text ++ 0 :: rest := by
  induction bytes generalizing text with
  | nil => simp [cString]
  | cons b bytes ih =>
    rw [cString]
    split
    · rename_i hzero
      subst hzero
      cases text with
      | nil => simp
      | cons c text =>
        refine iff_of_false nofun ?_
        rintro ⟨hnot, rest, heq⟩
        cases heq
        exact hnot List.mem_cons_self
    · rename_i hne
      rw [Option.map_eq_some_iff]
      constructor
      · rintro ⟨tail, htail, rfl⟩
        obtain ⟨hnot, rest, rfl⟩ := ih.mp htail
        refine ⟨?_, rest, rfl⟩
        rw [List.mem_cons]
        exact not_or.mpr ⟨Ne.symm hne, hnot⟩
      · rintro ⟨hnot, rest, heq⟩
        cases text with
        | nil =>
          cases heq
          exact absurd rfl hne
        | cons c text =>
          cases heq
          exact ⟨text, ih.mpr ⟨fun h => hnot (List.mem_cons_of_mem _ h), rest, rfl⟩, rfl⟩

namespace ValueSetting

variable (v : ValueSetting)

/-- `*getValuePtr<T>()` for a type of `w` bytes. -/
def number (w : Nat) : Option Nat := do
  let buffer ← v.value_buffer
  if w ≤ buffer.length then some (ofBytes (buffer.take w)) else none

end ValueSetting

end chaos.common.data.cache

namespace chaos.cu.control_manager

open chaos.common.data.cache pointer_map

/-- A text of bytes. -/
def textOf (bytes : List UInt8) : List Char := bytes.map fun b => Char.ofNat b.toNat

/-- What the functions that fill a dataset read from a value, by its type. What is outside of the
buffer, or behind NULL, cannot be read. -/
def publishedValue (v : ValueSetting) : Option PackValue :=
  match v.type with
  | .TYPE_BOOLEAN => (v.number 1).map fun n => .bool (n ≠ 0)
  | .TYPE_INT32 => (v.number 4).map fun n => .numberInt (UInt32.ofNat n).toInt32
  | .TYPE_INT64 => (v.number 8).map fun n => .numberLong (UInt64.ofNat n).toInt64
  | .TYPE_DOUBLE => (v.number 8).map fun n => .numberDouble (UInt64.ofNat n)
  | .TYPE_STRING => (v.value_buffer.bind cString).map fun text => .string (textOf text)
  | .TYPE_BYTEARRAY =>
    -- the length is given as an `int`
    if v.size = 0 then some (.binData [])
    else v.value_buffer.bind fun buffer =>
      if v.size.toNat ≤ buffer.length ∧ v.size.toNat < 2 ^ 31 then
        some (.binData (buffer.take v.size.toNat))
      else none

/-- `name.c_str()` -/
def publishedKey (v : ValueSetting) : List Char := v.name.toList.takeWhile (· ≠ '\x00')

def publishedField (v : ValueSetting) : Option (List Char × PackValue) :=
  (publishedValue v).map fun value => (publishedKey v, value)

/-- A field is added for each value. -/
def fillCDatawrapperWithCachedValue (cached_attributes : List ValueSetting)
    (dataset : CDataWrapper) : Option CDataWrapper :=
  cached_attributes.foldlM (fun dataset v => (publishedField v).map (dataset ++ [·])) dataset

namespace DataPackCommonKey

def DPCK_DEVICE_ID : List Char := "dpck_device_id".toList

def DPCK_TIMESTAMP : List Char := "dpck_ts".toList

def DPCK_DATASET_TYPE : List Char := "dpck_ds_type".toList

end DataPackCommonKey

open DataPackCommonKey

/-- The four datasets, in the order of their numbers. -/
inductive Domain
  | output
  | input
  | custom
  | system
  deriving DecidableEq, Repr

def Domain.datasetType : Domain → Int32
  | .output => 0
  | .input => 1
  | .custom => 2
  | .system => 3

/-! ## The storage -/

/-- What `getNewOutputAttributeDataWrapper` does. The push functions test for NULL. -/
inductive WrapperAnswer
  | given (dataset : CDataWrapper)
  | null
  | bad_alloc

namespace KeyDataStorage

/-- The storage of a unit creates the wrapper with `new`. -/
def getNewOutputAttributeDataWrapper (key : List Char) (allocated : Bool) : WrapperAnswer :=
  if allocated then .given [(DPCK_DEVICE_ID, .string key)] else .bad_alloc

end KeyDataStorage

/-- What a push finds: the wrapper, the time, and whether `storeData` takes the dataset or throws. -/
structure PushAnswers where
  wrapper : WrapperAnswer
  timeStamp : Int64
  stored : Bool

/-- How a push ends. -/
inductive PushEnd
  | unchanged
  | noWrapper
  | thrown
  | sent (dataset : CDataWrapper)

/-! ## The push functions -/

/-- The set of a domain, with its vector of pointers to the values and the pointer to the
timestamp. A pointer is given by the index of its value. -/
structure DomainCache where
  setting : AttributesSetting
  cached : List UInt16
  timestamp : Option UInt16

namespace DomainCache

variable (c : DomainCache)

/-- The values that some pointers of the vector lead to. -/
def valuesAt (pointers : List UInt16) : Option (List ValueSetting) :=
  pointers.mapM (pointer c.setting.mapAttributeIndexSettings)

def resetChangedIndex : DomainCache := { c with setting := c.setting.resetChangedIndex }

/-- The last value of the vector is left out: the timestamp is written before the others. The bound
of the loop of an empty vector is the highest number there is. -/
def pushOutputDataset (answers : PushAnswers) : Option (DomainCache × PushEnd) :=
  if !c.setting.hasChanged then some (c, .unchanged)
  else
    match answers.wrapper with
    | .bad_alloc => some (c, .thrown)
    | .null => some (c, .noWrapper)
    | .given dataset => do
      let timestamp_acq_cached_value ← c.timestamp.bind
        (pointer c.setting.mapAttributeIndexSettings)
      let timestamp ← timestamp_acq_cached_value.number 8
      let pushed ← (if c.cached = [] then none else some c.cached.dropLast)
      let values ← c.valuesAt pushed
      let dataset ← fillCDatawrapperWithCachedValue values (dataset ++
        [(publishedKey timestamp_acq_cached_value, .numberLong (UInt64.ofNat timestamp).toInt64),
          (DPCK_DATASET_TYPE, .numberInt Domain.output.datasetType)])
      return if answers.stored then (c.resetChangedIndex, .sent dataset) else (c, .thrown)

/-- The test, the dataset and its way to the storage in the other three functions. -/
def sendChanged (domain : Domain) (answers : PushAnswers) : Option PushEnd :=
  if !c.setting.hasChanged then some .unchanged
  else
    match answers.wrapper with
    | .bad_alloc => some .thrown
    | .null => some .noWrapper
    | .given dataset => do
      let values ← c.valuesAt c.cached
      let dataset ← fillCDatawrapperWithCachedValue values (dataset ++
        [(DPCK_TIMESTAMP, .numberLong answers.timeStamp),
          (DPCK_DATASET_TYPE, .numberInt domain.datasetType)])
      return if answers.stored then .sent dataset else .thrown

def pushInputDataset (answers : PushAnswers) : Option (DomainCache × PushEnd) :=
  (c.sendChanged .input answers).map fun e => (c, e)

def pushCustomDataset (answers : PushAnswers) : Option (DomainCache × PushEnd) :=
  (c.sendChanged .custom answers).map fun e => (c, e)

/-- The bitmap is reset behind the block that sends, which is left out without a wrapper. -/
def pushSystemDataset (answers : PushAnswers) : Option (DomainCache × PushEnd) :=
  (c.sendChanged .system answers).map fun
    | .unchanged => (c, .unchanged)
    | .thrown => (c, .thrown)
    | e => (c.resetChangedIndex, e)

def push : Domain → PushAnswers → Option (DomainCache × PushEnd)
  | .output => c.pushOutputDataset
  | .input => c.pushInputDataset
  | .custom => c.pushCustomDataset
  | .system => c.pushSystemDataset

end DomainCache

end chaos.cu.control_manager
