-- The accesses of an event to its data. The offsets and the sizes come from the identifier and the
-- value of the caller, or from the fields of the event, which a datagram can hold in any way.
import Chaos.BufferAccess
import Chaos.AlertEvents

namespace chaos.event.access

open buffer_access Code little_endian byte_buffer runs

/-! ## The members of an event -/

/-- An identifier that has the bytes that its length says, or NULL. -/
structure Identification where
  bytes : Option (List UInt8)
  length : UInt8
  enough : ∀ b ∈ bytes, length.toNat ≤ b.length

/-- A value that has the bytes of its type, or of its size. -/
structure Value where
  valueType : EventDataType
  valueSize : UInt16
  bytes : List UInt8
  enough : valueType.dataDim valueSize ≤ bytes.length

def Value.dataDim (v : Value) : Nat := v.valueType.dataDim v.valueSize

def setEventDataLength (newSize : UInt8) : Code Unit := do
  let tmp32 ← readAt 0 EVT_HEADER_BYTE_LENGTH
  writeAt 0 (toBytes EVT_HEADER_BYTE_LENGTH (ofBytes tmp32 % 2 ^ 19 + newSize.toNat * 2 ^ 19))

def getEventHeaderVersion : Code UInt16 := do
  let tmp32 ← readAt 0 EVT_HEADER_BYTE_LENGTH
  return .ofNat (ofBytes tmp32 / 2 ^ 16 % 2 ^ 3)

def getEventDataLength : Code UInt16 := do
  let tmp32 ← readAt 0 EVT_HEADER_BYTE_LENGTH
  return .ofNat (ofBytes tmp32 / 2 ^ 19)

def setEventData (serializedEvent : List UInt8) : Code Unit := writeAt 0 serializedEvent

def getEventType : Code UInt8 := do
  let tmp8 ← readAt EVT_HEADER_BYTE_LENGTH 1
  return tmp8.headD 0 &&& 3

def getEventPriority : Code UInt8 := do
  let tmp8 ← readAt EVT_HEADER_BYTE_LENGTH 1
  return tmp8.headD 0 >>> 2

def setSubCode (subCode : UInt16) : Code Unit :=
  writeAt EVT_SUB_CODE_OFFSET (toBytes 2 subCode.toNat)

def getSubCode : Code UInt16 := do
  let bytes ← readAt EVT_SUB_CODE_OFFSET 2
  return .ofNat (ofBytes bytes)

def setSubCodePriority (subCodePriority : UInt16) : Code Unit :=
  writeAt EVT_SUB_CODE_PRIORITY_OFFSET (toBytes 2 subCodePriority.toNat)

def getSubCodePriority : Code UInt16 := do
  let bytes ← readAt EVT_SUB_CODE_PRIORITY_OFFSET 2
  return .ofNat (ofBytes bytes)

def getIdentificationlength : Code UInt8 := do
  let bytes ← readAt EVT_IDENTIFICATION_LENGTH_INFO_OFFSET 1
  return bytes.headD 0

def setSenderIdentification (i : Identification) : Code UInt16 := do
  writeAt EVT_IDENTIFICATION_LENGTH_INFO_OFFSET [i.length]
  match i.bytes with
  | some identification =>
    if 0 < i.length then
      writeAt EVT_IDENTIFICATION_VALUE_INFO_OFFSET (identification.take i.length.toNat)
  | none => pure ()
  return i.length.toUInt16

/-- The pointer to the identification, and what a caller reads from it with its length. -/
def getIdentification : Code (Option (List UInt8)) := do
  let length ← getIdentificationlength
  if length = 0 then return none
  else
    let identification ← readAt EVT_IDENTIFICATION_VALUE_INFO_OFFSET length.toNat
    return some identification

/-- The sizes are added as integers, and the sum is handed over as a byte. -/
def setIdentificationAndValueWithType (i : Identification) (v : Value) : Code Unit := do
  let indetificationSize ← setSenderIdentification i
  writeAt (EVT_IDENTIFICATION_VALUE_INFO_OFFSET + indetificationSize.toNat) [v.valueType.number]
  writeAt (EVT_IDENTIFICATION_VALUE_INFO_OFFSET + indetificationSize.toNat + 1)
    (v.bytes.take v.dataDim)
  setEventDataLength
    (.ofNat (EVT_IDENTIFICATION_VALUE_INFO_OFFSET + v.dataDim + indetificationSize.toNat + 1))

def getEventValueType : Code UInt8 := do
  let idLen ← getIdentificationlength
  let type ← readAt (EVT_IDENTIFICATION_VALUE_INFO_OFFSET + idLen.toNat) 1
  return type.headD 0

/-- The difference is one of integers, cut to 16 bits. -/
def getEventValueSize : Code UInt16 := do
  let idLen ← getIdentificationlength
  let packDimension ← getEventDataLength
  return packDimension - .ofNat (EVT_IDENTIFICATION_LENGTH_INFO_OFFSET + idLen.toNat + 2)

/-- With a pointer for the value and one for the size. -/
def getEventValue : Code (UInt16 × List UInt8) := do
  let idLen ← getIdentificationlength
  let packDimension ← getEventDataLength
  let size : UInt16 :=
    packDimension - .ofNat (EVT_IDENTIFICATION_LENGTH_INFO_OFFSET + idLen.toNat + 2)
  let value ← readAt (EVT_IDENTIFICATION_VALUE_INFO_OFFSET + idLen.toNat + 1) size.toNat
  return (size, value)

/-! ## Calls -/

inductive Member
  | setSubCode (subCode : UInt16)
  | setSubCodePriority (subCodePriority : UInt16)
  | setSenderIdentification (i : Identification)
  | setIdentificationAndValueWithType (i : Identification) (v : Value)
  | getEventHeaderVersion
  | getEventDataLength
  | getEventType
  | getEventPriority
  | getSubCode
  | getSubCodePriority
  | getIdentificationlength
  | getIdentification
  | getEventValueType
  | getEventValueSize
  | getEventValue

def Member.code : Member → Code Unit
  | setSubCode subCode => access.setSubCode subCode
  | setSubCodePriority subCodePriority => access.setSubCodePriority subCodePriority
  | setSenderIdentification i => (access.setSenderIdentification i).discard
  | setIdentificationAndValueWithType i v => access.setIdentificationAndValueWithType i v
  | getEventHeaderVersion => access.getEventHeaderVersion.discard
  | getEventDataLength => access.getEventDataLength.discard
  | getEventType => access.getEventType.discard
  | getEventPriority => access.getEventPriority.discard
  | getSubCode => access.getSubCode.discard
  | getSubCodePriority => access.getSubCodePriority.discard
  | getIdentificationlength => access.getIdentificationlength.discard
  | getIdentification => access.getIdentification.discard
  | getEventValueType => access.getEventValueType.discard
  | getEventValueSize => access.getEventValueSize.discard
  | getEventValue => access.getEventValue.discard

/-- The size of the value is handed to the caller. -/
def Member.reportsSize : Member → Bool
  | getEventValueSize | getEventValue => true
  | _ => false

/-- A datagram is made into an event, or a member of the event is called. -/
inductive Call
  | getEventInstance (serializedEvent : Option (List UInt8)) (length : UInt16)
  | member (m : Member)

variable (e : EventDescriptor)

/-- The event after a member was called. -/
def Member.next (m : Member) : Option EventDescriptor :=
  match h : m.code.result e.eventData with
  | some (_, data) => some ⟨data, (length_of_result h).trans e.length_eq⟩
  | none => none

def Call.step : Call → Option EventDescriptor
  | .getEventInstance serializedEvent length => e.step (.getEventInstance serializedEvent length)
  | .member m => m.next e

/-- What a call touches of the data of an event. The factory copies the datagram over the data of
a new event. -/
def Call.touched : Call → List Access
  | .getEventInstance serializedEvent length =>
    match event.getEventInstance serializedEvent length with
    | some (.ok _) =>
      (setEventData ((serializedEvent.getD []).take length.toNat)).touched
        EventDescriptor.create.eventData
    | _ => []
  | .member m => m.code.touched e.eventData

/-- The call stays in the bytes for data, and the size that it reports is the difference of the
fields of the event. -/
structure Safe (call : Call) : Prop where
  inside : ∀ a ∈ call.touched e, a.Within EVT_DATA_MAX_BYTE_LENGTH
  size : ∀ m, call = .member m → m.reportsSize = true → (e.getEventValueSize.toNat : Int) =
    e.getEventDataLength.toNat -
      (EVT_IDENTIFICATION_LENGTH_INFO_OFFSET + e.getIdentificationlength.toNat + 2)

/-- What a call needs: an identifier and a value that fit, or an event with a length that covers
its own header and identifier. -/
def Fits : Call → Prop
  | .member (.setIdentificationAndValueWithType i v) =>
    EVT_IDENTIFICATION_VALUE_INFO_OFFSET + i.length.toNat + 1 + v.dataDim ≤ EVT_DATA_MAX_BYTE_LENGTH
  | .member .getEventValueSize =>
    EVT_IDENTIFICATION_LENGTH_INFO_OFFSET + e.getIdentificationlength.toNat + 2 ≤
      e.getEventDataLength.toNat
  | .member .getEventValue =>
    EVT_IDENTIFICATION_LENGTH_INFO_OFFSET + e.getIdentificationlength.toNat + 2 ≤
      e.getEventDataLength.toNat ∧ e.getEventDataLength.toNat ≤ EVT_DATA_MAX_BYTE_LENGTH
  | _ => True

/-! ## What the members touch -/

section members

variable {e : EventDescriptor}

/-- The bytes that an event has. -/
theorem within_data {offset count : Nat} (h : offset + count ≤ EVENT_DATA_BYTE_LENGTH) :
    offset + count ≤ e.eventData.length := e.length_eq ▸ h

theorem idLen_lt (e : EventDescriptor) : e.getIdentificationlength.toNat < 256 :=
  e.getIdentificationlength.toNat_lt

theorem result_getIdentificationlength :
    getIdentificationlength.result e.eventData = some (e.getIdentificationlength, e.eventData) := by
  unfold getIdentificationlength
  rw [result_readAt_bind (within_data (by decide)), result_pure, headD_read]
  rfl

theorem result_getEventDataLength :
    getEventDataLength.result e.eventData = some (e.getEventDataLength, e.eventData) := by
  unfold getEventDataLength
  rw [result_readAt_bind (within_data (by decide)), result_pure]
  rfl

/-- A member that starts with the length of the identification. -/
theorem touched_idLen_bind {α : Type} {f : UInt8 → Code α} :
    (getIdentificationlength >>= f).touched e.eventData =
      ⟨EVT_IDENTIFICATION_LENGTH_INFO_OFFSET, 1⟩ ::
        (f e.getIdentificationlength).touched e.eventData := by
  rw [touched_bind, result_getIdentificationlength, getIdentificationlength,
    touched_readAt_pure]
  rfl

theorem touched_dataLength_bind {α : Type} {f : UInt16 → Code α} :
    (getEventDataLength >>= f).touched e.eventData =
      ⟨0, EVT_HEADER_BYTE_LENGTH⟩ :: (f e.getEventDataLength).touched e.eventData := by
  rw [touched_bind, result_getEventDataLength, getEventDataLength, touched_readAt_pure]
  rfl

theorem touched_getIdentification : getIdentification.touched e.eventData =
    ⟨EVT_IDENTIFICATION_LENGTH_INFO_OFFSET, 1⟩ ::
      if e.getIdentificationlength = 0 then []
      else [⟨EVT_IDENTIFICATION_VALUE_INFO_OFFSET, e.getIdentificationlength.toNat⟩] := by
  unfold getIdentification
  rw [touched_idLen_bind]
  split
  · rfl
  · exact congrArg _ touched_readAt_pure

theorem touched_getEventValueType : getEventValueType.touched e.eventData =
    [⟨EVT_IDENTIFICATION_LENGTH_INFO_OFFSET, 1⟩,
      ⟨EVT_IDENTIFICATION_VALUE_INFO_OFFSET + e.getIdentificationlength.toNat, 1⟩] := by
  unfold getEventValueType
  rw [touched_idLen_bind, touched_readAt_pure]

theorem touched_getEventValueSize : getEventValueSize.touched e.eventData =
    [⟨EVT_IDENTIFICATION_LENGTH_INFO_OFFSET, 1⟩, ⟨0, EVT_HEADER_BYTE_LENGTH⟩] := by
  unfold getEventValueSize
  rw [touched_idLen_bind, touched_dataLength_bind, touched_pure]

/-- The value is read from behind its type, as long as its size says. -/
theorem touched_getEventValue : getEventValue.touched e.eventData =
    [⟨EVT_IDENTIFICATION_LENGTH_INFO_OFFSET, 1⟩, ⟨0, EVT_HEADER_BYTE_LENGTH⟩,
      ⟨EVT_IDENTIFICATION_VALUE_INFO_OFFSET + e.getIdentificationlength.toNat + 1,
        e.getEventValueSize.toNat⟩] := by
  unfold getEventValue
  rw [touched_idLen_bind, touched_dataLength_bind]
  exact congrArg _ (congrArg _ touched_readAt_pure)

variable {data : List UInt8}

/-- The identifier has its place in the data, however long it is. -/
theorem exists_setSenderIdentification (hdata : data.length = EVENT_DATA_BYTE_LENGTH)
    (i : Identification) :
    ∃ data', (setSenderIdentification i).result data = some (i.length.toUInt16, data') ∧
      data'.length = EVENT_DATA_BYTE_LENGTH ∧
      ∀ a ∈ (setSenderIdentification i).touched data, a.Within EVT_DATA_MAX_BYTE_LENGTH := by
  have hlt := i.length.toNat_lt
  have hlength : Access.Within EVT_DATA_MAX_BYTE_LENGTH
      ⟨EVT_IDENTIFICATION_LENGTH_INFO_OFFSET, [i.length].length⟩ := by
    change EVT_IDENTIFICATION_LENGTH_INFO_OFFSET + 1 ≤ EVT_DATA_MAX_BYTE_LENGTH
    decide
  have hone : EVT_IDENTIFICATION_LENGTH_INFO_OFFSET + [i.length].length ≤ data.length := by
    rw [hdata]
    exact Nat.le_trans hlength (by decide)
  have hwritten := length_write hone
  unfold setSenderIdentification
  rw [result_writeAt_bind hone, touched_writeAt_bind hone]
  cases hb : i.bytes with
  | none =>
    exact ⟨_, rfl, hwritten.trans hdata, List.forall_mem_singleton.mpr hlength⟩
  | some identification =>
    by_cases hpos : 0 < i.length
    · have hlen : (identification.take i.length.toNat).length = i.length.toNat :=
        List.length_take_of_le (i.enough _ hb)
      have hfit : EVT_IDENTIFICATION_VALUE_INFO_OFFSET +
          (identification.take i.length.toNat).length ≤ EVT_DATA_MAX_BYTE_LENGTH := by
        simp only [hlen, EVT_IDENTIFICATION_VALUE_INFO_OFFSET, EVT_DATA_MAX_BYTE_LENGTH]
        omega
      have hfit' : EVT_IDENTIFICATION_VALUE_INFO_OFFSET +
          (identification.take i.length.toNat).length ≤
            (write data EVT_IDENTIFICATION_LENGTH_INFO_OFFSET [i.length]).length := by
        rw [hwritten, hdata]
        exact Nat.le_trans hfit (by decide)
      simp only [if_pos hpos]
      rw [result_writeAt_bind hfit', touched_writeAt_bind hfit']
      refine ⟨_, rfl, (length_write hfit').trans (hwritten.trans hdata), ?_⟩
      exact List.forall_mem_cons.mpr ⟨hlength, List.forall_mem_singleton.mpr hfit⟩
    · simp only [if_neg hpos]
      exact ⟨_, rfl, hwritten.trans hdata, List.forall_mem_singleton.mpr hlength⟩

theorem setEventDataLength_within (hdata : data.length = EVENT_DATA_BYTE_LENGTH)
    (newSize : UInt8) :
    ∀ a ∈ (setEventDataLength newSize).touched data, a.Within EVT_DATA_MAX_BYTE_LENGTH := by
  unfold setEventDataLength
  rw [touched_readAt_bind (by rw [hdata]; decide), touched_writeAt, length_toBytes]
  decide

/-- The whole of the identifier and the value fits just when the value does, which is written
behind the others. -/
theorem setIdentificationAndValueWithType_within_iff (hdata : data.length = EVENT_DATA_BYTE_LENGTH)
    (i : Identification) (v : Value) :
    (∀ a ∈ (setIdentificationAndValueWithType i v).touched data,
        a.Within EVT_DATA_MAX_BYTE_LENGTH) ↔
      EVT_IDENTIFICATION_VALUE_INFO_OFFSET + i.length.toNat + 1 + v.dataDim ≤
        EVT_DATA_MAX_BYTE_LENGTH := by
  have hlt := i.length.toNat_lt
  have hlen : (v.bytes.take v.dataDim).length = v.dataDim := List.length_take_of_le v.enough
  have hsize : i.length.toUInt16.toNat = i.length.toNat := UInt8.toNat_toUInt16 _
  obtain ⟨data₁, hresult, hdata₁, hwithin⟩ := exists_setSenderIdentification hdata i
  have htype : Access.Within EVT_DATA_MAX_BYTE_LENGTH
      ⟨EVT_IDENTIFICATION_VALUE_INFO_OFFSET + i.length.toNat, [v.valueType.number].length⟩ := by
    simp only [Access.Within, EVT_IDENTIFICATION_VALUE_INFO_OFFSET, EVT_DATA_MAX_BYTE_LENGTH,
      List.length_singleton]
    omega
  have htype' : EVT_IDENTIFICATION_VALUE_INFO_OFFSET + i.length.toNat +
      [v.valueType.number].length ≤ data₁.length := by
    rw [hdata₁]
    exact Nat.le_trans htype (by decide)
  have hdata₂ := (length_write htype').trans hdata₁
  unfold setIdentificationAndValueWithType
  rw [touched_bind, hresult, List.forall_mem_append, and_iff_right hwithin]
  simp only [Option.elim_some, hsize]
  rw [touched_writeAt_bind htype', List.forall_mem_cons, and_iff_right htype]
  constructor
  · intro h
    have hvalue := h _ mem_touched_writeAt_bind
    rwa [hlen] at hvalue
  · intro hfits
    have hvalue : EVT_IDENTIFICATION_VALUE_INFO_OFFSET + i.length.toNat + 1 +
        (v.bytes.take v.dataDim).length ≤ EVT_DATA_MAX_BYTE_LENGTH := hlen.symm ▸ hfits
    have hvalue' := Nat.le_trans hvalue (show _ ≤ EVENT_DATA_BYTE_LENGTH by decide)
    rw [← hdata₂] at hvalue'
    rw [touched_writeAt_bind hvalue', List.forall_mem_cons]
    exact ⟨hvalue, setEventDataLength_within ((length_write hvalue').trans hdata₂) _⟩

end members

/-! ## One call -/

/-- The difference of two fields wraps just when it is below zero. -/
theorem toNat_sub_iff {a : UInt16} {n : Nat} (hn : n < 2 ^ 16) :
    ((a - .ofNat n).toNat : Int) = a.toNat - n ↔ n ≤ a.toNat := by
  have ha := a.toNat_lt
  rw [UInt16.toNat_sub, UInt16.toNat_ofNat', Nat.mod_eq_of_lt hn]
  omega

section calls

variable {e : EventDescriptor}

theorem offset_lt (e : EventDescriptor) :
    EVT_IDENTIFICATION_LENGTH_INFO_OFFSET + e.getIdentificationlength.toNat + 2 < 2 ^ 16 := by
  have hlt := idLen_lt e
  simp only [EVT_IDENTIFICATION_LENGTH_INFO_OFFSET]
  omega

/-- The size that is reported is the difference just when the length covers the identifier. -/
theorem size_iff : (e.getEventValueSize.toNat : Int) = e.getEventDataLength.toNat -
      (EVT_IDENTIFICATION_LENGTH_INFO_OFFSET + e.getIdentificationlength.toNat + 2) ↔
    EVT_IDENTIFICATION_LENGTH_INFO_OFFSET + e.getIdentificationlength.toNat + 2 ≤
      e.getEventDataLength.toNat := by
  have hiff := toNat_sub_iff (a := e.getEventDataLength) (offset_lt e)
  push_cast at hiff
  exact hiff

/-- The value is in the data when the length is, and covers the identifier. -/
theorem value_within_iff :
    EVT_IDENTIFICATION_VALUE_INFO_OFFSET + e.getIdentificationlength.toNat + 1 +
        e.getEventValueSize.toNat ≤ EVT_DATA_MAX_BYTE_LENGTH ↔
      EVT_IDENTIFICATION_LENGTH_INFO_OFFSET + e.getIdentificationlength.toNat + 2 ≤
        e.getEventDataLength.toNat ∧ e.getEventDataLength.toNat ≤ EVT_DATA_MAX_BYTE_LENGTH := by
  have hoffset := offset_lt e
  have hlt := idLen_lt e
  have hlen := e.getEventDataLength.toNat_lt
  have hsize : e.getEventValueSize.toNat = (2 ^ 16 - (EVT_IDENTIFICATION_LENGTH_INFO_OFFSET +
      e.getIdentificationlength.toNat + 2) + e.getEventDataLength.toNat) % 2 ^ 16 := by
    rw [EventDescriptor.getEventValueSize, UInt16.toNat_sub, UInt16.toNat_ofNat',
      Nat.mod_eq_of_lt hoffset]
  simp only [EVT_IDENTIFICATION_LENGTH_INFO_OFFSET, EVT_IDENTIFICATION_VALUE_INFO_OFFSET,
    EVT_DATA_MAX_BYTE_LENGTH] at *
  omega

/-- A member that only reads some bytes at a place before the value. -/
theorem fetch_within {α : Type} {c : Code α} {offset count : Nat}
    (h : c.touched e.eventData = [⟨offset, count⟩])
    (hplace : offset + count ≤ EVT_IDENTIFICATION_VALUE_INFO_OFFSET) :
    ∀ a ∈ c.touched e.eventData, a.Within EVT_DATA_MAX_BYTE_LENGTH := by
  rw [h]
  exact List.forall_mem_singleton.mpr (Nat.le_trans hplace (by decide))

/-- What a member touches is in the data just when its value is, if it touches one. -/
theorem member_within_iff (m : Member) :
    (∀ a ∈ m.code.touched e.eventData, a.Within EVT_DATA_MAX_BYTE_LENGTH) ↔
      m = .getEventValueSize ∨ Fits e (.member m) := by
  have hlt := idLen_lt e
  have hidLen : ∀ offset count, offset + count ≤ EVT_IDENTIFICATION_VALUE_INFO_OFFSET + 256 →
      Access.Within EVT_DATA_MAX_BYTE_LENGTH ⟨offset, count⟩ := fun offset count h =>
    Nat.le_trans h (by decide)
  cases m with
  | setSubCode subCode | setSubCodePriority subCode =>
    refine iff_of_true ?_ (.inr trivial)
    simp only [Member.code, setSubCode, setSubCodePriority, touched_writeAt, length_toBytes]
    decide
  | setSenderIdentification i =>
    obtain ⟨_, -, -, hwithin⟩ := exists_setSenderIdentification e.length_eq i
    refine iff_of_true ?_ (.inr trivial)
    rwa [Member.code, touched_discard]
  | setIdentificationAndValueWithType i v =>
    rw [Member.code, setIdentificationAndValueWithType_within_iff e.length_eq, or_iff_right nofun]
    rfl
  | getEventHeaderVersion | getEventDataLength | getEventType | getEventPriority | getSubCode
  | getSubCodePriority | getIdentificationlength =>
    refine iff_of_true ?_ (.inr trivial)
    rw [Member.code, touched_discard]
    exact fetch_within touched_readAt_pure (by decide)
  | getIdentification =>
    refine iff_of_true ?_ (.inr trivial)
    rw [Member.code, touched_discard, touched_getIdentification, List.forall_mem_cons]
    refine ⟨hidLen _ _ (by decide), ?_⟩
    split
    · exact nofun
    · exact List.forall_mem_singleton.mpr (hidLen _ _ (by omega))
  | getEventValueType =>
    refine iff_of_true ?_ (.inr trivial)
    rw [Member.code, touched_discard, touched_getEventValueType, List.forall_mem_cons,
      List.forall_mem_singleton]
    exact ⟨hidLen _ _ (by decide), hidLen _ _ (by omega)⟩
  | getEventValueSize =>
    refine iff_of_true ?_ (.inl rfl)
    rw [Member.code, touched_discard, touched_getEventValueSize]
    decide
  | getEventValue =>
    rw [Member.code, touched_discard, touched_getEventValue, List.forall_mem_cons,
      List.forall_mem_cons, List.forall_mem_singleton, and_iff_right (hidLen _ _ (by decide)),
      and_iff_right (hidLen _ _ (by decide)), or_iff_right nofun]
    exact value_within_iff

/-- A datagram that is made into an event is not longer than the data. -/
theorem length_le_of_getEventInstance {serializedEvent : Option (List UInt8)} {length : UInt16}
    {made : EventDescriptor} (h : event.getEventInstance serializedEvent length = some (.ok made)) :
    length.toNat ≤ EVT_DATA_MAX_BYTE_LENGTH := by
  unfold event.getEventInstance at h
  cases serializedEvent with
  | none => cases h
  | some bytes =>
    dsimp only at h
    split at h
    · cases h
    · omega

/-- The copy of the factory is always in the data. -/
theorem getEventInstance_within (serializedEvent : Option (List UInt8)) (length : UInt16) :
    ∀ a ∈ (Call.getEventInstance serializedEvent length).touched e,
      a.Within EVT_DATA_MAX_BYTE_LENGTH := by
  unfold Call.touched
  dsimp only
  split
  · rename_i made hmade
    have hle := length_le_of_getEventInstance hmade
    rw [setEventData, touched_writeAt, List.forall_mem_singleton]
    have htake := List.length_take_le length.toNat (serializedEvent.getD [])
    exact (Nat.zero_add _).le.trans (htake.trans hle)
  · exact nofun

/-- For every event and every call with its arguments, the call is safe just when it fits. -/
theorem safe_iff_fits (e : EventDescriptor) (call : Call) : Safe e call ↔ Fits e call := by
  cases call with
  | getEventInstance serializedEvent length =>
    exact iff_of_true ⟨getEventInstance_within serializedEvent length, nofun⟩ trivial
  | member m =>
    have hinside : (∀ a ∈ (Call.member m).touched e, a.Within EVT_DATA_MAX_BYTE_LENGTH) ↔ _ :=
      member_within_iff m
    constructor
    · intro h
      rcases hinside.mp h.inside with rfl | hfits
      · exact size_iff.mp (h.size _ rfl rfl)
      · exact hfits
    · intro hfits
      refine ⟨hinside.mpr (.inr hfits), ?_⟩
      rintro m' hm hreports
      cases hm
      cases m with
      | getEventValueSize => exact size_iff.mpr hfits
      | getEventValue => exact size_iff.mpr hfits.1
      | _ => cases hreports

end calls

/-! ## Every run -/

/-- A value of 1100 bytes that an identifier of one byte comes with. -/
def longValue : Identification × Value :=
  (⟨some [120], 1, by decide⟩, ⟨.EventDataBinary, 1100, List.replicate 1100 0, by
    rw [List.length_replicate]
    decide⟩)

/-- The first bytes of an alert that was never filled, as a datagram. -/
def unfilledAlert : List UInt8 := EventDescriptor.create.eventData.take (10 : UInt16).toNat

end chaos.event.access
