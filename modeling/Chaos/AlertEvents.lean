-- The laws of alert events. What an event is filled with lies in its bytes one field behind the
-- other, and a new event gets the fields back as long as the length has its place in one byte.
import Chaos.EventDescriptor
import Chaos.Runs

namespace chaos.event

open byte_buffer little_endian runs

/-! ## What is claimed -/

/-- The fields of the event are those of the alert. -/
structure EventDescriptor.Same (e : EventDescriptor) (a : Alert) : Prop where
  identificationlength : e.getIdentificationlength.toNat = a.identification.length
  identification :
    (e.getIdentification.getD []).take e.getIdentificationlength.toNat = a.identification
  alertCode : e.getAlertCode = a.alertCode
  priority : e.getSubCodePriority = a.priority
  valueType : e.getEventValueType = a.valueType.number
  valueSize : e.getEventValueSize.toNat = a.value.length
  value : e.getEventValue = some a.value

/-- The alert fills the event, and the first bytes of it make an event with the same fields. -/
def EventDescriptor.RoundTrips (e : EventDescriptor) (a : Alert) : Prop :=
  ∃ filled rebuilt, e.setAlert a = some filled ∧
    getEventInstance (some (filled.eventData.take filled.getEventDataLength.toNat))
      filled.getEventDataLength = some (.ok rebuilt) ∧
    rebuilt.Same a

/-! ## Copies -/

variable {e e' : EventDescriptor} {offset o count : Nat} {bytes : List UInt8}

namespace EventDescriptor

theorem memcpy_eq_some (h : e.memcpy offset bytes = some e') :
    offset + bytes.length ≤ e.eventData.length ∧ e'.eventData = write e.eventData offset bytes := by
  unfold memcpy at h
  split at h
  · rename_i hfit
    cases h
    exact ⟨hfit, rfl⟩
  · cases h

theorem exists_memcpy (e : EventDescriptor) {o : Nat} {b : List UInt8}
    (h : o + b.length ≤ EVENT_DATA_BYTE_LENGTH) : ∃ e', e.memcpy o b = some e' := by
  unfold memcpy
  rw [dif_pos (e.length_eq ▸ h)]
  exact ⟨_, rfl⟩

theorem read_memcpy_same (h : e.memcpy offset bytes = some e') :
    read e'.eventData offset bytes.length = bytes := by
  obtain ⟨hfit, hdata⟩ := memcpy_eq_some h
  rw [hdata, read_write_same hfit]

theorem read_memcpy_apart (h : e.memcpy offset bytes = some e')
    (hapart : o + count ≤ offset ∨ offset + bytes.length ≤ o) :
    read e'.eventData o count = read e.eventData o count := by
  obtain ⟨hfit, hdata⟩ := memcpy_eq_some h
  rw [hdata, read_write_apart hfit hapart]

theorem read_memcpy_below (h : e.memcpy offset bytes = some e') (hbelow : o + count ≤ offset) :
    read e'.eventData o count = read e.eventData o count :=
  read_memcpy_apart h (.inl hbelow)

/-- One byte, read as a buffer of one byte. -/
theorem getD_eq_of_read {data : List UInt8} {b : UInt8} (h : read data o 1 = [b]) :
    data.getD o 0 = b := by
  have hget : data[o + 0]? = [b][0]? := getElem?_of_read h Nat.one_pos
  rw [List.getD_eq_getElem?_getD, ← Nat.add_zero o, hget]
  rfl

/-! ## Alerts only -/

/-- The signature and the type are those of an alert. -/
structure IsAlert (e : EventDescriptor) : Prop where
  sign_eq : read e.eventData 0 2 = sign
  type_eq : e.getEventType = 0

theorem create_isAlert : create.IsAlert := ⟨rfl, rfl⟩

theorem getD_memcpy_apart (h : e.memcpy offset bytes = some e')
    (hapart : o + 1 ≤ offset ∨ offset + bytes.length ≤ o) :
    e'.eventData.getD o 0 = e.eventData.getD o 0 := by
  obtain ⟨hfit, hdata⟩ := memcpy_eq_some h
  rw [List.getD_eq_getElem?_getD, hdata, getElem?_write hfit, if_neg (by omega),
    ← List.getD_eq_getElem?_getD]

theorem IsAlert.memcpy (h : e.IsAlert) (hoffset : 5 ≤ offset)
    (hcopy : e.memcpy offset bytes = some e') : e'.IsAlert := by
  constructor
  · rw [read_memcpy_apart hcopy (.inl (by omega))]
    exact h.sign_eq
  · rw [getEventType, getD_memcpy_apart hcopy (.inl (by simp [EVT_HEADER_BYTE_LENGTH]; omega))]
    exact h.type_eq

/-! ## The length -/

/-- The four bytes of the header of an alert. -/
theorem IsAlert.read_header (h : e.IsAlert) :
    ∃ b₂ b₃, read e.eventData 0 EVT_HEADER_BYTE_LENGTH = [0x45, 0x43, b₂, b₃] := by
  have hlength : (read e.eventData 0 EVT_HEADER_BYTE_LENGTH).length = 4 := by
    apply length_read
    rw [e.length_eq]
    decide
  have htake : (read e.eventData 0 EVT_HEADER_BYTE_LENGTH).take 2 = sign := by
    rw [← h.sign_eq, byte_buffer.read, byte_buffer.read, List.take_take]
    rfl
  generalize read e.eventData 0 EVT_HEADER_BYTE_LENGTH = bytes at hlength htake
  rcases bytes with _ | ⟨b₀, _ | ⟨b₁, _ | ⟨b₂, _ | ⟨b₃, rest⟩⟩⟩⟩
  · cases hlength
  · cases hlength
  · cases hlength
  · cases hlength
  · cases htake
    have hrest : rest = [] := by simpa using hlength
    exact ⟨b₂, b₃, by rw [hrest]⟩

theorem getEventDataLength_set {newSize : UInt8} (h : e.setEventDataLength newSize = some e') :
    e'.getEventDataLength.toNat = newSize.toNat := by
  have hread := read_memcpy_same h
  rw [length_toBytes] at hread
  have hlt := newSize.toNat_lt
  have hmod := Nat.mod_lt e.header (show 0 < 2 ^ 19 by decide)
  have hfits : e.header % 2 ^ 19 + newSize.toNat * 2 ^ 19 < 256 ^ EVT_HEADER_BYTE_LENGTH := by
    unfold EVT_HEADER_BYTE_LENGTH
    omega
  rw [getEventDataLength, header, hread, ofBytes_toBytes hfits, UInt16.toNat_ofNat']
  omega

/-- A new length leaves the signature. -/
theorem IsAlert.setEventDataLength (h : e.IsAlert) {newSize : UInt8}
    (hset : e.setEventDataLength newSize = some e') : e'.IsAlert := by
  constructor
  · obtain ⟨b₂, b₃, hheader⟩ := h.read_header
    have hread := read_memcpy_same hset
    rw [length_toBytes] at hread
    have htake : read e'.eventData 0 2 = (read e'.eventData 0 EVT_HEADER_BYTE_LENGTH).take 2 := by
      rw [byte_buffer.read, byte_buffer.read, List.take_take]
      rfl
    rw [htake, hread, EventDescriptor.header, hheader]
    simp only [EVT_HEADER_BYTE_LENGTH, toBytes, ofBytes, List.take_succ_cons, List.take_zero, sign,
      List.cons.injEq, and_true, ← UInt8.toNat_inj, UInt8.toNat_ofNat']
    have h₀ : (0x45 : UInt8).toNat = 0x45 := rfl
    have h₁ : (0x43 : UInt8).toNat = 0x43 := rfl
    omega
  · rw [getEventType, getD_memcpy_apart hset (.inr (by simp [EVT_HEADER_BYTE_LENGTH]))]
    exact h.type_eq

/-! ## Filling -/

/-- The fields of an alert behind the header and the type. -/
structure Laid (data : List UInt8) (subCode : UInt16) (a : Alert) : Prop where
  subCode : read data 5 2 = toBytes 2 subCode.toNat
  priority : read data 7 2 = toBytes 2 a.priority.toNat
  identificationLength : read data 9 1 = [.ofNat a.identification.length]
  identification : read data 10 a.identification.length = a.identification
  valueType : read data (10 + a.identification.length) 1 = [a.valueType.number]
  value : read data (10 + a.identification.length + 1) a.value.length = a.value

variable {subCode : UInt16} {a : Alert} {filled : EventDescriptor}

/-- The copies that fill an event, one behind the other. -/
theorem fill_eq_some : e.fill subCode a = some filled ↔
    ∃ e₁ e₂ e₃ e₄ e₅ e₆, e.memcpy 5 (toBytes 2 subCode.toNat) = some e₁ ∧
      e₁.memcpy 7 (toBytes 2 a.priority.toNat) = some e₂ ∧
      e₂.memcpy 9 [.ofNat a.identification.length] = some e₃ ∧
      e₃.memcpy 10 a.identification = some e₄ ∧
      e₄.memcpy (10 + a.identification.length) [a.valueType.number] = some e₅ ∧
      e₅.memcpy (10 + a.identification.length + 1) a.value = some e₆ ∧
      e₆.setEventDataLength (.ofNat a.packLength) = some filled := by
  simp only [fill, setSubCode, setSubCodePriority, setIdentificationAndValueWithType,
    setSenderIdentification, Option.bind_eq_bind, Option.bind_eq_some_iff,
    EVT_SUB_CODE_OFFSET, EVT_SUB_CODE_PRIORITY_OFFSET, EVT_IDENTIFICATION_LENGTH_INFO_OFFSET,
    EVT_IDENTIFICATION_VALUE_INFO_OFFSET]
  constructor
  · rintro ⟨e₁, h₁, e₂, h₂, e₄, ⟨e₃, h₃, h₄⟩, e₅, h₅, e₆, h₆, h⟩
    exact ⟨e₁, e₂, e₃, e₄, e₅, e₆, h₁, h₂, h₃, h₄, h₅, h₆, h⟩
  · rintro ⟨e₁, e₂, e₃, e₄, e₅, e₆, h₁, h₂, h₃, h₄, h₅, h₆, h⟩
    exact ⟨e₁, h₁, e₂, h₂, e₄, ⟨e₃, h₃, h₄⟩, e₅, h₅, e₆, h₆, h⟩

theorem exists_fill (e : EventDescriptor) (subCode : UInt16)
    (hfit : a.packLength ≤ EVENT_DATA_BYTE_LENGTH) : ∃ filled, e.fill subCode a = some filled := by
  have hsize : a.packLength = 10 + a.value.length + a.identification.length + 1 := rfl
  have hlength : EVENT_DATA_BYTE_LENGTH = 1024 := rfl
  have hbytes (w n : Nat) : (toBytes w n).length = w := length_toBytes w n
  have hone (b : UInt8) : [b].length = 1 := rfl
  obtain ⟨e₁, h₁⟩ := e.exists_memcpy (o := 5) (b := toBytes 2 subCode.toNat) (by rw [hbytes]; omega)
  obtain ⟨e₂, h₂⟩ := e₁.exists_memcpy (o := 7) (b := toBytes 2 a.priority.toNat)
    (by rw [hbytes]; omega)
  obtain ⟨e₃, h₃⟩ := e₂.exists_memcpy (o := 9) (b := [.ofNat a.identification.length])
    (by rw [hone]; omega)
  obtain ⟨e₄, h₄⟩ := e₃.exists_memcpy (o := 10) (b := a.identification) (by omega)
  obtain ⟨e₅, h₅⟩ := e₄.exists_memcpy (o := 10 + a.identification.length)
    (b := [a.valueType.number]) (by rw [hone]; omega)
  obtain ⟨e₆, h₆⟩ := e₅.exists_memcpy (o := 10 + a.identification.length + 1) (b := a.value)
    (by omega)
  obtain ⟨filled, hset⟩ := e₆.exists_memcpy (o := 0)
    (b := toBytes EVT_HEADER_BYTE_LENGTH
      (e₆.header % 2 ^ 19 + (UInt8.ofNat a.packLength).toNat * 2 ^ 19)) (by rw [hbytes]; decide)
  exact ⟨filled, fill_eq_some.mpr ⟨e₁, e₂, e₃, e₄, e₅, e₆, h₁, h₂, h₃, h₄, h₅, h₆, hset⟩⟩

/-- No field is written over by a later one. -/
theorem laid_of_fill (h : e.fill subCode a = some filled) : Laid filled.eventData subCode a := by
  obtain ⟨e₁, e₂, e₃, e₄, e₅, e₆, h₁, h₂, h₃, h₄, h₅, h₆, h⟩ := fill_eq_some.mp h
  have hset (o count : Nat) (ho : 4 ≤ o) :
      read filled.eventData o count = read e₆.eventData o count := by
    apply read_memcpy_apart h
    rw [length_toBytes]
    exact .inr ho
  constructor
  · rw [hset _ _ (by omega), read_memcpy_below h₆ (by omega), read_memcpy_below h₅ (by omega),
      read_memcpy_below h₄ (by omega), read_memcpy_below h₃ (by omega),
      read_memcpy_below h₂ (by omega)]
    simpa using read_memcpy_same h₁
  · rw [hset _ _ (by omega), read_memcpy_below h₆ (by omega), read_memcpy_below h₅ (by omega),
      read_memcpy_below h₄ (by omega), read_memcpy_below h₃ (by omega)]
    simpa using read_memcpy_same h₂
  · rw [hset _ _ (by omega), read_memcpy_below h₆ (by omega), read_memcpy_below h₅ (by omega),
      read_memcpy_below h₄ (by omega)]
    exact read_memcpy_same h₃
  · rw [hset _ _ (by omega), read_memcpy_below h₆ (by omega), read_memcpy_below h₅ (by omega)]
    exact read_memcpy_same h₄
  · rw [hset _ _ (by omega), read_memcpy_below h₆ (by omega)]
    exact read_memcpy_same h₅
  · rw [hset _ _ (by omega)]
    exact read_memcpy_same h₆

theorem IsAlert.fill (h : e.IsAlert) (hfill : e.fill subCode a = some filled) :
    filled.IsAlert := by
  obtain ⟨e₁, e₂, e₃, e₄, e₅, e₆, h₁, h₂, h₃, h₄, h₅, h₆, hset⟩ := fill_eq_some.mp hfill
  have hcopied : e₆.IsAlert :=
    (((((h.memcpy (by omega) h₁).memcpy (by omega) h₂).memcpy (by omega) h₃).memcpy (by omega)
      h₄).memcpy (by omega) h₅).memcpy (by omega) h₆
  exact hcopied.setEventDataLength hset

theorem getEventDataLength_fill (h : e.fill subCode a = some filled) :
    filled.getEventDataLength.toNat = a.packLength % 256 := by
  obtain ⟨e₁, e₂, e₃, e₄, e₅, e₆, -, -, -, -, -, -, hset⟩ := fill_eq_some.mp h
  rw [getEventDataLength_set hset, UInt8.toNat_ofNat']

/-! ## The factory -/

/-- The factory copies the bytes of an alert over those of a new one. -/
theorem exists_getEventInstance {n : UInt16} (h : e.IsAlert) (hlow : 6 ≤ n.toNat)
    (hhigh : n.toNat ≤ EVT_DATA_MAX_BYTE_LENGTH) :
    ∃ rebuilt, getEventInstance (some (e.eventData.take n.toNat)) n = some (.ok rebuilt) ∧
      create.memcpy 0 (e.eventData.take n.toNat) = some rebuilt := by
  have hlength : (e.eventData.take n.toNat).length = n.toNat := by
    rw [List.length_take, e.length_eq]
    simp only [EVT_DATA_MAX_BYTE_LENGTH, EVENT_DATA_BYTE_LENGTH] at *
    omega
  have hsign : read (e.eventData.take n.toNat) 0 2 = sign := by
    rw [read_take (by omega)]
    exact h.sign_eq
  have htype : (e.eventData.take n.toNat).getD EVT_HEADER_BYTE_LENGTH 0 &&& 3 = 0 := by
    rw [List.getD_eq_getElem?_getD,
      List.getElem?_take_of_lt (by simp [EVT_HEADER_BYTE_LENGTH]; omega),
      ← List.getD_eq_getElem?_getD]
    exact h.type_eq
  obtain ⟨rebuilt, hcopy⟩ := create.exists_memcpy (o := 0) (b := e.eventData.take n.toNat) (by
    rw [hlength]
    exact Nat.le_trans (by omega) (Nat.le_trans hhigh (by decide)))
  refine ⟨rebuilt, ?_, hcopy⟩
  unfold getEventInstance
  dsimp only
  rw [if_neg (by omega), if_neg (by omega), if_neg (by simpa using hsign),
    if_neg (by simp only [EVT_HEADER_BYTE_LENGTH]; omega), if_neg (by simpa using htype),
    if_neg (by omega), List.take_of_length_le (by omega), hcopy]
  rfl

/-- What the factory makes from a buffer. -/
theorem getEventInstance_eq_ok {bytes : List UInt8} {n : UInt16} {rebuilt : EventDescriptor}
    (h : getEventInstance (some bytes) n = some (.ok rebuilt)) :
    EVT_HEADER_BYTE_LENGTH + 2 ≤ bytes.length ∧ n.toNat ≤ bytes.length ∧
      read bytes 0 2 = sign ∧ bytes.getD EVT_HEADER_BYTE_LENGTH 0 &&& 3 = 0 ∧
      create.memcpy 0 (bytes.take n.toNat) = some rebuilt := by
  unfold getEventInstance at h
  dsimp only at h
  split at h
  · cases h
  · split at h
    · cases h
    · split at h
      · cases h
      · rename_i hsign
        split at h
        · cases h
        · rename_i hshort
          split at h
          · cases h
          · rename_i htype
            split at h
            · cases h
            · rename_i hlength
              obtain ⟨e, he, hok⟩ := Option.map_eq_some_iff.mp h
              cases hok
              exact ⟨by omega, by omega, not_not.mp hsign, not_not.mp htype, he⟩

/-- The factory makes alerts only. -/
theorem getEventInstance_isAlert {bytes : List UInt8} {n : UInt16} {rebuilt : EventDescriptor}
    (h : getEventInstance (some bytes) n = some (.ok rebuilt)) : rebuilt.IsAlert := by
  obtain ⟨hlength, hn, hsign, htype, hcopy⟩ := getEventInstance_eq_ok h
  obtain ⟨hfit, hdata⟩ := memcpy_eq_some hcopy
  have htake : (bytes.take n.toNat).length = n.toNat := List.length_take_of_le hn
  have hget (i : Nat) : rebuilt.eventData[i]? =
      if i < n.toNat then bytes[i]? else create.eventData[i]? := by
    rw [hdata, getElem?_write hfit, htake]
    by_cases hi : i < n.toNat
    · rw [if_pos (by omega), if_pos hi, Nat.sub_zero, List.getElem?_take_of_lt hi]
    · rw [if_neg (by omega), if_neg hi]
  constructor
  · have hread : read rebuilt.eventData 0 2 = read sign 0 2 := by
      apply read_congr
      intro i _ hi
      rw [hget]
      split
      · simpa using getElem?_of_read hsign hi
      · simpa using getElem?_of_read create_isAlert.sign_eq hi
    exact hread
  · rw [getEventType, List.getD_eq_getElem?_getD, hget]
    split
    · exact htype
    · rfl

/-- Every event that calls lead to is an alert. -/
theorem step_isAlert {e e' : EventDescriptor} {c : EventCall} (h : e.IsAlert)
    (hstep : e.step c = some e') : e'.IsAlert := by
  cases c with
  | setAlert a => exact h.fill hstep
  | setCustomAlert a => exact h.fill hstep
  | getEventInstance serializedEvent n =>
    obtain ⟨r, hr, hmade⟩ := Option.map_eq_some_iff.mp hstep
    cases r with
    | error ex =>
      cases hmade
      exact h
    | ok rebuilt =>
      cases hmade
      cases serializedEvent with
      | none => cases hr
      | some bytes => exact getEventInstance_isAlert hr

/-! ## Reading back -/

variable {rebuilt : EventDescriptor}

/-- The copy of the first bytes is read like the event. -/
theorem read_rebuilt {n : Nat} (hn : n ≤ e.eventData.length)
    (h : create.memcpy 0 (e.eventData.take n) = some rebuilt) (hin : o + count ≤ n) :
    read rebuilt.eventData o count = read e.eventData o count := by
  obtain ⟨hfit, hdata⟩ := memcpy_eq_some h
  have hinside := read_write_inside hfit (hin.trans (List.length_take_of_le hn).ge)
  rw [Nat.zero_add] at hinside
  rw [hdata, hinside, read_take hin]

theorem length_toNat (a : Alert) :
    (UInt8.ofNat a.identification.length).toNat = a.identification.length := by
  have hle := a.identification_le
  rw [UInt8.toNat_ofNat']
  omega

/-- The fields of an event that lie in its bytes, with the right length. -/
theorem Laid.same (h : Laid e.eventData a.alertCode a)
    (hlength : e.getEventDataLength.toNat = a.packLength)
    (hfit : a.packLength ≤ EVT_DATA_MAX_BYTE_LENGTH) : e.Same a := by
  have hsize : a.packLength = 10 + a.value.length + a.identification.length + 1 := rfl
  have hmax : EVT_DATA_MAX_BYTE_LENGTH = 1019 := rfl
  have hid : e.getIdentificationlength.toNat = a.identification.length := by
    rw [getIdentificationlength, EVT_IDENTIFICATION_LENGTH_INFO_OFFSET,
      getD_eq_of_read h.identificationLength, length_toNat]
  have hvalueSize : e.getEventValueSize.toNat = a.value.length := by
    rw [getEventValueSize, UInt16.toNat_sub, hlength, hid, UInt16.toNat_ofNat',
      EVT_IDENTIFICATION_LENGTH_INFO_OFFSET]
    omega
  constructor
  · exact hid
  · rw [hid, getIdentification]
    split
    · rename_i hzero
      have hempty : a.identification.length = 0 := by
        rw [← hid, hzero]
        rfl
      rw [hempty, List.take_zero, List.eq_nil_of_length_eq_zero hempty]
    · exact h.identification
  · rw [getAlertCode, getSubCode, EVT_SUB_CODE_OFFSET, h.subCode,
      ofBytes_toBytes a.alertCode.toNat_lt, UInt16.ofNat_toNat]
  · rw [getSubCodePriority, EVT_SUB_CODE_PRIORITY_OFFSET, h.priority,
      ofBytes_toBytes a.priority.toNat_lt, UInt16.ofNat_toNat]
  · rw [getEventValueType, hid, EVT_IDENTIFICATION_VALUE_INFO_OFFSET, getD_eq_of_read h.valueType]
  · exact hvalueSize
  · have hread : EVT_IDENTIFICATION_VALUE_INFO_OFFSET + a.identification.length + 1 +
        a.value.length ≤ EVENT_DATA_BYTE_LENGTH := by
      simp only [EVT_IDENTIFICATION_VALUE_INFO_OFFSET, EVENT_DATA_BYTE_LENGTH]
      omega
    rw [getEventValue, hid, hvalueSize]
    exact (if_pos hread).trans (congrArg some h.value)

/-- The first bytes of an event hold its fields. -/
theorem Laid.of_rebuilt {n : Nat} (h : Laid e.eventData subCode a) (hn : n ≤ e.eventData.length)
    (hpack : a.packLength ≤ n) (hcopy : create.memcpy 0 (e.eventData.take n) = some rebuilt) :
    Laid rebuilt.eventData subCode a := by
  have hsize : a.packLength = 10 + a.value.length + a.identification.length + 1 := rfl
  constructor
  · rw [read_rebuilt hn hcopy (by omega), h.subCode]
  · rw [read_rebuilt hn hcopy (by omega), h.priority]
  · rw [read_rebuilt hn hcopy (by omega), h.identificationLength]
  · rw [read_rebuilt hn hcopy (by omega), h.identification]
  · rw [read_rebuilt hn hcopy (by omega), h.valueType]
  · rw [read_rebuilt hn hcopy (by omega), h.value]

theorem getEventDataLength_rebuilt {n : Nat} (hn : n ≤ e.eventData.length) (hhead : 4 ≤ n)
    (hcopy : create.memcpy 0 (e.eventData.take n) = some rebuilt) :
    rebuilt.getEventDataLength = e.getEventDataLength := by
  rw [getEventDataLength, getEventDataLength, header, header, read_rebuilt hn hcopy hhead]

/-- The length of a pack that fits is cut just when it does not fit into a byte. -/
theorem roundTrips_iff (h : e.IsAlert) (hfit : a.packLength ≤ EVT_DATA_MAX_BYTE_LENGTH) :
    e.RoundTrips a ↔ a.packLength ≤ 255 := by
  have hsize : a.packLength = 10 + a.value.length + a.identification.length + 1 := rfl
  have hmax : EVT_DATA_MAX_BYTE_LENGTH = 1019 := rfl
  constructor
  · rintro ⟨filled, rebuilt, hfill, hrebuilt, hsame⟩
    have hlength := getEventDataLength_fill hfill
    obtain ⟨hhead, hn, -, -, hcopy⟩ := getEventInstance_eq_ok hrebuilt
    rw [List.length_take, EVT_HEADER_BYTE_LENGTH] at hhead
    rw [List.length_take] at hn
    rw [List.take_take, Nat.min_self] at hcopy
    have hvalueSize := hsame.valueSize
    rw [getEventValueSize, hsame.identificationlength,
      getEventDataLength_rebuilt (by omega) (by omega) hcopy, UInt16.toNat_sub, hlength,
      UInt16.toNat_ofNat', EVT_IDENTIFICATION_LENGTH_INFO_OFFSET] at hvalueSize
    omega
  · intro hbyte
    obtain ⟨filled, hfill⟩ := e.exists_fill a.alertCode (a := a) (Nat.le_trans hfit (by decide))
    have hlength := getEventDataLength_fill hfill
    rw [Nat.mod_eq_of_lt (by omega)] at hlength
    have hdata : filled.getEventDataLength.toNat ≤ filled.eventData.length := by
      rw [hlength, filled.length_eq]
      exact Nat.le_trans hfit (by decide)
    obtain ⟨rebuilt, hrebuilt, hcopy⟩ := exists_getEventInstance (n := filled.getEventDataLength)
      (h.fill hfill) (by omega) (by omega)
    refine ⟨filled, rebuilt, hfill, hrebuilt, ?_⟩
    apply ((laid_of_fill hfill).of_rebuilt hdata (by omega) hcopy).same _ hfit
    rw [getEventDataLength_rebuilt hdata (by omega) hcopy, hlength]

/-- An alert that fits into an event round trips just when its pack has at most 255 bytes. -/
theorem alert_round_trips_iff {calls : List EventCall} (h : run step create calls = some e)
    (hfit : a.packLength ≤ EVT_DATA_MAX_BYTE_LENGTH) : e.RoundTrips a ↔ a.packLength ≤ 255 :=
  roundTrips_iff (run_keeps IsAlert (fun _ _ _ h hstep => step_isAlert h hstep) create_isAlert h)
    hfit

/-- An alert of a device "d", with a text. -/
def textAlert (length : UInt16) : Alert where
  identification := [0x64]
  alertCode := 0
  priority := 1
  valueType := .EventDataCString
  value := List.replicate length.toNat 0x61
  valueSize := length
  identification_le := by decide
  length_value := List.length_replicate

theorem packLength_textAlert (length : UInt16) :
    (textAlert length).packLength = 12 + length.toNat := by
  rw [Alert.packLength, textAlert, List.length_replicate, EVT_IDENTIFICATION_VALUE_INFO_OFFSET]
  simp only [List.length_singleton]
  omega

theorem short_alert_round_trips : create.RoundTrips (textAlert 1) :=
  (alert_round_trips_iff (h := (rfl : run step create [] = some create)) (by
    rw [packLength_textAlert]
    decide)).mpr (by
    rw [packLength_textAlert]
    decide)

/-- The pack of 262 bytes gets the length 6. -/
theorem long_alert_does_not_round_trip :
    (textAlert 250).packLength ≤ EVT_DATA_MAX_BYTE_LENGTH ∧
      ¬ create.RoundTrips (textAlert 250) := by
  have hfit : (textAlert 250).packLength ≤ EVT_DATA_MAX_BYTE_LENGTH := by
    rw [packLength_textAlert]
    decide
  refine ⟨hfit, fun htrip => ?_⟩
  have hbyte := (roundTrips_iff create_isAlert hfit).mp htrip
  rw [packLength_textAlert] at hbyte
  exact absurd hbyte (by decide)

end EventDescriptor

end chaos.event
