-- The slots that are used in turn. The number of elements is counted up before it is compared with
-- the dimension, so that a refused element counts too, and the turns then leave the array.
import Chaos.CircularBuffer
import Chaos.NumberedList
import Chaos.RoundRobin
import Chaos.Runs

open runs

namespace chaos.common.utility

open round_robin

/-! ## The slots -/

/-- The array is the slots that the memory behind the pointer has. The two counters are those that
the calls advance. -/
structure ObjectSlot (T : Type) where
  slot_array : List T
  slot_dimension : UInt32
  current_available_slot : UInt32
  using_slot : UInt32

namespace ObjectSlot

variable {T : Type} (slot : SlotType T)

/-- The bytes of the array, a product of 64 bits. -/
def bytes (slot_dimension : UInt32) : Nat := slot.sizeof * slot_dimension.toNat % 2 ^ 64

/-- The slots that these bytes have. -/
def capacity (slot_dimension : UInt32) : Nat := bytes slot slot_dimension / slot.sizeof

variable (o : ObjectSlot T)

def getNumberOfSlot : UInt32 := o.current_available_slot

def clearSlots : ObjectSlot T :=
  { o with
    using_slot := 0
    current_available_slot := 0
    slot_array := List.replicate o.slot_array.length slot.zero }

/-- `slot_array` says that the pointer is not NULL, so that it is freed. No pointer that is there
before came from `malloc`. NULL is not written to, unless there is no byte. -/
def initMemory (slot_array : Bool) (slot_dimension : UInt32) (allocated : Bool) :
    Option (ObjectSlot T) :=
  if slot_array then none
  else if allocated ∨ bytes slot slot_dimension = 0 then
    some (clearSlots slot
      { slot_array := List.replicate (capacity slot slot_dimension) slot.zero
        slot_dimension := slot_dimension
        current_available_slot := 0
        using_slot := 0 })
  else none

def OBJECT_SLOT_MAX_AVAILABLE_SLOT : UInt32 := 1000

def new (allocated : Bool) : Option (ObjectSlot T) :=
  initMemory slot false OBJECT_SLOT_MAX_AVAILABLE_SLOT allocated

/-- The pointer is whatever the memory of the object held. -/
def newOf (memory : Bool) (dimension : UInt32) (allocated : Bool) : Option (ObjectSlot T) :=
  initMemory slot memory dimension allocated

/-- The index and the element. A division by zero and a slot that is not there are undefined. -/
def accessSlot : Option (ObjectSlot T × UInt32 × T) :=
  if o.current_available_slot = 0 then none
  else
    let return_index := o.using_slot % o.current_available_slot
    o.slot_array[return_index.toNat]?.map fun element =>
      ({ o with using_slot := o.using_slot + 1 }, return_index, element)

def addSlot (element : T) : Option (ObjectSlot T × Bool) :=
  let new_slot_index := o.current_available_slot
  let o := { o with current_available_slot := o.current_available_slot + 1 }
  if o.slot_dimension ≤ new_slot_index then some (o, false)
  else if new_slot_index.toNat < o.slot_array.length then
    some ({ o with slot_array := o.slot_array.set new_slot_index.toNat element }, true)
  else none

end ObjectSlot

/-! ## What is claimed -/

inductive SlotCall (T : Type) where
  | addSlot (element : T)
  | clearSlots
  | accessSlot
  deriving DecidableEq

/-- An access: how many elements were added before it, the index, and the element it returned. -/
structure Visit (T : Type) where
  number : Nat
  index : Nat
  element : T
  deriving DecidableEq

/-- The slots with what was added successfully, and the accesses, since they were cleared. -/
structure SlotUse (T : Type) where
  slots : ObjectSlot T
  added : List T := []
  visits : List (Visit T) := []

namespace SlotUse

variable {T : Type}

def step (slot : SlotType T) (u : SlotUse T) : SlotCall T → Option (SlotUse T)
  | .addSlot element => do
    let (slots, added) ← u.slots.addSlot element
    return { u with slots := slots, added := if added then u.added ++ [element] else u.added }
  | .clearSlots => some { slots := u.slots.clearSlots slot }
  | .accessSlot => do
    let (slots, index, element) ← u.slots.accessSlot
    let visit := { number := u.added.length, index := index.toNat, element := element }
    return { u with slots := slots, visits := u.visits ++ [visit] }

/-- The number of slots is that of the elements, and each access returns an element that was added
before it. Two accesses that follow each other with no addition between them are one place apart,
unless the counter has wrapped, which starts the turns again. So in a stretch of accesses in which
it wraps `w` times, no element is visited more than `w + 1` times as often again as another. -/
structure InTurn (u : SlotUse T) : Prop where
  number : u.slots.getNumberOfSlot.toNat = u.added.length
  elements : ∀ v ∈ u.visits, (u.added.take v.number)[v.index]? = some v.element
  next : ∀ k v v', u.visits[k]? = some v → u.visits[k + 1]? = some v' → v'.number = v.number →
    v'.index = (v.index + 1) % v.number ∨ 2 ^ 32 ∣ k + 1 ∧ v'.index = 0
  balanced : ∀ before stretch after n w, u.visits = before ++ stretch ++ after →
    (∀ v ∈ stretch, v.number = n) →
    before.length + stretch.length ≤ (before.length / 2 ^ 32 + w + 1) * 2 ^ 32 →
    ∀ i < n, ∀ j < n, stretch.countP (fun v => v.index = i) ≤
      stretch.countP (fun v => v.index = j) + (w + 1)

/-- The object can be made, and after each of the calls, which all come to their end, the slots are
used in turn. -/
def UsedInTurn (slot : SlotType T) (made : Option (ObjectSlot T)) (calls : List (SlotCall T)) :
    Prop :=
  ∃ o, made = some o ∧ ∀ n, ∃ u, run (step slot) { slots := o } (calls.take n) = some u ∧ InTurn u

/-! ## The condition -/

/-- After `n` elements were added there is room for one more, and what is accessed is not empty. -/
def Fits (capacity n : Nat) : SlotCall T → Prop
  | .addSlot _ => n < capacity
  | .clearSlots => True
  | .accessSlot => 0 < n

def numberAfter (n : Nat) : SlotCall T → Nat
  | .addSlot _ => n + 1
  | .clearSlots => 0
  | .accessSlot => n

/-- Between two clears no more elements are added than there are slots, and accesses are made only
when something was added. -/
def AllFit (capacity : Nat) : Nat → List (SlotCall T) → Prop
  | _, [] => True
  | n, a :: calls => Fits capacity n a ∧ AllFit capacity (numberAfter n a) calls

/-! ## The invariant -/

variable {slot : SlotType T} {u t : SlotUse T} {c : Nat} {a : SlotCall T}

structure Holds (c : Nat) (u : SlotUse T) : Prop where
  dimension : c ≤ u.slots.slot_dimension.toNat
  length : u.slots.slot_array.length = c
  number : u.slots.current_available_slot.toNat = u.added.length
  room : u.added.length ≤ c
  slots : u.slots.slot_array.take u.added.length = u.added
  turns : u.slots.using_slot.toNat = u.visits.length % 2 ^ 32
  visits : ∀ k v, u.visits[k]? = some v → v.index = turn (2 ^ 32) v.number k ∧
    (u.added.take v.number)[v.index]? = some v.element

theorem Holds.inTurn (h : Holds c u) : InTurn u where
  number := h.number
  elements v hv := by
    obtain ⟨k, hk⟩ := List.mem_iff_getElem?.mp hv
    exact (h.visits k v hk).2
  next k v v' hv hv' hnumber := by
    obtain ⟨hindex, -⟩ := h.visits k v hv
    obtain ⟨hindex', -⟩ := h.visits (k + 1) v' hv'
    rw [hindex', hindex, hnumber]
    by_cases hwrap : 2 ^ 32 ∣ k + 1
    · exact .inr ⟨hwrap, turn_wrap hwrap⟩
    · exact .inl (turn_succ hwrap)
  balanced before stretch after n w hsplit hnumber hend i hi j hj := by
    have hturn : ∀ m v, stretch[m]? = some v → v.index = turn (2 ^ 32) n (before.length + m) := by
      intro m v hv
      have hmem := List.mem_iff_getElem?.mpr ⟨m, hv⟩
      have hlt := (List.getElem?_eq_some_iff.mp hv).1
      rw [← hnumber v hmem]
      refine (h.visits (before.length + m) v ?_).1
      rw [hsplit, List.append_assoc, List.getElem?_append_right (Nat.le_add_right ..),
        Nat.add_sub_cancel_left, List.getElem?_append_left hlt, hv]
    have hcount := visits_add_countP (i := i) Visit.index stretch hturn
    have hcount' := visits_add_countP (i := j) Visit.index stretch hturn
    have hbalanced := visits_balanced (by decide) hi hj hend
    omega

/-! ## The calls -/

/-- What was accessed is still among the elements when one more is added. -/
theorem element_concat {added : List T} {e x : T} {n i : Nat} (h : (added.take n)[i]? = some x) :
    ((added ++ [e]).take n)[i]? = some x := by
  rw [List.getElem?_take] at h ⊢
  split_ifs at h ⊢
  rw [List.getElem?_append_left (List.getElem?_eq_some_iff.mp h).1, h]

theorem Holds.addSlot (h : Holds c u) (hroom : u.added.length < c) (e : T) :
    ∃ t, step slot u (.addSlot e) = some t ∧ Holds c t ∧ t.added.length = u.added.length + 1 := by
  have hlt : u.slots.current_available_slot.toNat < u.slots.slot_array.length := by
    rw [h.number, h.length]
    exact hroom
  have hdim : ¬ u.slots.slot_dimension ≤ u.slots.current_available_slot := by
    have hdimension := h.dimension
    rw [UInt32.le_iff_toNat_le, h.number]
    omega
  have hnext : (u.slots.current_available_slot + 1).toNat = u.added.length + 1 := by
    have hsize := u.slots.slot_dimension.toNat_lt
    have hdimension := h.dimension
    rw [UInt32.toNat_add, h.number]
    exact Nat.mod_eq_of_lt (by change _ + 1 < _; omega)
  unfold step ObjectSlot.addSlot
  simp only [if_neg hdim, if_pos hlt, Option.bind_eq_bind, Option.bind_some, if_true]
  refine ⟨_, rfl, ⟨h.dimension, ?_, ?_, ?_, ?_, h.turns, ?_⟩, List.length_append⟩
  · rw [List.length_set, h.length]
  · rw [hnext, List.length_append]
    rfl
  · rw [List.length_append]
    exact hroom
  · have hlen : (u.added ++ [e]).length = u.added.length + 1 := List.length_append
    dsimp only
    rw [hlen, h.number, List.take_add_one, List.take_set_of_le (Nat.le_refl _), h.slots,
      List.getElem?_set_self (by rw [h.length]; exact hroom)]
    rfl
  · intro k v hv
    obtain ⟨hindex, helement⟩ := h.visits k v hv
    exact ⟨hindex, element_concat helement⟩

theorem Holds.clearSlots (h : Holds c u) : Holds c { slots := u.slots.clearSlots slot } where
  dimension := h.dimension
  length := by rw [ObjectSlot.clearSlots, List.length_replicate, h.length]
  number := rfl
  room := Nat.zero_le c
  slots := List.take_zero
  turns := rfl
  visits := nofun

theorem Holds.accessSlot (h : Holds c u) (slot : SlotType T) (hsome : 0 < u.added.length) :
    ∃ t, step slot u .accessSlot = some t ∧ Holds c t ∧ t.added = u.added := by
  have hne : u.slots.current_available_slot ≠ 0 := by
    intro hzero
    have hnumber := h.number
    rw [hzero] at hnumber
    exact Nat.ne_of_gt hsome hnumber.symm
  have hindex : (u.slots.using_slot % u.slots.current_available_slot).toNat =
      turn (2 ^ 32) u.added.length u.visits.length := by
    rw [UInt32.toNat_mod, h.number, h.turns]
    rfl
  have hlt := turn_lt (2 ^ 32) u.visits.length hsome
  -- the slot at the index is that of the element
  have hslot : u.slots.slot_array[turn (2 ^ 32) u.added.length u.visits.length]? =
      some u.added[turn (2 ^ 32) u.added.length u.visits.length] := by
    rw [← List.getElem?_take_of_lt hlt, h.slots, List.getElem?_eq_getElem hlt]
  unfold step ObjectSlot.accessSlot
  simp only [if_neg hne, hindex, hslot, Option.bind_eq_bind, Option.map_some, Option.bind_some]
  refine ⟨_, rfl, ⟨h.dimension, h.length, h.number, h.room, h.slots, ?_, ?_⟩, rfl⟩
  · have hlength : (u.slots.using_slot + 1).toNat = (u.slots.using_slot.toNat + 1) % 2 ^ 32 :=
      UInt32.toNat_add ..
    dsimp only
    rw [hlength, h.turns, List.length_append, Nat.mod_add_mod]
    rfl
  · intro k v hv
    rcases numbered_list.of_getElem?_concat hv with hv | ⟨rfl, rfl⟩
    · exact h.visits k v hv
    · refine ⟨rfl, ?_⟩
      dsimp only
      rw [List.take_length, List.getElem?_eq_getElem hlt]

/-- Each call that fits can be made. -/
theorem Holds.step (h : Holds c u) (slot : SlotType T) (hfit : Fits c u.added.length a) :
    ∃ t, step slot u a = some t ∧ Holds c t ∧ t.added.length = numberAfter u.added.length a := by
  cases a with
  | addSlot e => exact h.addSlot hfit e
  | clearSlots => exact ⟨_, rfl, h.clearSlots, rfl⟩
  | accessSlot =>
    obtain ⟨t, ht, hholds, hadded⟩ := h.accessSlot slot hfit
    exact ⟨t, ht, hholds, congrArg List.length hadded⟩

/-- A call that does not fit is undefined, or the element that it refuses is counted. -/
theorem Holds.fits (h : Holds c u) (ht : SlotUse.step slot u a = some t) (hturn : InTurn t) :
    Fits c u.added.length a := by
  cases a with
  | clearSlots => trivial
  | accessSlot =>
    refine Nat.pos_of_ne_zero fun hempty => ?_
    have hzero : u.slots.current_available_slot = 0 :=
      UInt32.toNat_inj.mp (h.number.trans hempty)
    rw [SlotUse.step, ObjectSlot.accessSlot, if_pos hzero] at ht
    cases ht
  | addSlot e =>
    refine Nat.lt_of_le_of_ne h.room fun hfull => ?_
    obtain ⟨⟨slots, added⟩, hadd, heq⟩ := Option.bind_eq_some_iff.mp ht
    cases heq
    unfold ObjectSlot.addSlot at hadd
    dsimp only at hadd
    split_ifs at hadd with hdim hlt
    · cases hadd
      have hnumber : (u.slots.current_available_slot + 1).toNat = u.added.length := hturn.number
      have hsum : (u.slots.current_available_slot + 1).toNat = (u.added.length + 1) % 2 ^ 32 := by
        rw [← h.number]
        exact UInt32.toNat_add ..
      have hlt := (u.slots.current_available_slot + 1).toNat_lt
      omega
    · rw [h.number, h.length, hfull] at hlt
      exact Nat.lt_irrefl c hlt

/-- The calls can be made with the slots used in turn just when all of them fit. -/
theorem Holds.run_iff (h : Holds c u) (calls : List (SlotCall T)) :
    (∀ n, ∃ t, run (SlotUse.step slot) u (calls.take n) = some t ∧ InTurn t) ↔
      AllFit c u.added.length calls := by
  induction calls generalizing u with
  | nil =>
    refine iff_of_true (fun n => ⟨u, ?_, h.inTurn⟩) trivial
    rw [List.take_nil]
    rfl
  | cons a calls ih =>
    constructor
    · intro hall
      obtain ⟨t, ht, hturn⟩ := hall 1
      obtain ⟨v, hv, hr⟩ := run_cons_some.mp ht
      cases hr
      have hfit := h.fits hv hturn
      obtain ⟨v', hv', hholds, hnumber⟩ := h.step slot hfit
      cases hv.symm.trans hv'
      refine ⟨hfit, hnumber ▸ (ih hholds).mp fun n => ?_⟩
      obtain ⟨t', ht', hturn'⟩ := hall (n + 1)
      obtain ⟨v', hv', hr'⟩ := run_cons_some.mp ht'
      cases hv.symm.trans hv'
      exact ⟨t', hr', hturn'⟩
    · rintro ⟨hfit, hrest⟩ n
      obtain ⟨v, hv, hholds, hnumber⟩ := h.step slot hfit
      cases n with
      | zero => exact ⟨u, rfl, h.inTurn⟩
      | succ n =>
        obtain ⟨t, ht, hturn⟩ := (ih hholds).mpr (hnumber ▸ hrest) n
        exact ⟨t, run_cons_some.mpr ⟨v, hv, ht⟩, hturn⟩

/-! ## What holds of the slots -/

theorem capacity_le (slot : SlotType T) (dimension : UInt32) :
    ObjectSlot.capacity slot dimension ≤ dimension.toNat := by
  have hle := Nat.mod_le (slot.sizeof * dimension.toNat) (2 ^ 64)
  exact (Nat.div_le_div_right hle).trans (Nat.mul_div_cancel_left _ slot.sizeof_pos).le

theorem holds_new (slot : SlotType T) {dimension : UInt32} {allocated : Bool} {o : ObjectSlot T}
    (ho : ObjectSlot.newOf slot false dimension allocated = some o) :
    Holds (ObjectSlot.capacity slot dimension) { slots := o } := by
  unfold ObjectSlot.newOf ObjectSlot.initMemory at ho
  simp only [Bool.false_eq_true, if_false] at ho
  split_ifs at ho
  cases ho
  refine ⟨capacity_le slot dimension, ?_, rfl, Nat.zero_le _, List.take_zero, rfl, nofun⟩
  rw [ObjectSlot.clearSlots, List.length_replicate, List.length_replicate]

/-- The slots are used in turn just when the pointer of the object was NULL, the memory was
allocated, and no call adds to slots that are full or accesses empty ones. -/
theorem usedInTurn_iff (slot : SlotType T) (memory : Bool) (dimension : UInt32) (allocated : Bool)
    (calls : List (SlotCall T)) :
    UsedInTurn slot (ObjectSlot.newOf slot memory dimension allocated) calls ↔
      (memory = false ∧ (allocated = true ∨ ObjectSlot.bytes slot dimension = 0)) ∧
        AllFit (ObjectSlot.capacity slot dimension) 0 calls := by
  have hmade : (∃ o, ObjectSlot.newOf slot memory dimension allocated = some o) ↔
      memory = false ∧ (allocated = true ∨ ObjectSlot.bytes slot dimension = 0) := by
    unfold ObjectSlot.newOf ObjectSlot.initMemory
    split_ifs with hmemory hallocated <;> simp_all
  rw [← hmade]
  constructor
  · rintro ⟨o, ho, hall⟩
    have hmemory := (hmade.mp ⟨o, ho⟩).1
    subst hmemory
    exact ⟨⟨o, ho⟩, ((holds_new slot ho).run_iff calls).mp hall⟩
  · rintro ⟨⟨o, ho⟩, hfit⟩
    have hmemory := (hmade.mp ⟨o, ho⟩).1
    subst hmemory
    exact ⟨o, ho, ((holds_new slot ho).run_iff calls).mpr hfit⟩

/-- The second of two elements is refused by one slot, and counted. An access to no elements divides
by zero. -/
theorem not_usedInTurn_full_or_empty :
    ¬ UsedInTurn SingleBufferCircularBuffer.int32Slot
      (ObjectSlot.newOf SingleBufferCircularBuffer.int32Slot false 1 true)
      [.addSlot 5, .addSlot 7] ∧
    ¬ UsedInTurn SingleBufferCircularBuffer.int32Slot
      (ObjectSlot.new SingleBufferCircularBuffer.int32Slot true) [.accessSlot] := by
  constructor
  · rintro ⟨o, ho, hall⟩
    cases ho
    obtain ⟨u, hu, hturn⟩ := hall 2
    cases hu
    exact absurd hturn.number (by decide)
  · rintro ⟨o, ho, hall⟩
    obtain ⟨u, hu, hturn⟩ := hall 1
    obtain ⟨v, hv, hr⟩ := run_cons_some.mp hu
    cases hr
    exact Nat.lt_irrefl 0 ((holds_new _ ho).fits hv hturn)

end SlotUse

end chaos.common.utility
