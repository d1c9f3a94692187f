-- The circular buffer of the live values. The slots are always the last values, seen from the
-- write pointer on, but the last value is read at the slot -1 each time that the buffer has just
-- wrapped.
import Mathlib.Algebra.Order.Ring.Int
import Mathlib.Data.List.Rotate
import Mathlib.Tactic.Common

namespace chaos

/-! ## The buffer -/

/-- The type of the values: its size, and the value of which all bytes are 0. -/
structure SlotType (T : Type) where
  sizeof : Nat
  zero : T
  sizeof_pos : 0 < sizeof

/-- The slots are those that the memory behind the base pointer has, or none when `malloc` gave
NULL. The write pointer is its distance from the base. -/
structure SingleBufferCircularBuffer (T : Type) where
  currentPostion : Int
  bufferDimension : Int
  basePointer : Option (List T)
  writePointer : Int

namespace SingleBufferCircularBuffer

variable {T : Type}

/-- The size in bytes is a product of 64 bits. -/
def new (slot : SlotType T) (dim : Int) (allocated : Bool) : SingleBufferCircularBuffer T where
  currentPostion := 0
  bufferDimension := dim
  basePointer :=
    if allocated then
      some (List.replicate (dim.toNat * slot.sizeof % 2 ^ 64 / slot.sizeof) slot.zero)
    else none
  writePointer := 0

variable (b : SingleBufferCircularBuffer T)

/-- The slot at a distance from the base pointer. Outside of the slots it is undefined. -/
def slotAt (distance : Int) : Option Nat :=
  b.basePointer.bind fun slots =>
    if 0 ≤ distance ∧ distance < slots.length then some distance.toNat else none

/-- The remainder has the sign of the dividend. The position is below the dimension, so that one
more is in the range of its type. -/
def addValue (newValue : T) : Option (SingleBufferCircularBuffer T) :=
  (b.slotAt b.writePointer).map fun i =>
    let currentPostion := (b.currentPostion + 1).tmod b.bufferDimension
    { b with
      basePointer := b.basePointer.map fun slots => slots.set i newValue
      currentPostion := currentPostion
      writePointer := currentPostion }

def getLastValue : Option T :=
  (b.slotAt ((b.currentPostion - 1).tmod b.bufferDimension)).bind fun i =>
    b.basePointer.bind fun slots => slots[i]?

/-- The slots from the write pointer to the end, and then those from the base to it. -/
def history : Option (List T) :=
  b.basePointer.map fun slots =>
    slots.drop b.writePointer.toNat ++ slots.take b.writePointer.toNat

end SingleBufferCircularBuffer

/-! ## What is claimed -/

/-- The last `d` values, with zeros for those that were not written yet. -/
def lastValues {T : Type} (zero : T) (d : Nat) (values : List T) : List T :=
  (List.replicate d zero ++ values).drop values.length

/-- All accesses stay in the slots, of which there are `dim`, the slots are the last values, and
the last value is the one that was added last. -/
structure KeepsHistory {T : Type} (slot : SlotType T) (dim : Int) (allocated : Bool)
    (values : List T) (b : SingleBufferCircularBuffer T) : Prop where
  ends : values.foldlM SingleBufferCircularBuffer.addValue (.new slot dim allocated) = some b
  slots : b.basePointer.map List.length = some dim.toNat
  history : b.history = some (lastValues slot.zero dim.toNat values)
  last : b.getLastValue = values.getLast?

/-! ## The slots -/

section Slots

variable {T : Type}

/-- One more value moves the window by one. -/
theorem lastValues_concat (zero : T) {d : Nat} (hd : 0 < d) (values : List T) (v : T) :
    lastValues zero d (values ++ [v]) = (lastValues zero d values).tail ++ [v] := by
  have hle : values.length + 1 ≤ (List.replicate d zero ++ values).length := by
    rw [List.length_append, List.length_replicate]
    omega
  rw [lastValues, lastValues, List.tail_drop, List.length_append, List.length_singleton,
    ← List.append_assoc, List.drop_append_of_le_length hle]

theorem getLast?_lastValues (zero : T) {d : Nat} (hd : 0 < d) {values : List T}
    (hne : values ≠ []) : (lastValues zero d values).getLast? = values.getLast? := by
  obtain ⟨rest, v, rfl⟩ := (List.eq_nil_or_concat' values).resolve_left hne
  rw [lastValues_concat zero hd, List.getLast?_concat, List.getLast?_concat]

/-- A write at the start of the window, which then starts at the next slot. -/
theorem rotate_set {slots : List T} {i : Nat} (hi : i < slots.length) (v : T) :
    (slots.set i v).rotate ((i + 1) % slots.length) = (slots.rotate i).tail ++ [v] := by
  have hmod := List.rotate_mod (slots.set i v) (i + 1)
  rw [List.length_set] at hmod
  rw [hmod, List.rotate_eq_drop_append_take (by rw [List.length_set]; omega),
    List.rotate_eq_drop_append_take (Nat.le_of_lt hi), List.drop_set_of_lt (Nat.lt_succ_self i),
    List.drop_eq_getElem_cons hi, List.take_add_one, List.take_set_of_le (Nat.le_refl i),
    List.getElem?_set_self hi, List.cons_append, List.tail_cons, List.append_assoc]
  rfl

end Slots

/-! ## The runs -/

namespace SingleBufferCircularBuffer

variable {T : Type} {slot : SlotType T} {zero : T} {d : Nat} {values : List T}
  {b b' : SingleBufferCircularBuffer T}

/-- The buffer after the values. -/
structure Window (zero : T) (d : Nat) (values : List T) (b : SingleBufferCircularBuffer T) :
    Prop where
  dimension : b.bufferDimension = d
  position : b.currentPostion = (values.length % d : Nat)
  write : b.writePointer = b.currentPostion
  slots : ∃ slots, b.basePointer = some slots ∧ slots.length = d ∧
    slots.rotate (values.length % d) = lastValues zero d values

theorem slotAt_of_lt {slots : List T} (hb : b.basePointer = some slots) {i : Nat}
    (hi : i < slots.length) : b.slotAt i = some i := by
  rw [slotAt, hb, Option.bind_some, if_pos ⟨Int.natCast_nonneg i, Int.ofNat_lt.mpr hi⟩,
    Int.toNat_natCast]

theorem Window.addValue (h : Window zero d values b) (hd : 0 < d) (v : T) :
    ∃ b', b.addValue v = some b' ∧ Window zero d (values ++ [v]) b' := by
  obtain ⟨slots, hb, hlength, hwindow⟩ := h.slots
  have hi : values.length % d < slots.length := hlength.symm ▸ Nat.mod_lt values.length hd
  have hnext : ((values.length % d : Nat) + 1 : Int).tmod d =
      ((values ++ [v]).length % d : Nat) := by
    rw [← Int.natCast_succ, ← Int.ofNat_tmod, List.length_append, List.length_singleton,
      Nat.succ_eq_add_one, Nat.mod_add_mod]
  rw [SingleBufferCircularBuffer.addValue, h.write, h.position, slotAt_of_lt hb hi, Option.map_some,
    h.dimension, hnext]
  refine ⟨_, rfl, rfl, rfl, rfl, slots.set (values.length % d) v, ?_, ?_, ?_⟩
  · dsimp only
    rw [hb, Option.map_some]
  · rw [List.length_set, hlength]
  · have hrot := rotate_set hi v
    rw [hwindow, ← lastValues_concat zero hd, hlength, Nat.mod_add_mod] at hrot
    rw [List.length_append]
    exact hrot

theorem window_new (slot : SlotType T) {dim : Int} (hdim : 1 ≤ dim)
    (hsize : dim * slot.sizeof < 2 ^ 64) :
    Window slot.zero dim.toNat [] (.new slot dim true) := by
  obtain ⟨d, rfl⟩ := Int.eq_ofNat_of_zero_le (by omega : 0 ≤ dim)
  have hfits : d * slot.sizeof < 2 ^ 64 := by exact_mod_cast hsize
  refine ⟨rfl, by simp [SingleBufferCircularBuffer.new], rfl, List.replicate d slot.zero, ?_,
    List.length_replicate, ?_⟩
  · rw [SingleBufferCircularBuffer.new, if_pos rfl, Int.toNat_natCast, Nat.mod_eq_of_lt hfits,
      Nat.mul_div_cancel _ slot.sizeof_pos]
  · simp [lastValues]

theorem window_run (slot : SlotType T) {dim : Int} (hdim : 1 ≤ dim)
    (hsize : dim * slot.sizeof < 2 ^ 64) (values : List T) :
    ∃ b, values.foldlM addValue (.new slot dim true) = some b ∧
      Window slot.zero dim.toNat values b := by
  induction values using List.reverseRecOn with
  | nil => exact ⟨_, rfl, window_new slot hdim hsize⟩
  | append_singleton values v ih =>
    obtain ⟨b, hb, hwindow⟩ := ih
    obtain ⟨b', hb', hnext⟩ := hwindow.addValue (by omega) v
    refine ⟨b', ?_, hnext⟩
    rw [List.foldlM_append, hb]
    simpa using hb'

/-- The slots are the last values after every run. -/
theorem Window.history (h : Window zero d values b) (hd : 0 < d) :
    b.history = some (lastValues zero d values) := by
  obtain ⟨slots, hb, hlength, hwindow⟩ := h.slots
  have hle : values.length % d ≤ slots.length :=
    hlength.symm ▸ Nat.le_of_lt (Nat.mod_lt values.length hd)
  rw [SingleBufferCircularBuffer.history, hb, h.write, h.position, Int.toNat_natCast,
    Option.map_some, ← List.rotate_eq_drop_append_take hle, hwindow]

/-- The last value is read at the slot before the write pointer, which for the first slot is the
slot -1 unless there is just one. -/
theorem Window.getLastValue (h : Window zero d values b) (hd : 0 < d) (hne : values ≠ []) :
    b.getLastValue = if d = 1 ∨ ¬ d ∣ values.length then values.getLast? else none := by
  obtain ⟨slots, hb, hlength, hwindow⟩ := h.slots
  rw [SingleBufferCircularBuffer.getLastValue, h.position, h.dimension, hb]
  have hlast := congrArg List.getLast? hwindow
  rw [getLast?_lastValues zero hd hne] at hlast
  have hlt := Nat.mod_lt values.length hd
  cases hpos : values.length % d with
  | succ i =>
    have hnot : ¬ d ∣ values.length := fun hdvd => by
      rw [Nat.mod_eq_zero_of_dvd hdvd] at hpos
      cases hpos
    have hi : i < slots.length := by omega
    have hmod : (((i + 1 : Nat) : Int) - 1).tmod d = i := by
      rw [Int.natCast_succ, Int.add_sub_cancel, ← Int.ofNat_tmod, Nat.mod_eq_of_lt (by omega)]
    rw [hmod, slotAt_of_lt hb hi, if_pos (.inr hnot), Option.bind_some, Option.bind_some, ← hlast,
      hpos, List.rotate_eq_drop_append_take hi, List.getLast?_append, List.getLast?_take,
      if_neg (Nat.succ_ne_zero i), Nat.succ_sub_one, List.getElem?_eq_getElem hi]
    rfl
  | zero =>
    have hdvd := Nat.dvd_of_mod_eq_zero hpos
    by_cases hone : d = 1
    · subst hone
      obtain ⟨v, rfl⟩ := List.length_eq_one_iff.mp hlength
      rw [if_pos (.inl rfl), ← hlast, hpos]
      rw [show (((0 : Nat) : Int) - 1).tmod ((1 : Nat) : Int) = ((0 : Nat) : Int) from rfl,
        slotAt_of_lt hb Nat.one_pos]
      rfl
    · have hmod : (((0 : Nat) : Int) - 1).tmod d = -1 := by
        rw [Int.natCast_zero, Int.zero_sub, Int.neg_tmod, ← Int.natCast_one, ← Int.ofNat_tmod,
          Nat.mod_eq_of_lt (by omega)]
      rw [hmod, if_neg (by simp [hone, hdvd]), slotAt, hb, Option.bind_some, if_neg (by omega)]
      rfl

/-- No write changes the number of slots. -/
theorem length_foldlM (h : values.foldlM addValue b = some b') :
    b'.basePointer.map List.length = b.basePointer.map List.length := by
  induction values generalizing b with
  | nil =>
    cases h
    rfl
  | cons v values ih =>
    rw [List.foldlM_cons] at h
    obtain ⟨u, hu, h⟩ := Option.bind_eq_some_iff.mp h
    obtain ⟨i, -, rfl⟩ := Option.map_eq_some_iff.mp hu
    rw [ih h, Option.map_map]
    exact congrArg (fun f => b.basePointer.map f) (funext fun slots => List.length_set)

/-- The memory has all slots just when it was allocated and its size fits. -/
theorem length_new (slot : SlotType T) {dim : Int} (hdim : 1 ≤ dim) (allocated : Bool) :
    (new slot dim allocated).basePointer.map List.length = some dim.toNat ↔
      allocated ∧ dim * slot.sizeof < 2 ^ 64 := by
  obtain ⟨d, rfl⟩ := Int.eq_ofNat_of_zero_le (by omega : 0 ≤ dim)
  have hcast : (d : Int) * slot.sizeof < 2 ^ 64 ↔ d * slot.sizeof < 2 ^ 64 := by
    constructor <;> intro h <;> exact_mod_cast h
  cases allocated with
  | false => simp [new]
  | true =>
    rw [hcast, new, if_pos rfl, Option.map_some, List.length_replicate, Int.toNat_natCast,
      Option.some.injEq]
    constructor
    · intro heq
      refine ⟨rfl, Nat.lt_of_le_of_lt ?_ (Nat.mod_lt (d * slot.sizeof) (by decide : 0 < 2 ^ 64))⟩
      exact (Nat.le_div_iff_mul_le slot.sizeof_pos).mp (Nat.le_of_eq heq.symm)
    · rintro ⟨-, hlt⟩
      rw [Nat.mod_eq_of_lt hlt, Nat.mul_div_cancel _ slot.sizeof_pos]

/-- The buffer keeps the history just when its memory was allocated, and it has just one slot or
has not just wrapped. -/
theorem keepsHistory_iff (slot : SlotType T) (dim : Int) (hdim : 1 ≤ dim) (allocated : Bool)
    (values : List T) (hne : values ≠ []) :
    (∃ b, KeepsHistory slot dim allocated values b) ↔
      (allocated ∧ dim * slot.sizeof < 2 ^ 64) ∧ (dim = 1 ∨ ¬ dim ∣ values.length) := by
  have hd : 0 < dim.toNat := by omega
  have hcond : (dim = 1 ∨ ¬ dim ∣ values.length) ↔
      (dim.toNat = 1 ∨ ¬ dim.toNat ∣ values.length) := by
    obtain ⟨d, rfl⟩ := Int.eq_ofNat_of_zero_le (by omega : 0 ≤ dim)
    rw [Int.toNat_natCast, Int.natCast_dvd_natCast]
    exact or_congr_left (by omega)
  rw [hcond]
  constructor
  · rintro ⟨b, hends, hslots, -, hlast⟩
    rw [length_foldlM hends] at hslots
    obtain ⟨hall, hsize⟩ := (length_new slot hdim allocated).mp hslots
    refine ⟨⟨hall, hsize⟩, by_contra fun hnot => ?_⟩
    subst hall
    obtain ⟨u, hu, hwindow⟩ := window_run slot hdim hsize values
    cases hu.symm.trans hends
    rw [hwindow.getLastValue hd hne, if_neg hnot] at hlast
    exact hne (List.getLast?_eq_none_iff.mp hlast.symm)
  · rintro ⟨⟨hall, hsize⟩, hok⟩
    subst hall
    obtain ⟨b, hb, hwindow⟩ := window_run slot hdim hsize values
    refine ⟨b, hb, ?_, hwindow.history hd, ?_⟩
    · rw [length_foldlM hb, (length_new slot hdim true).mpr ⟨rfl, hsize⟩]
    · rw [hwindow.getLastValue hd hne, if_pos hok]

/-- The values of 32 bits. -/
def int32Slot : SlotType Int32 := ⟨4, 0, by decide⟩

theorem keepsHistory_three_of_two : ∃ b, KeepsHistory int32Slot 2 true [5, 7, 9] b :=
  (keepsHistory_iff int32Slot 2 (by decide) true [5, 7, 9] (by decide)).mpr
    ⟨⟨rfl, by decide⟩, .inr (by decide)⟩

/-- Two values in a buffer of two slots: the last one is read before the first slot. -/
theorem not_keepsHistory_two_of_two : ¬ ∃ b, KeepsHistory int32Slot 2 true [5, 7] b := by
  rintro ⟨b, hends, -, -, hlast⟩
  cases hends
  revert hlast
  decide

end SingleBufferCircularBuffer

end chaos
