-- Numbers in the memory of a host, where the first byte is the lowest or the highest one, and the
-- swap of the bytes of a number of 32 or 64 bits.
import Mathlib.Tactic.IntervalCases
import Chaos.LittleEndian

namespace byte_order

open little_endian

inductive Endianness where
  | little
  | big
  deriving DecidableEq, Repr

/-- The `w` bytes of a number in memory. -/
def store (host : Endianness) (w n : Nat) : List UInt8 :=
  match host with
  | .little => toBytes w n
  | .big => (toBytes w n).reverse

def load (host : Endianness) (bytes : List UInt8) : Nat :=
  match host with
  | .little => ofBytes bytes
  | .big => ofBytes bytes.reverse

@[simp] theorem length_store (host : Endianness) (w n : Nat) : (store host w n).length = w := by
  cases host <;> simp [store]

theorem load_store {w n : Nat} (host : Endianness) (h : n < 256 ^ w) :
    load host (store host w n) = n := by
  cases host
  · exact ofBytes_toBytes h
  · rw [store, load, List.reverse_reverse, ofBytes_toBytes h]

theorem store_load (host : Endianness) (bytes : List UInt8) :
    store host bytes.length (load host bytes) = bytes := by
  cases host
  · exact toBytes_ofBytes bytes
  · have h := toBytes_ofBytes bytes.reverse
    rw [List.length_reverse] at h
    rw [store, load, h, List.reverse_reverse]

theorem load_lt (host : Endianness) (bytes : List UInt8) :
    load host bytes < 256 ^ bytes.length := by
  cases host
  · exact ofBytes_lt bytes
  · simpa [load] using ofBytes_lt bytes.reverse

/-- The bytes of a host, with the lowest one first. -/
def order (host : Endianness) (bytes : List UInt8) : List UInt8 :=
  match host with
  | .little => bytes
  | .big => bytes.reverse

@[simp] theorem length_order (host : Endianness) (bytes : List UInt8) :
    (order host bytes).length = bytes.length := by
  cases host <;> simp [order]

theorem load_eq (host : Endianness) (bytes : List UInt8) :
    load host bytes = ofBytes (order host bytes) := by
  cases host <;> rfl

theorem store_eq (host : Endianness) (w n : Nat) :
    store host w n = order host (toBytes w n) := by
  cases host <;> rfl

theorem toBytes_load (host : Endianness) (bytes : List UInt8) :
    toBytes bytes.length (load host bytes) = order host bytes := by
  rw [load_eq, ← length_order host bytes, toBytes_ofBytes]

/-! ## The swap -/

def swap_bytes_4 (val : UInt32) : UInt32 :=
  ((val &&& 0xff000000) >>> 24) ||| ((val &&& 0x00ff0000) >>> 8) |||
    ((val &&& 0x0000ff00) <<< 8) ||| ((val &&& 0x000000ff) <<< 24)

def swap_bytes_8 (val : UInt64) : UInt64 :=
  ((val &&& 0xff00000000000000) >>> 56) ||| ((val &&& 0x00ff000000000000) >>> 40) |||
    ((val &&& 0x0000ff0000000000) >>> 24) ||| ((val &&& 0x000000ff00000000) >>> 8) |||
    ((val &&& 0x00000000ff000000) <<< 8) ||| ((val &&& 0x0000000000ff0000) <<< 24) |||
    ((val &&& 0x000000000000ff00) <<< 40) ||| ((val &&& 0x00000000000000ff) <<< 56)

/-- The bytes of a number, by shifts. -/
theorem toBytes_32 (v : UInt32) : toBytes 4 v.toNat =
    [v.toUInt8, (v >>> 8).toUInt8, (v >>> 16).toUInt8, (v >>> 24).toUInt8] := by
  simp [toBytes, Nat.shiftRight_eq_div_pow, Nat.div_div_eq_div_mul, ← UInt8.toNat_inj]

theorem toBytes_64 (v : UInt64) : toBytes 8 v.toNat =
    [v.toUInt8, (v >>> 8).toUInt8, (v >>> 16).toUInt8, (v >>> 24).toUInt8, (v >>> 32).toUInt8,
      (v >>> 40).toUInt8, (v >>> 48).toUInt8, (v >>> 56).toUInt8] := by
  simp [toBytes, Nat.shiftRight_eq_div_pow, Nat.div_div_eq_div_mul, ← UInt8.toNat_inj]

/-- The masks and shifts reverse the bytes. -/
theorem toBytes_swap_bytes_4 (v : UInt32) :
    toBytes 4 (swap_bytes_4 v).toNat = (toBytes 4 v.toNat).reverse := by
  rw [toBytes_32, toBytes_32]
  simp only [List.reverse_cons, List.reverse_nil, List.nil_append, List.cons_append,
    List.cons.injEq, and_true]
  refine ⟨?_, ?_, ?_, ?_⟩
  all_goals
    apply UInt8.toBitVec_inj.mp
    ext i hi
    simp only [swap_bytes_4, UInt32.toBitVec_toUInt8, UInt32.toBitVec_or,
      UInt32.toBitVec_shiftRight, UInt32.toBitVec_shiftLeft, UInt32.toBitVec_and]
    interval_cases i <;> simp

theorem toBytes_swap_bytes_8 (v : UInt64) :
    toBytes 8 (swap_bytes_8 v).toNat = (toBytes 8 v.toNat).reverse := by
  rw [toBytes_64, toBytes_64]
  simp only [List.reverse_cons, List.reverse_nil, List.nil_append, List.cons_append,
    List.cons.injEq, and_true]
  refine ⟨?_, ?_, ?_, ?_, ?_, ?_, ?_, ?_⟩
  all_goals
    apply UInt8.toBitVec_inj.mp
    ext i hi
    simp only [swap_bytes_8, UInt64.toBitVec_toUInt8, UInt64.toBitVec_or,
      UInt64.toBitVec_shiftRight, UInt64.toBitVec_shiftLeft, UInt64.toBitVec_and]
    interval_cases i <;> simp

/-- The number in another order of bytes. -/
def byte_swap_4 (source target : Endianness) (val : UInt32) : UInt32 :=
  if source = target then val else swap_bytes_4 val

def byte_swap_8 (source target : Endianness) (val : UInt64) : UInt64 :=
  if source = target then val else swap_bytes_8 val

theorem toNat_of_toBytes_4 (v : UInt32) : ofBytes (toBytes 4 v.toNat) = v.toNat :=
  ofBytes_toBytes v.toNat_lt

theorem toNat_of_toBytes_8 (v : UInt64) : ofBytes (toBytes 8 v.toNat) = v.toNat :=
  ofBytes_toBytes v.toNat_lt

/-- What a host stores after a swap to the little order has the lowest byte first. -/
theorem store_byte_swap_4 (host : Endianness) (v : UInt32) :
    store host 4 (byte_swap_4 host .little v).toNat = toBytes 4 v.toNat := by
  cases host
  · rfl
  · rw [store, byte_swap_4, if_neg (by decide), toBytes_swap_bytes_4, List.reverse_reverse]

theorem store_byte_swap_8 (host : Endianness) (v : UInt64) :
    store host 8 (byte_swap_8 host .little v).toNat = toBytes 8 v.toNat := by
  cases host
  · rfl
  · rw [store, byte_swap_8, if_neg (by decide), toBytes_swap_bytes_8, List.reverse_reverse]

/-- What a host loads and swaps from the little order is the number with the lowest byte first. -/
theorem byte_swap_4_load (host : Endianness) {bytes : List UInt8} (h : bytes.length = 4) :
    (byte_swap_4 .little host (UInt32.ofNat (load host bytes))).toNat = ofBytes bytes := by
  have hlt := load_lt host bytes
  have htoNat : (UInt32.ofNat (load host bytes)).toNat = load host bytes := by
    rw [UInt32.toNat_ofNat', Nat.mod_eq_of_lt (by rw [h] at hlt; exact hlt)]
  cases host
  · exact htoNat
  · rw [byte_swap_4, if_neg (by decide), ← toNat_of_toBytes_4, toBytes_swap_bytes_4, htoNat, ← h,
      ← List.length_reverse, load, toBytes_ofBytes, List.reverse_reverse]

theorem byte_swap_8_load (host : Endianness) {bytes : List UInt8} (h : bytes.length = 8) :
    (byte_swap_8 .little host (UInt64.ofNat (load host bytes))).toNat = ofBytes bytes := by
  have hlt := load_lt host bytes
  have htoNat : (UInt64.ofNat (load host bytes)).toNat = load host bytes := by
    rw [UInt64.toNat_ofNat', Nat.mod_eq_of_lt (by rw [h] at hlt; exact hlt)]
  cases host
  · exact htoNat
  · rw [byte_swap_8, if_neg (by decide), ← toNat_of_toBytes_8, toBytes_swap_bytes_8, htoNat, ← h,
      ← List.length_reverse, load, toBytes_ofBytes, List.reverse_reverse]

end byte_order
