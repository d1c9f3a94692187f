-- Buffers of bytes: some bytes are written at an offset, and some are read back.
import Mathlib.Algebra.Order.Ring.Int
import Mathlib.Tactic.Common

namespace byte_buffer

/-- The bytes of `data` with those from `offset` on replaced, as `memcpy` does it. -/
def write (data : List UInt8) (offset : Nat) (bytes : List UInt8) : List UInt8 :=
  data.take offset ++ (bytes ++ data.drop (offset + bytes.length))

def read (data : List UInt8) (offset count : Nat) : List UInt8 := (data.drop offset).take count

variable {data bytes : List UInt8} {offset i o count : Nat}

theorem length_write (h : offset + bytes.length ≤ data.length) :
    (write data offset bytes).length = data.length := by
  simp only [write, List.length_append, List.length_take, List.length_drop]
  omega

theorem getElem?_write (h : offset + bytes.length ≤ data.length) :
    (write data offset bytes)[i]? =
      if offset ≤ i ∧ i < offset + bytes.length then bytes[i - offset]? else data[i]? := by
  have htake : (data.take offset).length = offset := by
    rw [List.length_take]
    omega
  rw [write]
  by_cases hlow : i < offset
  · rw [if_neg (by omega), List.getElem?_append_left (by omega), List.getElem?_take_of_lt hlow]
  · rw [List.getElem?_append_right (by omega), htake]
    by_cases hhigh : i < offset + bytes.length
    · rw [if_pos (by omega), List.getElem?_append_left (by omega)]
    · rw [if_neg (by omega), List.getElem?_append_right (by omega), List.getElem?_drop]
      congr 1
      omega

/-- Two buffers that agree from `o` to `o + count` are read alike there. -/
theorem read_congr {data' : List UInt8} (h : ∀ i, o ≤ i → i < o + count → data[i]? = data'[i]?) :
    read data o count = read data' o count := by
  apply List.ext_getElem?
  intro i
  simp only [read, List.getElem?_take, List.getElem?_drop]
  split
  · exact h _ (by omega) (by omega)
  · rfl

theorem read_write_same (h : offset + bytes.length ≤ data.length) :
    read (write data offset bytes) offset bytes.length = bytes := by
  have htake : (data.take offset).length = offset := by
    rw [List.length_take]
    omega
  rw [read, write, List.drop_left' htake, List.take_left]

theorem read_write_apart (h : offset + bytes.length ≤ data.length)
    (hapart : o + count ≤ offset ∨ offset + bytes.length ≤ o) :
    read (write data offset bytes) o count = read data o count := by
  apply read_congr
  intro i hlow hhigh
  rw [getElem?_write h, if_neg (by omega)]

/-- What lies in the written bytes is read from them. -/
theorem read_write_inside (h : offset + bytes.length ≤ data.length)
    (hin : o + count ≤ bytes.length) :
    read (write data offset bytes) (offset + o) count = read bytes o count := by
  apply List.ext_getElem?
  intro i
  simp only [read, List.getElem?_take, List.getElem?_drop]
  split
  · rw [getElem?_write h, if_pos (by omega)]
    congr 1
    omega
  · rfl

/-- A read byte is one of the buffer. -/
theorem getElem?_of_read (h : read data o count = bytes) (hi : i < count) :
    data[o + i]? = bytes[i]? := by
  rw [← h, read, List.getElem?_take_of_lt hi, List.getElem?_drop]

/-- The first bytes of a buffer are enough to read what lies in them. -/
theorem read_take {n : Nat} (h : o + count ≤ n) :
    read (data.take n) o count = read data o count := by
  apply read_congr
  intro i hlow hhigh
  rw [List.getElem?_take_of_lt (by omega)]

theorem length_read (h : o + count ≤ data.length) : (read data o count).length = count := by
  rw [read, List.length_take, List.length_drop]
  omega

/-- One byte, read as a buffer of one byte. -/
theorem headD_read (data : List UInt8) (o : Nat) : (read data o 1).headD 0 = data.getD o 0 := by
  rw [read, List.headD_eq_head?_getD, List.head?_take, List.head?_drop, List.getD_eq_getElem?_getD]
  rfl

end byte_buffer
