-- Ordered maps to pointers, whose index operator inserts NULL under a key that is not there.
import Std.Data.TreeMap.Lemmas
import Mathlib.Tactic.Common

namespace pointer_map

open Std

/-- A pointer is NULL where it is `none`. -/
abbrev PointerMap (κ ν : Type*) [Ord κ] := TreeMap κ (Option ν)

variable {κ ν : Type*} [Ord κ] [TransOrd κ]

/-- The map after its index operator was used. -/
def touched (m : PointerMap κ ν) (key : κ) : PointerMap κ ν := m.insertIfNew key none

/-- The pointer that the index operator gives. -/
def pointer (m : PointerMap κ ν) (key : κ) : Option ν := m[key]?.join

variable {m : PointerMap κ ν} {key k : κ}

/-- The operator changes nothing for a key that is there. -/
theorem getElem?_touched_of_mem (h : key ∈ m) (k : κ) : (touched m key)[k]? = m[k]? := by
  rw [touched, TreeMap.getElem?_insertIfNew, if_neg fun hk => hk.2 h]

theorem size_touched_of_mem (h : key ∈ m) : (touched m key).size = m.size := by
  rw [touched, TreeMap.size_insertIfNew, if_pos h]

theorem mem_touched_of_mem (h : key ∈ m) : k ∈ touched m key ↔ k ∈ m := by
  rw [TreeMap.mem_iff_isSome_getElem?, TreeMap.mem_iff_isSome_getElem?, getElem?_touched_of_mem h]

/-- The NULL that the operator inserts is found in the map. -/
theorem getElem?_touched_self (h : key ∉ m) : (touched m key)[key]? = some none := by
  rw [touched, TreeMap.getElem?_insertIfNew, if_pos ⟨Std.ReflCmp.compare_self, h⟩]

omit [TransOrd κ] in
theorem pointer_of_getElem? {v : ν} (h : m[key]? = some (some v)) : pointer m key = some v := by
  rw [pointer, h]
  rfl

theorem pointer_of_not_mem (h : key ∉ m) : pointer m key = none := by
  rw [pointer, TreeMap.getElem?_eq_none h]
  rfl

end pointer_map
