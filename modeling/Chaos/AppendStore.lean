-- Files that are only ever appended to. What was read once at a place is read there again,
-- whatever is appended later.
import Mathlib.Algebra.Order.Ring.Int
import Mathlib.Data.List.Basic
import Mathlib.Logic.Function.Basic

namespace append_store

variable {κ β : Type*}

/-- The bytes of each file, `none` for a file that does not exist. -/
abbrev Store (κ β : Type*) := κ → Option (List β)

/-- The bytes of a file, none of them for a file that does not exist. -/
def content (st : Store κ β) (k : κ) : List β := (st k).getD []

/-- The `n` bytes of a file from the place `offset` on. -/
def slice (st : Store κ β) (k : κ) (offset n : Nat) : List β :=
  ((content st k).drop offset).take n

/-- Each file has kept its bytes, and may have got more. -/
def Grows (st st' : Store κ β) : Prop := ∀ k, content st k <+: content st' k

variable {st st' st'' : Store κ β} {k l : κ} {bytes : List β} {offset n : Nat}

theorem Grows.refl (st : Store κ β) : Grows st st := fun _ => List.prefix_rfl

theorem Grows.trans (h : Grows st st') (h' : Grows st' st'') : Grows st st'' :=
  fun k => (h k).trans (h' k)

/-- A slice that was full stays as it is while the store grows. -/
theorem slice_of_grows (h : Grows st st') (hfull : (slice st k offset n).length = n) :
    slice st' k offset n = slice st k offset n := by
  obtain ⟨more, hmore⟩ := h k
  have hlen : n ≤ ((content st k).drop offset).length := by
    rw [slice, List.length_take] at hfull
    omega
  by_cases hn : n = 0
  · simp [slice, hn]
  · have hoffset : offset ≤ (content st k).length := by
      rw [List.length_drop] at hlen
      omega
    rw [slice, ← hmore, List.drop_append_of_le_length hoffset, List.take_append_of_le_length hlen]
    rfl

/-! ## The operations -/

variable [DecidableEq κ]

/-- Open a file to append to it: it exists then, with the bytes that it had. -/
def openFile (st : Store κ β) (k : κ) : Store κ β := Function.update st k (some (content st k))

def append (st : Store κ β) (k : κ) (bytes : List β) : Store κ β :=
  Function.update st k (some (content st k ++ bytes))

@[simp] theorem content_openFile : content (openFile st k) l = content st l := by
  by_cases h : l = k
  · subst h
    simp [content, openFile]
  · simp [content, openFile, Function.update_of_ne h]

@[simp] theorem content_append_self :
    content (append st k bytes) k = content st k ++ bytes := by
  simp [content, append]

theorem content_append_of_ne (h : l ≠ k) : content (append st k bytes) l = content st l := by
  simp [content, append, Function.update_of_ne h]

theorem openFile_isSome : (openFile st k l).isSome = true ↔ l = k ∨ (st l).isSome = true := by
  by_cases h : l = k
  · simp [openFile, h]
  · simp [openFile, h]

theorem append_isSome : (append st k bytes l).isSome = true ↔ l = k ∨ (st l).isSome = true := by
  by_cases h : l = k
  · simp [append, h]
  · simp [append, h]

theorem grows_openFile (st : Store κ β) (k : κ) : Grows st (openFile st k) := by
  intro l
  refine ⟨[], ?_⟩
  rw [content_openFile, List.append_nil]

theorem grows_append (st : Store κ β) (k : κ) (bytes : List β) : Grows st (append st k bytes) := by
  intro l
  by_cases h : l = k
  · subst h
    rw [content_append_self]
    exact List.prefix_append _ _
  · refine ⟨[], ?_⟩
    rw [content_append_of_ne h, List.append_nil]

/-- What is appended is read at the old end of the file. -/
theorem slice_append_end :
    slice (append st k bytes) k (content st k).length bytes.length = bytes := by
  simp [slice]

end append_store
