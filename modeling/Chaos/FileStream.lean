-- A file that is read through a stream, with the state bits of the stream. A read that finds too
-- few elements sets both bits. From then on the stream gives nothing until the bits are cleared.
import Mathlib.Tactic.Common

namespace filestream

variable {α : Type*}

structure FileStream (α : Type*) where
  content : List α
  pos : Nat := 0
  failbit : Bool := false
  eofbit : Bool := false
  deriving DecidableEq, Repr

namespace FileStream

def good (s : FileStream α) : Bool := !s.failbit && !s.eofbit

/-- The next elements, `n` of them where there are as many. -/
def next (s : FileStream α) (n : Nat) : List α := (s.content.drop s.pos).take n

/-- The number of the elements that are left. -/
def remaining (s : FileStream α) : Nat := s.content.length - s.pos

/-- The stream after a read of `n` elements, and the elements that it put into the buffer. -/
def read (s : FileStream α) (n : Nat) : FileStream α × List α :=
  if s.good then
    let short := decide (s.remaining < n)
    ({ s with pos := s.pos + (s.next n).length, failbit := short, eofbit := short }, s.next n)
  else ({ s with failbit := true }, [])

/-- A change of the position clears the bit of the end of the file, and no other. -/
def seekg (s : FileStream α) (offset : Nat) : FileStream α :=
  if s.failbit then { s with eofbit := false } else { s with pos := offset, eofbit := false }

variable {s : FileStream α} {n : Nat}

@[simp] theorem length_next : (s.next n).length = min n s.remaining := by
  simp [next, remaining]

theorem good_iff : s.good = true ↔ s.failbit = false ∧ s.eofbit = false := by
  simp [good]

/-- A read that finds all its elements. -/
theorem read_of_le (h : s.good = true) (hn : n ≤ s.remaining) :
    s.read n = ({ s with pos := s.pos + n }, s.next n) := by
  obtain ⟨hfail, heof⟩ := good_iff.mp h
  unfold read
  rw [if_pos h, length_next, Nat.min_eq_left hn, decide_eq_false (Nat.not_lt.mpr hn), ← hfail]
  simp [hfail, heof]

/-- A read that finds too few elements puts the rest into the buffer. -/
theorem read_of_lt (h : s.good = true) (hn : s.remaining < n) :
    s.read n = ({ s with pos := s.pos + s.remaining, failbit := true, eofbit := true },
      s.content.drop s.pos) := by
  have hall : s.next n = s.content.drop s.pos := by
    refine List.take_of_length_le ?_
    rw [List.length_drop]
    exact Nat.le_of_lt hn
  unfold read
  rw [if_pos h, length_next, Nat.min_eq_right (Nat.le_of_lt hn), decide_eq_true hn, hall]

end FileStream

end filestream
