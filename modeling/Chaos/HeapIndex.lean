-- Objects that are named by their addresses, and a map that finds the address of an object by a
-- key of the object. What an allocation, a change and a release ask of the map.
import Mathlib.Logic.Function.Basic
import Mathlib.Tactic.Common

namespace heap_index

variable {ι κ α : Type*} {m : κ → Option ι} {key : α → κ} {h : ι → Option α} {i j : ι} {a b : α}

/-- The map finds each object under its key, and nothing else. -/
def Indexes (m : κ → Option ι) (key : α → κ) (h : ι → Option α) : Prop :=
  ∀ k i, m k = some i ↔ ∃ a, h i = some a ∧ key a = k

theorem Indexes.find (hm : Indexes m key h) (hi : h i = some a) : m (key a) = some i :=
  (hm _ _).mpr ⟨a, hi, rfl⟩

/-- Two objects with the same key are the same object. -/
theorem Indexes.unique (hm : Indexes m key h) (hi : h i = some a) (hj : h j = some b)
    (hkey : key a = key b) : i = j := by
  have := hm.find hi
  rw [hkey, hm.find hj] at this
  exact (Option.some.inj this).symm

variable [DecidableEq ι]

/-- A change that keeps the key. -/
theorem Indexes.change (hm : Indexes m key h) (hi : h i = some a) (hkey : key b = key a) :
    Indexes m key (Function.update h i (some b)) := by
  intro k j
  rw [hm k j]
  rcases eq_or_ne j i with rfl | hj
  · simp [hi, hkey]
  · simp [Function.update_of_ne hj]

variable [DecidableEq κ]

/-- A new object whose key is free. -/
theorem Indexes.insert (hm : Indexes m key h) (hi : h i = none) (hk : m (key a) = none) :
    Indexes (Function.update m (key a) (some i)) key (Function.update h i (some a)) := by
  intro k j
  rcases eq_or_ne k (key a) with rfl | hkey
  · rcases eq_or_ne j i with rfl | hj
    · simp
    · have hfree : ¬ ∃ b, h j = some b ∧ key b = key a := by
        rw [← hm, hk]
        simp
      simpa [Function.update_of_ne hj, hj.symm] using hfree
  · rw [Function.update_of_ne hkey, hm k j]
    rcases eq_or_ne j i with rfl | hj
    · simp [hi, hkey.symm]
    · simp [Function.update_of_ne hj]

/-- An object that is released, with its entry. -/
theorem Indexes.erase (hm : Indexes m key h) (hi : h i = some a) :
    Indexes (Function.update m (key a) none) key (Function.update h i none) := by
  intro k j
  rcases eq_or_ne j i with rfl | hj
  · rcases eq_or_ne k (key a) with rfl | hkey
    · simp
    · have hfree : m k ≠ some j := by
        rw [Ne, hm, hi]
        rintro ⟨b, hb, rfl⟩
        exact hkey (by rw [Option.some.inj hb])
      simp [Function.update_of_ne hkey, hfree]
  · rw [Function.update_of_ne hj, ← hm k j]
    rcases eq_or_ne k (key a) with rfl | hkey
    · have : m (key a) ≠ some j := by
        rw [hm.find hi]
        exact fun he => hj (Option.some.inj he).symm
      simp [this]
    · rw [Function.update_of_ne hkey]

end heap_index
