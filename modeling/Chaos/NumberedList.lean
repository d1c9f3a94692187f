-- Lists whose elements are named by their numbers. A new element gets the next number, and a
-- change of one element leaves the others. A list of such numbers names each of them once.
import Mathlib.Data.List.Nodup
import Mathlib.Tactic.Common

namespace numbered_list

variable {α : Type*} {l : List α} {i n : Nat} {a b : α}

/-- An element keeps its number when more are added. -/
theorem getElem?_append_of_some (h : l[i]? = some a) (m : List α) : (l ++ m)[i]? = some a := by
  rw [List.getElem?_append_left (List.getElem?_eq_some_iff.mp h).1, h]

/-- What is found after an addition was there before, or is the new element. -/
theorem of_getElem?_concat (h : (l ++ [a])[i]? = some b) :
    l[i]? = some b ∨ i = l.length ∧ b = a := by
  rcases Nat.lt_trichotomy i l.length with hlt | rfl | hgt
  · rw [List.getElem?_append_left hlt] at h
    exact .inl h
  · rw [List.getElem?_concat_length] at h
    exact .inr ⟨rfl, (Option.some.inj h).symm⟩
  · rw [List.getElem?_eq_none (by simp; omega)] at h
    cases h

theorem getElem?_concat_eq_some :
    (l ++ [a])[i]? = some b ↔ l[i]? = some b ∨ i = l.length ∧ b = a := by
  refine ⟨of_getElem?_concat, ?_⟩
  rintro (h | ⟨rfl, rfl⟩)
  · exact getElem?_append_of_some h [a]
  · exact List.getElem?_concat_length

/-- What is found after a change is the new element, or another one as it was. -/
theorem of_getElem?_set (h : (l.set n a)[i]? = some b) :
    i = n ∧ b = a ∨ i ≠ n ∧ l[i]? = some b := by
  by_cases hin : i = n
  · subst hin
    have hlt := (List.getElem?_eq_some_iff.mp h).1
    rw [List.length_set] at hlt
    rw [List.getElem?_set_self hlt] at h
    exact .inl ⟨rfl, (Option.some.inj h).symm⟩
  · rw [List.getElem?_set_ne (Ne.symm hin)] at h
    exact .inr ⟨hin, h⟩

/-- What is found after one element was modified is that element, or another one as it was. -/
theorem of_getElem?_modify {f : α → α} (h : (l.modify n f)[i]? = some b) :
    (i = n ∧ ∃ a, l[n]? = some a ∧ b = f a) ∨ i ≠ n ∧ l[i]? = some b := by
  rw [List.getElem?_modify] at h
  by_cases hin : n = i
  · subst hin
    obtain ⟨a, ha, hb⟩ := Option.map_eq_some_iff.mp h
    rw [if_pos rfl] at hb
    exact .inl ⟨rfl, a, ha, hb.symm⟩
  · obtain ⟨a, ha, hb⟩ := Option.map_eq_some_iff.mp h
    rw [if_neg hin] at hb
    exact .inr ⟨Ne.symm hin, by rw [ha, hb]⟩

/-- A change of the last element. -/
theorem modify_concat (l : List α) (a : α) (f : α → α) :
    (l ++ [a]).modify l.length f = l ++ [f a] := by
  induction l with
  | nil => rfl
  | cons b l ih => exact congrArg (b :: ·) ih

/-- A number that is not in use is added. -/
theorem nodup_snoc (hl : l.Nodup) (ha : a ∉ l) : (l ++ [a]).Nodup := by
  rw [← List.concat_eq_append]
  exact hl.concat ha

end numbered_list
