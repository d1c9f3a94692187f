-- A queue that gives the elements with the largest key first. The order of elements with
-- the same key is open, as `std::priority_queue` leaves it: the caller names the choice.
import Mathlib.Data.List.Perm.Basic
import Mathlib.Tactic.Common

namespace pqueue

variable {α : Type*}

/-- The elements that no element of the queue outranks. -/
def tops (key : α → Int) (q : List α) : List α :=
  q.filter fun e => q.all fun x => decide (key x ≤ key e)

/-- The element on top of the queue, where `tie` chooses among the elements with the
largest key. -/
def top (key : α → Int) (q : List α) (tie : Nat) : Option α :=
  (tops key q)[tie % (tops key q).length]?

variable {key : α → Int} {q : List α} {tie : Nat} {e : α}

theorem mem_tops : e ∈ tops key q ↔ e ∈ q ∧ ∀ x ∈ q, key x ≤ key e := by
  simp [tops]

theorem top_mem (h : top key q tie = some e) : e ∈ q :=
  (mem_tops.mp (List.mem_of_getElem? h)).1

theorem tops_ne_nil (h : q ≠ []) : tops key q ≠ [] := by
  obtain ⟨m, hm, hmax⟩ : ∃ m ∈ q, ∀ x ∈ q, key x ≤ key m := by
    induction q with
    | nil => exact absurd rfl h
    | cons a as ih =>
      rcases as with _ | ⟨b, bs⟩
      · exact ⟨a, by simp, by simp⟩
      · obtain ⟨m, hm, hmax⟩ := ih (by simp)
        by_cases ha : key m ≤ key a
        · refine ⟨a, by simp, ?_⟩
          intro x hx
          rcases List.mem_cons.mp hx with rfl | hx
          · exact Int.le_refl _
          · exact Int.le_trans (hmax x hx) ha
        · refine ⟨m, List.mem_cons_of_mem _ hm, ?_⟩
          intro x hx
          rcases List.mem_cons.mp hx with rfl | hx
          · omega
          · exact hmax x hx
  exact List.ne_nil_of_mem (mem_tops.mpr ⟨hm, hmax⟩)

/-- The queue has no top only when it is empty. -/
theorem top_eq_none : top key q tie = none ↔ q = [] := by
  constructor
  · intro h
    by_contra hq
    have hpos : 0 < (tops key q).length := List.length_pos_iff.mpr (tops_ne_nil hq)
    have hlt := Nat.mod_lt tie hpos
    rw [top, List.getElem?_eq_getElem hlt] at h
    simp at h
  · rintro rfl
    rfl

/-- A first element that no other one outranks is the first of the tops. -/
theorem top_zero {rest : List α} (hfirst : ∀ x ∈ e :: rest, key x ≤ key e) :
    top key (e :: rest) 0 = some e := by
  have hall : ((e :: rest).all fun x => decide (key x ≤ key e)) = true := by
    rw [List.all_eq_true]
    exact fun x hx => decide_eq_true (hfirst x hx)
  unfold top tops
  rw [List.filter_cons, if_pos hall]
  simp

end pqueue
