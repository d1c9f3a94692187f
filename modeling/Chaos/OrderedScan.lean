-- Lists with keys that go up. A filter by a bound on the key is a prefix or a suffix of such a
-- list, so that a scan can go on from the last key that it has seen.
import Mathlib.Algebra.Order.Ring.Int
import Mathlib.Data.List.Basic

namespace ordered_scan

variable {α β : Type*} [LinearOrder β] (key : α → β)

/-- The keys go up from each element to the next. -/
def Ascending (l : List α) : Prop := l.Pairwise fun x y => key x < key y

variable {key} {l : List α}

theorem Ascending.filter (h : Ascending key l) (p : α → Bool) : Ascending key (l.filter p) :=
  List.Pairwise.filter p h

/-- Keys that go up between two bounds are no more than there are numbers. -/
theorem Ascending.length_lt {key : α → Int} {l : List α} (h : Ascending key l) {a b : Int}
    (hab : a < b) (hlow : ∀ x ∈ l, a < key x) (hhigh : ∀ x ∈ l, key x < b) : a + l.length < b := by
  induction l generalizing a with
  | nil => simpa using hab
  | cons x xs ih =>
    obtain ⟨hx, hxs⟩ := List.pairwise_cons.mp h
    obtain ⟨hxb, hhigh⟩ := List.forall_mem_cons.mp hhigh
    have hax := hlow x List.mem_cons_self
    have hrest := ih hxs hxb hx hhigh
    rw [List.length_cons, Int.natCast_succ]
    omega

/-- The elements up to a bound are the first ones. -/
theorem filter_le_eq_take (h : Ascending key l) (b : β) :
    l.filter (fun x => decide (key x ≤ b)) =
      l.take (l.filter fun x => decide (key x ≤ b)).length := by
  induction l with
  | nil => rfl
  | cons x xs ih =>
    obtain ⟨hx, hxs⟩ := List.pairwise_cons.mp h
    by_cases hb : key x ≤ b
    · rw [List.filter_cons_of_pos (by simpa using hb), List.length_cons, List.take_succ_cons,
        ← ih hxs]
    · have hnone : (x :: xs).filter (fun x => decide (key x ≤ b)) = [] := by
        rw [List.filter_eq_nil_iff]
        intro y hy
        rcases List.mem_cons.mp hy with rfl | hy
        · simpa using hb
        · simpa using lt_trans (not_le.mp hb) (hx y hy)
      rw [hnone]
      rfl

/-- The elements after the one at place `k` are those with a larger key. -/
theorem filter_gt_eq_drop (h : Ascending key l) {k : Nat} {x : α} (hx : l[k]? = some x) :
    l.filter (fun y => decide (key x < key y)) = l.drop (k + 1) := by
  induction l generalizing k with
  | nil => simp at hx
  | cons y ys ih =>
    obtain ⟨hy, hys⟩ := List.pairwise_cons.mp h
    cases k with
    | zero =>
      cases hx
      rw [List.filter_cons_of_neg (by simp), List.drop_succ_cons, List.drop_zero]
      exact List.filter_eq_self.mpr fun z hz => by simpa using hy z hz
    | succ k =>
      have hmem : x ∈ ys := List.mem_of_getElem? hx
      rw [List.filter_cons_of_neg (by simpa using (hy x hmem).le), List.drop_succ_cons]
      exact ih hys hx

end ordered_scan
