-- Turns that are given by a counter of a fixed width. The place of a call is the remainder of the
-- counter, which starts again when it wraps.
import Mathlib.Data.Int.CardIntervalMod
import Mathlib.Tactic.Common

namespace round_robin

/-- The place of the call `k` when there are `n` places. The counter wraps after `width` calls. -/
def turn (width n k : Nat) : Nat := k % width % n

variable {α : Type*} {width n i j k q r w : Nat}

theorem turn_lt (width k : Nat) (hn : 0 < n) : turn width n k < n := Nat.mod_lt _ hn

/-- The places follow each other, but for the first call after the counter has wrapped. -/
theorem turn_succ (h : ¬ width ∣ k + 1) : turn width n (k + 1) = (turn width n k + 1) % n := by
  have hsucc : (k + 1) % width = k % width + 1 := by
    rcases Nat.eq_zero_or_pos width with rfl | hwidth
    · rw [Nat.mod_zero, Nat.mod_zero]
    · have hne : k % width + 1 ≠ width := by
        intro heq
        refine h (Nat.dvd_of_mod_eq_zero ?_)
        rw [← Nat.mod_add_mod, heq, Nat.mod_self]
      have hlt := Nat.mod_lt k hwidth
      rw [← Nat.mod_add_mod, Nat.mod_eq_of_lt (by omega)]
  unfold turn
  rw [hsucc, Nat.mod_add_mod]

theorem turn_wrap (h : width ∣ k + 1) : turn width n (k + 1) = 0 := by
  unfold turn
  rw [Nat.mod_eq_zero_of_dvd h, Nat.zero_mod]

/-! ## How often a place is visited -/

/-- The visits of the place `i` in the first `k` calls. -/
def visits (width n i k : Nat) : Nat := Nat.count (fun m => turn width n m = i) k

/-- The place has had its turn in the first `r` calls of a round. -/
def served (i r : Nat) : Nat := if i < r then 1 else 0

/-- The calls since the counter has wrapped. -/
theorem count_turn_add (q : Nat) (hi : i < n) (hr : r ≤ width) :
    Nat.count (fun m => turn width n (q * width + m) = i) r = r / n + served i (r % n) := by
  have hmod := Nat.count_modEq_card r (Nat.zero_lt_of_lt hi) i
  rw [Nat.mod_eq_of_lt hi] at hmod
  unfold served
  rw [← hmod, Nat.count_eq_card_filter_range, Nat.count_eq_card_filter_range]
  refine congrArg _ (Finset.filter_congr fun m hm => ?_)
  have hlt : m < width := Nat.lt_of_lt_of_le (Finset.mem_range.mp hm) hr
  unfold turn Nat.ModEq
  rw [Nat.add_comm, Nat.add_mul_mod_self_right, Nat.mod_eq_of_lt hlt, Nat.mod_eq_of_lt hi]

theorem visits_mul (q : Nat) (hi : i < n) :
    visits width n i (q * width) = q * (width / n + served i (width % n)) := by
  induction q with
  | zero => simp [visits]
  | succ q ih =>
    unfold visits at ih ⊢
    rw [Nat.succ_mul, Nat.succ_mul, Nat.count_add, ih, count_turn_add q hi (Nat.le_refl _)]

theorem visits_eq (k : Nat) (hwidth : 0 < width) (hi : i < n) :
    visits width n i k = k / width * (width / n + served i (width % n)) +
      (k % width / n + served i (k % width % n)) := by
  have hle := Nat.le_of_lt (Nat.mod_lt k hwidth)
  have hsplit : visits width n i (k / width * width + k % width) = _ := Nat.count_add _ _ _
  rw [Nat.mul_comm, Nat.div_add_mod] at hsplit
  rw [hsplit, Nat.mul_comm width, count_turn_add _ hi hle]
  exact congrArg (· + _) (visits_mul _ hi)

/-- The visits in a list of calls that are given their turns. -/
theorem visits_add_countP (place : α → Nat) (l : List α) {start : Nat}
    (h : ∀ m a, l[m]? = some a → place a = turn width n (start + m)) :
    visits width n i start + l.countP (fun a => place a = i) =
      visits width n i (start + l.length) := by
  induction l generalizing start with
  | nil => rfl
  | cons a l ih =>
    have hfirst : place a = turn width n start := h 0 a rfl
    have hturns : ∀ m a', l[m]? = some a' → place a' = turn width n (start + 1 + m) := by
      intro m a' ha'
      rw [Nat.add_assoc, Nat.add_comm 1]
      exact h (m + 1) a' ha'
    have hrest := ih hturns
    have hsucc : visits width n i (start + 1) =
        visits width n i start + if turn width n start = i then 1 else 0 := Nat.count_succ ..
    rw [hsucc] at hrest
    rw [List.length_cons, List.countP_cons, hfirst, Nat.add_comm l.length, ← Nat.add_assoc start,
      ← hrest]
    simp only [decide_eq_true_eq]
    omega

/-- The earlier one of two places has had its turn whenever the later one has. -/
theorem served_le (hij : i ≤ j) (r : Nat) :
    served j r ≤ served i r ∧ served i r ≤ served j r + 1 := by
  unfold served
  split_ifs <;> omega

/-- In a stretch of calls in which the counter wraps `w` times at most, no place is visited more
than `w + 1` times as often again as another one. -/
theorem visits_balanced (hwidth : 0 < width) (hi : i < n) (hj : j < n) {start len : Nat}
    (hend : start + len ≤ (start / width + w + 1) * width) :
    visits width n i (start + len) + visits width n j start ≤
      visits width n j (start + len) + visits width n i start + (w + 1) := by
  have hle : start / width ≤ (start + len) / width := Nat.div_le_div_right (Nat.le_add_right ..)
  -- the last period is not begun when the counter wraps at the end of the stretch
  have hperiods : (start + len) / width ≤ start / width + w ∨
      (start + len) / width = start / width + w + 1 ∧ (start + len) % width = 0 := by
    rcases Nat.lt_or_eq_of_le hend with hlt | heq
    · exact .inl (Nat.le_of_lt_succ ((Nat.div_lt_iff_lt_mul hwidth).mpr hlt))
    · rw [heq, Nat.mul_div_cancel _ hwidth, Nat.mul_mod_left]
      exact .inr ⟨rfl, rfl⟩
  have hzero : ∀ i, served i 0 = 0 := fun i => if_neg (Nat.not_lt_zero i)
  rw [visits_eq (start + len) hwidth hi, visits_eq (start + len) hwidth hj,
    visits_eq start hwidth hi, visits_eq start hwidth hj]
  generalize (start + len) / width = qb at *
  generalize start / width = qa at *
  generalize (start + len) % width = rb at *
  generalize start % width = ra at *
  obtain ⟨d, rfl⟩ := Nat.exists_eq_add_of_le hle
  -- what the rounds of the later periods add
  have hrounds : ∀ c, served i (width % n) ≤ served j (width % n) + c →
      d * served i (width % n) ≤ d * served j (width % n) + d * c := fun c hc => by
    rw [← Nat.mul_add]
    exact Nat.mul_le_mul_left d hc
  simp only [Nat.add_mul, Nat.mul_add]
  rcases Nat.le_total i j with hij | hji
  · have hround := hrounds 1 (served_le hij _).2
    have hend := (served_le hij (rb % n)).2
    have hstart := (served_le hij (ra % n)).1
    rcases hperiods with hd | ⟨hd, rfl⟩
    · omega
    · rw [Nat.zero_mod, hzero, hzero]
      omega
  · have hround := hrounds 0 (served_le hji _).1
    have hend := (served_le hji (rb % n)).1
    have hstart := (served_le hji (ra % n)).2
    omega

end round_robin
