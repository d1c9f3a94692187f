-- Texts that are split at separators. With compression a run of separators counts as one.
import Mathlib.Algebra.Order.Ring.Int
import Mathlib.Data.List.Basic
import Mathlib.Tactic.Common

namespace tokens

variable {α : Type*} {p : α → Bool} {cs : List α}

/-- No token has a separator. -/
theorem of_mem_splitOnP {w : List α} (hw : w ∈ cs.splitOnP p) : ∀ c ∈ w, p c = false := by
  induction cs generalizing w with
  | nil =>
    rw [List.splitOnP_nil, List.mem_singleton] at hw
    simp [hw]
  | cons c cs ih =>
    obtain ⟨r, rs, hr⟩ := List.exists_cons_of_ne_nil (List.splitOnP_ne_nil p cs)
    rw [List.splitOnP_cons_eq_if_modifyHead] at hw
    split at hw
    · rcases List.mem_cons.mp hw with rfl | hw
      · exact fun _ h => absurd h List.not_mem_nil
      · exact ih hw
    · rename_i hc
      rw [hr, List.modifyHead_cons] at hw
      rcases List.mem_cons.mp hw with rfl | hw
      · intro d hd
        rcases List.mem_cons.mp hd with rfl | hd
        · exact Bool.eq_false_iff.mpr hc
        · exact ih (hr ▸ List.mem_cons_self) d hd
      · exact ih (hr ▸ List.mem_cons_of_mem _ hw)

/-- No token has the separator. -/
theorem not_mem_of_mem_splitOn [DecidableEq α] {a : α} {w : List α} (hw : w ∈ cs.splitOn a) :
    a ∉ w := by
  intro ha
  rw [List.splitOn_eq_splitOnP] at hw
  simpa using of_mem_splitOnP hw a ha

/-- The tokens and the separators between them make up the text. -/
theorem sum_length_splitOnP (p : α → Bool) (cs : List α) :
    ((cs.splitOnP p).map List.length).sum + (cs.splitOnP p).length = cs.length + 1 := by
  induction cs with
  | nil => rfl
  | cons c cs ih =>
    obtain ⟨r, rs, hr⟩ := List.exists_cons_of_ne_nil (List.splitOnP_ne_nil p cs)
    rw [List.splitOnP_cons_eq_if_modifyHead]
    rw [hr] at ih ⊢
    simp only [List.map_cons, List.sum_cons, List.length_cons] at ih ⊢
    split
    · simp only [List.map_cons, List.sum_cons, List.length_cons, List.length_nil]
      omega
    · simp only [List.modifyHead_cons, List.map_cons, List.sum_cons, List.length_cons]
      omega

/-! ## Compression -/

/-- Of a run of separators the last one stays. -/
def collapse (p : α → Bool) : List α → List α
  | [] => []
  | c :: cs => if p c && cs.head?.any p then collapse p cs else c :: collapse p cs

/-- The tokens of a text, where a run of separators counts as one. -/
def split (p : α → Bool) (cs : List α) : List (List α) := (collapse p cs).splitOnP p

theorem split_ne_nil (p : α → Bool) (cs : List α) : split p cs ≠ [] := List.splitOnP_ne_nil p _

theorem length_collapse_le (p : α → Bool) (cs : List α) :
    (collapse p cs).length ≤ cs.length := by
  induction cs with
  | nil => exact Nat.le_refl _
  | cons c cs ih =>
    unfold collapse
    split
    · exact Nat.le_succ_of_le ih
    · exact Nat.succ_le_succ ih

/-- Compression only makes the tokens and the separators fewer. -/
theorem sum_length_split_le (p : α → Bool) (cs : List α) :
    ((split p cs).map List.length).sum + (split p cs).length ≤ cs.length + 1 := by
  rw [split, sum_length_splitOnP]
  exact Nat.succ_le_succ (length_collapse_le p cs)

variable {w : List α}

/-- What has no separator stays. -/
theorem collapse_append (hw : ∀ c ∈ w, p c = false) (cs : List α) :
    collapse p (w ++ cs) = w ++ collapse p cs := by
  induction w with
  | nil => rfl
  | cons c w ih =>
    rw [List.cons_append, collapse, hw c List.mem_cons_self, Bool.false_and, if_neg (by decide),
      ih fun d hd => hw d (List.mem_cons_of_mem _ hd), List.cons_append]

/-- A text without a separator is one token. -/
theorem split_of_free (hw : ∀ c ∈ w, p c = false) : split p w = [w] := by
  have hcollapse := collapse_append hw []
  rw [List.append_nil, collapse, List.append_nil] at hcollapse
  rw [split, hcollapse, List.splitOnP_eq_singleton hw]

/-- A token comes to its end at a separator that no other one follows. -/
theorem split_append_cons (hw : ∀ c ∈ w, p c = false) {sep : α} (hsep : p sep = true)
    {cs : List α} (hcs : cs.head?.any p = false) :
    split p (w ++ sep :: cs) = w :: split p cs := by
  rw [split, collapse_append hw, collapse, hsep, hcs, Bool.true_and, if_neg (by decide),
    List.splitOnP_append_cons_of_forall_mem hw sep hsep, split]

end tokens
