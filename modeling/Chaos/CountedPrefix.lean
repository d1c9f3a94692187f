-- The shortest prefix of a list that holds a number of elements with a property, as a loop
-- takes it off the front of a queue while it counts these elements down.
import Mathlib.Data.List.Induction

namespace counted_prefix

variable {α : Type*} {p : α → Bool} {l : List α}

/-- The shortest prefix with `n` elements that satisfy `p`, or the whole list where it has
fewer. -/
def takeCounting (p : α → Bool) : Nat → List α → List α
  | 0, _ => []
  | _ + 1, [] => []
  | n + 1, a :: l => a :: takeCounting p (if p a then n else n + 1) l

@[simp] theorem takeCounting_zero (l : List α) : takeCounting p 0 l = [] := by
  cases l <;> rfl

@[simp] theorem takeCounting_nil (n : Nat) : takeCounting p n [] = [] := by
  cases n <;> rfl

theorem takeCounting_isPrefix (n : Nat) (l : List α) : takeCounting p n l <+: l := by
  induction l generalizing n with
  | nil => simp
  | cons a l ih =>
    cases n with
    | zero => simp
    | succ n => exact (List.prefix_cons_inj a).mpr (ih _)

theorem takeCounting_append_drop (n : Nat) (l : List α) :
    takeCounting p n l ++ l.drop (takeCounting p n l).length = l :=
  (List.prefix_iff_eq_append.mp (takeCounting_isPrefix n l))

/-- The elements with the property in the prefix are the first `n` ones of the list. -/
theorem filter_takeCounting (n : Nat) (l : List α) :
    (takeCounting p n l).filter p = (l.filter p).take n := by
  induction l generalizing n with
  | nil => simp
  | cons a l ih =>
    cases n with
    | zero => simp
    | succ n =>
      by_cases ha : p a = true
      · simp [takeCounting, ha, ih]
      · simp [takeCounting, ha, ih]

/-- A list with no duplicates reads the same backwards only where it has at most one element. -/
theorem reverse_eq_self_iff (h : l.Nodup) : l.reverse = l ↔ l.length ≤ 1 := by
  constructor
  · intro hrev
    match l, h with
    | [], _ => simp
    | [a], _ => simp
    | a :: b :: rest, h =>
      have hlast : a ∈ (b :: rest) := by
        have hhead : (a :: b :: rest).reverse.head? = some a := by rw [hrev]; rfl
        rw [List.head?_reverse, List.getLast?_cons_cons] at hhead
        exact List.mem_of_getLast? hhead
      exact absurd hlast (List.nodup_cons.mp h).1
  · intro hlen
    match l, hlen with
    | [], _ => rfl
    | [a], _ => rfl

/-- Where a loop drops elements off the back of a list, up to the first one without the property,
it drops all the elements with the property just when none of them stands before another one. -/
theorem reverse_dropWhile_eq_filter_iff (l : List α) :
    (l.reverse.dropWhile p).reverse = l.filter (fun a => !p a) ↔
      l.Pairwise fun a b => p a = true → p b = true := by
  induction l using List.reverseRecOn with
  | nil => simp
  | append_singleton l a ih =>
    rw [List.reverse_append, List.reverse_singleton, List.singleton_append, List.pairwise_append]
    by_cases ha : p a = true
    · simp [ha, ih]
    · have hstop : (a :: l.reverse).dropWhile p = a :: l.reverse := List.dropWhile_cons_of_neg ha
      have hall : l ++ [a] = (l ++ [a]).filter (fun b => !p b) ↔ ∀ b ∈ l, p b = false := by
        rw [eq_comm, List.filter_eq_self]
        simp [or_imp, forall_and, ha]
      rw [hstop, List.reverse_cons, List.reverse_reverse, hall]
      constructor
      · intro hnone
        refine ⟨List.pairwise_of_forall_mem_list fun b hb c _ hpb => ?_, by simp, ?_⟩
        · simp [hnone b hb] at hpb
        · intro b hb c _ hpb
          simp [hnone b hb] at hpb
      · rintro ⟨-, -, hlast⟩ b hb
        by_contra hpb
        exact ha (hlast b hb a List.mem_cons_self (by simpa using hpb))

end counted_prefix
