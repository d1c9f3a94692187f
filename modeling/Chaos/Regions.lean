-- Regions of memory and how an allocator cuts them up. The regions that are in no use and the
-- ones in use are one list, and an operation that moves a region keeps the list but its order.
import Mathlib.Algebra.Order.Group.Multiset
import Mathlib.Data.List.Nodup

namespace regions

/-- The addresses from `start` on, `size` of them. -/
structure Region where
  start : Nat
  size : Nat
  deriving DecidableEq

/-- No address is in both regions. -/
def Region.Apart (a b : Region) : Prop :=
  a.size = 0 ∨ b.size = 0 ∨ a.start + a.size ≤ b.start ∨ b.start + b.size ≤ a.start

/-- The addresses of the region are from `low` on and below `high`. -/
def Region.Within (r : Region) (low high : Nat) : Prop :=
  r.size = 0 ∨ low ≤ r.start ∧ r.start + r.size ≤ high

instance (a b : Region) : Decidable (a.Apart b) := inferInstanceAs (Decidable (_ ∨ _))

instance (r : Region) (low high : Nat) : Decidable (r.Within low high) :=
  inferInstanceAs (Decidable (_ ∨ _))

theorem Region.Apart.symm {a b : Region} (h : a.Apart b) : b.Apart a := by
  unfold Region.Apart at *
  omega

theorem Region.Within.mono {r : Region} {low low' high high' : Nat} (h : r.Within low high)
    (hlow : low' ≤ low) (hhigh : high ≤ high') : r.Within low' high' := by
  unfold Region.Within at *
  omega

/-- A part of a region lies where the region lies. -/
theorem Region.Within.part {r : Region} {start size low high : Nat}
    (h : Region.Within ⟨start, size⟩ low high) (hr : r.Within start (start + size)) :
    r.Within low high := by
  unfold Region.Within at *
  dsimp only at h
  omega

/-- A part of a region is apart from what the region is apart from. -/
theorem Region.Apart.part {r r' : Region} {start size : Nat} (h : Region.Apart ⟨start, size⟩ r')
    (hr : r.Within start (start + size)) : r.Apart r' := by
  unfold Region.Within Region.Apart at *
  dsimp only at h
  omega

/-- A region below an address is apart from a region that starts there. -/
theorem Region.Within.apart {a b : Region} {low mid high : Nat} (ha : a.Within low mid)
    (hb : b.Within mid high) : a.Apart b := by
  unfold Region.Within Region.Apart at *
  omega

/-! ## Cutting a page -/

/-- The `n` regions of one size that follow each other from `start` on. -/
def carve (start size : Nat) : Nat → List Region
  | 0 => []
  | n + 1 => ⟨start, size⟩ :: carve (start + size) size n

theorem within_of_mem_carve {start size n : Nat} {r : Region} (h : r ∈ carve start size n) :
    r.Within start (start + size * n) := by
  induction n generalizing start with
  | zero => cases h
  | succ n ih =>
    have hmul : size * (n + 1) = size * n + size := Nat.mul_succ size n
    rcases List.mem_cons.mp h with rfl | h
    · refine Or.inr ⟨Nat.le_refl _, ?_⟩
      show start + size ≤ _
      omega
    · rcases ih h with h0 | ⟨hlow, hhigh⟩
      · exact Or.inl h0
      · refine Or.inr ⟨by omega, by omega⟩

theorem pairwise_carve (start size n : Nat) : (carve start size n).Pairwise Region.Apart := by
  induction n generalizing start with
  | zero => exact List.Pairwise.nil
  | succ n ih =>
    refine List.pairwise_cons.mpr ⟨?_, ih (start + size)⟩
    intro r hr
    have hfirst : Region.Within ⟨start, size⟩ start (start + size) :=
      Or.inr ⟨Nat.le_refl _, Nat.le_refl _⟩
    exact hfirst.apart (within_of_mem_carve hr)

/-- New regions above all the others. -/
theorem pairwise_append_above {new old : List Region} {low mid high : Nat}
    (hnew : new.Pairwise Region.Apart) (hold : old.Pairwise Region.Apart)
    (hnew' : ∀ r ∈ new, r.Within mid high) (hold' : ∀ r ∈ old, r.Within low mid) :
    (new ++ old).Pairwise Region.Apart := by
  refine List.pairwise_append.mpr ⟨hnew, hold, ?_⟩
  intro a ha b hb
  exact ((hold' b hb).apart (hnew' a ha)).symm

theorem pairwise_of_perm {l l' : List Region} (h : l.Pairwise Region.Apart) (hperm : l.Perm l') :
    l'.Pairwise Region.Apart :=
  (hperm.pairwise_iff Region.Apart.symm).mp h

/-! ## Tables of owners -/

section

variable {σ β : Type*} (f : σ → List β) (table : Nat → σ) {ids : List Nat} {i : Nat}

/-- One owner of the table changes: what it had and what it has now is the difference. -/
theorem flatMap_update_perm (hnodup : ids.Nodup) (hi : i ∈ ids) (x : σ) :
    ((ids.flatMap fun j => f (Function.update table i x j)) ++ f (table i)).Perm
      ((ids.flatMap fun j => f (table j)) ++ f x) := by
  induction ids with
  | nil => cases hi
  | cons j js ih =>
    obtain ⟨hj, hjs⟩ := List.nodup_cons.mp hnodup
    rw [List.flatMap_cons, List.flatMap_cons]
    by_cases heq : j = i
    · subst heq
      have hrest : (js.flatMap fun k => f (Function.update table j x k)) =
          js.flatMap fun k => f (table k) := by
        refine List.flatMap_congr fun k hk => ?_
        rw [Function.update_of_ne]
        rintro rfl
        exact hj hk
      rw [hrest, Function.update_self]
      refine List.perm_append_comm.trans ?_
      rw [List.append_assoc]
      exact List.Perm.append_left _ List.perm_append_comm
    · have hmem : i ∈ js := (List.mem_cons.mp hi).resolve_left (Ne.symm heq)
      rw [Function.update_of_ne heq, List.append_assoc, List.append_assoc]
      exact (ih hjs hmem).append_left _

variable {f} {table}

/-- What an owner gives away is taken, and what it gets was taken before. -/
theorem exchange_perm (hnodup : ids.Nodup) (hi : i ∈ ids) {x : σ} {taken taken' : List β}
    (h : (taken' ++ f x).Perm (taken ++ f (table i))) :
    (taken' ++ ids.flatMap fun j => f (Function.update table i x j)).Perm
      (taken ++ ids.flatMap fun j => f (table j)) := by
  have hdiff := flatMap_update_perm f table hnodup hi x
  simp only [← Multiset.coe_eq_coe, ← Multiset.coe_add] at h hdiff ⊢
  refine add_right_cancel (b := (f (table i) : Multiset β)) ?_
  rw [add_assoc, hdiff, add_left_comm, h]
  exact (add_left_comm _ _ _).trans (add_assoc _ _ _).symm

end

end regions
