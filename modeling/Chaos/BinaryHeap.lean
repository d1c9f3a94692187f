-- A binary heap in an array, largest key first, with the moves of `std::push_heap` and
-- `std::pop_heap`. The keys are read when an element moves: an element whose key changes
-- while it is in the array stays where it is.
import Mathlib.Data.List.Perm.Basic
import Mathlib.Order.Lattice
import Mathlib.Tactic.Common

open List

namespace heap

variable {α κ : Type*} [LinearOrder κ]

/-! ## The array -/

def parent (i : Nat) : Nat := (i - 1) / 2

/-- The positions between a position and the root. -/
def ancestors : Nat → Nat → List Nat
  | 0, _ => []
  | fuel + 1, i => if 0 < i then parent i :: ancestors fuel (parent i) else []

/-- No element has a larger key than its parent. -/
def Ordered (key : α → κ) (h : List α) : Prop :=
  ∀ (i : Nat) a b, 0 < i → h[parent i]? = some a → h[i]? = some b → key b ≤ key a

/-- The value goes up from the hole, past each parent with a smaller key. -/
def siftUp (key : α → κ) (x : α) : Nat → Nat → List α → List α
  | 0, hole, h => h.set hole x
  | fuel + 1, hole, h =>
    match h[parent hole]? with
    | none => h.set hole x
    | some p =>
      if 0 < hole ∧ key p < key x then siftUp key x fuel (parent hole) (h.set hole p)
      else h.set hole x

/-- The child of a position with the larger key. -/
def largerChild (key : α → κ) (h : List α) (i : Nat) : Option (Nat × α) :=
  match h[2 * i + 1]?, h[2 * i + 2]? with
  | none, _ => none
  | some a, none => some (2 * i + 1, a)
  | some a, some b => if key b < key a then some (2 * i + 1, a) else some (2 * i + 2, b)

/-- The value goes down from the hole, past each child with a larger key. -/
def siftDown (key : α → κ) (x : α) : Nat → Nat → List α → List α
  | 0, hole, h => h.set hole x
  | fuel + 1, hole, h =>
    match largerChild key h hole with
    | none => h.set hole x
    | some (c, e) =>
      if key x < key e then siftDown key x fuel c (h.set hole e) else h.set hole x

def push (key : α → κ) (h : List α) (x : α) : List α :=
  siftUp key x h.length h.length (h ++ [x])

/-- The last element takes the place of the first one, and goes down from there. -/
def pop (key : α → κ) (h : List α) : List α :=
  match h.getLast? with
  | none => []
  | some x => siftDown key x h.dropLast.length 0 h.dropLast

/-- The elements in the order in which they are popped. -/
def drain (key : α → κ) : Nat → List α → List α
  | fuel + 1, a :: as => a :: drain key fuel (pop key (a :: as))
  | _, _ => []

theorem parent_lt {i : Nat} (h : 0 < i) : parent i < i := by
  unfold parent
  omega

theorem lt_of_mem_ancestors {fuel i k : Nat} (h : k ∈ ancestors fuel i) : k < i := by
  induction fuel generalizing i with
  | zero => cases h
  | succ fuel ih =>
    unfold ancestors at h
    split_ifs at h with hpos
    · rcases List.mem_cons.mp h with rfl | h
      · exact parent_lt hpos
      · exact Nat.lt_trans (ih h) (parent_lt hpos)
    · cases h

/-! ## The elements stay -/

theorem set_set_perm_set {h : List α} {i j : Nat} {e x : α} (hi : i < h.length) (hij : i ≠ j)
    (he : h[j]? = some e) : (h.set i e).set j x ~ h.set i x := by
  obtain ⟨hj, rfl⟩ := List.getElem?_eq_some_iff.mp he
  have hperm := List.set_set_perm (show i < (h.set i x).length by simpa using hi)
    (show j < (h.set i x).length by simpa using hj)
  simpa [List.getElem_set_ne hij] using hperm

theorem siftUp_perm {key : α → κ} {x : α} {fuel hole : Nat} {h : List α}
    (hlt : hole < h.length) : siftUp key x fuel hole h ~ h.set hole x := by
  induction fuel generalizing hole h with
  | zero => exact .refl _
  | succ fuel ih =>
    unfold siftUp
    split
    · exact .refl _
    · rename_i p hp
      split_ifs with hmove
      · have hlen := parent_lt hmove.1
        refine (ih (by simpa using Nat.lt_trans hlen hlt)).trans ?_
        exact set_set_perm_set hlt (Nat.ne_of_gt hlen) hp
      · exact .refl _

theorem push_perm {key : α → κ} {h : List α} {x : α} : push key h x ~ x :: h := by
  unfold push
  refine (siftUp_perm (by simp)).trans ?_
  rw [List.set_append_right _ _ (Nat.le_refl _)]
  simp

theorem largerChild_some {key : α → κ} {h : List α} {i c : Nat} {e : α}
    (hc : largerChild key h i = some (c, e)) :
    (c = 2 * i + 1 ∨ c = 2 * i + 2) ∧ h[c]? = some e ∧
      ∀ (j : Nat) b, 0 < j → parent j = i → h[j]? = some b → key b ≤ key e := by
  have hchild : ∀ j, 0 < j → parent j = i → j = 2 * i + 1 ∨ j = 2 * i + 2 := by
    unfold parent
    omega
  unfold largerChild at hc
  split at hc
  · cases hc
  · rename_i a ha hb
    cases hc
    refine ⟨.inl rfl, ha, ?_⟩
    intro j b hj hp hjb
    rcases hchild j hj hp with rfl | rfl <;> simp_all
  · rename_i a b ha hb
    split_ifs at hc with hlt <;> cases hc
    · refine ⟨.inl rfl, ha, ?_⟩
      intro j b' hj hp hjb
      rcases hchild j hj hp with rfl | rfl
      · simp_all
      · rw [hb] at hjb
        cases hjb
        exact hlt.le
    · refine ⟨.inr rfl, hb, ?_⟩
      intro j b' hj hp hjb
      rcases hchild j hj hp with rfl | rfl
      · rw [ha] at hjb
        cases hjb
        exact not_lt.mp hlt
      · simp_all

theorem largerChild_none {key : α → κ} {h : List α} {i : Nat}
    (hc : largerChild key h i = none) : h.length ≤ 2 * i + 1 := by
  unfold largerChild at hc
  split at hc
  · rename_i ha
    exact List.getElem?_eq_none_iff.mp ha
  · cases hc
  · split_ifs at hc

theorem siftDown_perm {key : α → κ} {x : α} {fuel hole : Nat} {h : List α}
    (hlt : hole < h.length) : siftDown key x fuel hole h ~ h.set hole x := by
  induction fuel generalizing hole h with
  | zero => exact .refl _
  | succ fuel ih =>
    unfold siftDown
    split
    · exact .refl _
    · rename_i c e hc
      obtain ⟨hchild, he, -⟩ := largerChild_some hc
      split_ifs
      · obtain ⟨hclt, -⟩ := List.getElem?_eq_some_iff.mp he
        refine (ih (by simpa using hclt)).trans ?_
        exact set_set_perm_set hlt (by omega) he
      · exact .refl _

theorem pop_perm {key : α → κ} {a : α} {as : List α} : pop key (a :: as) ~ as := by
  unfold pop
  rcases List.eq_nil_or_concat as with rfl | ⟨bs, b, rfl⟩
  · exact .refl _
  · rw [List.concat_eq_append, ← List.cons_append]
    simp only [List.getLast?_concat, List.dropLast_concat]
    refine (siftDown_perm (by simp)).trans ?_
    simpa using (List.perm_append_singleton b bs).symm

theorem drain_perm {key : α → κ} {fuel : Nat} {h : List α} (hfuel : h.length ≤ fuel) :
    drain key fuel h ~ h := by
  induction fuel generalizing h with
  | zero =>
    rw [List.length_eq_zero_iff.mp (Nat.le_zero.mp hfuel)]
    exact .refl _
  | succ fuel ih =>
    cases h with
    | nil => exact .refl _
    | cons a as =>
      have hpop : pop key (a :: as) ~ as := pop_perm
      refine .cons a ((ih ?_).trans hpop)
      rw [hpop.length_eq]
      exact Nat.le_of_succ_le_succ hfuel

theorem foldl_push_perm {key : α → κ} {xs h : List α} : xs.foldl (push key) h ~ xs ++ h := by
  induction xs generalizing h with
  | nil => exact .refl _
  | cons x xs ih => exact (ih.trans (push_perm.append_left xs)).trans List.perm_middle

/-! ## The order -/

/-- Every pair that the hole is not part of is in order, and so are the children of the hole
with its parent and with the value that goes up. -/
structure Rising (key : α → κ) (x : α) (hole : Nat) (h : List α) : Prop where
  apart : ∀ (i : Nat) a b, 0 < i → i ≠ hole → parent i ≠ hole → h[parent i]? = some a →
    h[i]? = some b → key b ≤ key a
  across : ∀ (i : Nat) a b, 0 < hole → 0 < i → parent i = hole → h[parent hole]? = some a →
    h[i]? = some b → key b ≤ key a
  below : ∀ (i : Nat) b, 0 < i → parent i = hole → h[i]? = some b → key b ≤ key x

/-- The same for a value that goes down: it is in order with the parent of the hole. -/
structure Sinking (key : α → κ) (x : α) (hole : Nat) (h : List α) : Prop where
  apart : ∀ (i : Nat) a b, 0 < i → i ≠ hole → parent i ≠ hole → h[parent i]? = some a →
    h[i]? = some b → key b ≤ key a
  across : ∀ (i : Nat) a b, 0 < hole → 0 < i → parent i = hole → h[parent hole]? = some a →
    h[i]? = some b → key b ≤ key a
  above : ∀ a, 0 < hole → h[parent hole]? = some a → key x ≤ key a

theorem getElem?_set_of_ne {h : List α} {i j : Nat} {a : α} (hne : i ≠ j) :
    (h.set j a)[i]? = h[i]? :=
  List.getElem?_set_ne (Ne.symm hne)

theorem eq_of_set_self {h : List α} {i : Nat} {x b : α} (hb : (h.set i x)[i]? = some b) :
    b = x := by
  rw [List.getElem?_set, if_pos rfl] at hb
  split_ifs at hb
  exact (Option.some.inj hb).symm

/-- The value that is above goes down into the hole, and the hole goes up. -/
theorem Rising.move {key : α → κ} {x p : α} {hole : Nat} {h : List α}
    (o : Rising key x hole h) (hlt : hole < h.length) (hpos : 0 < hole)
    (hp : h[parent hole]? = some p) (hle : key p ≤ key x) :
    Rising key x (parent hole) (h.set hole p) := by
  have hup := parent_lt hpos
  have hplaced : (h.set hole p)[hole]? = some p := List.getElem?_set_self hlt
  -- the children of the new hole are the old hole and its sibling, which `p` was in order with
  have hbelow : ∀ (i : Nat) b, 0 < i → parent i = parent hole → (h.set hole p)[i]? = some b →
      key b ≤ key p := by
    intro i b hi hpi hb
    by_cases hih : i = hole
    · subst hih
      rw [hplaced] at hb
      cases hb
      exact le_rfl
    · rw [getElem?_set_of_ne hih] at hb
      refine o.apart i p b hi hih ?_ ?_ hb
      · rw [hpi]
        exact Nat.ne_of_lt hup
      · rw [hpi, hp]
  constructor
  · intro i a b hi hne hpne ha hb
    have hih : i ≠ hole := by
      rintro rfl
      exact hpne rfl
    rw [getElem?_set_of_ne hih] at hb
    by_cases hph : parent i = hole
    · rw [hph, hplaced] at ha
      cases ha
      exact o.across i p b hpos hi hph hp hb
    · rw [getElem?_set_of_ne hph] at ha
      exact o.apart i a b hi hih hph ha hb
  · intro i a b hpos' hi hpi ha hb
    have hup' := parent_lt hpos'
    rw [getElem?_set_of_ne (by omega)] at ha
    exact (hbelow i b hi hpi hb).trans
      (o.apart (parent hole) a p hpos' (by omega) (by omega) ha hp)
  · intro i b hi hpi hb
    exact (hbelow i b hi hpi hb).trans hle

/-- Putting the value into the hole restores the order when it is in order with the parent. -/
theorem Rising.finish {key : α → κ} {x : α} {hole : Nat} {h : List α} (o : Rising key x hole h)
    (habove : ∀ a, 0 < hole → h[parent hole]? = some a → key x ≤ key a) :
    Ordered key (h.set hole x) := by
  intro i a b hi ha hb
  have hup := parent_lt hi
  by_cases hih : i = hole
  · subst hih
    rw [getElem?_set_of_ne (by omega)] at ha
    rw [eq_of_set_self hb]
    exact habove a hi ha
  · rw [getElem?_set_of_ne hih] at hb
    by_cases hph : parent i = hole
    · rw [hph] at ha
      rw [eq_of_set_self ha]
      exact o.below i b hi hph hb
    · rw [getElem?_set_of_ne hph] at ha
      exact o.apart i a b hi hih hph ha hb

/-- The value goes up by its key `f`. The result is in order for other keys `g` when these
compare the value in the same way with each element on its path. -/
theorem Rising.siftUp {f g : α → κ} {x : α} {fuel hole : Nat} {h : List α}
    (o : Rising g x hole h) (hlt : hole < h.length) (hfuel : hole ≤ fuel)
    (hpath : ∀ k ∈ ancestors fuel hole, ∀ a, h[k]? = some a →
      (f a < f x → g a ≤ g x) ∧ (f x ≤ f a → g x ≤ g a)) :
    Ordered g (siftUp f x fuel hole h) := by
  induction fuel generalizing hole h with
  | zero => exact o.finish fun a hpos => by omega
  | succ fuel ih =>
    unfold heap.siftUp
    split
    · rename_i hnone
      refine o.finish fun a hpos ha => ?_
      rw [hnone] at ha
      cases ha
    · rename_i p hp
      have hkeys : 0 < hole → (f p < f x → g p ≤ g x) ∧ (f x ≤ f p → g x ≤ g p) := by
        intro hpos
        refine hpath (parent hole) ?_ p hp
        simp [ancestors, hpos]
      split_ifs with hmove
      · obtain ⟨hpos, hless⟩ := hmove
        have hup := parent_lt hpos
        refine ih (o.move hlt hpos hp ((hkeys hpos).1 hless)) (by simp; omega) (by omega) ?_
        intro k hk a ha
        have hne : k ≠ hole := by
          have hklt := lt_of_mem_ancestors hk
          omega
        rw [getElem?_set_of_ne hne] at ha
        refine hpath k ?_ a ha
        rw [ancestors, if_pos hpos]
        exact List.mem_cons_of_mem _ hk
      · refine o.finish fun a hpos ha => ?_
        rw [hp] at ha
        cases ha
        exact (hkeys hpos).2 (not_lt.mp fun hless => hmove ⟨hpos, hless⟩)

/-- The order looks only at the keys of the elements. -/
theorem Ordered.congr {f g : α → κ} {h : List α} (ho : Ordered f h) (hkeys : ∀ a ∈ h, f a = g a) :
    Ordered g h := by
  intro i a b hi ha hb
  rw [← hkeys a (List.mem_of_getElem? ha), ← hkeys b (List.mem_of_getElem? hb)]
  exact ho i a b hi ha hb

/-- An element that is pushed by its key `f` is in order by its key `g`. -/
theorem ordered_push_of_path {f g : α → κ} {h : List α} {x : α} (ho : Ordered g h)
    (hpath : ∀ k ∈ ancestors h.length h.length, ∀ a, h[k]? = some a →
      (f a < f x → g a ≤ g x) ∧ (f x ≤ f a → g x ≤ g a)) : Ordered g (push f h x) := by
  have hold : ∀ {i : Nat} {a : α}, i ≠ h.length → (h ++ [x])[i]? = some a → h[i]? = some a := by
    intro i a hne ha
    rw [List.getElem?_append] at ha
    split_ifs at ha
    · exact ha
    · rw [List.getElem?_eq_none (by simp; omega)] at ha
      cases ha
  -- the hole is the new last position, which has no children
  have hleaf : ∀ {i : Nat} {b : α}, 0 < i → parent i = h.length → (h ++ [x])[i]? = some b →
      False := by
    intro i b hi hpi hb
    have hlt := (List.getElem?_eq_some_iff.mp hb).1
    have hup := parent_lt hi
    rw [List.length_append, List.length_singleton] at hlt
    omega
  refine Rising.siftUp ⟨?_, ?_, ?_⟩ (by simp) (Nat.le_refl _) ?_
  · intro i a b hi hne hpne ha hb
    exact ho i a b hi (hold hpne ha) (hold hne hb)
  · intro i a b _ hi hpi _ hb
    exact (hleaf hi hpi hb).elim
  · intro i b hi hpi hb
    exact (hleaf hi hpi hb).elim
  · intro k hk a ha
    exact hpath k hk a (hold (Nat.ne_of_lt (lt_of_mem_ancestors hk)) ha)

theorem ordered_push {key : α → κ} {h : List α} {x : α} (ho : Ordered key h) :
    Ordered key (push key h x) :=
  ordered_push_of_path ho fun _ _ _ _ => ⟨le_of_lt, id⟩

theorem ordered_foldl_push {key : α → κ} {xs h : List α} (ho : Ordered key h) :
    Ordered key (xs.foldl (push key) h) := by
  induction xs generalizing h with
  | nil => exact ho
  | cons x xs ih => exact ih (ordered_push ho)

theorem ordered_nil {key : α → κ} : Ordered key [] := by
  intro i a b _ _ hb
  simp at hb

/-- The larger child goes up into the hole, and the hole goes down. -/
theorem Sinking.move {key : α → κ} {x e : α} {hole c : Nat} {h : List α}
    (o : Sinking key x hole h) (hlt : hole < h.length)
    (hc : largerChild key h hole = some (c, e)) (hle : key x ≤ key e) :
    Sinking key x c (h.set hole e) := by
  obtain ⟨hchild, he, hmax⟩ := largerChild_some hc
  have hpc : parent c = hole := by
    unfold parent
    omega
  have hplaced : (h.set hole e)[hole]? = some e := List.getElem?_set_self hlt
  constructor
  · intro i a b hi hne hpne ha hb
    have hup := parent_lt hi
    by_cases hih : i = hole
    · subst hih
      rw [eq_of_set_self hb]
      rw [getElem?_set_of_ne (by omega)] at ha
      exact o.across c a e hi (by omega) hpc ha he
    · rw [getElem?_set_of_ne hih] at hb
      by_cases hph : parent i = hole
      · rw [hph] at ha
        rw [eq_of_set_self ha]
        exact hmax i b hi hph hb
      · rw [getElem?_set_of_ne hph] at ha
        exact o.apart i a b hi hih hph ha hb
  · intro i a b _ hi hpi ha hb
    have hup := parent_lt hi
    rw [hpc] at ha
    rw [eq_of_set_self ha]
    rw [getElem?_set_of_ne (by omega)] at hb
    refine o.apart i e b hi (by omega) (by omega) ?_ hb
    rw [hpi, he]
  · intro a _ ha
    rw [hpc] at ha
    rw [eq_of_set_self ha]
    exact hle

/-- Putting the value into the hole restores the order when it is in order with the children. -/
theorem Sinking.finish {key : α → κ} {x : α} {hole : Nat} {h : List α} (o : Sinking key x hole h)
    (hbelow : ∀ (i : Nat) b, 0 < i → parent i = hole → h[i]? = some b → key b ≤ key x) :
    Ordered key (h.set hole x) :=
  Rising.finish ⟨o.apart, o.across, hbelow⟩ o.above

theorem Sinking.siftDown {key : α → κ} {x : α} {fuel hole : Nat} {h : List α}
    (o : Sinking key x hole h) (hlt : hole < h.length) (hfuel : h.length ≤ hole + fuel) :
    Ordered key (siftDown key x fuel hole h) := by
  induction fuel generalizing hole h with
  | zero => omega
  | succ fuel ih =>
    unfold heap.siftDown
    split
    · rename_i hnone
      refine o.finish fun i b hi hpi hb => ?_
      have hlen := largerChild_none hnone
      have hib := (List.getElem?_eq_some_iff.mp hb).1
      unfold parent at hpi
      omega
    · rename_i c e hc
      obtain ⟨hchild, he, hmax⟩ := largerChild_some hc
      split_ifs with hless
      · have hclt := (List.getElem?_eq_some_iff.mp he).1
        exact ih (o.move hlt hc hless.le) (by simpa using hclt) (by simp; omega)
      · exact o.finish fun i b hi hpi hb => (hmax i b hi hpi hb).trans (not_lt.mp hless)

theorem ordered_pop {key : α → κ} {h : List α} (ho : Ordered key h) : Ordered key (pop key h) := by
  unfold pop
  split
  · exact ordered_nil
  · rename_i x hx
    by_cases hne : h.dropLast.length = 0
    · rw [List.length_eq_zero_iff.mp hne]
      exact ordered_nil
    · have hold : ∀ {i : Nat} {a : α}, h.dropLast[i]? = some a → h[i]? = some a := by
        intro i a ha
        rw [List.getElem?_dropLast] at ha
        split_ifs at ha
        exact ha
      refine Sinking.siftDown ⟨?_, ?_, ?_⟩ (Nat.pos_of_ne_zero hne) (by omega)
      · intro i a b hi _ _ ha hb
        exact ho i a b hi (hold ha) (hold hb)
      · intro i a b hpos
        omega
      · intro a hpos
        omega

/-! ## The elements that leave -/

/-- The first element has the largest key. -/
theorem Ordered.first {key : α → κ} {a : α} {as : List α} (ho : Ordered key (a :: as)) {b : α}
    (hb : b ∈ a :: as) : key b ≤ key a := by
  have hall : ∀ (i : Nat) c, (a :: as)[i]? = some c → key c ≤ key a := by
    intro i
    -- along the parents of the position, up to the root
    induction i using Nat.strongRecOn with
    | ind i ih =>
      intro c hc
      by_cases hi : 0 < i
      · have hup := parent_lt hi
        have hlt := (List.getElem?_eq_some_iff.mp hc).1
        obtain ⟨p, hp⟩ : ∃ p, (a :: as)[parent i]? = some p :=
          ⟨_, List.getElem?_eq_getElem (by omega)⟩
        exact (ho i _ c hi hp hc).trans (ih (parent i) hup _ hp)
      · obtain rfl : i = 0 := by omega
        cases hc
        exact le_rfl
  obtain ⟨i, hi⟩ := List.mem_iff_getElem?.mp hb
  exact hall i b hi

/-- What is left in the array after a number of pops. -/
def left (key : α → κ) : Nat → List α → List α
  | fuel + 1, a :: as => left key fuel (pop key (a :: as))
  | _, h => h

/-- The elements that were taken, in this order, and those that are left: an element that was taken
has no smaller key than any that was there with it. -/
def Falling (key : α → κ) (taken left : List α) : Prop :=
  taken.Pairwise (fun a b => key b ≤ key a) ∧ ∀ a ∈ taken, ∀ b ∈ left, key b ≤ key a

theorem falling_nil {key : α → κ} {left : List α} : Falling key [] left := by
  refine ⟨.nil, ?_⟩
  intro a ha
  cases ha

theorem drain_append_left_perm {key : α → κ} {n : Nat} {h : List α} :
    drain key n h ++ left key n h ~ h := by
  induction n generalizing h with
  | zero => cases h <;> exact .refl _
  | succ n ih =>
    cases h with
    | nil => exact .refl _
    | cons a as => exact .cons a (ih.trans pop_perm)

@[simp] theorem drain_zero {key : α → κ} (h : List α) : drain key 0 h = [] := by
  cases h <;> rfl

@[simp] theorem left_zero {key : α → κ} (h : List α) : left key 0 h = h := by
  cases h <;> rfl

theorem left_eq_nil {key : α → κ} {n : Nat} {h : List α} (hn : h.length ≤ n) :
    left key n h = [] := by
  have hlen := (@drain_append_left_perm α κ _ key n h).length_eq
  rw [List.length_append, (drain_perm hn).length_eq] at hlen
  exact List.length_eq_zero_iff.mp (by omega)

theorem ordered_left {key : α → κ} {n : Nat} {h : List α} (ho : Ordered key h) :
    Ordered key (left key n h) := by
  induction n generalizing h with
  | zero => cases h <;> exact ho
  | succ n ih =>
    cases h with
    | nil => exact ho
    | cons a as => exact ih (ordered_pop ho)

/-- The elements are popped by falling keys. -/
theorem falling_drain {key : α → κ} {n : Nat} {h : List α} (ho : Ordered key h) :
    Falling key (drain key n h) (left key n h) := by
  induction n generalizing h with
  | zero =>
    rw [drain_zero]
    exact falling_nil
  | succ n ih =>
    cases h with
    | nil => exact falling_nil
    | cons a as =>
      obtain ⟨hpairs, hleft⟩ := ih (ordered_pop ho)
      have hfirst : ∀ b ∈ drain key n (pop key (a :: as)) ++ left key n (pop key (a :: as)),
          key b ≤ key a := by
        intro b hb
        have hmem := (drain_append_left_perm.trans pop_perm).mem_iff.mp hb
        exact ho.first (List.mem_cons_of_mem a hmem)
      refine ⟨.cons (fun b hb => hfirst b (List.mem_append_left _ hb)) hpairs, ?_⟩
      intro c hc b hb
      rcases List.mem_cons.mp hc with rfl | hc
      · exact hfirst b (List.mem_append_right _ hb)
      · exact hleft c hc b hb

end heap
