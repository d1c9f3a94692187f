-- A hash table with chains that doubles its array and then moves one bucket at a time out of the
-- old array. The elements of a bucket that was not moved yet are found in the old array.
import Mathlib.Algebra.Order.Ring.Int
import Mathlib.Data.List.Nodup
import Mathlib.Logic.Function.Basic
import Mathlib.Tactic.Common

open Function

namespace chained_table

/-- The buckets of `old` from `bucket` on were not moved yet while the table is `expanding`. -/
structure Table (α : Type*) where
  power : Nat
  primary : Nat → List α
  old : Nat → List α
  expanding : Bool
  bucket : Nat

/-- The place of a chain: a bucket of the old array, or of the new one. -/
inductive Place
  | old (i : Nat)
  | primary (i : Nat)
  deriving DecidableEq

variable {α κ : Type*}

namespace Table

def empty (power : Nat) : Table α :=
  { power := power
    primary := fun _ => []
    old := fun _ => []
    expanding := false
    bucket := 0 }

def chain (t : Table α) : Place → List α
  | .old i => t.old i
  | .primary i => t.primary i

def setChain (t : Table α) : Place → List α → Table α
  | .old i, l => { t with old := update t.old i l }
  | .primary i, l => { t with primary := update t.primary i l }

/-- The place for a hash value. -/
def place (t : Table α) (h : Nat) : Place :=
  if t.expanding ∧ t.bucket ≤ h % 2 ^ (t.power - 1) then .old (h % 2 ^ (t.power - 1))
  else .primary (h % 2 ^ t.power)

instance : Membership α (Table α) := ⟨fun t x => ∃ b, x ∈ t.chain b⟩

/-- The element goes to the front of its chain. -/
def insert (t : Table α) (h : Nat) (x : α) : Table α :=
  t.setChain (t.place h) (x :: t.chain (t.place h))

/-- The array becomes the old one, and the new one has twice its length. -/
def grow (t : Table α) : Table α :=
  { power := t.power + 1
    primary := fun _ => []
    old := t.primary
    expanding := true
    bucket := 0 }

/-- An element goes to the front of the bucket `i`. -/
def push (array : Nat → List α) (i : Nat) (x : α) : Nat → List α :=
  update array i (x :: array i)

section

variable [DecidableEq κ] (hash : κ → Nat) (key : α → κ)

/-- The first element of the chain with the key. -/
def find (t : Table α) (k : κ) : Option α :=
  (t.chain (t.place (hash k))).find? fun x => key x = k

/-- The first element with the key leaves its chain. -/
def delete (t : Table α) (k : κ) : Table α :=
  t.setChain (t.place (hash k)) ((t.chain (t.place (hash k))).eraseP fun x => key x = k)

end

/-- One bucket is moved, and the table ends to expand with the last one. -/
def moveBucket (hash : κ → Nat) (key : α → κ) (t : Table α) : Table α :=
  { t with
    primary := (t.old t.bucket).foldl (fun a x => push a (hash (key x) % 2 ^ t.power) x) t.primary
    old := update t.old t.bucket []
    bucket := t.bucket + 1
    expanding := t.bucket + 1 ≠ 2 ^ (t.power - 1) }

/-! ## Chains -/

variable {t : Table α} {b c : Place} {l : List α} {x y : α}

theorem not_mem_empty (power : Nat) : x ∉ (empty power : Table α) := by
  rintro ⟨_ | _, h⟩ <;> cases h

@[simp] theorem place_setChain (h : Nat) : (t.setChain b l).place h = t.place h := by
  cases b <;> rfl

@[simp] theorem chain_setChain_self : (t.setChain b l).chain b = l := by
  cases b <;> exact update_self ..

theorem chain_setChain_of_ne (h : c ≠ b) : (t.setChain b l).chain c = t.chain c := by
  cases b <;> cases c
  · exact update_of_ne (fun heq => h (congrArg Place.old heq)) ..
  · rfl
  · rfl
  · exact update_of_ne (fun heq => h (congrArg Place.primary heq)) ..

/-- What is in a table after one chain was set. -/
theorem mem_setChain : x ∈ t.setChain b l ↔ x ∈ l ∨ ∃ c, c ≠ b ∧ x ∈ t.chain c := by
  constructor
  · rintro ⟨c, hc⟩
    by_cases h : c = b
    · subst h
      rw [chain_setChain_self] at hc
      exact .inl hc
    · rw [chain_setChain_of_ne h] at hc
      exact .inr ⟨c, h, hc⟩
  · rintro (h | ⟨c, hne, h⟩)
    · exact ⟨b, by rwa [chain_setChain_self]⟩
    · exact ⟨c, by rwa [chain_setChain_of_ne hne]⟩

theorem mem_insert {h : Nat} : y ∈ t.insert h x ↔ y = x ∨ y ∈ t := by
  rw [insert, mem_setChain, List.mem_cons, or_assoc]
  refine or_congr_right ⟨?_, ?_⟩
  · rintro (hy | ⟨c, -, hy⟩)
    · exact ⟨_, hy⟩
    · exact ⟨c, hy⟩
  · rintro ⟨c, hy⟩
    by_cases hc : c = t.place h
    · exact .inl (hc ▸ hy)
    · exact .inr ⟨c, hc, hy⟩

/-! ## The invariant -/

/-- Each element is in the chain where its key is looked for, and a chain has a key only once. -/
structure Placed (hash : κ → Nat) (key : α → κ) (t : Table α) : Prop where
  place : ∀ b, ∀ x ∈ t.chain b, t.place (hash (key x)) = b
  distinct : ∀ b, ((t.chain b).map key).Nodup
  bucket_lt : t.expanding = true → t.bucket < 2 ^ (t.power - 1)

namespace Placed

variable {hash : κ → Nat} {key key' : α → κ} {k : κ}

theorem empty (power : Nat) : Placed hash key (Table.empty power) := by
  refine ⟨?_, ?_, nofun⟩
  · rintro (_ | _) x hx <;> cases hx
  · rintro (_ | _) <;> exact List.nodup_nil

/-- Only the keys of the elements matter. -/
theorem congr (h : Placed hash key t) (hkey : ∀ x ∈ t, key' x = key x) : Placed hash key' t := by
  refine ⟨fun b x hx => ?_, fun b => ?_, h.bucket_lt⟩
  · rw [hkey x ⟨b, hx⟩]
    exact h.place b x hx
  · rw [List.map_congr_left fun x hx => hkey x ⟨b, hx⟩]
    exact h.distinct b

theorem mem_chain (h : Placed hash key t) (hx : x ∈ t) : x ∈ t.chain (t.place (hash (key x))) := by
  obtain ⟨b, hb⟩ := hx
  rw [h.place b x hb]
  exact hb

theorem eq_of_key_eq (h : Placed hash key t) (hx : x ∈ t) (hy : y ∈ t) (heq : key x = key y) :
    x = y := by
  have hx' := h.mem_chain hx
  rw [heq] at hx'
  exact List.inj_on_of_nodup_map (h.distinct _) hx' (h.mem_chain hy) heq

/-- A chain that changes keeps the table placed if the new chain belongs where it stands. -/
theorem setChain (h : Placed hash key t) (hplace : ∀ x ∈ l, t.place (hash (key x)) = b)
    (hdistinct : (l.map key).Nodup) : Placed hash key (t.setChain b l) := by
  refine ⟨fun c x hx => ?_, fun c => ?_, ?_⟩
  · rw [place_setChain]
    by_cases hc : c = b
    · subst hc
      rw [chain_setChain_self] at hx
      exact hplace x hx
    · rw [chain_setChain_of_ne hc] at hx
      exact h.place c x hx
  · by_cases hc : c = b
    · subst hc
      rw [chain_setChain_self]
      exact hdistinct
    · rw [chain_setChain_of_ne hc]
      exact h.distinct c
  · cases b <;> exact h.bucket_lt

theorem insert (h : Placed hash key t) (hnew : ∀ y ∈ t, key y ≠ key x) :
    Placed hash key (t.insert (hash (key x)) x) := by
  refine h.setChain ?_ ?_
  · intro y hy
    rcases List.mem_cons.mp hy with rfl | hy
    · rfl
    · exact h.place _ y hy
  · rw [List.map_cons]
    refine List.nodup_cons.mpr ⟨?_, h.distinct _⟩
    intro hmem
    obtain ⟨y, hy, heq⟩ := List.mem_map.mp hmem
    exact hnew y ⟨_, hy⟩ heq

section

variable [DecidableEq κ]

theorem find_eq_some_iff (h : Placed hash key t) :
    t.find hash key k = some x ↔ x ∈ t ∧ key x = k := by
  constructor
  · intro hfind
    have hkey := List.find?_some hfind
    exact ⟨⟨_, List.mem_of_find?_eq_some hfind⟩, of_decide_eq_true hkey⟩
  · rintro ⟨hx, rfl⟩
    have hchain := h.mem_chain hx
    cases hfind : t.find hash key (key x) with
    | none =>
      have hnot := List.find?_eq_none.mp hfind x hchain
      exact absurd (decide_eq_true rfl) hnot
    | some y =>
      have hsome := List.find?_some hfind
      have hkey : key y = key x := of_decide_eq_true hsome
      rw [h.eq_of_key_eq ⟨_, List.mem_of_find?_eq_some hfind⟩ hx hkey]

theorem find_eq_none_iff (h : Placed hash key t) :
    t.find hash key k = none ↔ ∀ x ∈ t, key x ≠ k := by
  rw [Option.eq_none_iff_forall_ne_some]
  refine forall_congr' fun x => ?_
  rw [ne_eq, h.find_eq_some_iff, not_and]

theorem mem_delete (h : Placed hash key t) : y ∈ t.delete hash key k ↔ y ∈ t ∧ key y ≠ k := by
  rw [delete, mem_setChain]
  constructor
  · rintro (hy | ⟨c, hc, hy⟩)
    · refine ⟨⟨_, List.mem_of_mem_eraseP hy⟩, ?_⟩
      rintro rfl
      -- the chain had the key once, and that element was erased
      have hfirst := List.exists_of_eraseP (p := fun x => decide (key x = key y))
        (List.mem_of_mem_eraseP hy) (decide_eq_true rfl)
      obtain ⟨z, l₁, l₂, -, hz, hl, herase⟩ := hfirst
      have hkey : key z = key y := of_decide_eq_true hz
      rw [herase] at hy
      have hnodup := h.distinct (t.place (hash (key y)))
      rw [hl, List.map_append, List.map_cons] at hnodup
      have hnot := (List.nodup_middle.mp hnodup)
      rw [← List.map_append] at hnot
      exact (List.nodup_cons.mp hnot).1 (hkey ▸ List.mem_map_of_mem hy)
    · refine ⟨⟨c, hy⟩, ?_⟩
      rintro rfl
      exact hc (h.place c y hy).symm
  · rintro ⟨hy, hne⟩
    by_cases hc : t.place (hash (key y)) = t.place (hash k)
    · left
      have hchain := h.mem_chain hy
      rw [hc] at hchain
      exact (List.mem_eraseP_of_neg (by simpa using hne)).mpr hchain
    · exact .inr ⟨_, hc, h.mem_chain hy⟩

theorem delete (h : Placed hash key t) (k : κ) : Placed hash key (t.delete hash key k) := by
  refine h.setChain ?_ ?_
  · intro x hx
    exact h.place _ x (List.mem_of_mem_eraseP hx)
  · exact (h.distinct _).sublist ((List.eraseP_sublist).map key)

end

/-! ## Growing -/

/-- A table that does not expand has all its elements in the new array. -/
theorem old_eq_nil (h : Placed hash key t) (hexp : t.expanding = false) (i : Nat) :
    t.old i = [] := by
  refine List.eq_nil_iff_forall_not_mem.mpr fun x hx => ?_
  have hplace := h.place (.old i) x hx
  rw [Table.place, if_neg (by simp [hexp])] at hplace
  cases hplace

theorem mem_grow (h : Placed hash key t) (hexp : t.expanding = false) : x ∈ t.grow ↔ x ∈ t := by
  constructor
  · rintro ⟨i | i, hx⟩
    · exact ⟨.primary i, hx⟩
    · cases hx
  · rintro ⟨i | i, hx⟩
    · have hnil : t.chain (.old i) = [] := h.old_eq_nil hexp i
      rw [hnil] at hx
      cases hx
    · exact ⟨.old i, hx⟩

theorem grow (h : Placed hash key t) (hexp : t.expanding = false) : Placed hash key t.grow := by
  refine ⟨?_, ?_, fun _ => Nat.two_pow_pos _⟩
  · rintro (i | i) x hx
    · have hplace := h.place (.primary i) x hx
      rw [Table.place, if_neg (by simp [hexp])] at hplace
      have hi : hash (key x) % 2 ^ t.power = i := Place.primary.inj hplace
      have hlater : t.grow.expanding ∧ t.grow.bucket ≤ hash (key x) % 2 ^ (t.grow.power - 1) :=
        ⟨rfl, Nat.zero_le _⟩
      rw [Table.place, if_pos hlater]
      exact congrArg Place.old hi
    · cases hx
  · rintro (i | i)
    · exact h.distinct (.primary i)
    · exact List.nodup_nil

end Placed

/-- The elements of the bucket `i` after a list was pushed. -/
theorem foldl_push (index : α → Nat) (l : List α) (array : Nat → List α) (i : Nat) :
    l.foldl (fun a x => push a (index x) x) array i =
      (l.filter fun x => index x = i).reverse ++ array i := by
  induction l generalizing array with
  | nil => rfl
  | cons x l ih =>
    rw [List.foldl_cons, ih]
    by_cases hi : index x = i
    · rw [List.filter_cons, if_pos (decide_eq_true hi), List.reverse_cons, List.append_assoc, push,
        hi, update_self]
      rfl
    · rw [List.filter_cons, if_neg (by simpa using hi), push, update_of_ne (Ne.symm hi)]

theorem chain_moveBucket_primary (hash : κ → Nat) (key : α → κ) (t : Table α) (i : Nat) :
    (t.moveBucket hash key).chain (.primary i) =
      ((t.old t.bucket).filter fun x => hash (key x) % 2 ^ t.power = i).reverse ++ t.primary i :=
  foldl_push (fun x => hash (key x) % 2 ^ t.power) ..

@[simp] theorem chain_moveBucket_bucket (hash : κ → Nat) (key : α → κ) (t : Table α) :
    (t.moveBucket hash key).chain (.old t.bucket) = [] := update_self ..

theorem chain_moveBucket_old (hash : κ → Nat) (key : α → κ) {i : Nat} (hi : i ≠ t.bucket) :
    (t.moveBucket hash key).chain (.old i) = t.old i := update_of_ne hi ..

theorem mem_moveBucket {hash : κ → Nat} {key : α → κ} :
    x ∈ t.moveBucket hash key ↔ x ∈ t := by
  constructor
  · rintro ⟨i | i, hx⟩
    · by_cases hi : i = t.bucket
      · subst hi
        rw [chain_moveBucket_bucket] at hx
        cases hx
      · rw [chain_moveBucket_old hash key hi] at hx
        exact ⟨.old i, hx⟩
    · rw [chain_moveBucket_primary, List.mem_append, List.mem_reverse] at hx
      rcases hx with hx | hx
      · exact ⟨.old t.bucket, List.mem_of_mem_filter hx⟩
      · exact ⟨.primary i, hx⟩
  · rintro ⟨i | i, hx⟩
    · by_cases hi : i = t.bucket
      · subst hi
        refine ⟨.primary (hash (key x) % 2 ^ t.power), ?_⟩
        rw [chain_moveBucket_primary, List.mem_append, List.mem_reverse]
        exact .inl (List.mem_filter.mpr ⟨hx, decide_eq_true rfl⟩)
      · refine ⟨.old i, ?_⟩
        rw [chain_moveBucket_old hash key hi]
        exact hx
    · refine ⟨.primary i, ?_⟩
      rw [chain_moveBucket_primary, List.mem_append]
      exact .inr hx

namespace Placed

variable {hash : κ → Nat} {key : α → κ}

/-- An element of the bucket that is moved has the number of the bucket. -/
theorem hash_of_mem_old (h : Placed hash key t) {i : Nat} (hx : x ∈ t.old i) :
    t.expanding = true ∧ t.bucket ≤ i ∧ hash (key x) % 2 ^ (t.power - 1) = i := by
  have hplace := h.place (.old i) x hx
  rw [Table.place] at hplace
  split at hplace
  · rename_i hlater
    have hi := Place.old.inj hplace
    exact ⟨hlater.1, hi ▸ hlater.2, hi⟩
  · cases hplace

theorem hash_of_mem_primary (h : Placed hash key t) {i : Nat} (hx : x ∈ t.primary i) :
    (t.expanding = true → hash (key x) % 2 ^ (t.power - 1) < t.bucket) ∧
      hash (key x) % 2 ^ t.power = i := by
  have hplace := h.place (.primary i) x hx
  rw [Table.place] at hplace
  split at hplace
  · cases hplace
  · rename_i hlater
    refine ⟨fun hexp => ?_, Place.primary.inj hplace⟩
    exact Nat.lt_of_not_le fun hle => hlater ⟨hexp, hle⟩

/-- The place of a hash value after a bucket was moved. -/
theorem place_moveBucket (h : Placed hash key t) (hexp : t.expanding = true) (n : Nat) :
    (t.moveBucket hash key).place n =
      if t.bucket < n % 2 ^ (t.power - 1) then .old (n % 2 ^ (t.power - 1))
      else .primary (n % 2 ^ t.power) := by
  have hlt := h.bucket_lt hexp
  have hn : n % 2 ^ (t.power - 1) < 2 ^ (t.power - 1) := Nat.mod_lt _ (Nat.two_pow_pos _)
  rw [Table.place]
  refine if_congr ?_ rfl rfl
  show decide (t.bucket + 1 ≠ 2 ^ (t.power - 1)) = true ∧
    t.bucket + 1 ≤ n % 2 ^ (t.power - 1) ↔ _
  rw [decide_eq_true_eq]
  omega

theorem moveBucket (h : Placed hash key t) (hexp : t.expanding = true) :
    Placed hash key (t.moveBucket hash key) := by
  refine ⟨?_, ?_, ?_⟩
  · rintro (i | i) x hx
    · rw [h.place_moveBucket hexp]
      by_cases hi : i = t.bucket
      · subst hi
        rw [chain_moveBucket_bucket] at hx
        cases hx
      · rw [chain_moveBucket_old hash key hi] at hx
        obtain ⟨-, hle, heq⟩ := h.hash_of_mem_old hx
        rw [heq, if_pos (by omega)]
    · rw [h.place_moveBucket hexp]
      rw [chain_moveBucket_primary, List.mem_append, List.mem_reverse] at hx
      rcases hx with hx | hx
      · obtain ⟨hx, hindex⟩ := List.mem_filter.mp hx
        obtain ⟨-, -, heq⟩ := h.hash_of_mem_old hx
        rw [heq, if_neg (Nat.lt_irrefl _), of_decide_eq_true hindex]
      · obtain ⟨hlt, heq⟩ := h.hash_of_mem_primary hx
        rw [if_neg (by have := hlt hexp; omega), heq]
  · rintro (i | i)
    · by_cases hi : i = t.bucket
      · subst hi
        rw [chain_moveBucket_bucket]
        exact List.nodup_nil
      · rw [chain_moveBucket_old hash key hi]
        exact h.distinct (.old i)
    · rw [chain_moveBucket_primary, List.map_append, List.map_reverse]
      refine List.nodup_append.mpr ⟨?_, h.distinct (.primary i), ?_⟩
      · exact List.nodup_reverse.mpr
          ((h.distinct (.old t.bucket)).sublist (List.filter_sublist.map key))
      · intro a ha c hc hac
        obtain ⟨x, hx, rfl⟩ := List.mem_map.mp (List.mem_reverse.mp ha)
        obtain ⟨y, hy, rfl⟩ := List.mem_map.mp hc
        -- one key would have a place in both arrays
        have hold := h.place (.old t.bucket) x (List.mem_of_mem_filter hx)
        have hnew := h.place (.primary i) y hy
        rw [hac, hnew] at hold
        cases hold
  · intro hlater
    have hlt := h.bucket_lt hexp
    have hne : t.bucket + 1 ≠ 2 ^ (t.power - 1) := of_decide_eq_true hlater
    show t.bucket + 1 < 2 ^ (t.power - 1)
    omega

end Placed

end Table

end chained_table
