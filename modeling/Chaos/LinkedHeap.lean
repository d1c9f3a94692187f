-- Linked lists in a heap of nodes. A pointer is null or an address, and an address with no node
-- was never allocated or is released. A walk ends with no result when it meets such an address,
-- or when it goes round for ever.
import Mathlib.Data.List.AList
import Mathlib.Data.List.Nodup
import Mathlib.Tactic.Common

namespace linked_heap

/-- The nodes that are allocated, by their addresses. -/
abbrev Heap (ν : Type*) := AList fun _ : Nat => ν

variable {ν : Type*} (next : ν → Option Nat)

/-- Walk to the first node with the property. A walk of more nodes than the heap has goes round,
so that `fuel` is the number of nodes of the heap. -/
def walk (h : Heap ν) (stop : ν → Bool) : Nat → Option Nat → Option (Option (Nat × ν))
  | _, none => some none
  | 0, some _ => none
  | fuel + 1, some p =>
    match h.lookup p with
    | none => none
    | some n => if stop n then some (some (p, n)) else walk h stop fuel (next n)

/-- Release the nodes of a list, each after its next pointer is read. -/
def release : Nat → Heap ν → Option Nat → Option (Heap ν)
  | _, h, none => some h
  | 0, _, some _ => none
  | fuel + 1, h, some p =>
    match h.lookup p with
    | none => none
    | some n => release fuel (h.erase p) (next n)

/-- The list of the nodes from a pointer on, with their addresses. -/
def Chain (h : Heap ν) : Option Nat → List (Nat × ν) → Prop
  | ptr, [] => ptr = none
  | ptr, e :: l => ptr = some e.1 ∧ h.lookup e.1 = some e.2 ∧ Chain h (next e.2) l

theorem lookup_insert_ite (h : Heap ν) (p q : Nat) (n : ν) :
    (h.insert p n).lookup q = if q = p then some n else h.lookup q := by
  split
  case isTrue heq =>
    subst heq
    exact AList.lookup_insert h
  case isFalse hne => exact AList.lookup_insert_ne hne

theorem lookup_erase_ite (h : Heap ν) (p q : Nat) :
    (h.erase p).lookup q = if q = p then none else h.lookup q := by
  split
  case isTrue heq =>
    subst heq
    exact AList.lookup_erase q h
  case isFalse hne => exact AList.lookup_erase_ne hne

variable {next} {h h' : Heap ν} {ptr : Option Nat} {l l' : List (Nat × ν)}

theorem Chain.unique (hc : Chain next h ptr l) (hc' : Chain next h ptr l') : l = l' := by
  induction l generalizing ptr l' with
  | nil =>
    cases l' with
    | nil => rfl
    | cons e l' =>
      rw [show ptr = none from hc] at hc'
      cases hc'.1
  | cons e l ih =>
    cases l' with
    | nil =>
      rw [show ptr = none from hc'] at hc
      cases hc.1
    | cons e' l' =>
      obtain ⟨rfl, hnode, hrest⟩ := hc
      obtain ⟨hptr, hnode', hrest'⟩ := hc'
      have heq : e = e' := by
        refine Prod.ext (Option.some.inj hptr) ?_
        rw [← Option.some.inj hptr, hnode] at hnode'
        exact Option.some.inj hnode'
      subst heq
      rw [ih hrest hrest']

theorem Chain.lookup (hc : Chain next h ptr l) {e : Nat × ν} (he : e ∈ l) :
    h.lookup e.1 = some e.2 := by
  induction l generalizing ptr with
  | nil => cases he
  | cons d l ih =>
    rcases List.mem_cons.mp he with rfl | he
    · exact hc.2.1
    · exact ih hc.2.2 he

/-- From a node of the list on the list goes to its end. -/
theorem Chain.suffix (hc : Chain next h ptr l) {e : Nat × ν} (he : e ∈ l) :
    ∃ l', Chain next h (some e.1) l' ∧ l'.length ≤ l.length := by
  induction l generalizing ptr with
  | nil => cases he
  | cons d l ih =>
    rcases List.mem_cons.mp he with rfl | he
    · exact ⟨e :: l, ⟨rfl, hc.2⟩, Nat.le_refl _⟩
    · obtain ⟨l', hl', hle⟩ := ih hc.2.2 he
      exact ⟨l', hl', Nat.le_succ_of_le hle⟩

/-- A list that ends meets no address twice. -/
theorem Chain.nodup (hc : Chain next h ptr l) : (l.map Prod.fst).Nodup := by
  induction l generalizing ptr with
  | nil => exact List.nodup_nil
  | cons e l ih =>
    refine List.nodup_cons.mpr ⟨fun hmem => ?_, ih hc.2.2⟩
    obtain ⟨d, hd, hde⟩ := List.mem_map.mp hmem
    obtain ⟨l', hl', hle⟩ := hc.2.2.suffix hd
    rw [hde, ← hc.1] at hl'
    have := congrArg List.length (hc.unique hl')
    rw [List.length_cons] at this
    omega

theorem Chain.length_le (hc : Chain next h ptr l) : l.length ≤ h.keys.length := by
  have hsub : l.map Prod.fst ⊆ h.keys := by
    intro p hp
    obtain ⟨e, he, rfl⟩ := List.mem_map.mp hp
    rw [← AList.mem_keys, ← AList.lookup_isSome, hc.lookup he]
    rfl
  have := (List.subperm_of_subset hc.nodup hsub).length_le
  rwa [List.length_map] at this

/-- What happens at other addresses is of no concern for a list. -/
theorem Chain.frame (hc : Chain next h ptr l)
    (hframe : ∀ p ∈ l.map Prod.fst, h'.lookup p = h.lookup p) : Chain next h' ptr l := by
  induction l generalizing ptr with
  | nil => exact hc
  | cons e l ih =>
    refine ⟨hc.1, (hframe e.1 List.mem_cons_self).trans hc.2.1, ?_⟩
    exact ih hc.2.2 fun p hp => hframe p (List.mem_cons_of_mem _ hp)

/-- A walk along a list finds its first node with the property. -/
theorem Chain.walk (hc : Chain next h ptr l) (stop : ν → Bool) {fuel : Nat}
    (hfuel : l.length ≤ fuel) :
    linked_heap.walk next h stop fuel ptr = some (l.find? fun e => stop e.2) := by
  induction l generalizing ptr fuel with
  | nil =>
    rw [show ptr = none from hc]
    cases fuel <;> rfl
  | cons e l ih =>
    obtain ⟨rfl, hnode, hrest⟩ := hc
    obtain ⟨fuel, rfl⟩ : ∃ n, fuel = n + 1 := ⟨fuel - 1, by rw [List.length_cons] at hfuel; omega⟩
    rw [linked_heap.walk, hnode, List.find?_cons]
    by_cases hstop : stop e.2 = true
    · simp only [hstop, if_true]
    · simp only [hstop]
      exact ih hrest (Nat.le_of_succ_le_succ hfuel)

/-- The release of a list is of no concern for the other addresses. -/
theorem Chain.release (hc : Chain next h ptr l) {fuel : Nat} (hfuel : l.length ≤ fuel) :
    ∃ h', linked_heap.release next fuel h ptr = some h' ∧
      ∀ p, p ∉ l.map Prod.fst → h'.lookup p = h.lookup p := by
  induction l generalizing ptr fuel h with
  | nil =>
    rw [show ptr = none from hc]
    exact ⟨h, by cases fuel <;> rfl, fun _ _ => rfl⟩
  | cons e l ih =>
    have hnodup := hc.nodup
    obtain ⟨rfl, hnode, hrest⟩ := hc
    obtain ⟨fuel, rfl⟩ : ∃ n, fuel = n + 1 := ⟨fuel - 1, by rw [List.length_cons] at hfuel; omega⟩
    have hne : ∀ p ∈ l.map Prod.fst, p ≠ e.1 := by
      rintro p hp rfl
      exact (List.nodup_cons.mp hnodup).1 hp
    obtain ⟨h', hrel, hframe⟩ := ih (hrest.frame fun p hp => AList.lookup_erase_ne (hne p hp))
      (Nat.le_of_succ_le_succ hfuel)
    refine ⟨h', by rw [linked_heap.release, hnode]; exact hrel, fun p hp => ?_⟩
    rw [List.map_cons, List.mem_cons, not_or] at hp
    rw [hframe p hp.2, AList.lookup_erase_ne hp.1]

end linked_heap
