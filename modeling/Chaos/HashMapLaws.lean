-- The laws of the key value hash. It is a finite map as long as no key is added twice and a
-- node is removed only while it is the newest of its slot. The other removals leave pointers
-- to deleted nodes behind.
import Chaos.KeyValueHash

open Function runs linked_heap

namespace chaos.common.utility

open TemplatedKeyValueHash

variable {T : Type*} {hash : List UInt8 → UInt32} {t t' : TemplatedKeyValueHash T}

/-! ## Slots -/

theorem toNat_hashsize {n : Nat} (hn : n < 32) : (hashsize n).toNat = 2 ^ n := by
  have hpow : 2 ^ n < 2 ^ 32 := Nat.pow_lt_pow_right (by decide) hn
  simp only [hashsize, UInt32.toNat_shiftLeft, UInt32.toNat_ofNat', Nat.shiftLeft_eq]
  rw [Nat.mod_eq_of_lt (Nat.lt_trans hn (by decide)), Nat.mod_eq_of_lt hn]
  simpa using Nat.mod_eq_of_lt hpow

/-- The slot of a key is in the vector. -/
theorem slot_lt (ht : t.hash_hashpower < 32) (key : List UInt8) :
    t.slot hash key < (hashsize t.hash_hashpower).toNat := by
  have hpos : 0 < 2 ^ t.hash_hashpower := Nat.two_pow_pos _
  have hsize := toNat_hashsize ht
  have hmask : (hashmask t.hash_hashpower).toNat = (hashsize t.hash_hashpower).toNat - 1 := by
    have hle : (1 : UInt32) ≤ hashsize t.hash_hashpower := by
      rw [UInt32.le_iff_toNat_le, hsize]
      exact hpos
    rw [hashmask, UInt32.toNat_sub_of_le _ _ hle]
    rfl
  have hand : t.slot hash key ≤ (hashmask t.hash_hashpower).toNat := by
    rw [TemplatedKeyValueHash.slot, UInt32.toNat_and]
    exact Nat.and_le_right
  omega

/-! ## The lists of the slots -/

/-- The nodes of the lists, by their slots. -/
abbrev Chains (T : Type*) := Nat → List (Nat × KeyValueHashElement T)

/-- Each slot has a list of live nodes with distinct keys of the slot. Only the first node of a
list can have no pointer to a node before it. -/
structure Linked (hash : List UInt8 → UInt32) (t : TemplatedKeyValueHash T) (chains : Chains T) :
    Prop where
  chain : ∀ i, Chain KeyValueHashElement.next t.heap (t.head i) (chains i)
  slot : ∀ i, ∀ e ∈ chains i, t.slot hash e.2.key = i
  keys : ∀ i, ((chains i).map fun e => e.2.key).Nodup
  prev : ∀ i, ∀ e ∈ (chains i).tail, e.2.prev ≠ none

/-- The element of a key in the lists. -/
def valueOf (hash : List UInt8 → UInt32) (t : TemplatedKeyValueHash T) (chains : Chains T)
    (key : List UInt8) : Option T :=
  ((chains (t.slot hash key)).find? fun e => decide (e.2.key = key)).map fun e => e.2.element

variable {chains : Chains T} {key : List UInt8}

@[simp] theorem head_setHead_self (t : TemplatedKeyValueHash T) (i : Nat) (p : Option Nat) :
    (t.setHead i p).head i = p := by
  simp [setHead, head]

@[simp] theorem head_setHead_of_ne {i j : Nat} (hj : j ≠ i) (p : Option Nat) :
    (t.setHead i p).head j = t.head j := by
  simp [setHead, head, update_of_ne hj]

/-- A list that is made for a slot has no node. -/
theorem getListByHash_spec (t : TemplatedKeyValueHash T) (i : Nat) :
    (t.getListByHash i).2.head = t.head i ∧
    (t.getListByHash i).1.heap = t.heap ∧
    (t.getListByHash i).1.hash_hashpower = t.hash_hashpower ∧
    ∀ j, (t.getListByHash i).1.head j = t.head j := by
  unfold getListByHash
  split
  · rename_i list hlist
    exact ⟨by simp [head, hlist], rfl, rfl, fun _ => rfl⟩
  · rename_i hlist
    have hnone : t.head i = none := by simp [head, hlist]
    refine ⟨hnone.symm, rfl, rfl, fun j => ?_⟩
    by_cases hj : j = i
    · subst hj
      rw [head_setHead_self, hnone]
    · exact head_setHead_of_ne hj none

/-- The lists depend on the nodes and the heads only. -/
theorem Linked.congr (h : Linked hash t chains) (hheap : t'.heap = t.heap)
    (hpower : t'.hash_hashpower = t.hash_hashpower) (hhead : ∀ j, t'.head j = t.head j) :
    Linked hash t' chains := by
  refine ⟨fun i => ?_, fun i e he => ?_, h.keys, h.prev⟩
  · rw [hheap, hhead]
    exact h.chain i
  · rw [TemplatedKeyValueHash.slot, hpower]
    exact h.slot i e he

theorem Linked.getListByHash (h : Linked hash t chains) (i : Nat) :
    Linked hash (t.getListByHash i).1 chains := by
  obtain ⟨-, hheap, hpower, hhead⟩ := getListByHash_spec t i
  exact h.congr hheap hpower hhead

/-- No node is in the lists of two slots. -/
theorem Linked.disjoint (h : Linked hash t chains) {i j : Nat} (hij : i ≠ j) {p : Nat}
    (hi : p ∈ (chains i).map Prod.fst) : p ∉ (chains j).map Prod.fst := by
  intro hj
  obtain ⟨e, he, rfl⟩ := List.mem_map.mp hi
  obtain ⟨d, hd, hde⟩ := List.mem_map.mp hj
  have hnode : d.2 = e.2 := by
    have := (h.chain j).lookup hd
    rw [hde, (h.chain i).lookup he] at this
    exact (Option.some.inj this).symm
  refine hij ?_
  rw [← h.slot i e he, ← h.slot j d hd, hnode]

/-- The search in a slot finds the node of the key. -/
theorem Linked.search (h : Linked hash t chains) (key : List UInt8) (i : Nat) :
    (t.getListByHash i).1.search (t.getListByHash i).2 key =
      some ((chains i).find? fun e => decide (e.2.key = key)) := by
  obtain ⟨hlist, hheap, -, -⟩ := getListByHash_spec t i
  rw [TemplatedKeyValueHash.search, hlist, hheap]
  exact (h.chain i).walk _ (h.chain i).length_le

/-- A change in one slot, with the heap changed at no node of another slot. -/
theorem Linked.update (h : Linked hash t chains) {i : Nat} {p : Option Nat}
    {heap : Heap (KeyValueHashElement T)} {l : List (Nat × KeyValueHashElement T)}
    (hchain : Chain KeyValueHashElement.next heap p l)
    (hslot : ∀ e ∈ l, t.slot hash e.2.key = i) (hkeys : (l.map fun e => e.2.key).Nodup)
    (hprev : ∀ e ∈ l.tail, e.2.prev ≠ none)
    (hframe : ∀ j, j ≠ i → ∀ q ∈ (chains j).map Prod.fst, heap.lookup q = t.heap.lookup q) :
    Linked hash { t.setHead i p with heap := heap } (Function.update chains i l) := by
  refine ⟨fun j => ?_, ?_, ?_, ?_⟩
  · by_cases hj : j = i
    · subst hj
      rw [update_self]
      show Chain _ heap ((t.setHead j p).head j) l
      rw [head_setHead_self]
      exact hchain
    · rw [update_of_ne hj]
      show Chain _ heap ((t.setHead i p).head j) _
      rw [head_setHead_of_ne hj]
      exact (h.chain j).frame (hframe j hj)
  · exact (forall_update_iff chains fun j l => ∀ e ∈ l, t.slot hash e.2.key = j).mpr
      ⟨hslot, fun j _ => h.slot j⟩
  · exact (forall_update_iff chains fun _ l => (l.map fun e => e.2.key).Nodup).mpr
      ⟨hkeys, fun j _ => h.keys j⟩
  · exact (forall_update_iff chains fun _ l => ∀ e ∈ l.tail, e.2.prev ≠ none).mpr
      ⟨hprev, fun j _ => h.prev j⟩

/-! ## The calls -/

theorem valueOf_update (t : TemplatedKeyValueHash T) (i : Nat) (p : Option Nat)
    (heap : Heap (KeyValueHashElement T)) (l : List (Nat × KeyValueHashElement T))
    (key : List UInt8) :
    valueOf hash { t.setHead i p with heap := heap } (Function.update chains i l) key =
      if t.slot hash key = i then
        (l.find? fun e => decide (e.2.key = key)).map fun e => e.2.element
      else valueOf hash t chains key := by
  show ((Function.update chains i l (t.slot hash key)).find? _).map _ = _
  by_cases hi : t.slot hash key = i
  · rw [if_pos hi, hi, update_self]
  · rw [if_neg hi, update_of_ne hi]
    rfl

/-- The hash holds the elements of a finite map. -/
structure Refines (hash : List UInt8 → UInt32) (t : TemplatedKeyValueHash T)
    (map : List UInt8 → Option T) : Prop where
  power : t.hash_hashpower < 32
  linked : ∃ chains, Linked hash t chains ∧ ∀ key, valueOf hash t chains key = map key

/-- `getElement` gives the element of the key, or an error if there is none. -/
theorem Linked.getElement (h : Linked hash t chains) (key : List UInt8) :
    ∃ r, t.getElement hash key = some ((t.getListByHash (t.slot hash key)).1, r) ∧
      r.toOption = valueOf hash t chains key := by
  obtain ⟨hlist, -, -, -⟩ := getListByHash_spec t (t.slot hash key)
  unfold TemplatedKeyValueHash.getElement
  dsimp only
  split
  · rename_i hnone
    have hempty : chains (t.slot hash key) = [] := by
      have hchain := h.chain (t.slot hash key)
      rw [← hlist, hnone] at hchain
      exact hchain.unique rfl
    refine ⟨_, rfl, ?_⟩
    rw [valueOf, hempty]
    rfl
  · rw [h.search, Option.map_some]
    unfold valueOf
    cases (chains (t.slot hash key)).find? fun e => decide (e.2.key = key) with
    | none => exact ⟨_, rfl, rfl⟩
    | some e => exact ⟨_, rfl, rfl⟩

/-- The pair that a node holds. -/
def pairOf (e : Nat × KeyValueHashElement T) : List UInt8 × T := (e.2.key, e.2.element)

/-- What is found depends on the pairs of the nodes only. -/
theorem find_eq_of_pairs {l l' : List (Nat × KeyValueHashElement T)}
    (h : l.map pairOf = l'.map pairOf) (key : List UInt8) :
    ((l.find? fun e => decide (e.2.key = key)).map fun e => e.2.element) =
      (l'.find? fun e => decide (e.2.key = key)).map fun e => e.2.element := by
  have hpairs : ∀ l : List (Nat × KeyValueHashElement T),
      ((l.find? fun e => decide (e.2.key = key)).map fun e => e.2.element) =
        ((l.map pairOf).find? fun x => decide (x.1 = key)).map Prod.snd := by
    intro l
    rw [List.find?_map, Option.map_map]
    rfl
  rw [hpairs, hpairs, h]

section

variable {ptr : Nat} {element : T} {i : Nat} {list : HashHeadElementList}

/-- A new node before the nodes of its slot, which keep their pairs. -/
theorem Linked.cons (h : Linked hash t chains) (hi : t.slot hash key = i)
    (hkey : valueOf hash t chains key = none) {n : KeyValueHashElement T} (hn : n.key = key)
    (hnext : n.next = t.head i) {heap : Heap (KeyValueHashElement T)}
    (hnew : heap.lookup ptr = some n) {rest : List (Nat × KeyValueHashElement T)}
    (hrest : Chain KeyValueHashElement.next heap (t.head i) rest)
    (hpairs : rest.map pairOf = (chains i).map pairOf) (hprev : ∀ e ∈ rest, e.2.prev ≠ none)
    (hframe : ∀ j, j ≠ i → ∀ q ∈ (chains j).map Prod.fst, heap.lookup q = t.heap.lookup q) :
    Linked hash { t.setHead i (some ptr) with heap := heap }
        (Function.update chains i ((ptr, n) :: rest)) ∧
      ∀ k, valueOf hash { t.setHead i (some ptr) with heap := heap }
          (Function.update chains i ((ptr, n) :: rest)) k =
        Function.update (valueOf hash t chains) key (some n.element) k := by
  have hkeys : (rest.map fun e => e.2.key) = (chains i).map fun e => e.2.key := by
    have := congrArg (List.map Prod.fst) hpairs
    rwa [List.map_map, List.map_map] at this
  have habsent : key ∉ (chains i).map fun e => e.2.key := by
    rw [valueOf, hi, Option.map_eq_none_iff, List.find?_eq_none] at hkey
    rw [List.mem_map]
    rintro ⟨e, he, hek⟩
    exact hkey e he (by simpa using hek)
  constructor
  · refine h.update ⟨rfl, hnew, by rw [hnext]; exact hrest⟩ ?_ ?_ hprev hframe
    · intro e he
      rcases List.mem_cons.mp he with rfl | he
      · rw [hn]
        exact hi
      · have hmem : e.2.key ∈ (chains i).map fun e => e.2.key := by
          rw [← hkeys]
          exact List.mem_map_of_mem he
        obtain ⟨d, hd, hde⟩ := List.mem_map.mp hmem
        rw [← hde]
        exact h.slot i d hd
    · rw [List.map_cons, hkeys]
      refine List.nodup_cons.mpr ⟨?_, h.keys i⟩
      rw [hn]
      exact habsent
  · intro k
    rw [valueOf_update]
    by_cases hk : k = key
    · subst hk
      rw [if_pos hi, update_self, List.find?_cons_of_pos (by simpa using hn)]
      rfl
    · rw [update_of_ne hk, List.find?_cons_of_neg (by simpa [hn] using Ne.symm hk),
        find_eq_of_pairs hpairs]
      split
      · rename_i hslot
        rw [valueOf, hslot]
      · rfl

/-- A new node before the first one of the slot of its key. -/
theorem Linked.pushFront (h : Linked hash t chains) (element : T) (hfresh : ptr ∉ t.heap)
    (hi : t.slot hash key = i) (hkey : valueOf hash t chains key = none)
    (hlist : list.head = t.head i) :
    ∃ t' chains', t.pushFront i list key element ptr = some t' ∧
      t'.hash_hashpower = t.hash_hashpower ∧ Linked hash t' chains' ∧
      ∀ k, valueOf hash t' chains' k =
        Function.update (valueOf hash t chains) key (some element) k := by
  have hchain := h.chain i
  have hptr : ∀ j, ∀ q ∈ (chains j).map Prod.fst, q ≠ ptr := by
    rintro j q hq rfl
    obtain ⟨e, he, rfl⟩ := List.mem_map.mp hq
    rw [← AList.lookup_eq_none, (h.chain j).lookup he] at hfresh
    cases hfresh
  unfold TemplatedKeyValueHash.pushFront
  rw [hlist]
  cases hl : chains i with
  | nil =>
    rw [hl] at hchain
    have hnone : t.head i = none := hchain
    have hchain' : Chain KeyValueHashElement.next (t.heap.insert ptr
        { element := element, key := key, next := none, prev := none }) (t.head i) [] := hnone
    obtain ⟨hlinked, hvalue⟩ := h.cons hi hkey rfl hnone.symm (AList.lookup_insert t.heap) hchain'
      (by rw [hl]) nofun fun j _ q hq => AList.lookup_insert_ne (hptr j q hq)
    rw [hnone]
    exact ⟨_, _, rfl, rfl, hlinked, hvalue⟩
  | cons e l =>
    have hdisjoint : ∀ j, j ≠ i → ∀ q ∈ (chains j).map Prod.fst, q ≠ e.1 := by
      rintro j hj q hq rfl
      exact h.disjoint hj hq (by rw [hl]; exact List.mem_cons_self)
    have hnodup := hchain.nodup
    have hprev := h.prev i
    rw [hl] at hchain hnodup hprev
    obtain ⟨hhead, hnode, htail⟩ := hchain
    have hne : e.1 ≠ ptr := hptr i e.1 (by rw [hl]; exact List.mem_cons_self)
    -- the old first node points back to the new one, and no other node changes
    have hother : ∀ q, q ≠ ptr → q ≠ e.1 → ∀ n d : KeyValueHashElement T,
        ((t.heap.insert e.1 d).insert ptr n).lookup q = t.heap.lookup q := by
      intro q hq hqe n d
      rw [AList.lookup_insert_ne hq, AList.lookup_insert_ne hqe]
    have hrest : ∀ q ∈ l.map Prod.fst, q ≠ ptr ∧ q ≠ e.1 := by
      intro q hq
      refine ⟨hptr i q (by rw [hl]; exact List.mem_cons_of_mem _ hq), ?_⟩
      rintro rfl
      exact (List.nodup_cons.mp hnodup).1 hq
    have hprev' : ∀ d ∈ (e.1, { e.2 with prev := some ptr }) :: l, d.2.prev ≠ none := by
      intro d hd
      rcases List.mem_cons.mp hd with rfl | hd
      · exact Option.some_ne_none ptr
      · exact hprev d hd
    have hchain' : Chain KeyValueHashElement.next
        ((t.heap.insert e.1 { e.2 with prev := some ptr }).insert ptr
          { element := element, key := key, next := some e.1, prev := none })
        (t.head i) ((e.1, { e.2 with prev := some ptr }) :: l) :=
      ⟨hhead, by rw [AList.lookup_insert_ne hne, AList.lookup_insert],
        htail.frame fun q hq => hother q (hrest q hq).1 (hrest q hq).2 _ _⟩
    obtain ⟨hlinked, hvalue⟩ := h.cons hi hkey rfl hhead.symm (AList.lookup_insert _) hchain'
      (by rw [hl]; rfl) hprev'
      fun j hj q hq => hother q (hptr j q hq) (hdisjoint j hj q hq) _ _
    rw [hhead]
    dsimp only
    rw [hnode]
    exact ⟨_, _, rfl, rfl, hlinked, hvalue⟩

end

theorem slot_congr (hpower : t'.hash_hashpower = t.hash_hashpower) (key : List UInt8) :
    t'.slot hash key = t.slot hash key := by
  rw [TemplatedKeyValueHash.slot, hpower]
  rfl

theorem valueOf_congr (hpower : t'.hash_hashpower = t.hash_hashpower) (key : List UInt8) :
    valueOf hash t' chains key = valueOf hash t chains key := by
  rw [valueOf, slot_congr hpower]
  rfl

/-- A node with no pointer to a node before it is the first one: it is unlinked and deleted. -/
theorem Linked.unlink (h : Linked hash t chains) {i : Nat} {e : Nat × KeyValueHashElement T}
    (he : e ∈ chains i) (hprev : e.2.prev = none) :
    ∃ t' chains', t.unlink i e = some t' ∧ t'.hash_hashpower = t.hash_hashpower ∧
      Linked hash t' chains' ∧
      ∀ k, valueOf hash t' chains' k = Function.update (valueOf hash t chains) e.2.key none k := by
  obtain ⟨l, hl⟩ : ∃ l, chains i = e :: l := by
    cases hl : chains i with
    | nil =>
      rw [hl] at he
      cases he
    | cons d l =>
      rw [hl] at he
      rcases List.mem_cons.mp he with rfl | hmem
      · exact ⟨l, rfl⟩
      · exact absurd hprev (h.prev i e (by rw [hl]; exact hmem))
  have hchain := h.chain i
  have hnodup := hchain.nodup
  have hkeys := h.keys i
  have hslot := h.slot i
  have hprevs := h.prev i
  rw [hl] at hchain hnodup hkeys hslot hprevs
  have hrest : ∀ q ∈ l.map Prod.fst, q ≠ e.1 := by
    rintro q hq rfl
    exact (List.nodup_cons.mp hnodup).1 hq
  have hother : ∀ j, j ≠ i → ∀ q ∈ (chains j).map Prod.fst, q ≠ e.1 := by
    rintro j hj q hq rfl
    exact h.disjoint hj hq (by rw [hl]; exact List.mem_cons_self)
  unfold TemplatedKeyValueHash.unlink
  rw [hprev]
  refine ⟨_, Function.update chains i l, rfl, rfl, ?_, ?_⟩
  · refine h.update (hchain.2.2.frame fun q hq => AList.lookup_erase_ne (hrest q hq))
      (fun d hd => hslot d (List.mem_cons_of_mem _ hd)) (List.nodup_cons.mp hkeys).2
      (fun d hd => hprevs d (List.mem_of_mem_tail hd))
      fun j hj q hq => AList.lookup_erase_ne (hother j hj q hq)
  · intro k
    rw [valueOf_update]
    by_cases hk : k = e.2.key
    · subst hk
      rw [if_pos (hslot e List.mem_cons_self), update_self, Option.map_eq_none_iff,
        List.find?_eq_none]
      intro d hd
      simp only [decide_eq_true_eq]
      intro hdk
      refine (List.nodup_cons.mp hkeys).1 ?_
      exact List.mem_map.mpr ⟨d, hd, hdk⟩
    · rw [update_of_ne hk]
      split
      · rename_i hki
        rw [valueOf, hki, hl, List.find?_cons_of_neg (by simpa using Ne.symm hk)]
      · rfl

theorem Linked.clearSlot (h : Linked hash t chains) (i : Nat) :
    ∃ t', t.clearSlot i = some t' ∧ t'.hash_hashpower = t.hash_hashpower ∧
      Linked hash t' (Function.update chains i []) := by
  unfold TemplatedKeyValueHash.clearSlot
  cases hlist : t.hash_vector i with
  | none =>
    have hempty : chains i = [] := by
      have hchain := h.chain i
      rw [head, hlist] at hchain
      exact hchain.unique rfl
    refine ⟨t, rfl, rfl, ?_⟩
    rw [← hempty, update_eq_self]
    exact h
  | some list =>
    have hchain := h.chain i
    rw [show t.head i = list.head by rw [head, hlist]; rfl] at hchain
    obtain ⟨heap, hrel, hframe⟩ := hchain.release hchain.length_le
    dsimp only
    rw [hrel]
    refine ⟨_, rfl, rfl, ?_⟩
    exact h.update rfl nofun List.nodup_nil nofun
      fun j hj q hq => hframe q (h.disjoint hj hq)

theorem Linked.clearSlots (h : Linked hash t chains) (slots : List Nat) :
    ∃ t' chains', run TemplatedKeyValueHash.clearSlot t slots = some t' ∧
      t'.hash_hashpower = t.hash_hashpower ∧ Linked hash t' chains' ∧
      ∀ j, (j ∈ slots ∨ chains j = []) → chains' j = [] := by
  induction slots generalizing t chains with
  | nil => exact ⟨t, chains, rfl, rfl, h, fun j hj => hj.resolve_left (List.not_mem_nil)⟩
  | cons i slots ih =>
    obtain ⟨u, hu, hpower, hlinked⟩ := h.clearSlot i
    obtain ⟨t', chains', hrun, hpower', hlinked', hempty⟩ := ih hlinked
    refine ⟨t', chains', run_cons_some.mpr ⟨u, hu, hrun⟩, hpower'.trans hpower, hlinked', ?_⟩
    intro j hj
    refine hempty j ?_
    by_cases hji : j = i
    · subst hji
      exact Or.inr (update_self ..)
    · rw [update_of_ne hji]
      rcases hj with hj | hj
      · exact Or.inl ((List.mem_cons.mp hj).resolve_left hji)
      · exact Or.inr hj

/-! ## Runs -/

/-- A key is added when it is not there, and a node is removed when it has no pointer to a node
before it: it is the newest of its slot, and none was removed from the slot since. -/
def hashOk (hash : List UInt8 → UInt32) (t : TemplatedKeyValueHash T) : HashEvent T → Prop
  | .getElement _ => True
  | .addElement key _ ptr =>
    ptr ∉ t.heap ∧ ∀ found ∈ t.search ⟨t.head (t.slot hash key)⟩ key, found.isNone
  | .removeElement key =>
    ∀ found ∈ t.search ⟨t.head (t.slot hash key)⟩ key, ∀ e ∈ found, e.2.prev = none
  | .clear => True

instance (hash : List UInt8 → UInt32) (t : TemplatedKeyValueHash T) (e : HashEvent T) :
    Decidable (hashOk hash t e) :=
  match e with
  | .getElement _ => isTrue trivial
  | .addElement _ _ _ => inferInstanceAs (Decidable (_ ∧ _))
  | .removeElement key =>
    inferInstanceAs (Decidable (∀ found ∈ t.search ⟨t.head (t.slot hash key)⟩ key, _))
  | .clear => isTrue trivial

variable {map : List UInt8 → Option T}

/-- The search from the first node of the slot of a key. -/
theorem Linked.search_head (h : Linked hash t chains) (key : List UInt8) :
    t.search ⟨t.head (t.slot hash key)⟩ key =
      some ((chains (t.slot hash key)).find? fun e => decide (e.2.key = key)) :=
  (h.chain _).walk _ (h.chain _).length_le

theorem Refines.getListByHash (h : Refines hash t map) (i : Nat) :
    Refines hash (t.getListByHash i).1 map := by
  obtain ⟨hpower, chains, hlinked, hvalue⟩ := h
  obtain ⟨-, -, hpower', -⟩ := getListByHash_spec t i
  refine ⟨by rw [hpower']; exact hpower, chains, hlinked.getListByHash i, fun k => ?_⟩
  rw [valueOf_congr hpower', hvalue]

/-- A look-up gives the element of the map, or an error where the map has none. -/
theorem Refines.getElement (h : Refines hash t map) (key : List UInt8) :
    ∃ r, t.getElement hash key = some ((t.getListByHash (t.slot hash key)).1, r) ∧
      r.toOption = map key := by
  obtain ⟨-, chains, hlinked, hvalue⟩ := h
  obtain ⟨r, hget, hr⟩ := hlinked.getElement key
  exact ⟨r, hget, hr.trans (hvalue key)⟩

theorem Refines.addElement (h : Refines hash t map) {ptr : Nat} {element : T}
    (hfresh : ptr ∉ t.heap) (hkey : map key = none) :
    ∃ t', t.addElement hash key element ptr = some t' ∧
      Refines hash t' (Function.update map key (some element)) := by
  obtain ⟨r, hget, hr⟩ := h.getElement key
  obtain ⟨-, hheap, hpower, -⟩ := getListByHash_spec t (t.slot hash key)
  have h₁ := h.getListByHash (t.slot hash key)
  unfold TemplatedKeyValueHash.addElement
  rw [hget]
  generalize (t.getListByHash (t.slot hash key)).1 = t₁ at *
  cases r with
  | ok v =>
    rw [hkey] at hr
    cases hr
  | error err =>
    dsimp only
    obtain ⟨hlist, hheap₂, hpower₂, hhead₂⟩ := getListByHash_spec t₁ (t₁.slot hash key)
    obtain ⟨hpow, chains, hlinked, hvalue⟩ := h₁.getListByHash (t₁.slot hash key)
    obtain ⟨t', chains', hpush, hpower', hlinked', hvalue'⟩ :=
      hlinked.pushFront element (by rw [hheap₂, hheap]; exact hfresh)
        (slot_congr hpower₂ key) ((hvalue key).trans hkey) (hlist.trans (hhead₂ _).symm)
    refine ⟨t', hpush, by rw [hpower']; exact hpow, chains', hlinked', fun k => ?_⟩
    rw [hvalue', funext hvalue]

theorem Refines.removeElement (h : Refines hash t map)
    (hok : ∀ found ∈ t.search ⟨t.head (t.slot hash key)⟩ key, ∀ e ∈ found, e.2.prev = none) :
    ∃ t', t.removeElement hash key = some t' ∧ Refines hash t' (Function.update map key none) := by
  obtain ⟨hpower, chains, hlinked, hvalue⟩ := h
  obtain ⟨-, -, hpower', -⟩ := getListByHash_spec t (t.slot hash key)
  have hlinked' := hlinked.getListByHash (t.slot hash key)
  unfold TemplatedKeyValueHash.removeElement
  dsimp only
  rw [hlinked.search, Option.bind_some]
  rw [hlinked.search_head] at hok
  cases hfind : (chains (t.slot hash key)).find? fun e => decide (e.2.key = key) with
  | none =>
    refine ⟨_, rfl, by rw [hpower']; exact hpower, chains, hlinked', fun k => ?_⟩
    have hnone : map key = none := by
      rw [← hvalue, valueOf, hfind]
      rfl
    rw [valueOf_congr hpower', hvalue, ← hnone, update_eq_self]
  | some e =>
    have hkey : e.2.key = key := by simpa using List.find?_some hfind
    obtain ⟨t', chains', hunlink, hpower'', hlinked'', hvalue''⟩ :=
      hlinked'.unlink (List.mem_of_find?_eq_some hfind) (hok _ rfl e hfind)
    refine ⟨t', hunlink, by rw [hpower'', hpower']; exact hpower, chains', hlinked'', fun k => ?_⟩
    rw [hvalue'', hkey]
    congr 1
    funext k
    rw [valueOf_congr hpower', hvalue]

theorem Refines.clear (h : Refines hash t map) :
    ∃ t', t.clear = some t' ∧ Refines hash t' fun _ => none := by
  obtain ⟨hpower, chains, hlinked, -⟩ := h
  obtain ⟨t', chains', hrun, hpower', hlinked', hempty⟩ :=
    hlinked.clearSlots (List.range (hashsize t.hash_hashpower).toNat)
  refine ⟨t', hrun, by rw [hpower']; exact hpower, chains', hlinked', fun k => ?_⟩
  rw [valueOf, hempty _ (Or.inl ?_)]
  · rfl
  · rw [slot_congr hpower']
    exact List.mem_range.mpr (slot_lt hpower k)

/-- Each call under the condition is defined, and does what it does to the finite map. -/
theorem Refines.step (h : Refines hash t map) {e : HashEvent T} (hok : hashOk hash t e) :
    ∃ t', hashStep hash t e = some t' ∧ Refines hash t' (mapStep map e) := by
  cases e with
  | getElement key =>
    obtain ⟨r, hget, -⟩ := h.getElement key
    rw [hashStep, hget]
    exact ⟨_, rfl, h.getListByHash _⟩
  | addElement key element ptr =>
    obtain ⟨hfresh, hkey⟩ := hok
    rw [hashStep, if_neg hfresh]
    refine h.addElement hfresh ?_
    obtain ⟨-, chains, hlinked, hvalue⟩ := h
    rw [hlinked.search_head] at hkey
    rw [← hvalue, valueOf, Option.map_eq_none_iff]
    exact Option.isNone_iff_eq_none.mp (hkey _ rfl)
  | removeElement key => exact h.removeElement hok
  | clear => exact h.clear

theorem refines_new {power : Nat} (hpower : power < 32) :
    Refines hash (TemplatedKeyValueHash.new T power) fun _ => none :=
  ⟨hpower, fun _ => [], ⟨fun _ => rfl, nofun, fun _ => List.nodup_nil, nofun⟩, fun _ => rfl⟩

/-- A run under the condition is defined, and the hash holds the elements of the map after it. -/
theorem Refines.run {es : List (HashEvent T)} (h : Refines hash t map)
    (hok : RunOk (hashStep hash) (hashOk hash) t es) :
    ∃ t', runs.run (hashStep hash) t es = some t' ∧ Refines hash t' (es.foldl mapStep map) := by
  induction es generalizing t map with
  | nil => exact ⟨t, rfl, h⟩
  | cons e es ih =>
    obtain ⟨u, hu, hrefines⟩ := h.step hok.1
    obtain ⟨t', hrun, hrefines'⟩ := ih hrefines (hok.2 u hu)
    exact ⟨t', run_cons_some.mpr ⟨u, hu, hrun⟩, hrefines'⟩

/-- After every run under the condition, in which no call meets a null or deleted node, each
`getElement` gives the element most recently added and not removed, or an error if there is
none. -/
theorem hash_is_a_finite_map {power : Nat} {es : List (HashEvent T)} (hpower : power < 32)
    (hok : RunOk (hashStep hash) (hashOk hash) (TemplatedKeyValueHash.new T power) es) :
    ∃ t, run (hashStep hash) (TemplatedKeyValueHash.new T power) es = some t ∧
      ∀ key, ∃ u r, t.getElement hash key = some (u, r) ∧ r.toOption = mapAfter es key := by
  obtain ⟨t, hrun, hrefines⟩ := (refines_new hpower).run hok
  refine ⟨t, hrun, fun key => ?_⟩
  obtain ⟨r, hget, hr⟩ := hrefines.getElement key
  exact ⟨_, r, hget, hr⟩

/-- All keys fall in one slot. -/
def oneSlot : List UInt8 → UInt32 := fun _ => 0

def twoKeysRun : List (HashEvent Nat) :=
  [.addElement [1] 10 100, .addElement [2] 20 101, .removeElement [2], .getElement [1], .clear,
    .addElement [2] 30 100, .getElement [1]]

/-- Two keys in one slot, of which the newer is removed; then all are cleared. -/
theorem map_of_two_keys :
    mapAfter twoKeysRun [2] = some 30 ∧
      ∃ t, run (hashStep oneSlot) (TemplatedKeyValueHash.new Nat 1) twoKeysRun = some t ∧
        ∀ key, ∃ u r, t.getElement oneSlot key = some (u, r) ∧
          r.toOption = mapAfter twoKeysRun key :=
  ⟨rfl, hash_is_a_finite_map (by decide) (by decide +kernel)⟩

/-- The removal of the older of two keys in one slot uses the null pointer after its node. -/
theorem removal_of_older_key_is_undefined :
    ∃ t, run (hashStep oneSlot) (TemplatedKeyValueHash.new Nat 16)
        [.addElement [1] 10 100, .addElement [2] 20 101] = some t ∧
      hashStep oneSlot t (.removeElement [1]) = none := by
  have hsome : (run (hashStep oneSlot) (TemplatedKeyValueHash.new Nat 16)
      [.addElement [1] 10 100, .addElement [2] 20 101]).isSome := by decide +kernel
  have hnone : ∀ t ∈ run (hashStep oneSlot) (TemplatedKeyValueHash.new Nat 16)
      [.addElement [1] 10 100, .addElement [2] 20 101],
      (hashStep oneSlot t (.removeElement [1])).isNone := by decide +kernel
  obtain ⟨t, ht⟩ := Option.isSome_iff_exists.mp hsome
  exact ⟨t, ht, Option.isNone_iff_eq_none.mp (hnone t ht)⟩

end chaos.common.utility
