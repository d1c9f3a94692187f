-- What holds of the items of the cache between its steps, and what each step on one item makes of
-- them: who uses it, who links it, and who gives its chunk back. Each function of the cache is
-- first shown to end in a state that is written out, and the state is then shown to be sound.
import Chaos.DataCache
import Chaos.SlabPieces

open Function chained_table chaos.memory

namespace chaos.common.data.cache.DataCache

variable (hash : Key → UInt32)

/-! ## The invariant -/

/-- What holds of the item in a chunk that is handed out. -/
structure ItemOk (s : DataCache) (c : Chunk) : Prop where
  linked : (s.items c.ptr).linked = true ↔ c.ptr ∈ s.table
  slabbed : (s.items c.ptr).slabbed = false
  size : (s.items c.ptr).ntotal = c.size
  clsid : (s.items c.ptr).slabs_clsid = s.memory.pool.getSlabIdBySize c.size
  arrays : s.InArrays (s.items c.ptr).slabs_clsid

/-- The linked items are the ones in the table and in the queues, and each has a chunk. -/
structure Sound (s : DataCache) : Prop where
  memory : Holds s.memory
  placed : s.table.Placed (hashOf hash) s.key
  live : ∀ p ∈ s.table, p ∈ s.memory.live.map Chunk.ptr
  items : ∀ c ∈ s.memory.live, ItemOk s c
  queue : ∀ id p, p ∈ s.queues id ↔ p ∈ s.table ∧ (s.items p).slabs_clsid = id
  queue_nodup : ∀ id, (s.queues id).Nodup
  free : ∀ p, p ∉ s.memory.live.map Chunk.ptr → (s.items p).slabs_clsid = 0

variable {hash} {s t : DataCache} {p q : Nat} {i : Item} {c : Chunk} {a : Answers} {table : Bool}

/-- A step that leaves the flags, the size and the class of an item. -/
theorem ItemOk.congr (h : ItemOk s c) (hlinked : (t.items c.ptr).linked = true ↔ c.ptr ∈ t.table)
    (hslabbed : (t.items c.ptr).slabbed = (s.items c.ptr).slabbed)
    (hntotal : (t.items c.ptr).ntotal = (s.items c.ptr).ntotal)
    (hclsid : (t.items c.ptr).slabs_clsid = (s.items c.ptr).slabs_clsid)
    (hsame : SameSizes s.memory.pool t.memory.pool) (hzeroed : t.zeroed = s.zeroed) :
    ItemOk t c := by
  refine ⟨hlinked, hslabbed.trans h.slabbed, hntotal.trans h.size, ?_, ?_⟩
  · rw [hclsid, hsame.getSlabIdBySize]
    exact h.clsid
  · rw [hclsid, InArrays, hzeroed]
    exact h.arrays

/-! ## Writing an item -/

@[simp] theorem setItem_self : (s.setItem p i).items p = i := update_self ..

theorem setItem_of_ne (h : q ≠ p) : (s.setItem p i).items q = s.items q := update_of_ne h ..

/-- What a write leaves of one item as it was, it leaves of all. -/
theorem setItem_congr {β : Type*} {f : Item → β} (h : f i = f (s.items p)) (q : Nat) :
    f ((s.setItem p i).items q) = f (s.items q) := by
  by_cases hq : q = p
  · subst hq
    rw [setItem_self, h]
  · rw [setItem_of_ne hq]

theorem setItem_key (h : i.key = (s.items p).key) : (s.setItem p i).key = s.key :=
  funext (setItem_congr h)

/-- A write that leaves the key, the flags, the size and the class. -/
theorem Sound.setItem (h : Sound hash s) (hkey : i.key = (s.items p).key)
    (hlinked : i.linked = (s.items p).linked) (hslabbed : i.slabbed = (s.items p).slabbed)
    (hntotal : i.ntotal = (s.items p).ntotal)
    (hclsid : i.slabs_clsid = (s.items p).slabs_clsid) : Sound hash (s.setItem p i) := by
  have hclass := setItem_congr (f := Item.slabs_clsid) hclsid
  refine ⟨h.memory, ?_, h.live, fun c hc => ?_, fun id q => ?_, h.queue_nodup, fun q hq => ?_⟩
  · rw [setItem_key hkey]
    exact h.placed
  · refine (h.items c hc).congr ?_ (setItem_congr hslabbed _) (setItem_congr hntotal _)
      (hclass _) (SameSizes.refl _) rfl
    rw [setItem_congr (f := Item.linked) hlinked]
    exact (h.items c hc).linked
  · rw [hclass]
    exact h.queue id q
  · rw [hclass]
    exact h.free q hq

/-- Another count of references. -/
def setRef (s : DataCache) (p : Nat) (n : UInt16) : DataCache :=
  s.setItem p { s.items p with refcount := n }

theorem Sound.setRef (h : Sound hash s) (p : Nat) (n : UInt16) : Sound hash (s.setRef p n) :=
  h.setItem rfl rfl rfl rfl rfl

/-! ## Finding an item -/

theorem Sound.assoc_find_eq_some_iff (h : Sound hash s) {k : Key} :
    s.assoc_find hash k = some p ↔ p ∈ s.table ∧ s.key p = k :=
  h.placed.find_eq_some_iff

theorem Sound.assoc_find_eq_none_iff (h : Sound hash s) {k : Key} :
    s.assoc_find hash k = none ↔ ∀ p ∈ s.table, s.key p ≠ k :=
  h.placed.find_eq_none_iff

/-- An item in the table has a chunk. -/
theorem Sound.chunk_of_mem (h : Sound hash s) (hp : p ∈ s.table) :
    ∃ c ∈ s.memory.live, c.ptr = p :=
  List.mem_map.mp (h.live p hp)

theorem Sound.linked_of_mem (h : Sound hash s) (hp : p ∈ s.table) :
    (s.items p).linked = true ∧ (s.items p).slabbed = false ∧
      s.InArrays (s.items p).slabs_clsid := by
  obtain ⟨c, hc, rfl⟩ := h.chunk_of_mem hp
  have hok := h.items c hc
  exact ⟨hok.linked.mpr hp, hok.slabbed, hok.arrays⟩

/-! ## Taking an item out of the table -/

variable (hash) in
/-- The state after an item was taken out of the table and of its queue. -/
def unlinked (s : DataCache) (p : Nat) : DataCache :=
  { s.setItem p { s.items p with linked := false } with
    table := s.table.delete (hashOf hash) s.key (s.key p)
    hash_items := s.hash_items - 1
    queues := update s.queues (s.items p).slabs_clsid ((s.queues (s.items p).slabs_clsid).erase p)
    sizes := update s.sizes (s.items p).slabs_clsid (s.sizes (s.items p).slabs_clsid - 1) }

theorem item_unlink_q_eq {id : Nat} (hid : (s.items p).slabs_clsid = id) (h : s.InArrays id) :
    s.item_unlink_q p = some
      { s with
        queues := update s.queues id ((s.queues id).erase p)
        sizes := update s.sizes id (s.sizes id - 1) } := by
  subst hid
  exact if_pos h

theorem Sound.do_item_unlink (h : Sound hash s) (hp : p ∈ s.table)
    (href : (s.items p).refcount ≠ 0) :
    s.do_item_unlink hash a p = some (s.unlinked hash p) := by
  obtain ⟨hlinked, -, harrays⟩ := h.linked_of_mem hp
  have hkey : (s.setItem p { s.items p with linked := false }).key = s.key := setItem_key rfl
  have hclsid := setItem_congr (s := s) (f := Item.slabs_clsid)
    (i := { s.items p with linked := false }) rfl p
  have hfind : (s.setItem p { s.items p with linked := false }).assoc_find hash (s.key p) ≠
      none := by
    rw [assoc_find, hkey]
    exact fun hnone => h.assoc_find_eq_none_iff.mp hnone p hp rfl
  rw [DataCache.do_item_unlink, if_pos hlinked]
  refine Option.bind_eq_some_iff.mpr ⟨_, if_neg hfind, ?_⟩
  refine Option.bind_eq_some_iff.mpr ⟨_, item_unlink_q_eq hclsid harrays, ?_⟩
  rw [hkey]
  refine if_neg ?_
  show ((s.setItem p { s.items p with linked := false }).items p).refcount ≠ 0
  rw [setItem_self]
  exact href

theorem Sound.mem_unlinked (h : Sound hash s) (hp : p ∈ s.table) :
    q ∈ (s.unlinked hash p).table ↔ q ∈ s.table ∧ q ≠ p := by
  refine h.placed.mem_delete.trans (and_congr_right fun hq => not_congr ⟨?_, ?_⟩)
  · exact h.placed.eq_of_key_eq hq hp
  · exact fun heq => congrArg s.key heq

theorem unlinked_of_ne (h : q ≠ p) : (s.unlinked hash p).items q = s.items q := setItem_of_ne h

@[simp] theorem unlinked_self :
    (s.unlinked hash p).items p = { s.items p with linked := false } := setItem_self

/-- What taking an item out leaves of one item as it was, it leaves of all. -/
theorem unlinked_congr {β : Type*} {f : Item → β}
    (h : f { s.items p with linked := false } = f (s.items p)) (q : Nat) :
    f ((s.unlinked hash p).items q) = f (s.items q) := setItem_congr h q

@[simp] theorem unlinked_key : (s.unlinked hash p).key = s.key :=
  funext (unlinked_congr (f := Item.key) rfl)

theorem unlinked_clsid (q : Nat) :
    ((s.unlinked hash p).items q).slabs_clsid = (s.items q).slabs_clsid :=
  unlinked_congr (f := Item.slabs_clsid) rfl q

theorem Sound.unlinked (h : Sound hash s) (hp : p ∈ s.table) :
    Sound hash (s.unlinked hash p) := by
  have hmem : ∀ q, q ∈ (s.unlinked hash p).table ↔ q ∈ s.table ∧ q ≠ p :=
    fun q => h.mem_unlinked hp
  refine ⟨h.memory, ?_, fun q hq => h.live q ((hmem q).mp hq).1, fun c hc => ?_, fun id q => ?_,
    fun id => ?_, fun q hq => ?_⟩
  · rw [unlinked_key]
    exact h.placed.delete (s.key p)
  · have hok := h.items c hc
    refine hok.congr ?_ (unlinked_congr (f := Item.slabbed) rfl _)
      (unlinked_congr (f := Item.ntotal) rfl _) (unlinked_clsid _) (SameSizes.refl _) rfl
    by_cases hcp : c.ptr = p
    · rw [hmem, hcp, unlinked_self]
      exact iff_of_false nofun fun hne => hne.2 rfl
    · rw [hmem, unlinked_of_ne hcp, hok.linked]
      exact (and_iff_left hcp).symm
  · rw [hmem, unlinked_clsid]
    show q ∈ update s.queues _ _ id ↔ _
    by_cases hid : id = (s.items p).slabs_clsid
    · subst hid
      rw [update_self, (h.queue_nodup _).mem_erase_iff, h.queue]
      tauto
    · rw [update_of_ne hid, h.queue]
      refine ⟨fun hq => ⟨⟨hq.1, ?_⟩, hq.2⟩, fun hq => ⟨hq.1.1, hq.2⟩⟩
      rintro rfl
      exact hid hq.2.symm
  · show (update s.queues _ _ id).Nodup
    by_cases hid : id = (s.items p).slabs_clsid
    · subst hid
      rw [update_self]
      exact (h.queue_nodup _).erase p
    · rw [update_of_ne hid]
      exact h.queue_nodup id
  · rw [unlinked_clsid]
    exact h.free q hq

/-! ## Putting an item into the table -/

variable (hash) in
/-- The table with one more item, which may be the one that makes it grow. -/
def linkedTable (s : DataCache) (table : Bool) (p : Nat) : Table Nat :=
  let t := s.table.insert (hashOf hash (s.key p)) p
  if (t.expanding = false ∧ 2 ^ t.power * 3 / 2 < (s.hash_items + 1).toNat) ∧ table then t.grow
  else t

variable (hash) in
/-- The state after an item was put into the table and into the queue of its class. -/
def linkedIn (s : DataCache) (table : Bool) (p : Nat) : DataCache :=
  { s.setItem p { s.items p with linked := true } with
    table := s.linkedTable hash table p
    hash_items := s.hash_items + 1
    queues := update s.queues (s.items p).slabs_clsid (p :: s.queues (s.items p).slabs_clsid)
    sizes := update s.sizes (s.items p).slabs_clsid (s.sizes (s.items p).slabs_clsid + 1) }

theorem assoc_insert_eq (h : s.assoc_find hash (s.key p) = none) :
    s.assoc_insert hash table p = some
      { s with
        table := s.linkedTable hash table p
        hash_items := s.hash_items + 1 } := by
  rw [assoc_insert, if_pos h, linkedTable]
  dsimp only
  by_cases hfull : (s.table.insert (hashOf hash (s.key p)) p).expanding = false ∧
      2 ^ (s.table.insert (hashOf hash (s.key p)) p).power * 3 / 2 < (s.hash_items + 1).toNat
  · rw [if_pos hfull, assoc_expand]
    cases table with
    | false => rw [if_neg nofun, if_neg (fun h => Bool.noConfusion h.2)]
    | true => rw [if_pos rfl, if_pos ⟨hfull, rfl⟩]
  · rw [if_neg hfull, if_neg (fun h => hfull h.1)]

theorem item_link_q_eq {id : Nat} (hid : (s.items p).slabs_clsid = id) (h : s.InArrays id)
    (hslabbed : (s.items p).slabbed = false) (hhead : (s.queues id).head? ≠ some p) :
    s.item_link_q p = some
      { s with
        queues := update s.queues id (p :: s.queues id)
        sizes := update s.sizes id (s.sizes id + 1) } := by
  subst hid
  exact if_pos ⟨h, hslabbed, hhead⟩

/-- An item that is not in the table is not in its queue. -/
theorem Sound.not_mem_queue (h : Sound hash s) (hp : p ∉ s.table) (id : Nat) : p ∉ s.queues id :=
  fun hq => hp ((h.queue id p).mp hq).1

theorem Sound.do_item_link (h : Sound hash s) (hc : c ∈ s.memory.live)
    (hlinked : (s.items c.ptr).linked = false) (hnew : ∀ q ∈ s.table, s.key q ≠ s.key c.ptr) :
    s.do_item_link hash table c.ptr = some (s.linkedIn hash table c.ptr) := by
  have hok := h.items c hc
  have hkey : (s.setItem c.ptr { s.items c.ptr with linked := true }).key = s.key :=
    setItem_key rfl
  have hclsid := setItem_congr (s := s) (f := Item.slabs_clsid)
    (i := { s.items c.ptr with linked := true }) rfl c.ptr
  have hslabbed := setItem_congr (s := s) (f := Item.slabbed)
    (i := { s.items c.ptr with linked := true }) rfl c.ptr
  have hfind : (s.setItem c.ptr { s.items c.ptr with linked := true }).assoc_find hash
      ((s.setItem c.ptr { s.items c.ptr with linked := true }).key c.ptr) = none := by
    rw [assoc_find, hkey]
    exact h.assoc_find_eq_none_iff.mpr hnew
  have htable : (s.setItem c.ptr { s.items c.ptr with linked := true }).linkedTable hash table
      c.ptr = s.linkedTable hash table c.ptr := by
    rw [linkedTable, hkey]
    rfl
  have hout : c.ptr ∉ s.table := fun hmem => hnew c.ptr hmem rfl
  have hhead : (s.queues (s.items c.ptr).slabs_clsid).head? ≠ some c.ptr := fun heq =>
    h.not_mem_queue hout _ (List.mem_of_head? heq)
  rw [DataCache.do_item_link, if_pos ⟨hlinked, hok.slabbed⟩]
  refine Option.bind_eq_some_iff.mpr ⟨_, assoc_insert_eq hfind, ?_⟩
  rw [htable]
  exact item_link_q_eq hclsid hok.arrays (hslabbed.trans hok.slabbed) hhead

theorem Sound.placed_insert (h : Sound hash s) (hnew : ∀ q ∈ s.table, s.key q ≠ s.key p) :
    (s.table.insert (hashOf hash (s.key p)) p).Placed (hashOf hash) s.key :=
  h.placed.insert hnew

theorem Sound.mem_linkedTable (h : Sound hash s) (hnew : ∀ q ∈ s.table, s.key q ≠ s.key p) :
    q ∈ s.linkedTable hash table p ↔ q = p ∨ q ∈ s.table := by
  rw [linkedTable]
  split
  · rename_i hgrow
    rw [(h.placed_insert hnew).mem_grow hgrow.1.1, Table.mem_insert]
  · exact Table.mem_insert

theorem Sound.placed_linkedTable (h : Sound hash s) (hnew : ∀ q ∈ s.table, s.key q ≠ s.key p) :
    (s.linkedTable hash table p).Placed (hashOf hash) s.key := by
  rw [linkedTable]
  split
  · rename_i hgrow
    exact (h.placed_insert hnew).grow hgrow.1.1
  · exact h.placed_insert hnew

theorem linkedIn_of_ne (h : q ≠ p) : (s.linkedIn hash table p).items q = s.items q :=
  setItem_of_ne h

@[simp] theorem linkedIn_self :
    (s.linkedIn hash table p).items p = { s.items p with linked := true } := setItem_self

/-- What putting an item in leaves of one item as it was, it leaves of all. -/
theorem linkedIn_congr {β : Type*} {f : Item → β}
    (h : f { s.items p with linked := true } = f (s.items p)) (q : Nat) :
    f ((s.linkedIn hash table p).items q) = f (s.items q) := setItem_congr h q

@[simp] theorem linkedIn_key : (s.linkedIn hash table p).key = s.key :=
  funext (linkedIn_congr (f := Item.key) rfl)

theorem linkedIn_clsid (q : Nat) :
    ((s.linkedIn hash table p).items q).slabs_clsid = (s.items q).slabs_clsid :=
  linkedIn_congr (f := Item.slabs_clsid) rfl q

theorem Sound.linkedIn (h : Sound hash s) (hc : c ∈ s.memory.live)
    (hnew : ∀ q ∈ s.table, s.key q ≠ s.key c.ptr) :
    Sound hash (s.linkedIn hash table c.ptr) := by
  have hmem : ∀ q, q ∈ (s.linkedIn hash table c.ptr).table ↔ q = c.ptr ∨ q ∈ s.table :=
    fun q => h.mem_linkedTable hnew
  have hout : c.ptr ∉ s.table := fun hmem => hnew c.ptr hmem rfl
  refine ⟨h.memory, ?_, fun q hq => ?_, fun d hd => ?_, fun id q => ?_, fun id => ?_,
    fun q hq => ?_⟩
  · rw [linkedIn_key]
    exact h.placed_linkedTable hnew
  · rcases (hmem q).mp hq with rfl | hq
    · exact List.mem_map_of_mem hc
    · exact h.live q hq
  · have hok := h.items d hd
    refine hok.congr ?_ (linkedIn_congr (f := Item.slabbed) rfl _)
      (linkedIn_congr (f := Item.ntotal) rfl _) (linkedIn_clsid _) (SameSizes.refl _) rfl
    by_cases hdp : d.ptr = c.ptr
    · rw [hmem, hdp, linkedIn_self]
      exact iff_of_true rfl (.inl rfl)
    · rw [hmem, linkedIn_of_ne hdp, hok.linked]
      exact (or_iff_right hdp).symm
  · rw [hmem, linkedIn_clsid]
    show q ∈ update s.queues _ _ id ↔ _
    by_cases hid : id = (s.items c.ptr).slabs_clsid
    · subst hid
      rw [update_self, List.mem_cons, h.queue]
      refine ⟨?_, ?_⟩
      · rintro (rfl | ⟨hq, hclsid⟩)
        · exact ⟨.inl rfl, rfl⟩
        · exact ⟨.inr hq, hclsid⟩
      · rintro ⟨rfl | hq, hclsid⟩
        · exact .inl rfl
        · exact .inr ⟨hq, hclsid⟩
    · rw [update_of_ne hid, h.queue]
      refine ⟨fun hq => ⟨.inr hq.1, hq.2⟩, ?_⟩
      rintro ⟨rfl | hq, hclsid⟩
      · exact absurd hclsid.symm hid
      · exact ⟨hq, hclsid⟩
  · show (update s.queues _ _ id).Nodup
    by_cases hid : id = (s.items c.ptr).slabs_clsid
    · subst hid
      rw [update_self]
      exact List.nodup_cons.mpr ⟨h.not_mem_queue hout _, h.queue_nodup _⟩
    · rw [update_of_ne hid]
      exact h.queue_nodup id
  · rw [linkedIn_clsid]
    exact h.free q hq

/-! ## Giving a chunk back -/

/-- The state after the chunk of an item was given back. -/
def freed (s : DataCache) (a : Answers) (p : Nat) : DataCache :=
  (s.setItem p { s.items p with slabs_clsid := 0, slabbed := true }).deallocate a p
    (s.items p).ntotal (s.items p).slabs_clsid

theorem Sound.item_free (h : Sound hash s) (hc : c ∈ s.memory.live)
    (hlinked : (s.items c.ptr).linked = false) (href : (s.items c.ptr).refcount = 0) :
    s.item_free a c.ptr = some (s.freed a c.ptr) := by
  have hok := h.items c hc
  have hout : c.ptr ∉ s.table := fun hmem => by
    rw [hok.linked.mpr hmem] at hlinked
    cases hlinked
  exact if_pos ⟨hlinked, hok.arrays,
    fun heq => h.not_mem_queue hout _ (List.mem_of_head? heq),
    fun heq => h.not_mem_queue hout _ (List.mem_of_getLast? heq), href⟩

/-- The pointers that are left when a chunk came back. -/
theorem Sound.mem_erase (h : Sound hash s) (hc : c ∈ s.memory.live) :
    q ∈ (s.memory.live.erase c).map Chunk.ptr ↔ q ∈ s.memory.live.map Chunk.ptr ∧ q ≠ c.ptr := by
  have hnodup := h.memory.nodup
  rw [((List.perm_cons_erase hc).map Chunk.ptr).nodup_iff, List.map_cons,
    List.nodup_cons] at hnodup
  rw [((List.perm_cons_erase hc).map Chunk.ptr).mem_iff, List.map_cons, List.mem_cons]
  constructor
  · intro hq
    exact ⟨.inr hq, ne_of_mem_of_not_mem hq hnodup.1⟩
  · rintro ⟨hq, hne⟩
    exact hq.resolve_left hne

theorem freed_of_ne (h : q ≠ p) : (s.freed a p).items q = s.items q := setItem_of_ne h

@[simp] theorem freed_key : (s.freed a p).key = s.key :=
  setItem_key (i := { s.items p with slabs_clsid := 0, slabbed := true }) rfl

theorem Sound.freed_memory (h : Sound hash s) (hc : c ∈ s.memory.live) :
    (s.freed a c.ptr).memory =
      ⟨s.memory.pool.do_slabs_free a c.ptr (s.memory.pool.getSlabIdBySize c.size),
        s.memory.live.erase c⟩ := by
  have hok := h.items c hc
  show State.mk (s.memory.pool.do_slabs_free a c.ptr (s.items c.ptr).slabs_clsid)
    (s.memory.live.erase ⟨c.ptr, (s.items c.ptr).ntotal⟩) = _
  rw [hok.clsid, hok.size]

theorem Sound.freed (h : Sound hash s) (hc : c ∈ s.memory.live) (hout : c.ptr ∉ s.table) :
    Sound hash (s.freed a c.ptr) := by
  have hmemory := h.freed_memory (a := a) hc
  refine ⟨?_, ?_, fun q hq => ?_, fun d hd => ?_, fun id q => ?_, h.queue_nodup, fun q hq => ?_⟩
  · rw [hmemory]
    exact h.memory.deallocate hc
  · rw [freed_key]
    exact h.placed
  · rw [hmemory]
    exact (h.mem_erase hc).mpr ⟨h.live q hq, ne_of_mem_of_not_mem hq hout⟩
  · rw [hmemory] at hd
    have hne : d.ptr ≠ c.ptr := ((h.mem_erase hc).mp (List.mem_map_of_mem hd)).2
    have hok := h.items d (List.mem_of_mem_erase hd)
    have hitem : (s.freed a c.ptr).items d.ptr = s.items d.ptr := freed_of_ne hne
    refine hok.congr ?_ (by rw [hitem]) (by rw [hitem]) (by rw [hitem])
      (do_slabs_free_sameSizes ..) rfl
    rw [hitem]
    exact hok.linked
  · show q ∈ s.queues id ↔ q ∈ s.table ∧ _
    rw [h.queue]
    refine and_congr_right fun hq => ?_
    rw [freed_of_ne (ne_of_mem_of_not_mem hq hout)]
  · rw [hmemory] at hq
    by_cases hqp : q = c.ptr
    · subst hqp
      show ((s.setItem c.ptr _).items c.ptr).slabs_clsid = 0
      rw [setItem_self]
    · rw [freed_of_ne hqp]
      exact h.free q fun hlive => hq ((h.mem_erase hc).mpr ⟨hlive, hqp⟩)

/-! ## Using an item -/

theorem do_item_get_some {k : Key} (h : s.assoc_find hash k = some p) :
    s.do_item_get hash k = (s.setRef p ((s.items p).refcount + 1), some p) := by
  rw [do_item_get, h]
  rfl

theorem do_item_get_none {k : Key} (h : s.assoc_find hash k = none) :
    s.do_item_get hash k = (s, none) := by
  rw [do_item_get, h]

/-- What `do_item_remove` leaves of a count of references. -/
def lessOne (n : UInt16) : UInt16 := if n ≠ 0 then n - 1 else n

/-- The state after a reference was given back, by which an item may have lost its chunk. -/
def dropped (s : DataCache) (a : Answers) (p : Nat) : DataCache :=
  if lessOne (s.items p).refcount = 0 ∧ (s.items p).linked = false then
    (s.setRef p (lessOne (s.items p).refcount)).freed a p
  else s.setRef p (lessOne (s.items p).refcount)

theorem setRef_self (n : UInt16) : (s.setRef p n).items p = { s.items p with refcount := n } :=
  setItem_self

theorem setRef_of_ne {n : UInt16} (h : q ≠ p) : (s.setRef p n).items q = s.items q :=
  setItem_of_ne h

@[simp] theorem setRef_key (n : UInt16) : (s.setRef p n).key = s.key :=
  setItem_key (i := { s.items p with refcount := n }) rfl

theorem setRef_refcount : s.setRef p (s.items p).refcount = s := by
  show { s with items := update s.items p (s.items p) } = s
  rw [update_eq_self]

theorem dropped_of_ne (h : q ≠ p) : (s.dropped a p).items q = s.items q := by
  unfold dropped
  split
  · exact (freed_of_ne h).trans (setRef_of_ne h)
  · exact setRef_of_ne h

theorem dropped_table : (s.dropped a p).table = s.table := by
  unfold dropped
  split <;> rfl

theorem Sound.do_item_remove (h : Sound hash s) (hc : c ∈ s.memory.live) :
    s.do_item_remove a c.ptr = some (s.dropped a c.ptr) := by
  have hok := h.items c hc
  have hcount : (if (s.items c.ptr).refcount ≠ 0 then
      s.setItem c.ptr { s.items c.ptr with refcount := (s.items c.ptr).refcount - 1 } else s) =
        s.setRef c.ptr (lessOne (s.items c.ptr).refcount) := by
    rw [lessOne]
    split
    · rfl
    · exact setRef_refcount.symm
  rw [DataCache.do_item_remove, if_neg (by rw [hok.slabbed]; exact Bool.false_ne_true)]
  dsimp only
  rw [hcount, setRef_self, dropped]
  dsimp only
  split
  · rename_i hlast
    refine (h.setRef c.ptr _).item_free (c := c) hc ?_ ?_
    · rw [setRef_self]
      exact hlast.2
    · rw [setRef_self]
      exact hlast.1
  · rfl

/-- An item that loses its chunk is not in the table. -/
theorem Sound.not_mem_of_not_linked (h : Sound hash s) (hlinked : (s.items p).linked = false) :
    p ∉ s.table := fun hmem => by
  rw [(h.linked_of_mem hmem).1] at hlinked
  cases hlinked

theorem Sound.dropped (h : Sound hash s) (hc : c ∈ s.memory.live) :
    Sound hash (s.dropped a c.ptr) := by
  unfold DataCache.dropped
  split
  · rename_i hlast
    exact (h.setRef c.ptr _).freed hc (h.not_mem_of_not_linked hlast.2)
  · exact h.setRef c.ptr _

/-! ## A new item -/

/-- The state of an allocator that gave no chunk. -/
def withPool (s : DataCache) (pool : ManagedMemory) : DataCache :=
  { s with memory := { s.memory with pool := pool } }

/-- The state with a chunk that is not an item yet. -/
def withChunk (s : DataCache) (pool : ManagedMemory) (p ntotal : Nat) : DataCache :=
  { s with
    memory := { pool := pool, live := ⟨p, ntotal⟩ :: s.memory.live }
    handed := p :: s.handed }

variable {pool : ManagedMemory} {key : Key} {nbytes : UInt32} {id : Nat}

theorem allocate_none (hr : s.memory.pool.do_slabs_alloc a id = (pool, none)) (ntotal : Nat) :
    s.allocate a ntotal id = (s.withPool pool, none) := by
  rw [allocate, hr]
  rfl

theorem allocate_some (hr : s.memory.pool.do_slabs_alloc a id = (pool, some p)) (ntotal : Nat) :
    s.allocate a ntotal id = (s.withChunk pool p ntotal, some p) := by
  rw [allocate, hr]
  rfl

/-- The condition on a page that the allocator takes. -/
def PageReady (s : DataCache) (a : Answers) (id : Nat) : Prop :=
  AllocateOk (s.memory.live.map s.memory.pool.region) s.memory.pool a id

instance (s : DataCache) (a : Answers) (id : Nat) : Decidable (s.PageReady a id) :=
  inferInstanceAs (Decidable (AllocateOk ..))

theorem Sound.withPool (h : Sound hash s) (hok : s.PageReady a id)
    (hr : s.memory.pool.do_slabs_alloc a id = (pool, none)) : Sound hash (s.withPool pool) := by
  have hsame : SameSizes s.memory.pool pool := by
    have := (h.memory.kept.alloc hok).same
    rwa [hr] at this
  refine ⟨h.memory.refused hok hr, h.placed, h.live, fun c hc => ?_, h.queue, h.queue_nodup, h.free⟩
  exact (h.items c hc).congr (h.items c hc).linked rfl rfl rfl hsame rfl

/-- The size of a new item is the one that was asked for. -/
theorem ntotal_newItem (s : DataCache) (id : Nat) (key : Key) (nbytes : UInt32) :
    (s.newItem id key nbytes).ntotal = s.ntotal key nbytes := by
  have hshort : key.bytes.length ≤ 250 := key.short
  unfold Item.ntotal DataCache.ntotal newItem item_make_header
  dsimp only
  by_cases hcas : s.settings.use_cas = 0
  · simp only [hcas, ne_eq, not_true_eq_false, decide_false, Bool.false_eq_true, if_false]
    omega
  · simp only [hcas, ne_eq, not_false_eq_true, decide_true, if_true]
    omega

/-- The state with a new item. -/
def taken (s : DataCache) (pool : ManagedMemory) (p : Nat) (key : Key) (nbytes : UInt32) :
    DataCache :=
  (s.withChunk pool p (s.ntotal key nbytes)).setItem p (s.newItem (s.classOf key nbytes) key nbytes)

theorem Sound.fresh (h : Sound hash s) (hok : s.PageReady a (s.classOf key nbytes))
    (hr : s.memory.pool.do_slabs_alloc a (s.classOf key nbytes) = (pool, some p)) :
    p ∉ s.memory.live.map Chunk.ptr :=
  (List.nodup_cons.mp (h.memory.allocate hok hr).nodup).1

theorem Sound.do_item_init (h : Sound hash s) (hok : s.PageReady a (s.classOf key nbytes))
    (harrays : s.InArrays (s.classOf key nbytes))
    (hr : s.memory.pool.do_slabs_alloc a (s.classOf key nbytes) = (pool, some p)) :
    (s.withChunk pool p (s.ntotal key nbytes)).do_item_init p (s.classOf key nbytes) key nbytes =
      some (s.taken pool p key nbytes) := by
  have hfresh := h.fresh hok hr
  refine if_pos ⟨h.free p hfresh, harrays, fun heq => ?_⟩
  exact h.not_mem_queue (fun hmem => hfresh (h.live p hmem)) _ (List.mem_of_head? heq)

theorem Sound.taken (h : Sound hash s) (hok : s.PageReady a (s.classOf key nbytes))
    (harrays : s.InArrays (s.classOf key nbytes))
    (hr : s.memory.pool.do_slabs_alloc a (s.classOf key nbytes) = (pool, some p)) :
    Sound hash (s.taken pool p key nbytes) := by
  have hfresh := h.fresh hok hr
  have hout : p ∉ s.table := fun hmem => hfresh (h.live p hmem)
  have hsame : SameSizes s.memory.pool pool := by
    have := (h.memory.kept.alloc hok).same
    rwa [hr] at this
  have hself : (s.taken pool p key nbytes).items p =
      s.newItem (s.classOf key nbytes) key nbytes := update_self ..
  have hother : ∀ q, q ≠ p → (s.taken pool p key nbytes).items q = s.items q :=
    fun q hq => update_of_ne hq ..
  refine ⟨h.memory.allocate hok hr, ?_, fun q hq => ?_, fun c hc => ?_, fun id q => ?_,
    h.queue_nodup, fun q hq => ?_⟩
  · refine h.placed.congr fun q hq => ?_
    exact congrArg Item.key (hother q (ne_of_mem_of_not_mem hq hout))
  · exact List.mem_cons_of_mem _ (h.live q hq)
  · rcases List.mem_cons.mp hc with rfl | hc
    · refine ⟨?_, ?_, ?_, ?_, ?_⟩
      all_goals dsimp only; rw [hself]
      · exact iff_of_false nofun hout
      · rfl
      · exact ntotal_newItem ..
      · exact (hsame.getSlabIdBySize _).symm
      · exact harrays
    · have hne : c.ptr ≠ p := fun heq => hfresh (heq ▸ List.mem_map_of_mem hc)
      have hitem := hother c.ptr hne
      refine (h.items c hc).congr ?_ (by rw [hitem]) (by rw [hitem]) (by rw [hitem]) hsame rfl
      rw [hitem]
      exact (h.items c hc).linked
  · show q ∈ s.queues id ↔ q ∈ s.table ∧ _
    rw [h.queue]
    refine and_congr_right fun hq => ?_
    rw [hother q (ne_of_mem_of_not_mem hq hout)]
  · have hq' := not_or.mp (mt List.mem_cons.mpr hq)
    rw [hother q hq'.1]
    exact h.free q hq'.2

/-- The data of an item ends with its chunk. -/
theorem Sound.copyData (buffer : Buffer) (h : Sound hash s) (hc : c ∈ s.memory.live)
    (hnbytes : (s.items c.ptr).nbytes = buffer.bufferLen)
    (hsuffix : (s.items c.ptr).nsuffix < 2 ^ 8) (hsmall : buffer.bufferLen.toNat < 2 ^ 31) :
    s.copyData c.ptr buffer =
      some (s.setItem c.ptr { s.items c.ptr with item_data := buffer.bytes }) := by
  have hok := h.items c hc
  have hshort : (s.items c.ptr).key.bytes.length ≤ 250 := (s.items c.ptr).key.short
  have hfits : c.size ≤ (s.memory.pool.slabclass (s.items c.ptr).slabs_clsid).size.toNat := by
    rw [hok.clsid]
    exact (h.memory.fits c hc).1
  have hsize := hok.size
  refine if_pos (Nat.le_trans ?_ hfits)
  rw [← hsize, Item.ntotal, Item.dataOffset, hnbytes, sizeOfInt, if_pos hsmall]
  split <;> simp only [sizeof_item] <;> omega

end chaos.common.data.cache.DataCache
