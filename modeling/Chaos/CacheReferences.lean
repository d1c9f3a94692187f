-- The references of the cache and its chunks: between the calls nobody has a reference, and each
-- chunk is in the table or was given back once. A lookup whose reference is not given back breaks
-- this, and the item is never free again.
import Chaos.CacheMap

open Function chained_table chaos.memory runs

namespace chaos.common.data.cache

namespace DataCache

/-- What is claimed. `linked` are the items in the table. -/
structure Accounted (s : DataCache) (linked : List Nat) : Prop where
  nodup : linked.Nodup
  mem : ∀ p, p ∈ linked ↔ p ∈ s.table
  references : ∀ p ∈ linked, (s.items p).refcount = 0
  once : s.handed.Perm (s.returned ++ linked)
  hash_items : s.hash_items.toNat = linked.length
  sizes : ∀ id < LARGEST_ID, (s.sizes id).toNat =
    (linked.filter fun p => (s.items p).slabs_clsid = id).length
  reusable : ∀ p ∈ s.returned, p ∈ linked ∨ s.memory.pool.Reusable p

variable (hash : Key → UInt32)

/-! ## The condition -/

/-- The chunk of an item can go back on the stack of its class. -/
def RoomFor (s : DataCache) (stack : Answers) (p : Nat) : Prop :=
  (s.memory.pool.slabclass (s.items p).slabs_clsid).HasRoom stack

/-- There is room for the chunk of a value that is replaced, also where the new value takes its
chunk from the same stack. -/
def ReplaceOk (s : DataCache) (w : World) (k : Key) (nbytes : UInt32) : Prop :=
  ∀ p ∈ s.assoc_find hash k,
    ((s.items p).slabs_clsid = s.classOf k nbytes ∧
      (s.memory.pool.slabclass (s.classOf k nbytes)).slots ≠ []) ∨ s.RoomFor w.stack p

/-- The condition on a call. -/
def ReferencesOk (s : DataCache) : Call → Prop
  | .storeItem w k buffer => s.AllocOk w k buffer.bufferLen ∧
      (s.Gets w k buffer.bufferLen → s.ReplaceOk hash w k buffer.bufferLen ∧
        (s.assoc_find hash k = none → s.hash_items + 1 ≠ 0))
  | .deleteItem stack k => ∀ p ∈ s.assoc_find hash k, s.RoomFor stack p
  | .isItemPresent k => s.assoc_find hash k = none
  | .moveNextBucket => s.BucketOk hash
  | .getItem .. => True

instance (s : DataCache) (stack : Answers) (p : Nat) : Decidable (s.RoomFor stack p) :=
  inferInstanceAs (Decidable (SlabClass.HasRoom ..))

instance (s : DataCache) (w : World) (k : Key) (nbytes : UInt32) :
    Decidable (s.ReplaceOk hash w k nbytes) :=
  inferInstanceAs (Decidable (∀ p ∈ s.assoc_find hash k, _))

instance (s : DataCache) (c : Call) : Decidable (s.ReferencesOk hash c) :=
  match c with
  | .storeItem .. => inferInstanceAs (Decidable (_ ∧ _))
  | .deleteItem stack k =>
    inferInstanceAs (Decidable (∀ p ∈ s.assoc_find hash k, s.RoomFor stack p))
  | .isItemPresent .. => inferInstanceAs (Decidable (_ = none))
  | .moveNextBucket => inferInstanceAs (Decidable (BucketOk ..))
  | .getItem .. => isTrue trivial

/-! ## The counts -/

/-- The counts of the items and the lists of the chunks, also in the middle of a call. -/
structure Counted (s : DataCache) : Prop where
  linked : ∃ linked : List Nat, linked.Nodup ∧ (∀ p, p ∈ linked ↔ p ∈ s.table) ∧
    s.hash_items.toNat = linked.length
  sizes : ∀ id, (s.sizes id).toNat = (s.queues id).length
  once : s.handed.Perm (s.returned ++ s.memory.live.map Chunk.ptr)
  reusable : ∀ p ∈ s.returned, p ∈ s.memory.live.map Chunk.ptr ∨ s.memory.pool.Reusable p
  stacked : Stacked s.memory.pool

variable {hash} {s t u : DataCache} {p q : Nat} {c : Chunk} {a : Answers} {w : World} {k : Key}
  {buffer : Buffer} {pool : ManagedMemory} {table : Bool}

theorem Counted.setRef (h : Counted s) (p : Nat) (n : UInt16) : Counted (s.setRef p n) :=
  ⟨h.linked, h.sizes, h.once, h.reusable, h.stacked⟩

theorem toNat_sub_one {n : UInt32} (h : 0 < n.toNat) : (n - 1).toNat = n.toNat - 1 :=
  UInt32.toNat_sub_of_le n 1 (UInt32.le_iff_toNat_le.mpr h)

theorem toNat_add_one {n : UInt32} (h : n.toNat + 1 < 2 ^ 32) : (n + 1).toNat = n.toNat + 1 :=
  Nat.mod_eq_of_lt h

theorem toNat_lt_of_add_one {n : UInt32} (h : n + 1 ≠ 0) : n.toNat + 1 < 2 ^ 32 := by
  have hlt := n.toNat_lt
  by_contra hmax
  refine h (UInt32.toNat_inj.mp ?_)
  show (n.toNat + 1) % 2 ^ 32 = 0
  omega

theorem Counted.unlinked (hsound : Sound hash s) (h : Counted s) (hp : p ∈ s.table) :
    Counted (s.unlinked hash p) := by
  obtain ⟨linked, hnodup, hmem, hcount⟩ := h.linked
  have hin := (hmem p).mpr hp
  refine ⟨⟨linked.erase p, hnodup.erase p, fun q => ?_, ?_⟩, fun id => ?_, h.once, h.reusable,
    h.stacked⟩
  · rw [hnodup.mem_erase_iff, hsound.mem_unlinked hp, hmem, and_comm]
  · show (s.hash_items - 1).toNat = _
    have hpos := List.length_pos_of_mem hin
    rw [toNat_sub_one (by omega), List.length_erase_of_mem hin, hcount]
  · show (update s.sizes _ _ id).toNat = (update s.queues _ _ id).length
    by_cases hid : id = (s.items p).slabs_clsid
    · have hqueue := (hsound.queue _ p).mpr ⟨hp, rfl⟩
      have hpos := List.length_pos_of_mem hqueue
      have hsize := h.sizes (s.items p).slabs_clsid
      rw [hid, update_self, update_self, toNat_sub_one (by omega),
        List.length_erase_of_mem hqueue, hsize]
    · rw [update_of_ne hid, update_of_ne hid]
      exact h.sizes id

theorem Counted.linkedIn (table : Bool) (hsound : Sound hash s) (h : Counted s)
    (hnew : ∀ q ∈ s.table, s.key q ≠ s.key p) (hmore : s.hash_items + 1 ≠ 0) :
    Counted (s.linkedIn hash table p) := by
  obtain ⟨linked, hnodup, hmem, hcount⟩ := h.linked
  have hout : p ∉ linked := fun hin => hnew p ((hmem p).mp hin) rfl
  have hlt := toNat_lt_of_add_one hmore
  refine ⟨⟨p :: linked, List.nodup_cons.mpr ⟨hout, hnodup⟩, fun q => ?_, ?_⟩, fun id => ?_, h.once,
    h.reusable, h.stacked⟩
  · rw [List.mem_cons, hmem]
    exact (hsound.mem_linkedTable hnew).symm
  · show (s.hash_items + 1).toNat = _
    rw [toNat_add_one hlt, List.length_cons, hcount]
  · show (update s.sizes _ _ id).toNat = (update s.queues _ _ id).length
    by_cases hid : id = (s.items p).slabs_clsid
    · have hle : (s.queues (s.items p).slabs_clsid).length ≤ linked.length :=
        ((hsound.queue_nodup _).subperm fun q hq =>
          (hmem q).mpr ((hsound.queue _ q).mp hq).1).length_le
      have hsize := h.sizes (s.items p).slabs_clsid
      rw [hid, update_self, update_self, toNat_add_one (by omega), List.length_cons, hsize]
    · rw [update_of_ne hid, update_of_ne hid]
      exact h.sizes id

/-- A chunk that is given back is counted once more, and can be handed out again. -/
theorem Counted.freed (hsound : Sound hash s) (h : Counted s) (hc : c ∈ s.memory.live)
    (hroom : s.RoomFor a c.ptr) : Counted (s.freed a c.ptr) := by
  have hmemory := hsound.freed_memory (a := a) hc
  have hreturned : (s.freed a c.ptr).returned = c.ptr :: s.returned := rfl
  refine ⟨h.linked, h.sizes, ?_, fun q hq => ?_, ?_⟩
  · rw [hmemory, hreturned]
    refine h.once.trans ?_
    have hlive := (List.perm_cons_erase hc).map Chunk.ptr
    exact (hlive.append_left s.returned).trans List.perm_middle
  · rw [hmemory]
    rw [hreturned] at hq
    have hback : (s.memory.pool.do_slabs_free a c.ptr
        (s.memory.pool.getSlabIdBySize c.size)).Reusable c.ptr := by
      refine reusable_do_slabs_free (hsound.memory.fits c hc).2 ?_
      rw [← (hsound.items c hc).clsid]
      exact hroom
    by_cases hqc : q = c.ptr
    · subst hqc
      exact .inr hback
    · rcases h.reusable q ((List.mem_cons.mp hq).resolve_left hqc) with hlive | hfree
      · exact .inl ((hsound.mem_erase hc).mpr ⟨hlive, hqc⟩)
      · exact .inr hfree.free
  · rw [hmemory]
    exact h.stacked.free

theorem Reusable.of_sameStacks {m m' : ManagedMemory} (hsame : SameSizes m m')
    (h : SameStacks m m') (hp : m.Reusable p) : m'.Reusable p := by
  obtain ⟨j, hj, hmem⟩ := hp
  exact ⟨j, by rw [hsame.largest]; exact hj, by rw [h.slots]; exact hmem⟩

theorem Counted.tried (h : Counted s) (htried : Tried hash s u) : Counted u := by
  have hlive := htried.live_eq
  have hstacked := htried.sameStacks.stacked h.stacked
  have hreusable : ∀ q, s.memory.pool.Reusable q → u.memory.pool.Reusable q :=
    fun q => Reusable.of_sameStacks htried.same htried.sameStacks
  have heq := htried.eq
  generalize u.memory.pool = pool at *
  subst heq
  exact ⟨h.linked, h.sizes, h.once, fun q hq => (h.reusable q hq).imp_right (hreusable q), hstacked⟩

/-- A chunk that is handed out is counted once more. -/
theorem Counted.filled (hsound : Sound hash u) (h : Counted u)
    (htakes : Takes u a pool p k buffer.bufferLen) : Counted (u.filled pool p k buffer) := by
  have hsame : SameSizes u.memory.pool pool := by
    have := (hsound.memory.kept.alloc htakes.page).same
    rwa [htakes.gives] at this
  refine ⟨h.linked, h.sizes, ?_, fun q hq => ?_, h.stacked.alloc htakes.gives⟩
  · exact (h.once.cons p).trans List.perm_middle.symm
  · rcases h.reusable q hq with hlive | hfree
    · exact .inl (List.mem_cons_of_mem _ hlive)
    · rcases hfree.alloc hsame.largest htakes.gives with hp | hfree
      · obtain rfl := Option.some.inj hp
        exact .inl List.mem_cons_self
      · exact .inr hfree

/-! ## Who has a reference -/

/-- Only the items that are `busy` have references or are not in the table. -/
def Idle (busy : List Nat) (s : DataCache) : Prop :=
  ∀ c ∈ s.memory.live, c.ptr ∉ busy → c.ptr ∈ s.table ∧ (s.items c.ptr).refcount = 0

variable {busy : List Nat}

theorem Idle.cons (h : Idle busy s) (p : Nat) : Idle (p :: busy) s :=
  fun c hc hout => h c hc fun hin => hout (List.mem_cons_of_mem p hin)

/-- A step on a busy item leaves the others idle. -/
theorem Idle.congr (h : Idle busy s) (hp : p ∈ busy)
    (hlive : ∀ c ∈ t.memory.live, c.ptr ≠ p → c ∈ s.memory.live)
    (htable : ∀ q, q ≠ p → q ∈ s.table → q ∈ t.table)
    (hitems : ∀ q, q ≠ p → t.items q = s.items q) : Idle busy t := by
  intro c hc hout
  have hne : c.ptr ≠ p := fun heq => hout (heq ▸ hp)
  obtain ⟨hmem, href⟩ := h c (hlive c hc hne) hout
  refine ⟨htable c.ptr hne hmem, ?_⟩
  rw [hitems c.ptr hne]
  exact href

theorem Idle.setRef (h : Idle busy s) (hp : p ∈ busy) (n : UInt16) : Idle busy (s.setRef p n) :=
  h.congr hp (fun _ hc _ => hc) (fun _ _ hq => hq) fun _ => setRef_of_ne

theorem Idle.unlinked (hsound : Sound hash s) (h : Idle busy s) (hp : p ∈ busy)
    (hmem : p ∈ s.table) : Idle busy (s.unlinked hash p) :=
  h.congr hp (fun _ hc _ => hc) (fun _ hne hq => (hsound.mem_unlinked hmem).mpr ⟨hq, hne⟩)
    fun _ => unlinked_of_ne

theorem Idle.linkedIn (table : Bool) (hsound : Sound hash s) (h : Idle busy s) (hp : p ∈ busy)
    (hnew : ∀ q ∈ s.table, s.key q ≠ s.key p) : Idle busy (s.linkedIn hash table p) :=
  h.congr hp (fun _ hc _ => hc) (fun _ _ hq => (hsound.mem_linkedTable hnew).mpr (.inr hq))
    fun _ => linkedIn_of_ne

theorem Idle.filled (h : Idle busy u) : Idle (p :: busy) (u.filled pool p k buffer) := by
  refine (h.cons p).congr List.mem_cons_self (fun c hc hne => ?_) (fun _ _ hq => hq)
    fun _ => filled_of_ne
  refine (List.mem_cons.mp hc).resolve_left fun heq => hne ?_
  rw [heq]

theorem Idle.tried (h : Idle busy s) (htried : Tried hash s u) : Idle busy u := by
  intro c hc hout
  rw [htried.live_eq] at hc
  rw [htried.table_eq, htried.items_eq]
  exact h c hc hout

/-- An item whose chunk was given back is not busy any more. -/
theorem Idle.freed (hsound : Sound hash s) (h : Idle (c.ptr :: busy) s) (hc : c ∈ s.memory.live) :
    Idle busy (s.freed a c.ptr) := by
  intro d hd hout
  rw [hsound.freed_memory hc] at hd
  have hne : d.ptr ≠ c.ptr := ((hsound.mem_erase hc).mp (List.mem_map_of_mem hd)).2
  rw [freed_of_ne hne]
  exact h d (List.mem_of_mem_erase hd) fun hin => hout ((List.mem_cons.mp hin).resolve_left hne)

/-- An item in the table without references is not busy any more. -/
theorem Idle.release (h : Idle (p :: busy) s) (hp : p ∈ s.table) : Idle busy (s.setRef p 0) := by
  intro c hc hout
  by_cases hne : c.ptr = p
  · rw [hne, setRef_self]
    exact ⟨hp, rfl⟩
  · rw [setRef_of_ne hne]
    exact h c hc fun hin => hout ((List.mem_cons.mp hin).resolve_left hne)

/-! ## The last reference -/

theorem lessOne_one : lessOne 1 = 0 := by decide

/-- The last reference to an item in the table. -/
theorem dropped_linked (href : (s.items p).refcount = 1) (hlinked : (s.items p).linked = true) :
    s.dropped a p = s.setRef p 0 := by
  rw [DataCache.dropped, href, lessOne_one, hlinked]
  exact if_neg fun h => Bool.noConfusion h.2

/-- The last reference to an item that was taken out of the table. -/
theorem dropped_last (href : (s.items p).refcount = 1) (hlinked : (s.items p).linked = false) :
    s.dropped a p = (s.setRef p 0).freed a p := by
  rw [DataCache.dropped, href, lessOne_one, hlinked]
  exact if_pos ⟨rfl, rfl⟩

variable (hash) in
/-- The state between two calls. -/
structure Settled (s : DataCache) : Prop where
  sound : Sound hash s
  counted : Counted s
  idle : Idle [] s

/-- The item of a key has no reference, and with one it has the only one. -/
theorem Settled.refcount (h : Settled hash s) (hc : c ∈ s.memory.live) :
    (s.items c.ptr).refcount + 1 = 1 := by
  rw [(h.idle c hc List.not_mem_nil).2]
  rfl

theorem Settled.used_dropped (h : Settled hash s) (hc : c ∈ s.memory.live) :
    Idle [] ((s.used c.ptr).dropped a c.ptr) ∧ Counted ((s.used c.ptr).dropped a c.ptr) := by
  obtain ⟨hp, -⟩ := h.idle c hc List.not_mem_nil
  have hself := setRef_self (s := s) (p := c.ptr) ((s.items c.ptr).refcount + 1)
  have hdropped : (s.used c.ptr).dropped a c.ptr = (s.used c.ptr).setRef c.ptr 0 := by
    refine dropped_linked ?_ ?_ <;> rw [used, hself]
    · exact h.refcount hc
    · exact (h.sound.linked_of_mem hp).1
  rw [hdropped]
  exact ⟨((h.idle.cons c.ptr).setRef List.mem_cons_self _).release hp,
    (h.counted.setRef _ _).setRef _ _⟩

/-- An item that was taken out of the table gives its chunk back with its last reference. -/
theorem Counted.dropped_last (hsound : Sound hash s) (h : Counted s)
    (hidle : Idle (c.ptr :: busy) s) (hc : c ∈ s.memory.live) (href : (s.items c.ptr).refcount = 1)
    (hlinked : (s.items c.ptr).linked = false) (hroom : s.RoomFor a c.ptr) :
    Counted (s.dropped a c.ptr) ∧ Idle busy (s.dropped a c.ptr) := by
  have hset : Sound hash (s.setRef c.ptr 0) := hsound.setRef c.ptr 0
  have hroom' : (s.setRef c.ptr 0).RoomFor a c.ptr := by
    rw [RoomFor, setRef_self]
    exact hroom
  rw [DataCache.dropped_last href hlinked]
  exact ⟨Counted.freed hset (h.setRef c.ptr 0) hc hroom',
    Idle.freed hset (hidle.setRef List.mem_cons_self 0) hc⟩

/-! ## The calls -/

theorem Settled.deleted {stack : Answers} (h : Settled hash s) (hc : c ∈ s.memory.live)
    (hroom : s.RoomFor stack c.ptr) :
    Counted (((s.used c.ptr).unlinked hash c.ptr).dropped stack c.ptr) ∧
      Idle [] (((s.used c.ptr).unlinked hash c.ptr).dropped stack c.ptr) := by
  obtain ⟨hp, -⟩ := h.idle c hc List.not_mem_nil
  have hused : Sound hash (s.used c.ptr) := h.sound.used c.ptr
  have hout : Sound hash ((s.used c.ptr).unlinked hash c.ptr) := hused.unlinked hp
  have hself : (s.used c.ptr).items c.ptr =
      { s.items c.ptr with refcount := (s.items c.ptr).refcount + 1 } := setRef_self _
  have hidle : Idle [c.ptr] (s.used c.ptr) := (h.idle.cons c.ptr).setRef List.mem_cons_self _
  refine Counted.dropped_last (c := c) hout (Counted.unlinked hused (h.counted.setRef _ _) hp)
    (Idle.unlinked hused hidle List.mem_cons_self hp) hc ?_ ?_ ?_
  · rw [unlinked_self, hself]
    exact h.refcount hc
  · rw [unlinked_self]
  · rw [RoomFor, unlinked_self, hself]
    exact hroom

/-- The room for the old chunk is there when the new one was handed out. -/
theorem roomFor_filled {old : Nat} (h : Settled hash s)
    (hroom : s.ReplaceOk hash w k buffer.bufferLen) (hfind : s.assoc_find hash k = some old)
    (htried : Tried hash (s.used old) u) (htakes : Takes u a pool p k buffer.bufferLen) :
    (pool.slabclass (s.items old).slabs_clsid).HasRoom w.stack := by
  have hstacked := htried.sameStacks.stacked h.counted.stacked
  have hclass := htried.classOf_eq k buffer.bufferLen
  rcases hroom old hfind with ⟨hsame, hslots⟩ | hroom
  · rcases alloc_stacks htakes.gives with ⟨hempty, -⟩ | ⟨top, -, hpop⟩
    · -- a class that gives a chunk is not past the largest, so that its stack was empty
      have hid := ((htried.sound.memory.kept.alloc htakes.page).some p
        (congrArg Prod.snd htakes.gives)).2
      have hnil := hempty hid
      rw [hclass, htried.sameStacks.slots] at hnil
      exact absurd hnil hslots
    · exact hpop.hasRoom hstacked (.inl (hsame.trans hclass.symm))
  · have hroom' := htried.sameStacks.hasRoom hroom
    rcases alloc_stacks htakes.gives with ⟨-, hsame⟩ | ⟨top, -, hpop⟩
    · exact hsame.hasRoom hroom'
    · exact hpop.hasRoom hstacked (.inr hroom')

/-- A new item in the table that gives its reference back. -/
theorem Idle.added (hidle : Idle [p] s) (hp : p ∈ s.table) (hcounted : Counted s)
    (href : (s.items p).refcount = 1) (hlinked : (s.items p).linked = true) :
    Counted (s.dropped a p) ∧ Idle [] (s.dropped a p) := by
  rw [dropped_linked href hlinked]
  exact ⟨hcounted.setRef p 0, hidle.release hp⟩

theorem Settled.stored {u : DataCache} (h : Settled hash s)
    (hmore : s.hash_items + 1 ≠ 0) (hfind : s.assoc_find hash k = none) (htried : Tried hash s u)
    (htakes : Takes u a pool p k buffer.bufferLen) :
    Counted (((u.filled pool p k buffer).linkedIn hash table p).dropped w.stack p) ∧
      Idle [] (((u.filled pool p k buffer).linkedIn hash table p).dropped w.stack p) := by
  have hfilled := (htried.sound.filled htakes).2
  have hnew := htried.sound.filled_key_ne (htried.absent h.sound hfind) htakes
  have hcounted := Counted.filled htried.sound (h.counted.tried htried) htakes
  have hmore' : (u.filled pool p k buffer).hash_items + 1 ≠ 0 := by
    rw [htried.eq]
    exact hmore
  refine Idle.added ?_ ((hfilled.mem_linkedTable hnew).mpr (.inl rfl))
    (Counted.linkedIn table hfilled hcounted hnew hmore') ?_ ?_
  · exact Idle.linkedIn table hfilled (h.idle.tried htried).filled List.mem_cons_self hnew
  · rw [linkedIn_self, filled_self]
    rfl
  · rw [linkedIn_self]

/-- With an item in the table there is room for one more in the count when it is taken out. -/
theorem Counted.hash_items_unlinked (h : Counted s) (hp : p ∈ s.table) :
    (s.unlinked hash p).hash_items + 1 ≠ 0 := by
  obtain ⟨linked, -, hmem, hcount⟩ := h.linked
  have hpos := List.length_pos_of_mem ((hmem p).mpr hp)
  show s.hash_items - 1 + 1 ≠ 0
  rw [UInt32.sub_add_cancel]
  intro hzero
  rw [hzero] at hcount
  exact absurd hcount (Nat.ne_of_lt hpos)

theorem Settled.replaced {u : DataCache} {old : Chunk} (h : Settled hash s)
    (hroom : s.ReplaceOk hash w k buffer.bufferLen) (hold : old ∈ s.memory.live)
    (hfind : s.assoc_find hash k = some old.ptr) (htried : Tried hash (s.used old.ptr) u)
    (htakes : Takes u a pool p k buffer.bufferLen) :
    Counted ((u.filled pool p k buffer).replaced hash w old.ptr p) ∧
      Idle [] ((u.filled pool p k buffer).replaced hash w old.ptr p) := by
  obtain ⟨hp, hkey, hself⟩ := htried.present h.sound hfind
  have hne : old.ptr ≠ p := ne_of_mem_of_not_mem hp (htried.sound.not_mem_of_takes htakes)
  have hfilled := (htried.sound.filled htakes).2
  have hnew := hfilled.key_unlinked_ne hp (htried.sound.filled_key_eq hp hkey htakes)
  have hout : Sound hash ((u.filled pool p k buffer).unlinked hash old.ptr) := hfilled.unlinked hp
  have hin : Sound hash
      (((u.filled pool p k buffer).unlinked hash old.ptr).linkedIn hash w.table p) :=
    hout.linkedIn (c := ⟨p, _⟩) filled_chunk hnew
  -- both items are busy, and the counts follow the items in and out of the table
  have hcounted := Counted.filled htried.sound ((h.counted.setRef _ _).tried htried) htakes
  have hidle : Idle [old.ptr, p] (u.filled pool p k buffer) := by
    have hused : Idle [old.ptr] (s.used old.ptr) :=
      (h.idle.cons old.ptr).setRef List.mem_cons_self _
    intro c hc hbusy
    exact (hused.tried htried).filled c hc (by simpa [and_comm] using hbusy)
  have hcounted' := Counted.linkedIn w.table hout (Counted.unlinked hfilled hcounted hp)
    hnew (hcounted.hash_items_unlinked hp)
  have hidle' := Idle.linkedIn w.table hout
    (Idle.unlinked hfilled hidle List.mem_cons_self hp)
    (List.mem_cons_of_mem _ List.mem_cons_self) hnew
  have hitem : (((u.filled pool p k buffer).unlinked hash old.ptr).linkedIn hash w.table p).items
      old.ptr = { u.items old.ptr with linked := false } := by
    rw [linkedIn_of_ne hne, unlinked_self, filled_of_ne hne]
  have hlive : old ∈ (u.filled pool p k buffer).memory.live := by
    refine List.mem_cons_of_mem _ ?_
    rw [htried.live_eq]
    exact hold
  obtain ⟨hcounted'', hidle''⟩ := Counted.dropped_last (c := old) (a := w.stack) hin hcounted'
    hidle' hlive (by rw [hitem, hself]; exact h.refcount hold) (by rw [hitem])
    (by rw [RoomFor, hitem, hself]; exact roomFor_filled h hroom hfind htried htakes)
  have hnewItem : ((((u.filled pool p k buffer).unlinked hash old.ptr).linkedIn hash w.table
      p).dropped w.stack old.ptr).items p =
        { (u.filled pool p k buffer).items p with linked := true } := by
    rw [dropped_of_ne hne.symm, linkedIn_self, unlinked_of_ne hne.symm]
  rw [DataCache.replaced]
  refine Idle.added hidle'' ?_ hcounted'' ?_ ?_
  · rw [dropped_table]
    exact (hout.mem_linkedTable hnew).mpr (.inl rfl)
  · rw [hnewItem, filled_self]
    rfl
  · rw [hnewItem]

/-- However a store ends, it gives every reference back. -/
theorem Settled.stores {ok : Bool} (h : Settled hash s)
    (hok : s.ReferencesOk hash (.storeItem w k buffer)) (hstores : Stores hash s w k buffer t ok) :
    Counted t ∧ Idle [] t := by
  cases hstores with
  | refused hfind htried => exact ⟨h.counted.tried htried, h.idle.tried htried⟩
  | @refusedAgain u old hold hfind htried =>
    obtain ⟨hp, -, hself⟩ := htried.present h.sound hfind
    have hidle : Idle [old.ptr] (s.used old.ptr) :=
      (h.idle.cons old.ptr).setRef List.mem_cons_self _
    refine Idle.added (hidle.tried htried) hp ((h.counted.setRef _ _).tried htried) ?_
      (htried.sound.linked_of_mem hp).1
    rw [hself]
    exact h.refcount hold
  | stored hgets hfind htried htakes => exact h.stored ((hok.2 hgets).2 hfind) hfind htried htakes
  | replaced hgets hold hfind htried htakes =>
    exact h.replaced (hok.2 hgets).1 hold hfind htried htakes

/-- A key whose item can have its one reference. -/
theorem Settled.countOk (h : Settled hash s) (k : Key) : s.CountOk hash k := by
  intro p hp
  obtain ⟨c, hc, rfl⟩ := h.sound.chunk_of_mem (h.sound.assoc_find_eq_some_iff.mp hp).1
  rw [h.refcount hc]
  decide

theorem Counted.moveBucket (h : Counted s) :
    Counted { s with table := s.table.moveBucket (hashOf hash) s.key } := by
  obtain ⟨linked, hnodup, hmem, hcount⟩ := h.linked
  exact ⟨⟨linked, hnodup, fun q => (hmem q).trans Table.mem_moveBucket.symm, hcount⟩, h.sizes,
    h.once, h.reusable, h.stacked⟩

theorem Idle.moveBucket (h : Idle busy s) :
    Idle busy { s with table := s.table.moveBucket (hashOf hash) s.key } :=
  fun c hc hout => ⟨Table.mem_moveBucket.mpr (h c hc hout).1, (h c hc hout).2⟩

/-- What holds between two calls is what is claimed. -/
theorem Settled.accounted (h : Settled hash s) : ∃ linked, Accounted s linked := by
  have hnodup := h.sound.memory.nodup
  have hmem : ∀ p, p ∈ s.memory.live.map Chunk.ptr ↔ p ∈ s.table := by
    refine fun p => ⟨fun hp => ?_, h.sound.live p⟩
    obtain ⟨c, hc, rfl⟩ := List.mem_map.mp hp
    exact (h.idle c hc List.not_mem_nil).1
  obtain ⟨linked, hlinked, hiff, hcount⟩ := h.counted.linked
  have hperm : linked.Perm (s.memory.live.map Chunk.ptr) :=
    (List.perm_ext_iff_of_nodup hlinked hnodup).mpr fun p => (hiff p).trans (hmem p).symm
  refine ⟨s.memory.live.map Chunk.ptr, hnodup, hmem, fun p hp => ?_, h.counted.once, ?_,
    fun id _ => ?_, h.counted.reusable⟩
  · obtain ⟨c, hc, rfl⟩ := List.mem_map.mp hp
    exact (h.idle c hc List.not_mem_nil).2
  · rw [hcount, hperm.length_eq]
  · rw [h.counted.sizes]
    refine ((List.perm_ext_iff_of_nodup (h.sound.queue_nodup id) (hnodup.filter _)).mpr
      fun p => ?_).length_eq
    rw [h.sound.queue, List.mem_filter, hmem, decide_eq_true_eq]

theorem Settled.init {settings : CacheSettings} {zeroed table : Bool} {area : Answers}
    {pages : Nat → Answers} (hok : InitGiven settings.initCall area pages)
    (hinit : init settings zeroed table area pages = some s) : Settled hash s := by
  have hsound : Sound hash s := Sound.init hok hinit
  unfold DataCache.init at hinit
  split at hinit
  · obtain ⟨pool, hpool, rfl⟩ := Option.map_eq_some_iff.mp hinit
    refine ⟨hsound, ⟨⟨[], List.nodup_nil, fun p => ?_, rfl⟩, fun id => rfl, List.Perm.nil, nofun,
      Stacked.init hpool⟩, nofun⟩
    exact iff_of_false List.not_mem_nil (Table.not_mem_empty _)
  · cases hinit

end DataCache

/-! ## Runs -/

namespace Session

open DataCache

variable {hash : Key → UInt32} {s : Session}

/-- A call that meets the condition is defined, and gives back what it takes. -/
theorem settled_step (h : Settled hash s.dataCache) (c : Call)
    (hok : s.dataCache.ReferencesOk hash c) :
    ∃ t, s.step hash c = some t ∧ Settled hash t.dataCache := by
  cases c with
  | getItem stack k =>
    rcases h.sound.getItem stack k with ⟨-, heq⟩ | ⟨c, hc, -, heq, hsound⟩
    · exact ⟨_, congrArg (Option.map _) heq, h⟩
    · obtain ⟨hidle, hcounted⟩ := h.used_dropped (a := stack) hc
      exact ⟨_, congrArg (Option.map _) heq, hsound, hcounted, hidle⟩
  | storeItem w k buffer =>
    obtain ⟨t, ok, heq, hstores, hsound⟩ := h.sound.storeItem hok.1 fun _ => h.countOk k
    obtain ⟨hcounted, hidle⟩ := h.stores hok hstores
    exact ⟨_, congrArg (Option.map _) heq, hsound, hcounted, hidle⟩
  | deleteItem stack k =>
    rcases h.sound.deleteItem stack (h.countOk k) with
      ⟨-, heq⟩ | ⟨c, hc, hfind, heq, hsound⟩
    · exact ⟨_, congrArg (Option.map _) heq, h⟩
    · obtain ⟨hcounted, hidle⟩ := h.deleted hc (hok c.ptr hfind)
      exact ⟨_, congrArg (Option.map _) heq, hsound, hcounted, hidle⟩
  | isItemPresent k =>
    refine ⟨_, rfl, ?_⟩
    rw [isItemPresent, do_item_get_none hok]
    exact h
  | moveNextBucket =>
    rcases h.sound.moveNextBucket hok with heq | ⟨hexp, heq⟩
    · exact ⟨_, congrArg (Option.map _) heq, h⟩
    · exact ⟨_, congrArg (Option.map _) heq, h.sound.moveBucket hexp, h.counted.moveBucket,
        h.idle.moveBucket⟩

variable {settings : CacheSettings} {table : Bool} {area : Answers} {pages : Nat → Answers}
  {d : DataCache} {calls : List Call}

/-- Every run of calls that meet the condition is defined, and at its end the items and the chunks
are accounted for. The sizes of the queues are set where the storage was. -/
theorem references_are_given_back (hash : Key → UInt32)
    (hpages : InitGiven settings.initCall area pages)
    (hinit : DataCache.init settings true table area pages = some d)
    (hok : RunOk (Session.step hash) (fun s c => s.dataCache.ReferencesOk hash c) (start d) calls) :
    ∃ t linked, run (Session.step hash) (start d) calls = some t ∧
      Accounted t.dataCache linked := by
  have hstart : Settled hash (start d).dataCache := Settled.init hpages hinit
  obtain ⟨t, hrun, ht⟩ := run_ends_of_ok (fun s => Settled hash s.dataCache)
    (fun s c hs hc => settled_step hs c hc) hstart hok
  obtain ⟨linked, hlinked⟩ := ht.accounted
  exact ⟨t, linked, hrun, hlinked⟩

/-- A value is stored, replaced, read and deleted, and another one is stored in its chunk. -/
def storedAndDeleted : List Call :=
  [.storeItem enoughWorld (keyOf 1) (bufferOf 7 5), .isItemPresent (keyOf 2),
    .storeItem enoughWorld (keyOf 1) (bufferOf 9 6), .getItem enoughMemory (keyOf 1),
    .deleteItem enoughMemory (keyOf 1), .storeItem enoughWorld (keyOf 2) (bufferOf 8 7)]

theorem stored_and_deleted_is_accounted :
    ∃ d t linked,
      DataCache.init fiveClasses true true enoughMemory (fun _ => enoughMemory) = some d ∧
      run (Session.step fun _ => 7) (start d) storedAndDeleted = some t ∧
      Accounted t.dataCache linked ∧ t.dataCache.handed.length = 3 ∧
      t.dataCache.returned.length = 2 := by
  have hsome : (DataCache.init fiveClasses true true enoughMemory
      fun _ => enoughMemory).isSome := by decide +kernel
  have hrun : ∀ d ∈ DataCache.init fiveClasses true true enoughMemory fun _ => enoughMemory,
      RunOk (Session.step fun _ => 7) (fun s c => s.dataCache.ReferencesOk (fun _ => 7) c)
        (start d) storedAndDeleted ∧
      ∀ t ∈ run (Session.step fun _ => 7) (start d) storedAndDeleted,
        t.dataCache.handed.length = 3 ∧ t.dataCache.returned.length = 2 := by
    decide +kernel
  obtain ⟨d, hd⟩ := Option.isSome_iff_exists.mp hsome
  obtain ⟨hok, hlists⟩ := hrun d hd
  obtain ⟨t, linked, ht, haccounted⟩ :=
    references_are_given_back (fun _ => 7) (by decide +kernel) hd hok
  exact ⟨d, t, linked, hd, ht, haccounted, hlists t ht⟩

/-- A lookup by `isItemPresent` before the value is deleted. -/
def lookedUpAndDeleted : List Call :=
  [.storeItem enoughWorld (keyOf 1) (bufferOf 7 5), .isItemPresent (keyOf 1),
    .deleteItem enoughMemory (keyOf 1)]

/-- The reference of the lookup stays, and the chunk of the deleted item is never given back. -/
theorem looked_up_item_is_lost :
    InitGiven fiveClasses.initCall enoughMemory (fun _ => enoughMemory) ∧
      ∃ d t, DataCache.init fiveClasses true true enoughMemory (fun _ => enoughMemory) = some d ∧
        run (Session.step fun _ => 7) (start d) lookedUpAndDeleted = some t ∧
        ∀ linked, ¬ Accounted t.dataCache linked := by
  have hsome : (DataCache.init fiveClasses true true enoughMemory
      fun _ => enoughMemory).isSome := by decide +kernel
  have hrun : ∀ d ∈ DataCache.init fiveClasses true true enoughMemory fun _ => enoughMemory,
      (run (Session.step fun _ => 7) (start d) lookedUpAndDeleted).isSome ∧
      ∀ t ∈ run (Session.step fun _ => 7) (start d) lookedUpAndDeleted,
        t.dataCache.hash_items.toNat = 0 ∧ t.dataCache.handed.length = 1 ∧
          t.dataCache.returned.length = 0 := by
    decide +kernel
  obtain ⟨d, hd⟩ := Option.isSome_iff_exists.mp hsome
  obtain ⟨hend, hlists⟩ := hrun d hd
  obtain ⟨t, ht⟩ := Option.isSome_iff_exists.mp hend
  obtain ⟨hzero, hhanded, hreturned⟩ := hlists t ht
  refine ⟨by decide +kernel, d, t, hd, ht, fun linked h => ?_⟩
  have hlength := h.once.length_eq
  have hitems := h.hash_items
  rw [List.length_append] at hlength
  omega

end Session

end chaos.common.data.cache
