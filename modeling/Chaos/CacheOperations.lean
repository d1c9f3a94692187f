-- The operations of the cache: when each of them is defined, and the states that it can end in. The
-- states are written with the steps on single items.
import Chaos.CacheItems
import Chaos.SlabStacks

open Function chained_table chaos.memory

namespace chaos.common.data.cache

/-- The calls of the clients and the turns of the maintenance, with what the world answers. -/
inductive Call
  | getItem (stack : Answers) (key : Key)
  | storeItem (w : World) (key : Key) (buffer : Buffer)
  | deleteItem (stack : Answers) (key : Key)
  | isItemPresent (key : Key)
  | moveNextBucket

namespace DataCache

variable (hash : Key → UInt32)

/-! ## The condition -/

/-- A try of the allocator takes a proper page. A chunk that it gives is of a class with entries
in the arrays, and the length of the value is an `int`. -/
def TryOk (s : DataCache) (a : Answers) (id : Nat) (nbytes : UInt32) : Prop :=
  s.PageReady a id ∧
    ((s.memory.pool.do_slabs_alloc a id).2 ≠ none → s.InArrays id ∧ nbytes.toNat < 2 ^ 31)

/-- Without a chunk, the class has an entry in the arrays. Where items may be evicted and the class
has some, the second try gives a chunk. -/
def SecondOk (s : DataCache) (a : Answers) (id : Nat) (nbytes : UInt32) : Prop :=
  id < LARGEST_ID ∧
    (s.settings.evict_to_free ≠ 0 → s.zeroed = true ∧
      (s.queues id ≠ [] →
        s.TryOk a id nbytes ∧ (s.memory.pool.do_slabs_alloc a id).2 ≠ none))

/-- The condition on a value that is stored. -/
def AllocOk (s : DataCache) (w : World) (key : Key) (nbytes : UInt32) : Prop :=
  s.classOf key nbytes ≠ 0 →
    s.TryOk w.page (s.classOf key nbytes) nbytes ∧
      ((s.memory.pool.do_slabs_alloc w.page (s.classOf key nbytes)).2 = none →
        (s.withPool (s.memory.pool.do_slabs_alloc w.page (s.classOf key nbytes)).1).SecondOk
          w.second (s.classOf key nbytes) nbytes)

/-- A class is found, and the first try gives a chunk or there is a second one. -/
def Gets (s : DataCache) (w : World) (key : Key) (nbytes : UInt32) : Prop :=
  s.classOf key nbytes ≠ 0 ∧
    ((s.memory.pool.do_slabs_alloc w.page (s.classOf key nbytes)).2 ≠ none ∨
      (s.settings.evict_to_free ≠ 0 ∧ s.queues (s.classOf key nbytes) ≠ []))

/-- The count of the references of a key can be raised. -/
def CountOk (s : DataCache) (key : Key) : Prop :=
  ∀ p ∈ s.assoc_find hash key, (s.items p).refcount + 1 ≠ 0

/-- The number of the new bucket of each item that is moved is an `int`. -/
def BucketOk (s : DataCache) : Prop :=
  s.table.expanding = true → ∀ p ∈ s.table.old s.table.bucket,
    hashOf hash (s.key p) % 2 ^ s.table.power < 2 ^ 31

/-- The condition on a call. The item of a key matters only where a new one comes. -/
def CallOk (s : DataCache) : Call → Prop
  | .storeItem w key buffer => s.AllocOk w key buffer.bufferLen ∧
      (s.Gets w key buffer.bufferLen → s.CountOk hash key)
  | .deleteItem _ key => s.CountOk hash key
  | .moveNextBucket => s.BucketOk hash
  | _ => True

instance (s : DataCache) (a : Answers) (id : Nat) (nbytes : UInt32) :
    Decidable (s.TryOk a id nbytes) :=
  inferInstanceAs (Decidable (_ ∧ _))

instance (s : DataCache) (a : Answers) (id : Nat) (nbytes : UInt32) :
    Decidable (s.SecondOk a id nbytes) :=
  inferInstanceAs (Decidable (_ ∧ _))

instance (s : DataCache) (w : World) (key : Key) (nbytes : UInt32) :
    Decidable (s.AllocOk w key nbytes) :=
  inferInstanceAs (Decidable (_ → _))

instance (s : DataCache) (w : World) (key : Key) (nbytes : UInt32) :
    Decidable (s.Gets w key nbytes) :=
  inferInstanceAs (Decidable (_ ∧ _))

instance (s : DataCache) : Decidable (s.BucketOk hash) :=
  inferInstanceAs (Decidable (_ → _))

instance (s : DataCache) (key : Key) : Decidable (s.CountOk hash key) :=
  inferInstanceAs (Decidable (∀ p ∈ s.assoc_find hash key, _))

instance (s : DataCache) (c : Call) : Decidable (s.CallOk hash c) :=
  match c with
  | .storeItem .. => inferInstanceAs (Decidable (_ ∧ _))
  | .deleteItem .. => inferInstanceAs (Decidable (CountOk ..))
  | .moveNextBucket => inferInstanceAs (Decidable (BucketOk ..))
  | .getItem .. => isTrue trivial
  | .isItemPresent .. => isTrue trivial

variable {hash} {s t u : DataCache} {p q id : Nat} {c d : Chunk} {a : Answers} {w : World}
  {k : Key} {nbytes : UInt32} {buffer : Buffer} {pool : ManagedMemory}

/-! ## The allocation of an item -/

variable (hash) in
/-- A state after tries of the allocator that gave no chunk. -/
structure Tried (s u : DataCache) : Prop where
  sound : Sound hash u
  eq : u = s.withPool u.memory.pool
  same : SameSizes s.memory.pool u.memory.pool
  sameStacks : SameStacks s.memory.pool u.memory.pool

/-- A try that gives a chunk for a value. -/
structure Takes (u : DataCache) (a : Answers) (pool : ManagedMemory) (p : Nat) (key : Key)
    (nbytes : UInt32) : Prop where
  page : u.PageReady a (u.classOf key nbytes)
  arrays : u.InArrays (u.classOf key nbytes)
  small : nbytes.toNat < 2 ^ 31
  gives : u.memory.pool.do_slabs_alloc a (u.classOf key nbytes) = (pool, some p)

theorem Tried.refl (h : Sound hash s) : Tried hash s s :=
  ⟨h, rfl, SameSizes.refl _, SameStacks.refl _⟩

theorem Tried.once (h : Sound hash s) (hok : s.PageReady a id)
    (hr : s.memory.pool.do_slabs_alloc a id = (pool, none)) : Tried hash s (s.withPool pool) := by
  refine ⟨h.withPool hok hr, rfl, ?_, ?_⟩
  · have := (h.memory.kept.alloc hok).same
    rwa [hr] at this
  · rcases alloc_stacks hr with ⟨-, hsame⟩ | ⟨p, hsome, -⟩
    · exact hsame
    · cases hsome

theorem Tried.ntotal_eq (h : Tried hash s u) (key : Key) (nbytes : UInt32) :
    u.ntotal key nbytes = s.ntotal key nbytes := by
  rw [h.eq]
  rfl

theorem Tried.classOf_eq (h : Tried hash s u) (key : Key) (nbytes : UInt32) :
    u.classOf key nbytes = s.classOf key nbytes := by
  rw [classOf, h.same.getSlabIdBySize, h.ntotal_eq]
  rfl

/-- A try that gives a chunk makes the item. -/
theorem Tried.takes {a : Answers} (h : Tried hash s u) (hok : u.TryOk a (s.classOf k nbytes) nbytes)
    (hr : u.memory.pool.do_slabs_alloc a (s.classOf k nbytes) = (pool, some p)) :
    Takes u a pool p k nbytes ∧
      (u.withChunk pool p (s.ntotal k nbytes)).do_item_init p (s.classOf k nbytes) k nbytes =
        some (u.taken pool p k nbytes) := by
  obtain ⟨harrays, hsmall⟩ := hok.2 (by rw [hr]; exact nofun)
  rw [← h.classOf_eq] at hr harrays
  have hpage : u.PageReady a (u.classOf k nbytes) := by
    rw [h.classOf_eq]
    exact hok.1
  refine ⟨⟨hpage, harrays, hsmall, hr⟩, ?_⟩
  rw [← h.classOf_eq, ← h.ntotal_eq]
  exact h.sound.do_item_init hpage harrays hr

theorem Sound.do_item_alloc (h : Sound hash s) (hok : s.AllocOk w k nbytes) :
    ∃ u, Tried hash s u ∧
      (s.do_item_alloc w k nbytes = some (u, none) ∨
        s.Gets w k nbytes ∧ ∃ a pool p, Takes u a pool p k nbytes ∧
          s.do_item_alloc w k nbytes = some (u.taken pool p k nbytes, some p)) := by
  unfold DataCache.do_item_alloc
  dsimp only
  by_cases hid : s.classOf k nbytes = 0
  · rw [if_pos hid]
    exact ⟨s, Tried.refl h, .inl rfl⟩
  · rw [if_neg hid]
    obtain ⟨hfirst, hsecond⟩ := hok hid
    rcases hr : s.memory.pool.do_slabs_alloc w.page (s.classOf k nbytes) with ⟨pool, _ | p⟩
    · rw [allocate_none hr]
      rw [hr] at hsecond
      obtain ⟨hlt, hevict⟩ := hsecond rfl
      have htried : Tried hash s (s.withPool pool) := Tried.once h hfirst.1 hr
      dsimp only
      rw [if_neg (Nat.not_le.mpr hlt)]
      by_cases hoff : (s.withPool pool).settings.evict_to_free = 0
      · rw [if_pos hoff]
        exact ⟨s.withPool pool, htried, .inl rfl⟩
      · rw [if_neg hoff]
        obtain ⟨hzeroed, hagain⟩ := hevict hoff
        rw [if_neg (by rw [hzeroed]; exact nofun)]
        by_cases hempty : (s.withPool pool).queues (s.classOf k nbytes) = []
        · rw [if_pos hempty]
          exact ⟨s.withPool pool, htried, .inl rfl⟩
        · rw [if_neg hempty]
          obtain ⟨htry, hgives⟩ := hagain hempty
          rcases hr' : (s.withPool pool).memory.pool.do_slabs_alloc w.second (s.classOf k nbytes)
            with ⟨pool', _ | p⟩
          · rw [hr'] at hgives
            exact absurd rfl hgives
          · obtain ⟨htakes, hinit⟩ := htried.takes htry hr'
            rw [allocate_some hr']
            dsimp only
            rw [hinit]
            exact ⟨s.withPool pool, htried,
              .inr ⟨⟨hid, .inr ⟨hoff, hempty⟩⟩, w.second, pool', p, htakes, rfl⟩⟩
    · obtain ⟨htakes, hinit⟩ := (Tried.refl h).takes hfirst hr
      rw [allocate_some hr]
      dsimp only
      rw [hinit]
      exact ⟨s, Tried.refl h,
        .inr ⟨⟨hid, .inl (by rw [hr]; exact nofun)⟩, w.page, pool, p, htakes, rfl⟩⟩

/-! ## The operations as states -/

/-- A chunk stays where it is when another item is dropped. -/
theorem Sound.mem_live_dropped (h : Sound hash s) (hc : c ∈ s.memory.live) (hd : d ∈ s.memory.live)
    (hne : d.ptr ≠ c.ptr) : d ∈ (s.dropped a c.ptr).memory.live := by
  unfold DataCache.dropped
  split
  · have hfreed := (h.setRef c.ptr (lessOne (s.items c.ptr).refcount)).freed_memory (a := a) hc
    rw [hfreed]
    exact (List.mem_erase_of_ne fun heq => hne (congrArg Chunk.ptr heq)).mpr hd
  · exact hd

variable (hash) in
/-- The state after a new item was put in the place of an old one. -/
def replaced (s : DataCache) (w : World) (old_it new_it : Nat) : DataCache :=
  (((s.unlinked hash old_it).linkedIn hash w.table new_it).dropped w.stack old_it).dropped w.stack
    new_it

/-- Without the old item no other one has its key. -/
theorem Sound.key_unlinked_ne (h : Sound hash s) (hp : p ∈ s.table) (hkey : s.key q = s.key p) :
    ∀ r ∈ (s.unlinked hash p).table, (s.unlinked hash p).key r ≠ (s.unlinked hash p).key q := by
  intro r hr heq
  obtain ⟨hr, hne⟩ := (h.mem_unlinked hp).mp hr
  rw [unlinked_key, hkey] at heq
  exact hne (h.placed.eq_of_key_eq hr hp heq)

theorem Sound.putItem_some {n : Nat} (h : Sound hash s) (hp : p ∈ s.table)
    (href : (s.items p).refcount ≠ 0) (hq : ⟨q, n⟩ ∈ s.memory.live)
    (hlinked : (s.items q).linked = false) (hkey : s.key q = s.key p) :
    s.putItem hash w (some p) q = some (s.replaced hash w p q) ∧
      Sound hash (s.replaced hash w p q) := by
  obtain ⟨-, hslabbed, -⟩ := h.linked_of_mem hp
  obtain ⟨old, hold, rfl⟩ := h.chunk_of_mem hp
  have hne : q ≠ old.ptr := fun heq => h.not_mem_of_not_linked hlinked (heq ▸ hp)
  have hnew := h.key_unlinked_ne hp hkey
  have hlinked' : ((s.unlinked hash old.ptr).items q).linked = false := by
    rw [unlinked_of_ne hne]
    exact hlinked
  have hout : Sound hash (s.unlinked hash old.ptr) := h.unlinked hp
  have hin : Sound hash ((s.unlinked hash old.ptr).linkedIn hash w.table q) :=
    hout.linkedIn (c := ⟨q, n⟩) hq hnew
  have hcount := hin.mem_live_dropped (a := w.stack) (d := ⟨q, n⟩) hold hq hne
  have hdrop := hin.dropped (a := w.stack) hold
  refine ⟨?_, hdrop.dropped (c := ⟨q, n⟩) hcount⟩
  unfold putItem
  dsimp only
  rw [if_neg (by rw [hslabbed]; exact nofun), h.do_item_unlink hp href, Option.bind_some,
    hout.do_item_link (c := ⟨q, n⟩) hq hlinked' hnew, Option.bind_some, hin.do_item_remove hold,
    Option.bind_some]
  exact hdrop.do_item_remove (c := ⟨q, n⟩) hcount

theorem Sound.putItem_none {n : Nat} (h : Sound hash s) (hq : ⟨q, n⟩ ∈ s.memory.live)
    (hlinked : (s.items q).linked = false) (hnew : ∀ r ∈ s.table, s.key r ≠ s.key q) :
    s.putItem hash w none q = some ((s.linkedIn hash w.table q).dropped w.stack q) ∧
      Sound hash ((s.linkedIn hash w.table q).dropped w.stack q) := by
  have hin : Sound hash (s.linkedIn hash w.table q) := h.linkedIn (c := ⟨q, n⟩) hq hnew
  refine ⟨?_, hin.dropped (c := ⟨q, n⟩) hq⟩
  unfold putItem
  dsimp only
  rw [h.do_item_link (c := ⟨q, n⟩) hq hlinked hnew, Option.bind_some]
  exact hin.do_item_remove (c := ⟨q, n⟩) hq

/-- A new item with its data, before it is linked. -/
def filled (u : DataCache) (pool : ManagedMemory) (p : Nat) (k : Key) (buffer : Buffer) :
    DataCache :=
  (u.taken pool p k buffer.bufferLen).setItem p
    { u.newItem (u.classOf k buffer.bufferLen) k buffer.bufferLen with item_data := buffer.bytes }

theorem taken_self : (u.taken pool p k nbytes).items p = u.newItem (u.classOf k nbytes) k nbytes :=
  update_self ..

theorem Sound.filled (h : Sound hash u) (htakes : Takes u a pool p k buffer.bufferLen) :
    (u.taken pool p k buffer.bufferLen).copyData p buffer = some (u.filled pool p k buffer) ∧
      Sound hash (u.filled pool p k buffer) := by
  have hsound : Sound hash (u.taken pool p k buffer.bufferLen) :=
    h.taken htakes.page htakes.arrays htakes.gives
  have hcopy := hsound.copyData (c := ⟨p, u.ntotal k buffer.bufferLen⟩) buffer
    List.mem_cons_self (by dsimp only; rw [taken_self]; rfl)
    (by dsimp only; rw [taken_self]; exact Nat.mod_lt _ (by decide)) htakes.small
  dsimp only at hcopy
  rw [taken_self] at hcopy
  refine ⟨hcopy, ?_⟩
  refine hsound.setItem ?_ ?_ ?_ ?_ ?_
  all_goals rw [taken_self]
  rfl

theorem filled_self : (u.filled pool p k buffer).items p =
    { u.newItem (u.classOf k buffer.bufferLen) k buffer.bufferLen with
      item_data := buffer.bytes } :=
  setItem_self

theorem filled_of_ne (h : q ≠ p) : (u.filled pool p k buffer).items q = u.items q :=
  (setItem_of_ne h).trans (update_of_ne h ..)

/-- The chunk of a new item was in no use. -/
theorem Sound.not_mem_of_takes (h : Sound hash u) (htakes : Takes u a pool p k nbytes) :
    p ∉ u.table :=
  fun hmem => h.fresh htakes.page htakes.gives (h.live p hmem)

/-- The state with one more reference to an item. -/
def used (s : DataCache) (p : Nat) : DataCache := s.setRef p ((s.items p).refcount + 1)

theorem Sound.used (h : Sound hash s) (p : Nat) : Sound hash (s.used p) := h.setRef p _

variable (hash) in
/-- What `storeItem` can do: the key is there or not, and the allocator gives a chunk or not. -/
inductive Stores (s : DataCache) (w : World) (k : Key) (buffer : Buffer) :
    DataCache → Bool → Prop
  | refused {u : DataCache} (hfind : s.assoc_find hash k = none) (htried : Tried hash s u) :
      Stores s w k buffer u false
  | refusedAgain {u : DataCache} {old : Chunk} (hold : old ∈ s.memory.live)
      (hfind : s.assoc_find hash k = some old.ptr) (htried : Tried hash (s.used old.ptr) u) :
      Stores s w k buffer (u.dropped w.stack old.ptr) false
  | stored {u : DataCache} {a : Answers} {pool : ManagedMemory} {p : Nat}
      (hgets : s.Gets w k buffer.bufferLen) (hfind : s.assoc_find hash k = none)
      (htried : Tried hash s u) (htakes : Takes u a pool p k buffer.bufferLen) :
      Stores s w k buffer
        (((u.filled pool p k buffer).linkedIn hash w.table p).dropped w.stack p) true
  | replaced {u : DataCache} {old : Chunk} {a : Answers} {pool : ManagedMemory} {p : Nat}
      (hgets : s.Gets w k buffer.bufferLen) (hold : old ∈ s.memory.live)
      (hfind : s.assoc_find hash k = some old.ptr) (htried : Tried hash (s.used old.ptr) u)
      (htakes : Takes u a pool p k buffer.bufferLen) :
      Stores s w k buffer ((u.filled pool p k buffer).replaced hash w old.ptr p) true

theorem Tried.table_eq (h : Tried hash s u) : u.table = s.table := by rw [h.eq]; rfl

theorem Tried.items_eq (h : Tried hash s u) : u.items = s.items := by rw [h.eq]; rfl

theorem Tried.live_eq (h : Tried hash s u) : u.memory.live = s.memory.live := by rw [h.eq]; rfl

theorem filled_chunk : ⟨p, u.ntotal k buffer.bufferLen⟩ ∈ (u.filled pool p k buffer).memory.live :=
  List.mem_cons_self

theorem filled_key_self : (u.filled pool p k buffer).key p = k := congrArg Item.key filled_self

/-- A new item has the key of the old one. -/
theorem Sound.filled_key_eq {old : Nat} (h : Sound hash u) (hold : old ∈ u.table)
    (hkey : u.key old = k) (htakes : Takes u a pool p k buffer.bufferLen) :
    (u.filled pool p k buffer).key p = (u.filled pool p k buffer).key old := by
  have hne : old ≠ p := ne_of_mem_of_not_mem hold (h.not_mem_of_takes htakes)
  rw [filled_key_self, key, filled_of_ne hne]
  exact hkey.symm

/-- A new item has a key of its own where nothing had its key. -/
theorem Sound.filled_key_ne (h : Sound hash u) (hnew : ∀ q ∈ u.table, u.key q ≠ k)
    (htakes : Takes u a pool p k buffer.bufferLen) :
    ∀ q ∈ (u.filled pool p k buffer).table,
      (u.filled pool p k buffer).key q ≠ (u.filled pool p k buffer).key p := by
  intro q hq
  have hne : q ≠ p := ne_of_mem_of_not_mem hq (h.not_mem_of_takes htakes)
  rw [filled_key_self, key, filled_of_ne hne]
  exact hnew q hq

/-- A key that is not there is not there after the tries of the allocator. -/
theorem Tried.absent (h : Tried hash s u) (hsound : Sound hash s)
    (hfind : s.assoc_find hash k = none) : ∀ q ∈ u.table, u.key q ≠ k := by
  intro q hq
  rw [h.table_eq] at hq
  rw [key, h.items_eq]
  exact hsound.assoc_find_eq_none_iff.mp hfind q hq

/-- The item of a key is there after the tries of the allocator, with one more reference. -/
theorem Tried.present (h : Tried hash (s.used p) u) (hsound : Sound hash s)
    (hfind : s.assoc_find hash k = some p) :
    p ∈ u.table ∧ u.key p = k ∧
      u.items p = { s.items p with refcount := (s.items p).refcount + 1 } := by
  obtain ⟨hp, hkey⟩ := hsound.assoc_find_eq_some_iff.mp hfind
  have hself : u.items p = { s.items p with refcount := (s.items p).refcount + 1 } := by
    rw [h.items_eq]
    exact setRef_self _
  refine ⟨?_, ?_, hself⟩
  · rw [h.table_eq]
    exact hp
  · rw [key, hself]
    exact hkey

theorem Sound.storeItem (h : Sound hash s) (halloc : s.AllocOk w k buffer.bufferLen)
    (hcount : s.Gets w k buffer.bufferLen → s.CountOk hash k) :
    ∃ t ok, s.storeItem hash w k buffer = some (t, ok) ∧ Stores hash s w k buffer t ok ∧
      Sound hash t := by
  unfold DataCache.storeItem
  cases hfind : s.assoc_find hash k with
  | none =>
    rw [do_item_get_none hfind]
    dsimp only
    obtain ⟨u, htried, heq | ⟨hgets, a, pool, p, htakes, heq⟩⟩ := h.do_item_alloc halloc <;>
      rw [heq, Option.bind_some]
    · exact ⟨u, false, rfl, .refused hfind htried, htried.sound⟩
    · obtain ⟨hcopy, hfilled⟩ := htried.sound.filled htakes
      have hnew := htried.sound.filled_key_ne (htried.absent h hfind) htakes
      obtain ⟨hput, hsound⟩ := hfilled.putItem_none (w := w) filled_chunk
        (congrArg Item.linked filled_self) hnew
      refine ⟨((u.filled pool p k buffer).linkedIn hash w.table p).dropped w.stack p, true, ?_,
        .stored hgets hfind htried htakes, hsound⟩
      dsimp only
      rw [hcopy, Option.bind_some, hput]
      rfl
  | some p =>
    obtain ⟨old, hold, rfl⟩ := h.chunk_of_mem (h.assoc_find_eq_some_iff.mp hfind).1
    rw [do_item_get_some hfind]
    dsimp only
    obtain ⟨u, htried, heq | ⟨hgets, a, pool, p, htakes, heq⟩⟩ :=
      (h.used old.ptr).do_item_alloc halloc <;> rw [DataCache.used] at heq <;>
      rw [heq, Option.bind_some]
    · have hold' : old ∈ u.memory.live := by
        rw [htried.live_eq]
        exact hold
      refine ⟨u.dropped w.stack old.ptr, false, ?_, .refusedAgain hold hfind htried,
        htried.sound.dropped hold'⟩
      dsimp only
      rw [htried.sound.do_item_remove hold']
      rfl
    · obtain ⟨hp', hkey', hself⟩ := htried.present h hfind
      obtain ⟨hcopy, hfilled⟩ := htried.sound.filled htakes
      have hne : old.ptr ≠ p := ne_of_mem_of_not_mem hp' (htried.sound.not_mem_of_takes htakes)
      have href : ((u.filled pool p k buffer).items old.ptr).refcount ≠ 0 := by
        rw [filled_of_ne hne, hself]
        exact hcount hgets old.ptr hfind
      obtain ⟨hput, hsound⟩ := hfilled.putItem_some (w := w) hp' href filled_chunk
        (congrArg Item.linked filled_self) (htried.sound.filled_key_eq hp' hkey' htakes)
      refine ⟨(u.filled pool p k buffer).replaced hash w old.ptr p, true, ?_,
        .replaced hgets hold hfind htried htakes, hsound⟩
      dsimp only
      rw [hcopy, Option.bind_some, hput]
      rfl

/-- A lookup takes a reference and gives it back. -/
theorem Sound.getItem (h : Sound hash s) (stack : Answers) (k : Key) :
    (s.assoc_find hash k = none ∧ s.getItem hash stack k = some (s, none)) ∨
    ∃ c ∈ s.memory.live, s.assoc_find hash k = some c.ptr ∧
      s.getItem hash stack k = some ((s.used c.ptr).dropped stack c.ptr,
        some ((s.items c.ptr).nbytes,
          (s.items c.ptr).item_data.take (s.items c.ptr).nbytes.toNat)) ∧
      Sound hash ((s.used c.ptr).dropped stack c.ptr) := by
  unfold DataCache.getItem
  cases hfind : s.assoc_find hash k with
  | none =>
    rw [do_item_get_none hfind]
    exact .inl ⟨rfl, rfl⟩
  | some p =>
    obtain ⟨c, hc, rfl⟩ := h.chunk_of_mem (h.assoc_find_eq_some_iff.mp hfind).1
    refine .inr ⟨c, hc, rfl, ?_, (h.used c.ptr).dropped hc⟩
    rw [do_item_get_some hfind]
    dsimp only
    rw [setRef_self]
    exact congrArg (Option.map _) ((h.used c.ptr).do_item_remove hc)

theorem Sound.deleteItem (h : Sound hash s) (stack : Answers) (hcount : s.CountOk hash k) :
    (s.assoc_find hash k = none ∧ s.deleteItem hash stack k = some (s, false)) ∨
    ∃ c ∈ s.memory.live, s.assoc_find hash k = some c.ptr ∧
      s.deleteItem hash stack k =
        some (((s.used c.ptr).unlinked hash c.ptr).dropped stack c.ptr, true) ∧
      Sound hash (((s.used c.ptr).unlinked hash c.ptr).dropped stack c.ptr) := by
  unfold DataCache.deleteItem
  cases hfind : s.assoc_find hash k with
  | none =>
    rw [do_item_get_none hfind]
    exact .inl ⟨rfl, rfl⟩
  | some p =>
    have hp := (h.assoc_find_eq_some_iff.mp hfind).1
    obtain ⟨c, hc, rfl⟩ := h.chunk_of_mem hp
    have href : ((s.used c.ptr).items c.ptr).refcount ≠ 0 := by
      rw [DataCache.used, setRef_self]
      exact hcount c.ptr hfind
    have hout : Sound hash ((s.used c.ptr).unlinked hash c.ptr) := (h.used c.ptr).unlinked hp
    refine .inr ⟨c, hc, rfl, ?_, hout.dropped hc⟩
    rw [do_item_get_some hfind]
    dsimp only
    rw [← DataCache.used, (h.used c.ptr).do_item_unlink hp href, Option.bind_some,
      hout.do_item_remove hc]
    rfl

theorem Sound.moveNextBucket (h : Sound hash s) (hok : s.BucketOk hash) :
    s.moveNextBucket hash = some s ∨
    s.table.expanding = true ∧ s.moveNextBucket hash =
      some { s with table := s.table.moveBucket (hashOf hash) s.key } := by
  unfold DataCache.moveNextBucket
  by_cases hexp : s.table.expanding = true
  · rw [if_pos hexp]
    exact .inr ⟨hexp, if_pos ⟨h.placed.bucket_lt hexp, hok hexp⟩⟩
  · rw [if_neg hexp]
    exact .inl rfl

theorem Sound.moveBucket (h : Sound hash s) (hexp : s.table.expanding = true) :
    Sound hash { s with table := s.table.moveBucket (hashOf hash) s.key } := by
  have hmem : ∀ q, q ∈ s.table.moveBucket (hashOf hash) s.key ↔ q ∈ s.table :=
    fun q => Table.mem_moveBucket
  refine ⟨h.memory, h.placed.moveBucket hexp, fun q hq => h.live q ((hmem q).mp hq), fun c hc => ?_,
    fun id q => ?_, h.queue_nodup, h.free⟩
  · have hok := h.items c hc
    exact ⟨hok.linked.trans (hmem c.ptr).symm, hok.slabbed, hok.size, hok.clsid, hok.arrays⟩
  · exact (h.queue id q).trans (and_congr_left' (hmem q).symm)

end DataCache

end chaos.common.data.cache
