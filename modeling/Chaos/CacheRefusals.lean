-- A cache without memory for a new item. Where nothing may be evicted the value is refused, and all
-- keys keep what they had. Where items may be evicted none is, and the second try of the allocator
-- is not checked.
import Chaos.CacheMap

open Function chained_table chaos.memory runs

namespace chaos.common.data.cache.DataCache

/-! ## What is claimed -/

/-- The answers of the tries of the allocator that `do_item_alloc` makes. -/
def tries (s : DataCache) (w : World) (key : Key) (nbytes : UInt32) : List (Option Nat) :=
  let id := s.classOf key nbytes
  if id = 0 then []
  else
    match s.memory.pool.do_slabs_alloc w.page id with
    | (_, some p) => [some p]
    | (pool, none) =>
      if s.settings.evict_to_free ≠ 0 ∧ s.queues id ≠ [] then
        [none, (pool.do_slabs_alloc w.second id).2]
      else [none]

def OutOfMemory (s : DataCache) (w : World) (key : Key) (nbytes : UInt32) : Prop :=
  ∀ r ∈ s.tries w key nbytes, r = none

variable (hash : Key → UInt32)

/-- What `getItem` answers, where it is defined. -/
def answer (s : DataCache) (stack : Answers) (k : Key) : Option (Option (UInt32 × List UInt8)) :=
  (s.getItem hash stack k).map Prod.snd

/-- The call ends. Without memory it answers -1 and all keys keep what they have, and otherwise it
answers 0 and the key has the new value. -/
structure StoredCleanly (s : DataCache) (w : World) (k : Key) (buffer : Buffer) (t : DataCache)
    (ok : Bool) : Prop where
  ends : s.storeItem hash w k buffer = some (t, ok)
  refused : s.OutOfMemory w k buffer.bufferLen →
    ok = false ∧ ∀ stack k', t.answer hash stack k' = s.answer hash stack k'
  stored : ¬ s.OutOfMemory w k buffer.bufferLen →
    ok = true ∧ ∀ stack, t.answer hash stack k = some (some (buffer.bufferLen, buffer.bytes))

def StoresCleanly (s : DataCache) (w : World) (k : Key) (buffer : Buffer) : Prop :=
  ∃ t ok, s.StoredCleanly hash w k buffer t ok

/-! ## The condition -/

/-- A chunk can be made the item of the key: the class has entries in the arrays, which were set,
the length of the value is an `int`, and the old item can have one more reference. -/
def ChunkOk (s : DataCache) (k : Key) (nbytes : UInt32) : Prop :=
  s.InArrays (s.classOf k nbytes) ∧ nbytes.toNat < 2 ^ 31 ∧ s.CountOk hash k

/-- Without a chunk the class has an entry in the arrays. Where items may be evicted the arrays were
set, and the second try of a class that has items gives a chunk. -/
def RefusalOk (s : DataCache) (w : World) (k : Key) (nbytes : UInt32) (pool : ManagedMemory) :
    Prop :=
  s.classOf k nbytes < LARGEST_ID ∧
    (s.settings.evict_to_free ≠ 0 → s.zeroed = true ∧
      (s.queues (s.classOf k nbytes) ≠ [] →
        (pool.do_slabs_alloc w.second (s.classOf k nbytes)).2 ≠ none ∧ s.ChunkOk hash k nbytes))

def StoreOk (s : DataCache) (w : World) (k : Key) (nbytes : UInt32) : Prop :=
  s.classOf k nbytes ≠ 0 →
    match s.memory.pool.do_slabs_alloc w.page (s.classOf k nbytes) with
    | (_, some _) => s.ChunkOk hash k nbytes
    | (pool, none) => s.RefusalOk hash w k nbytes pool

/-- The pages that the tries take hold their chunks. -/
def PagesReady (s : DataCache) (w : World) (k : Key) (nbytes : UInt32) : Prop :=
  s.classOf k nbytes ≠ 0 → s.PageReady w.page (s.classOf k nbytes) ∧
    ((s.memory.pool.do_slabs_alloc w.page (s.classOf k nbytes)).2 = none →
      s.settings.evict_to_free ≠ 0 → s.queues (s.classOf k nbytes) ≠ [] →
        (s.withPool (s.memory.pool.do_slabs_alloc w.page (s.classOf k nbytes)).1).PageReady
          w.second (s.classOf k nbytes))

def PagesOk (s : DataCache) : Call → Prop
  | .storeItem w k buffer => s.PagesReady w k buffer.bufferLen
  | _ => True

instance (s : DataCache) (w : World) (k : Key) (nbytes : UInt32) :
    Decidable (s.OutOfMemory w k nbytes) :=
  inferInstanceAs (Decidable (∀ r ∈ _, _))

instance (s : DataCache) (k : Key) (nbytes : UInt32) : Decidable (s.ChunkOk hash k nbytes) :=
  inferInstanceAs (Decidable (_ ∧ _))

instance (s : DataCache) (w : World) (k : Key) (nbytes : UInt32) (pool : ManagedMemory) :
    Decidable (s.RefusalOk hash w k nbytes pool) :=
  inferInstanceAs (Decidable (_ ∧ _))

instance (s : DataCache) (w : World) (k : Key) (nbytes : UInt32) :
    Decidable (s.StoreOk hash w k nbytes) :=
  decidable_of_iff
    (s.classOf k nbytes ≠ 0 →
      ((s.memory.pool.do_slabs_alloc w.page (s.classOf k nbytes)).2 ≠ none →
        s.ChunkOk hash k nbytes) ∧
      ((s.memory.pool.do_slabs_alloc w.page (s.classOf k nbytes)).2 = none →
        s.RefusalOk hash w k nbytes (s.memory.pool.do_slabs_alloc w.page (s.classOf k nbytes)).1))
    (imp_congr_right fun _ => by
      rcases s.memory.pool.do_slabs_alloc w.page (s.classOf k nbytes) with ⟨pool, _ | p⟩ <;> simp)

instance (s : DataCache) (w : World) (k : Key) (nbytes : UInt32) :
    Decidable (s.PagesReady w k nbytes) :=
  inferInstanceAs (Decidable (_ → _))

instance (s : DataCache) (c : Call) : Decidable (s.PagesOk c) :=
  match c with
  | .storeItem .. => inferInstanceAs (Decidable (PagesReady ..))
  | .deleteItem .. | .moveNextBucket | .getItem .. | .isItemPresent .. => isTrue trivial

variable {hash} {s t u : DataCache} {p q : Nat} {a : Answers} {w : World} {k : Key}
  {nbytes : UInt32} {buffer : Buffer} {ok : Bool} {r : Option Nat} {pool : ManagedMemory}

/-! ## The answer -/

/-- The allocation of an item fails just when all its tries do. -/
theorem do_item_alloc_none_iff (h : s.do_item_alloc w k nbytes = some (u, r)) :
    r = none ↔ s.OutOfMemory w k nbytes := by
  unfold OutOfMemory tries
  unfold do_item_alloc at h
  dsimp only at h ⊢
  by_cases hid : s.classOf k nbytes = 0
  · rw [if_pos hid] at h ⊢
    cases h
    exact iff_of_true rfl nofun
  · rw [if_neg hid] at h ⊢
    rcases hr : s.memory.pool.do_slabs_alloc w.page (s.classOf k nbytes) with ⟨pool, _ | p⟩
    · rw [allocate_none hr] at h
      dsimp only at h ⊢
      split_ifs at h with hlarge hoff hzeroed hempty
      · cases h
        rw [if_neg fun hboth => hboth.1 hoff]
        simp
      · cases h
        rw [if_neg fun hboth => hboth.2 hempty]
        simp
      · rw [if_pos ⟨hoff, hempty⟩]
        rcases hr' : pool.do_slabs_alloc w.second (s.classOf k nbytes) with ⟨pool', _ | p⟩
        · rw [allocate_none (s := s.withPool pool) hr'] at h
          cases h
        · rw [allocate_some (s := s.withPool pool) hr'] at h
          obtain ⟨v, -, hv⟩ := Option.map_eq_some_iff.mp h
          cases hv
          simp
    · rw [allocate_some hr] at h
      obtain ⟨v, -, hv⟩ := Option.map_eq_some_iff.mp h
      cases hv
      simp

/-- The answer is -1 just when all tries of the allocator fail. -/
theorem storeItem_false_iff (h : s.storeItem hash w k buffer = some (t, ok)) :
    ok = false ↔ s.OutOfMemory w k buffer.bufferLen := by
  unfold storeItem at h
  obtain ⟨s', old, hget⟩ : ∃ s' old, s.do_item_get hash k = (s', old) := ⟨_, _, rfl⟩
  have hsame : s'.OutOfMemory w k buffer.bufferLen ↔ s.OutOfMemory w k buffer.bufferLen := by
    unfold do_item_get at hget
    split at hget <;> cases hget <;> rfl
  rw [hget] at h
  obtain ⟨⟨u, r⟩, halloc, hrest⟩ := Option.bind_eq_some_iff.mp h
  rw [← hsame, ← do_item_alloc_none_iff halloc]
  cases r with
  | none =>
    cases old with
    | none =>
      cases hrest
      simp
    | some old =>
      obtain ⟨v, -, hv⟩ := Option.map_eq_some_iff.mp hrest
      cases hv
      simp
  | some p =>
    obtain ⟨v, -, hv⟩ := Option.map_eq_some_iff.mp hrest
    cases hv
    simp

/-! ## What a call needs -/

theorem do_item_init_some {id : Nat} (h : s.do_item_init p id k nbytes = some t) :
    s.InArrays id ∧ t.items = (s.setItem p (s.newItem id k nbytes)).items := by
  unfold do_item_init at h
  split_ifs at h with hok
  cases h
  exact ⟨hok.2.1, rfl⟩

/-- An allocation that ends, with or without an item. -/
theorem do_item_alloc_some {id : Nat} (hclass : s.classOf k nbytes = id) (hid : id ≠ 0)
    (h : s.do_item_alloc w k nbytes = some (u, r)) :
    match s.memory.pool.do_slabs_alloc w.page id with
    | (_, some p) => s.InArrays id ∧ r = some p ∧
      u.items = (s.setItem p (s.newItem id k nbytes)).items
    | (pool, none) => id < LARGEST_ID ∧
      (s.settings.evict_to_free ≠ 0 → s.zeroed = true ∧
        (s.queues id ≠ [] → ∃ p, (pool.do_slabs_alloc w.second id).2 = some p ∧
          s.InArrays id ∧ r = some p ∧ u.items = (s.setItem p (s.newItem id k nbytes)).items)) := by
  unfold do_item_alloc at h
  dsimp only at h
  rw [hclass, if_neg hid] at h
  rcases hr : s.memory.pool.do_slabs_alloc w.page id with ⟨pool, _ | p⟩
  · rw [allocate_none hr] at h
    dsimp only at h ⊢
    split_ifs at h with hlarge hoff hzeroed hempty
    · exact ⟨by omega, fun hon => absurd hoff hon⟩
    · exact ⟨by omega, fun _ => ⟨Bool.eq_true_of_not_eq_false hzeroed, fun hne => absurd hempty hne⟩⟩
    · refine ⟨by omega, fun _ => ⟨Bool.eq_true_of_not_eq_false hzeroed, fun _ => ?_⟩⟩
      rcases hr' : pool.do_slabs_alloc w.second id with ⟨pool', _ | p⟩
      · rw [allocate_none (s := s.withPool pool) hr'] at h
        cases h
      · rw [allocate_some (s := s.withPool pool) hr'] at h
        obtain ⟨v, hinit, hv⟩ := Option.map_eq_some_iff.mp h
        cases hv
        obtain ⟨harrays, hitems⟩ := do_item_init_some hinit
        exact ⟨p, rfl, harrays, rfl, hitems⟩
  · rw [allocate_some hr] at h
    obtain ⟨v, hinit, hv⟩ := Option.map_eq_some_iff.mp h
    cases hv
    obtain ⟨harrays, hitems⟩ := do_item_init_some hinit
    exact ⟨harrays, rfl, hitems⟩

/-- No class holds an item that is larger than all sizes. -/
theorem searchSlab_large {m : ManagedMemory} {size : Nat} (h : 2 ^ 32 ≤ size) (left res : Nat) :
    m.searchSlab size left res = 2 ^ 32 - 1 := by
  have hsmall : ∀ j, (m.slabclass j).size.toNat < size := fun j =>
    lt_of_lt_of_le (m.slabclass j).size.toNat_lt h
  induction left generalizing res with
  | zero => exact if_pos (hsmall res)
  | succ left ih =>
    rw [ManagedMemory.searchSlab, if_pos (hsmall res)]
    exact ih (res + 1)

/-- A value whose length is not an `int` does not fit in the chunk that its item got. -/
theorem small_of_copyData {m : ManagedMemory} {id : Nat} (hclass : s.classOf k buffer.bufferLen = id)
    (hlargest : m.power_largest ≤ POWER_LARGEST) (hgiven : (m.do_slabs_alloc a id).2 = some p)
    (hitem : u.items p = s.newItem id k buffer.bufferLen) (hcopy : u.copyData p buffer = some t) :
    buffer.bufferLen.toNat < 2 ^ 31 := by
  by_contra hlarge
  have hid : id ≤ m.power_largest := by
    by_contra hid
    rw [ManagedMemory.do_slabs_alloc, if_pos (by omega)] at hgiven
    cases hgiven
  have hlength : k.bytes.length ≤ 250 := k.short
  unfold copyData at hcopy
  dsimp only at hcopy
  rw [hitem] at hcopy
  split_ifs at hcopy with hfits
  have hsize := (u.memory.pool.slabclass (s.newItem id k buffer.bufferLen).slabs_clsid).size.toNat_lt
  have hoffset : (s.newItem id k buffer.bufferLen).dataOffset + buffer.bufferLen.toNat < 2 ^ 32 := by
    omega
  have htotal : 2 ^ 32 ≤ s.ntotal k buffer.bufferLen := by
    unfold Item.dataOffset newItem at hoffset
    unfold ntotal item_make_header sizeOfInt
    dsimp only at hoffset ⊢
    rw [if_neg hlarge]
    by_cases hcas : s.settings.use_cas = 0
    · simp only [hcas, ne_eq, not_true_eq_false, decide_false, Bool.false_eq_true, if_false]
        at hoffset ⊢
      omega
    · simp only [hcas, ne_eq, not_false_eq_true, decide_true, if_true] at hoffset ⊢
      omega
  have hnone : s.classOf k buffer.bufferLen = 2 ^ 32 - 1 := by
    unfold classOf ManagedMemory.getSlabIdBySize
    rw [if_neg (by omega)]
    exact searchSlab_large htotal ..
  rw [← hclass, hnone] at hid
  exact absurd (hid.trans hlargest) (by decide)

/-- An item whose count wrapped to 0 loses its chunk while it is still in use. -/
theorem slabbed_of_unlink (hlinked : (s.items p).linked = true)
    (hcount : (s.items p).refcount = 0) (h : s.do_item_unlink hash a p = some t) :
    (t.items p).slabbed = true := by
  unfold do_item_unlink at h
  rw [if_pos hlinked] at h
  obtain ⟨u, hu, h⟩ := Option.bind_eq_some_iff.mp h
  obtain ⟨v, hv, h⟩ := Option.bind_eq_some_iff.mp h
  have hitems : v.items = (s.setItem p { s.items p with linked := false }).items := by
    unfold assoc_delete at hu
    unfold item_unlink_q at hv
    split_ifs at hu
    cases hu
    dsimp only at hv
    split_ifs at hv
    cases hv
    rfl
  have hzero : (v.items p).refcount = 0 := by
    rw [hitems, setItem_self]
    exact hcount
  rw [if_pos hzero] at h
  unfold item_free at h
  dsimp only at h
  split_ifs at h
  cases h
  show ((v.setItem p _).items p).slabbed = true
  rw [setItem_self]

theorem items_of_link {table : Bool} (hne : q ≠ p) (h : s.do_item_link hash table p = some t) :
    t.items q = s.items q := by
  unfold do_item_link at h
  split_ifs at h
  obtain ⟨u, hu, h⟩ := Option.bind_eq_some_iff.mp h
  have hitems : t.items = (s.setItem p { s.items p with linked := true }).items := by
    unfold assoc_insert at hu
    unfold item_link_q at h
    split_ifs at hu
    dsimp only at hu h
    split_ifs at hu
    all_goals
      cases hu
      split_ifs at h
      cases h
    · unfold assoc_expand
      split <;> rfl
    · rfl
  rw [hitems, setItem_of_ne hne]

theorem remove_slabbed (h : (s.items p).slabbed = true) : s.do_item_remove a p = none := if_pos h

/-- The replaced item is given back after it was unlinked. -/
theorem count_of_putItem (hne : q ≠ p) (hlinked : (s.items q).linked = true)
    (h : s.putItem hash w (some q) p = some t) : (s.items q).refcount ≠ 0 := by
  intro hcount
  unfold putItem at h
  dsimp only at h
  split_ifs at h
  obtain ⟨u, hu, h⟩ := Option.bind_eq_some_iff.mp h
  obtain ⟨v, hv, h⟩ := Option.bind_eq_some_iff.mp h
  have hslabbed : (v.items q).slabbed = true := by
    rw [items_of_link hne hv]
    exact slabbed_of_unlink hlinked hcount hu
  rw [remove_slabbed hslabbed] at h
  cases h

/-- A key that is deleted is given back after it was unlinked. -/
theorem Sound.countOk_of_deleteItem (h : Sound hash s) {d : DataCache} {deleted : Bool}
    (hdelete : s.deleteItem hash a k = some (d, deleted)) : s.CountOk hash k := by
  intro p hp hcount
  have hlinked := (h.linked_of_mem (h.assoc_find_eq_some_iff.mp hp).1).1
  unfold DataCache.deleteItem at hdelete
  rw [do_item_get_some hp] at hdelete
  obtain ⟨u, hu, -⟩ := Option.map_eq_some_iff.mp hdelete
  obtain ⟨v, hv, hu⟩ := Option.bind_eq_some_iff.mp hu
  have hslabbed : (v.items p).slabbed = true := by
    refine slabbed_of_unlink ?_ ?_ hv <;> rw [setRef_self]
    · exact hlinked
    · exact hcount
  rw [remove_slabbed hslabbed] at hu
  cases hu

/-- A new item that was filled and put in met the condition. -/
theorem Sound.chunkOk_of_put {m : ManagedMemory} {id : Nat} {s' : DataCache} {old : Option Nat}
    (h : Sound hash s) (hclass : s.classOf k buffer.bufferLen = id)
    (hlargest : m.power_largest ≤ POWER_LARGEST) (hgiven : (m.do_slabs_alloc a id).2 = some p)
    (hfresh : p ∉ s.memory.live.map Chunk.ptr) (harrays : s.InArrays id)
    (hget : s.do_item_get hash k = (s', old))
    (hitems : u.items = (s'.setItem p (s.newItem id k buffer.bufferLen)).items)
    (hput : (u.copyData p buffer).bind (fun v => v.putItem hash w old p) = some t) :
    s.ChunkOk hash k buffer.bufferLen := by
  obtain ⟨v, hcopy, hput⟩ := Option.bind_eq_some_iff.mp hput
  have hitem : u.items p = s.newItem id k buffer.bufferLen := by
    rw [hitems]
    exact setItem_self
  refine ⟨hclass ▸ harrays, small_of_copyData hclass hlargest hgiven hitem hcopy, ?_⟩
  intro q hq
  have hmem := (h.assoc_find_eq_some_iff.mp hq).1
  have hne : q ≠ p := ne_of_mem_of_not_mem (h.live q hmem) hfresh
  rw [do_item_get_some hq] at hget
  cases hget
  have hvq : v.items q = { s.items q with refcount := (s.items q).refcount + 1 } := by
    unfold DataCache.copyData at hcopy
    dsimp only at hcopy
    split_ifs at hcopy
    cases hcopy
    rw [setItem_of_ne hne, hitems, setItem_of_ne hne, setRef_self]
  have hlinked : (v.items q).linked = true := by
    rw [hvq]
    exact (h.linked_of_mem hmem).1
  have hcount := count_of_putItem hne hlinked hput
  rw [hvq] at hcount
  exact hcount

/-- A call that ends met the condition. -/
theorem Sound.storeOk_of_storeItem (h : Sound hash s)
    (hready : s.PagesReady w k buffer.bufferLen)
    (hstore : s.storeItem hash w k buffer = some (t, ok)) :
    s.StoreOk hash w k buffer.bufferLen := by
  obtain ⟨id, hid₀⟩ : ∃ id, s.classOf k buffer.bufferLen = id := ⟨_, rfl⟩
  unfold StoreOk RefusalOk
  unfold PagesReady at hready
  rw [hid₀] at hready ⊢
  intro hid
  obtain ⟨hpage, hsecond⟩ := hready hid
  unfold DataCache.storeItem at hstore
  obtain ⟨s', old, hget⟩ : ∃ s' old, s.do_item_get hash k = (s', old) := ⟨_, _, rfl⟩
  have hsame : s'.memory = s.memory ∧ s'.settings = s.settings ∧ s'.queues = s.queues ∧
      s'.zeroed = s.zeroed ∧ s'.classOf k buffer.bufferLen = id ∧
      s'.newItem id k buffer.bufferLen = s.newItem id k buffer.bufferLen ∧
      (s'.InArrays id ↔ s.InArrays id) := by
    unfold do_item_get at hget
    split at hget <;> cases hget <;> exact ⟨rfl, rfl, rfl, rfl, hid₀, rfl, Iff.rfl⟩
  obtain ⟨hmemory, hsettings, hqueues, hzeroed, hclass, hitem, harr⟩ := hsame
  rw [hget] at hstore
  obtain ⟨⟨u, r⟩, halloc, hrest⟩ := Option.bind_eq_some_iff.mp hstore
  have hcases := do_item_alloc_some hclass hid halloc
  rw [hmemory, hsettings, hqueues, hzeroed, hitem, harr] at hcases
  rcases hr : s.memory.pool.do_slabs_alloc w.page id with ⟨pool, _ | p⟩
  · rw [hr] at hcases
    refine ⟨hcases.1, fun hon => ⟨(hcases.2 hon).1, fun hne => ?_⟩⟩
    obtain ⟨p, hgiven, harrays, rfl, hitems⟩ := (hcases.2 hon).2 hne
    obtain ⟨v, hput, -⟩ := Option.map_eq_some_iff.mp hrest
    refine ⟨by rw [hgiven]; exact nofun, ?_⟩
    have hpool : Sound hash (s.withPool pool) := h.withPool hpage hr
    have hagain : (s.withPool (s.memory.pool.do_slabs_alloc w.page id).1).PageReady w.second id :=
      hsecond (show (s.memory.pool.do_slabs_alloc w.page id).2 = none by rw [hr]) hon hne
    rw [hr] at hagain
    have hclass' : (s.withPool pool).classOf k buffer.bufferLen = id :=
      ((Tried.once h hpage hr).classOf_eq k buffer.bufferLen).trans hid₀
    rw [← hclass'] at hagain
    have hgiven' : (s.withPool pool).memory.pool.do_slabs_alloc w.second
        ((s.withPool pool).classOf k buffer.bufferLen) =
          ((pool.do_slabs_alloc w.second id).1, some p) := by
      rw [hclass']
      exact Prod.ext rfl hgiven
    have hfresh : p ∉ s.memory.live.map Chunk.ptr := hpool.fresh hagain hgiven'
    exact h.chunkOk_of_put hid₀ hpool.memory.kept.largest hgiven hfresh harrays hget hitems hput
  · rw [hr] at hcases
    obtain ⟨harrays, rfl, hitems⟩ := hcases
    obtain ⟨v, hput, -⟩ := Option.map_eq_some_iff.mp hrest
    have hfresh : p ∉ s.memory.live.map Chunk.ptr := by
      subst hid₀
      exact h.fresh hpage hr
    exact h.chunkOk_of_put (a := w.page) hid₀ h.memory.kept.largest (by rw [hr]) hfresh harrays hget
      hitems hput

/-- The condition of the runs, for pages that hold their chunks. -/
theorem callOk_of_storeOk (hready : s.PagesReady w k buffer.bufferLen)
    (hok : s.StoreOk hash w k buffer.bufferLen) : s.CallOk hash (.storeItem w k buffer) := by
  unfold PagesReady at hready
  unfold StoreOk at hok
  constructor
  · intro hid
    obtain ⟨hpage, hsecond⟩ := hready hid
    have hok := hok hid
    rcases hr : s.memory.pool.do_slabs_alloc w.page (s.classOf k buffer.bufferLen)
      with ⟨pool, _ | p⟩
    · rw [hr] at hok hsecond
      refine ⟨⟨hpage, fun hsome => absurd (congrArg Prod.snd hr) hsome⟩, fun _ => ⟨hok.1, fun hon => ?_⟩⟩
      refine ⟨(hok.2 hon).1, fun hne => ?_⟩
      obtain ⟨hgives, harrays, hsmall, -⟩ := (hok.2 hon).2 hne
      exact ⟨⟨hsecond rfl hon hne, fun _ => ⟨harrays, hsmall⟩⟩, hgives⟩
    · rw [hr] at hok
      exact ⟨⟨hpage, fun _ => ⟨hok.1, hok.2.1⟩⟩, nofun⟩
  · rintro ⟨hid, hgets⟩
    have hok := hok hid
    rcases hr : s.memory.pool.do_slabs_alloc w.page (s.classOf k buffer.bufferLen)
      with ⟨pool, _ | p⟩
    · rw [hr] at hok hgets
      obtain ⟨hon, hne⟩ := hgets.resolve_left fun hsome => hsome rfl
      exact ((hok.2 hon).2 hne).2.2.2
    · rw [hr] at hok
      exact hok.2.2

/-- A defined call for pages that hold their chunks met the condition of the runs. -/
theorem Sound.callOk_of_step {c : Call} {s s' : Session} (h : Sound hash s.dataCache)
    (hok : s.dataCache.PagesOk c) (hs : s.step hash c = some s') : s.dataCache.CallOk hash c := by
  cases c with
  | getItem => trivial
  | storeItem w k buffer =>
    obtain ⟨⟨t, ok⟩, hstore, -⟩ := Option.map_eq_some_iff.mp hs
    exact callOk_of_storeOk hok (h.storeOk_of_storeItem hok hstore)
  | deleteItem stack k =>
    obtain ⟨⟨t, ok⟩, hdelete, -⟩ := Option.map_eq_some_iff.mp hs
    exact h.countOk_of_deleteItem hdelete
  | isItemPresent => trivial
  | moveNextBucket =>
    intro hexp
    obtain ⟨t, hmove, -⟩ := Option.map_eq_some_iff.mp hs
    unfold DataCache.moveNextBucket at hmove
    rw [if_pos hexp] at hmove
    split_ifs at hmove with hbucket
    exact hbucket.2

end chaos.common.data.cache.DataCache

/-! ## Runs -/

namespace chaos.common.data.cache.Session

open DataCache

variable {hash : Key → UInt32} {s t : Session} {w : World} {k : Key} {buffer : Buffer} {ok : Bool}

theorem Mapped.of_step {c : Call} (h : Mapped hash s) (hok : s.dataCache.PagesOk c)
    (hs : s.step hash c = some t) : Mapped hash t := by
  obtain ⟨t', ht', hmapped⟩ := h.step c (h.sound.callOk_of_step hok hs)
  rw [ht'] at hs
  cases hs
  exact hmapped

/-- What is stored is what the keys answer. -/
theorem Mapped.answer_eq (h : Mapped hash s) (stack : Answers) (k : Key) :
    s.dataCache.answer hash stack k =
      some ((s.stored k).map fun buffer => (buffer.bufferLen, buffer.bytes)) := by
  obtain ⟨t, ht⟩ := (h.answered stack k).1
  rw [answer, ht]
  rfl

/-- A call that ends does what is claimed. -/
theorem Mapped.storedCleanly {d : DataCache} (h : Mapped hash s)
    (hready : s.dataCache.PagesReady w k buffer.bufferLen)
    (hstore : s.dataCache.storeItem hash w k buffer = some (d, ok)) :
    s.dataCache.StoredCleanly hash w k buffer d ok := by
  have hstep : s.step hash (.storeItem w k buffer) = some
      { dataCache := d, stored := if ok then update s.stored k (some buffer) else s.stored } :=
    congrArg (Option.map _) hstore
  have hmapped := h.of_step (c := .storeItem w k buffer) hready hstep
  have hanswer := hmapped.answer_eq
  refine ⟨hstore, fun hfull => ?_, fun hfree => ?_⟩
  · have hok := (storeItem_false_iff hstore).mpr hfull
    subst hok
    exact ⟨rfl, fun stack k' => (hanswer stack k').trans (h.answer_eq stack k').symm⟩
  · have hok : ok = true := Bool.eq_true_of_not_eq_false (mt (storeItem_false_iff hstore).mp hfree)
    subst hok
    refine ⟨rfl, fun stack => (hanswer stack k).trans ?_⟩
    dsimp only
    rw [if_pos rfl, update_self]
    rfl

variable {settings : CacheSettings} {zeroed table : Bool} {area : Answers}
  {pages : Nat → Answers} {d : DataCache} {calls : List Call}

/-- In every state that calls lead to whose pages hold their chunks, a store does what is claimed
just when it meets the condition. -/
theorem stores_cleanly_iff (hash : Key → UInt32) (hpages : InitGiven settings.initCall area pages)
    (hinit : DataCache.init settings zeroed table area pages = some d)
    (hok : RunOk (Session.step hash) (fun s c => s.dataCache.PagesOk c) (start d) calls)
    (hrun : run (Session.step hash) (start d) calls = some s) (w : World) (k : Key)
    (buffer : Buffer) (hready : s.dataCache.PagesReady w k buffer.bufferLen) :
    s.dataCache.StoresCleanly hash w k buffer ↔
      s.dataCache.StoreOk hash w k buffer.bufferLen := by
  have hstart : Mapped hash (start d) := ⟨Sound.init hpages hinit, Shows.init hinit⟩
  have hmapped : Mapped hash s :=
    run_keeps_of_ok (Mapped hash) (fun s c t hs hc ht => hs.of_step hc ht) hstart hok hrun
  constructor
  · rintro ⟨t, ok, hclean⟩
    exact hmapped.sound.storeOk_of_storeItem hready hclean.ends
  · intro hstoreOk
    obtain ⟨halloc, hcount⟩ := callOk_of_storeOk hready hstoreOk
    obtain ⟨t, ok, hstore, -, -⟩ := hmapped.sound.storeItem halloc hcount
    exact ⟨t, ok, hmapped.storedCleanly hready hstore⟩

/-- As `fiveClasses`, with one page of memory, and items may be evicted. -/
def onePage : CacheSettings := { fiveClasses with evict_to_free := 1, maxbytes := 1024 }

/-- A value on the only page. -/
def onlyPage : List Call := [.storeItem enoughWorld (keyOf 1) (bufferOf 7 600)]

/-- With no room left a value of the same class is refused while nothing may be evicted. -/
theorem full_cache_refuses :
    ∃ d s, DataCache.init { onePage with evict_to_free := 0 } true true enoughMemory
        (fun _ => enoughMemory) = some d ∧
      run (Session.step fun _ => 7) (start d) onlyPage = some s ∧
      s.dataCache.OutOfMemory enoughWorld (keyOf 2) (bufferOf 8 600).bufferLen ∧
      s.dataCache.StoresCleanly (fun _ => 7) enoughWorld (keyOf 2) (bufferOf 8 600) := by
  have hsome : (DataCache.init { onePage with evict_to_free := 0 } true true enoughMemory
      fun _ => enoughMemory).isSome := by decide +kernel
  have hruns : ∀ d ∈ DataCache.init { onePage with evict_to_free := 0 } true true enoughMemory
      fun _ => enoughMemory,
      RunOk (Session.step fun _ => 7) (fun s c => s.dataCache.PagesOk c) (start d) onlyPage ∧
      (run (Session.step fun _ => 7) (start d) onlyPage).isSome ∧
      ∀ s ∈ run (Session.step fun _ => 7) (start d) onlyPage,
        s.dataCache.OutOfMemory enoughWorld (keyOf 2) (bufferOf 8 600).bufferLen ∧
        s.dataCache.PagesReady enoughWorld (keyOf 2) (bufferOf 8 600).bufferLen ∧
        s.dataCache.StoreOk (fun _ => 7) enoughWorld (keyOf 2) (bufferOf 8 600).bufferLen := by
    decide +kernel
  obtain ⟨d, hd⟩ := Option.isSome_iff_exists.mp hsome
  obtain ⟨hok, hends, hfull⟩ := hruns d hd
  obtain ⟨s, hs⟩ := Option.isSome_iff_exists.mp hends
  obtain ⟨hmemory, hready, hstoreOk⟩ := hfull s hs
  exact ⟨d, s, hd, hs, hmemory, (stores_cleanly_iff (fun _ => 7) (by decide +kernel) hd hok hs
    enoughWorld (keyOf 2) (bufferOf 8 600) hready).mpr hstoreOk⟩

/-- Where items may be evicted the same call goes through a NULL item. -/
theorem full_cache_goes_through_null :
    InitGiven onePage.initCall enoughMemory (fun _ => enoughMemory) ∧
      ∃ d s, DataCache.init onePage true true enoughMemory (fun _ => enoughMemory) = some d ∧
        run (Session.step fun _ => 7) (start d) onlyPage = some s ∧
        s.dataCache.OutOfMemory enoughWorld (keyOf 2) (bufferOf 8 600).bufferLen ∧
        s.dataCache.storeItem (fun _ => 7) enoughWorld (keyOf 2) (bufferOf 8 600) = none ∧
        ¬ s.dataCache.StoresCleanly (fun _ => 7) enoughWorld (keyOf 2) (bufferOf 8 600) := by
  have hsome : (DataCache.init onePage true true enoughMemory fun _ => enoughMemory).isSome := by
    decide +kernel
  have hruns : ∀ d ∈ DataCache.init onePage true true enoughMemory fun _ => enoughMemory,
      (run (Session.step fun _ => 7) (start d) onlyPage).isSome ∧
      ∀ s ∈ run (Session.step fun _ => 7) (start d) onlyPage,
        s.dataCache.OutOfMemory enoughWorld (keyOf 2) (bufferOf 8 600).bufferLen ∧
        (s.dataCache.storeItem (fun _ => 7) enoughWorld (keyOf 2) (bufferOf 8 600)).isNone := by
    decide +kernel
  obtain ⟨d, hd⟩ := Option.isSome_iff_exists.mp hsome
  obtain ⟨hends, hfull⟩ := hruns d hd
  obtain ⟨s, hs⟩ := Option.isSome_iff_exists.mp hends
  obtain ⟨hmemory, hnone⟩ := hfull s hs
  have hstore := Option.isNone_iff_eq_none.mp hnone
  refine ⟨by decide +kernel, d, s, hd, hs, hmemory, hstore, ?_⟩
  rintro ⟨t, ok, hclean⟩
  rw [hclean.ends] at hstore
  cases hstore

end chaos.common.data.cache.Session
