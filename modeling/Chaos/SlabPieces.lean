-- The laws of the slab allocator for a client that does not know where the pages are from. Without
-- the one area each page is a piece of its own from malloc, which is apart from all the others. In
-- both cases the chunks that are handed out have pointers of their own.
import Chaos.SlabChunks

open Function runs regions

namespace chaos.memory

variable {m m' : ManagedMemory} {id size ptr : Nat} {live : List Region} {a : Answers}

/-! ## Pieces -/

/-- The same chunks in an area from 0 to `limit` that is used up. -/
def ManagedMemory.sealed (m : ManagedMemory) (limit : Nat) : ManagedMemory :=
  { m with mem_base := some 0, mem_avail := 0, memoryLimit := limit }

/-- There is no area, and the chunks, in use and not, are apart. -/
structure Pieces (live : List Region) (m : ManagedMemory) : Prop where
  base_none : m.mem_base = none
  sealed : ∃ limit, Good 0 live (m.sealed limit)

theorem popChunk_sealed (m : ManagedMemory) (limit id : Nat) :
    (m.sealed limit).popChunk id = ((m.popChunk id).1.sealed limit, (m.popChunk id).2) := by
  unfold ManagedMemory.popChunk
  dsimp only [ManagedMemory.sealed]
  split <;> rfl

/-- A page that is apart from all the chunks. -/
theorem Pieces.addPage (ptr : Nat) (h : Pieces live m) (hid : id ≤ POWER_LARGEST)
    (hnone : (m.slabclass id).end_page_ptr = none) (hholds : PageHolds (m.slabclass id))
    (hapart : ∀ r ∈ live ++ m.chunks, Region.Apart ⟨ptr, (m.slabclass id).len⟩ r) :
    Pieces live (m.setClass id ((m.slabclass id).addPage ptr)) := by
  obtain ⟨limit, hgood⟩ := h.sealed
  have hchunks := addPage_perm ptr hid hnone live
  have hnew : ∀ r ∈ carve ptr (m.slabclass id).size.toNat (m.slabclass id).perslab.toNat,
      r.Within ptr (ptr + (m.slabclass id).len) := by
    intro r hr
    rw [hholds.len_eq]
    exact within_of_mem_carve hr
  refine ⟨h.base_none, limit + (ptr + (m.slabclass id).len), rfl, hgood.largest, Nat.zero_le _,
    nofun, fun j => ?_, ?_, ?_⟩
  · by_cases hj : j = id
    · subst hj
      show ((m.setClass j _).slabclass j).end_page_ptr ≠ none →
        0 < ((m.setClass j _).slabclass j).end_page_free.toNat
      rw [ManagedMemory.setClass_self]
      exact fun _ => hholds.chunk
    · show ((m.setClass id _).slabclass j).end_page_ptr ≠ none →
        0 < ((m.setClass id _).slabclass j).end_page_free.toNat
      rw [ManagedMemory.setClass_of_ne hj]
      exact hgood.tail j
  · refine pairwise_of_perm (List.pairwise_append.mpr ⟨pairwise_carve _ _ _, hgood.apart, ?_⟩)
      hchunks.symm
    intro r hr r' hr'
    exact (hapart r' hr').part (hnew r hr)
  · intro r hr
    rcases List.mem_append.mp (hchunks.mem_iff.mp hr) with hr | hr
    · refine (hnew r hr).mono (Nat.zero_le _) ?_
      simp only [ManagedMemory.used, ManagedMemory.sealed]
      omega
    · refine (hgood.within r hr).mono (Nat.le_refl _) ?_
      simp only [ManagedMemory.used, ManagedMemory.sealed]
      omega

/-- What `malloc` gives for a page holds its chunks and is apart from what is there. -/
def PieceOk (live : List Region) (m : ManagedMemory) (a : Answers) (id : Nat) : Prop :=
  ∀ ptr ∈ a.malloc, PageHolds (m.slabclass id) ∧
    ∀ r ∈ live ++ m.chunks, Region.Apart ⟨ptr, (m.slabclass id).len⟩ r

instance (live : List Region) (m : ManagedMemory) (a : Answers) (id : Nat) :
    Decidable (PieceOk live m a id) :=
  inferInstanceAs (Decidable (∀ ptr ∈ a.malloc, _))

theorem Pieces.malloced (h : Pieces live m) (n : Nat) :
    Pieces live { m with mem_malloced := n } := by
  obtain ⟨limit, hgood⟩ := h.sealed
  exact ⟨h.base_none, limit, hgood.malloced n⟩

theorem Pieces.newslab (h : Pieces live m) (hid : id ≤ POWER_LARGEST)
    (hnone : (m.slabclass id).end_page_ptr = none) (hok : PieceOk live m a id) :
    Pieces live (m.do_slabs_newslab a id).1 := by
  obtain heq | ⟨n, p, hp, heq⟩ := newslab_cases m a id
  · rw [heq]
    exact h
  · have hlonger : Pieces live (m.setClass id p) ∧ (m.setClass id p).chunks.Perm m.chunks := by
      obtain ⟨limit, hgood⟩ := h.sealed
      subst hp
      refine ⟨⟨h.base_none, limit, hgood.setClass hid (hgood.tail id) (List.Perm.refl _)⟩, ?_⟩
      show ([] ++ (m.setClass id _).chunks).Perm ([] ++ m.chunks)
      exact exchange_perm nodup_classIds (mem_classIds hid) (List.Perm.refl _)
    obtain heq | ⟨m', ptr, malloced, hr, heq⟩ := heq
    · rw [heq]
      exact hlonger.1
    · have hmalloc : m' = m.setClass id p ∧ a.malloc = some ptr := by
        unfold ManagedMemory.memory_allocate at hr
        rw [show (m.setClass id p).mem_base = none from h.base_none] at hr
        obtain ⟨hm, hptr⟩ := Prod.mk.inj hr
        exact ⟨hm.symm, hptr⟩
      obtain ⟨rfl, hptr⟩ := hmalloc
      obtain ⟨hholds, hapart⟩ := hok ptr hptr
      have hclass : (m.setClass id p).slabclass id = p := ManagedMemory.setClass_self ..
      have hlen : p.len = (m.slabclass id).len := by
        rw [hp]
        rfl
      have hpage := hlonger.1.addPage ptr hid (by rw [hclass, hp]; exact hnone)
        (by rw [hclass, hp]; exact ⟨hholds.chunk, hholds.length, hholds.list⟩)
        (by
          intro r hr
          rw [hclass, hlen]
          exact hapart r ((hlonger.2.append_left live).mem_iff.mp hr))
      rw [hclass] at hpage
      rw [heq]
      exact hpage.malloced _

/-! ## With and without an area -/

/-- The chunks, in use and not, are apart. -/
inductive Kept (live : List Region) (m : ManagedMemory) : Prop
  | area (base : Nat) (h : Good base live m)
  | pieces (h : Pieces live m)

theorem Kept.largest (h : Kept live m) : m.power_largest ≤ POWER_LARGEST := by
  rcases h with ⟨base, h⟩ | h
  · exact h.largest
  · exact h.sealed.elim fun _ h => h.largest

theorem Kept.apart (h : Kept live m) : (live ++ m.chunks).Pairwise Region.Apart := by
  rcases h with ⟨base, h⟩ | h
  · exact h.apart
  · exact h.sealed.elim fun _ h => h.apart

theorem Kept.perm {live' : List Region} (h : Kept live m) (hperm : live'.Perm live) :
    Kept live' m := by
  rcases h with ⟨base, h⟩ | h
  · exact .area base (h.perm hperm)
  · exact .pieces ⟨h.base_none, h.sealed.imp fun _ h => h.perm hperm⟩

/-- The state after a call that gives the pointer, or no chunk. -/
structure Given (live : List Region) (m : ManagedMemory) (id : Nat)
    (r : ManagedMemory × Option Nat) : Prop where
  same : SameSizes m r.1
  none : r.2 = none → Kept live r.1
  some : ∀ ptr, r.2 = some ptr →
    Kept (⟨ptr, (m.slabclass id).size.toNat⟩ :: live) r.1 ∧ id ≤ m.power_largest

theorem popChunk_sameSizes (m : ManagedMemory) (id : Nat) : SameSizes m (m.popChunk id).1 := by
  unfold ManagedMemory.popChunk
  dsimp only
  split
  · exact SameSizes.setClass rfl
  · exact SameSizes.refl m
  · exact SameSizes.setClass rfl

theorem popChunk_base (m : ManagedMemory) (id : Nat) :
    (m.popChunk id).1.mem_base = m.mem_base := by
  unfold ManagedMemory.popChunk
  dsimp only
  split <;> rfl

theorem Pieces.popChunk (h : Pieces live m) (hid : id ≤ m.power_largest) :
    Given live m id (m.popChunk id) := by
  obtain ⟨limit, hgood⟩ := h.sealed
  have hpop := hgood.popChunk hid
  rw [popChunk_sealed] at hpop
  have hbase := (popChunk_base m id).trans h.base_none
  refine ⟨popChunk_sameSizes m id, fun hnone => ?_, fun ptr hptr => ⟨?_, hid⟩⟩
  · exact .pieces ⟨hbase, limit, hpop.none hnone⟩
  · exact .pieces ⟨hbase, limit, (hpop.some ptr hptr).1⟩

/-- The condition on a page: it holds its chunks, and a piece of its own is apart from what is
there. -/
structure PageGiven (live : List Region) (m : ManagedMemory) (a : Answers) (id : Nat) : Prop where
  area : m.mem_base ≠ none → PageOk m id
  piece : m.mem_base = none → PieceOk live m a id

instance (live : List Region) (m : ManagedMemory) (a : Answers) (id : Nat) :
    Decidable (PageGiven live m a id) :=
  decidable_of_iff ((m.mem_base ≠ none → PageOk m id) ∧ (m.mem_base = none → PieceOk live m a id))
    ⟨fun h => ⟨h.1, h.2⟩, fun h => ⟨h.1, h.2⟩⟩

theorem Kept.newslab (h : Kept live m) (hid : id ≤ POWER_LARGEST)
    (hnone : (m.slabclass id).end_page_ptr = none) (hok : PageGiven live m a id) :
    Kept live (m.do_slabs_newslab a id).1 := by
  rcases h with ⟨base, h⟩ | h
  · exact .area base (h.newslab hid hnone (hok.area (by rw [h.base_eq]; exact nofun)))
  · exact .pieces (h.newslab hid hnone (hok.piece h.base_none))

/-- Where a class has no chunk left, the page that it asks for is as it must be. -/
def AllocateOk (live : List Region) (m : ManagedMemory) (a : Answers) (id : Nat) : Prop :=
  id ≤ m.power_largest → (m.slabclass id).end_page_ptr = none → (m.slabclass id).slots = [] →
    PageGiven live m a id

instance (live : List Region) (m : ManagedMemory) (a : Answers) (id : Nat) :
    Decidable (AllocateOk live m a id) :=
  inferInstanceAs (Decidable (_ → _))

theorem Pieces.alloc (h : Pieces live m) (hok : AllocateOk live m a id) :
    Given live m id (m.do_slabs_alloc a id) := by
  unfold ManagedMemory.do_slabs_alloc
  split
  · exact ⟨SameSizes.refl m, fun _ => .pieces h, nofun⟩
  · rename_i hlarge
    have hid : id ≤ m.power_largest := by omega
    split
    · exact h.popChunk hid
    · rename_i hempty
      simp only [ne_eq, not_or, not_not] at hempty
      have hmax := Nat.le_trans hid (Kept.pieces h).largest
      have hpieces := h.newslab hmax hempty.1
        ((hok hid hempty.1 hempty.2).piece h.base_none)
      have hsame : SameSizes m (m.do_slabs_newslab a id).1 := newslab_sameSizes a id
      rcases hr : m.do_slabs_newslab a id with ⟨m', _ | _⟩ <;> rw [hr] at hpieces hsame
      · exact ⟨hsame, fun _ => .pieces hpieces, nofun⟩
      · have hpop := hpieces.popChunk (Nat.le_trans hid (Nat.le_of_eq hsame.largest.symm))
        refine ⟨hsame.trans hpop.same, hpop.none, fun ptr hptr => ⟨?_, hid⟩⟩
        rw [← hsame.size]
        exact (hpop.some ptr hptr).1

theorem Kept.alloc (h : Kept live m) (hok : AllocateOk live m a id) :
    Given live m id (m.do_slabs_alloc a id) := by
  rcases h with ⟨base, h⟩ | h
  · have hhanded := h.alloc (a := a) fun hid hend hslots =>
      (hok hid hend hslots).area (by rw [h.base_eq]; exact nofun)
    refine ⟨hhanded.same, fun hnone => .area base (hhanded.none hnone), fun ptr hptr => ?_⟩
    exact ⟨.area base (hhanded.some ptr hptr).1, (hhanded.some ptr hptr).2⟩
  · exact h.alloc hok

/-- A chunk that comes back goes on the stack of its class, or it is lost. -/
theorem do_slabs_free_cases (m : ManagedMemory) (a : Answers) (ptr id : Nat) :
    m.do_slabs_free a ptr id = m ∨ ∃ n, m.do_slabs_free a ptr id = m.setClass id
      { m.slabclass id with slots := ptr :: (m.slabclass id).slots, sl_total := n } := by
  unfold ManagedMemory.do_slabs_free
  dsimp only
  generalize (if (m.slabclass id).sl_total ≠ 0 then (m.slabclass id).sl_total * 2 else 16) =
    new_size
  split
  · exact .inl rfl
  · split
    · split
      · exact .inr ⟨_, rfl⟩
      · exact .inl rfl
    · exact .inr ⟨_, rfl⟩

theorem do_slabs_free_sameSizes (m : ManagedMemory) (a : Answers) (ptr id : Nat) :
    SameSizes m (m.do_slabs_free a ptr id) := by
  rcases do_slabs_free_cases m a ptr id with heq | ⟨n, heq⟩ <;> rw [heq]
  · exact SameSizes.refl m
  · exact SameSizes.setClass rfl

theorem Kept.free (hid : id ≤ m.power_largest)
    (h : Kept (⟨ptr, (m.slabclass id).size.toNat⟩ :: live) m) :
    Kept live (m.do_slabs_free a ptr id) := by
  rcases h with ⟨base, h⟩ | h
  · exact .area base (Good.free hid h).1
  · obtain ⟨limit, hgood⟩ := h.sealed
    rcases do_slabs_free_cases m a ptr id with heq | ⟨n, heq⟩ <;> rw [heq]
    · exact .pieces ⟨h.base_none, limit, hgood.sublist (List.sublist_cons_self _ _)⟩
    · refine .pieces ⟨h.base_none, limit, ?_⟩
      exact hgood.setClass (Nat.le_trans hid hgood.largest) (hgood.tail id) List.perm_middle

/-! ## Initialization -/

/-- Each page that `init` takes is as it must be. -/
def InitGiven (call : InitCall) (area : Answers) (pages : Nat → Answers) : Prop :=
  ∀ t ∈ call.table, RunOk ManagedMemory.preallocateStep (fun m e => PageGiven [] m e.2 e.1)
    (t.withArea call.memoryLimit area) ((call.preallocated t).map fun id => (id, pages id))

instance (call : InitCall) (area : Answers) (pages : Nat → Answers) :
    Decidable (InitGiven call area pages) :=
  inferInstanceAs (Decidable (∀ t ∈ call.table, _))

theorem Fresh.kept {t : SlabTable} (h : Fresh t) (memoryLimit : UInt64) (area : Answers) :
    Kept [] (t.withArea memoryLimit area) := by
  cases hmalloc : area.malloc with
  | some base => exact .area base (h.good hmalloc)
  | none =>
    have hempty : ((t.withArea memoryLimit area).sealed 0).chunks = [] := h.chunks_eq_nil rfl
    refine .pieces ⟨hmalloc, 0, rfl, h.largest, Nat.le_refl _, nofun,
      fun id hne => absurd (h.tail_eq_none id) hne, ?_, ?_⟩
    · rw [hempty]
      exact List.Pairwise.nil
    · rw [hempty]
      nofun

theorem Kept.preallocate {ids : List Nat} {pages : Nat → Answers} (h : Kept [] m)
    (hnodup : ids.Nodup) (hids : ∀ id ∈ ids, id ≤ POWER_LARGEST)
    (hnone : ∀ id ∈ ids, (m.slabclass id).end_page_ptr = none)
    (hok : RunOk ManagedMemory.preallocateStep (fun m e => PageGiven [] m e.2 e.1) m
      (ids.map fun id => (id, pages id)))
    (hrun : run ManagedMemory.preallocateStep m (ids.map fun id => (id, pages id)) = some m') :
    Kept [] m' := by
  induction ids generalizing m with
  | nil =>
    cases hrun
    exact h
  | cons id ids ih =>
    obtain ⟨hid, hrest⟩ := List.nodup_cons.mp hnodup
    have hkept := h.newslab (hids id List.mem_cons_self) (hnone id List.mem_cons_self) hok.1
    refine ih hkept hrest (fun j hj => hids j (List.mem_cons_of_mem _ hj)) ?_ (hok.2 _ rfl) hrun
    intro j hj
    rw [newslab_of_ne (pages id) (ne_of_mem_of_not_mem hj hid)]
    exact hnone j (List.mem_cons_of_mem _ hj)

theorem Kept.init {call : InitCall} {area : Answers} {pages : Nat → Answers}
    (hok : InitGiven call area pages) (hinit : ManagedMemory.init call area pages = some m) :
    Kept [] m := by
  obtain ⟨t, ht, hrun⟩ := Option.bind_eq_some_iff.mp hinit
  have hfresh := Fresh.table ht
  obtain ⟨hnodup, hids⟩ := preallocated_spec call hfresh
  exact (hfresh.kept call.memoryLimit area).preallocate hnodup hids
    (fun id _ => hfresh.tail_eq_none id) (hok t ht) hrun

/-! ## The chunks that are handed out -/

/-- The chunks that are handed out are apart, and each has the size that was asked for. -/
structure Holds (s : State) : Prop where
  kept : Kept (s.live.map s.pool.region) s.pool
  fits : ∀ c ∈ s.live, c.size ≤ (s.pool.region c).size ∧
    s.pool.getSlabIdBySize c.size ≤ s.pool.power_largest

variable {s : State}

theorem size_pos_of_getSlabIdBySize (h : m.getSlabIdBySize size ≤ POWER_LARGEST) : 0 < size := by
  rcases Nat.eq_zero_or_pos size with rfl | hpos
  · rw [ManagedMemory.getSlabIdBySize, if_pos rfl] at h
    exact absurd h (by decide)
  · exact hpos

/-- Two chunks that are handed out have two pointers. -/
theorem Holds.nodup (h : Holds s) : (s.live.map Chunk.ptr).Nodup := by
  have hapart := List.pairwise_map.mp (List.pairwise_append.mp h.kept.apart).1
  refine List.pairwise_map.mpr (hapart.imp_of_mem ?_)
  intro c d hc hd hcd heq
  have hsize : ∀ e ∈ s.live, 0 < (s.pool.region e).size := fun e he =>
    Nat.lt_of_lt_of_le (size_pos_of_getSlabIdBySize
      (Nat.le_trans (h.fits e he).2 h.kept.largest)) (h.fits e he).1
  have hcpos := hsize c hc
  have hdpos := hsize d hd
  have hstart : (s.pool.region c).start = (s.pool.region d).start := heq
  unfold Region.Apart at hcd
  omega

theorem Holds.init {pool : ManagedMemory} (h : Kept [] pool) : Holds ⟨pool, []⟩ := ⟨h, nofun⟩

/-- The sizes stay as they are, so that the chunks fit as before. -/
theorem Holds.of_sameSizes {pool : ManagedMemory} {live : List Chunk} (h : Holds s)
    (hsame : SameSizes s.pool pool) (hkept : Kept (live.map s.pool.region) pool)
    (hlive : ∀ c ∈ live, c ∈ s.live) : Holds ⟨pool, live⟩ := by
  refine ⟨?_, fun c hc => ?_⟩
  · rw [hsame.map_region]
    exact hkept
  · rw [hsame.region, hsame.getSlabIdBySize, hsame.largest]
    exact h.fits c (hlive c hc)

theorem Holds.refused {pool : ManagedMemory} (h : Holds s)
    (hok : AllocateOk (s.live.map s.pool.region) s.pool a id)
    (hr : s.pool.do_slabs_alloc a id = (pool, none)) : Holds { s with pool := pool } := by
  have hgiven := h.kept.alloc hok
  rw [hr] at hgiven
  exact h.of_sameSizes hgiven.same (hgiven.none rfl) fun c hc => hc

theorem Holds.allocate {pool : ManagedMemory} (h : Holds s)
    (hok : AllocateOk (s.live.map s.pool.region) s.pool a (s.pool.getSlabIdBySize size))
    (hr : s.pool.do_slabs_alloc a (s.pool.getSlabIdBySize size) = (pool, some ptr)) :
    Holds ⟨pool, ⟨ptr, size⟩ :: s.live⟩ := by
  have hgiven := h.kept.alloc hok
  rw [hr] at hgiven
  obtain ⟨hkept, hid⟩ := hgiven.some ptr rfl
  refine ⟨?_, fun c hc => ?_⟩
  · rw [hgiven.same.map_region]
    exact hkept
  · rw [hgiven.same.region, hgiven.same.getSlabIdBySize, hgiven.same.largest]
    rcases List.mem_cons.mp hc with rfl | hc
    · refine ⟨le_size_of_getSlabIdBySize ?_, hid⟩
      -- an id up to the largest class is not the -1 of a size that is too large
      have hlargest : s.pool.power_largest ≤ 200 := h.kept.largest
      show s.pool.getSlabIdBySize size ≠ 2 ^ 32 - 1
      omega
    · exact h.fits c hc

theorem Holds.deallocate {c : Chunk} (h : Holds s) (hc : c ∈ s.live) :
    Holds ⟨s.pool.do_slabs_free a c.ptr (s.pool.getSlabIdBySize c.size), s.live.erase c⟩ := by
  have hperm : (s.pool.region c :: (s.live.erase c).map s.pool.region).Perm
      (s.live.map s.pool.region) :=
    ((List.perm_cons_erase hc).symm).map s.pool.region
  refine h.of_sameSizes (do_slabs_free_sameSizes ..) ?_ fun d hd => List.mem_of_mem_erase hd
  exact (h.kept.perm hperm).free (h.fits c hc).2

end chaos.memory
