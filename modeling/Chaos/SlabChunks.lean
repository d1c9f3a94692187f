-- The laws of the slab allocator. As long as every page holds its chunks, the chunks that are
-- handed out do not meet each other and do not leave the area. A page of no chunk, or one whose
-- length does not fit an int, breaks this.
import Chaos.ManagedMemory
import Chaos.Regions

open Function runs regions

namespace chaos.memory

/-! ## The regions of the chunks -/

/-- The chunks that a class can hand out: the ones on its stack and the rest of its last page. -/
def SlabClass.chunks (p : SlabClass) : List Region :=
  p.slots.map (fun ptr => ⟨ptr, p.size.toNat⟩) ++
    p.end_page_ptr.elim [] fun ptr => carve ptr p.size.toNat p.end_page_free.toNat

def classIds : List Nat := List.range (POWER_LARGEST + 1)

/-- The chunks that are in no use. -/
def ManagedMemory.chunks (m : ManagedMemory) : List Region :=
  classIds.flatMap fun id => (m.slabclass id).chunks

/-- The region of a chunk: all the bytes that its class gives it. -/
def ManagedMemory.region (m : ManagedMemory) (chunk : Chunk) : Region :=
  ⟨chunk.ptr, (m.slabclass (m.getSlabIdBySize chunk.size)).size.toNat⟩

theorem mem_classIds {id : Nat} (h : id ≤ POWER_LARGEST) : id ∈ classIds :=
  List.mem_range.mpr (Nat.lt_succ_of_le h)

theorem nodup_classIds : classIds.Nodup := List.nodup_range

/-! ## The search for a class -/

variable {m m' : ManagedMemory} {id size : Nat}

theorem le_size_of_searchSlab {left res : Nat} (h : m.searchSlab size left res ≠ 2 ^ 32 - 1) :
    size ≤ (m.slabclass (m.searchSlab size left res)).size.toNat := by
  induction left generalizing res with
  | zero =>
    unfold ManagedMemory.searchSlab at h ⊢
    split at h
    · exact absurd rfl h
    · rename_i hle
      rw [if_neg hle]
      omega
  | succ left ih =>
    unfold ManagedMemory.searchSlab at h ⊢
    split at h
    · rename_i hlt
      rw [if_pos hlt]
      exact ih h
    · rename_i hle
      rw [if_neg hle]
      omega

/-- The chunks of the class that is found have the size. -/
theorem le_size_of_getSlabIdBySize (h : m.getSlabIdBySize size ≠ 2 ^ 32 - 1) :
    size ≤ (m.slabclass (m.getSlabIdBySize size)).size.toNat := by
  unfold ManagedMemory.getSlabIdBySize at h ⊢
  split at h
  · exact absurd rfl h
  · rename_i hne
    rw [if_neg hne]
    exact le_size_of_searchSlab h

/-- The sizes of the chunks and of the area are the same. -/
structure SameSizes (m m' : ManagedMemory) : Prop where
  largest : m'.power_largest = m.power_largest
  limit : m'.memoryLimit = m.memoryLimit
  size : ∀ id, (m'.slabclass id).size = (m.slabclass id).size

theorem SameSizes.refl (m : ManagedMemory) : SameSizes m m := ⟨rfl, rfl, fun _ => rfl⟩

theorem SameSizes.trans {m'' : ManagedMemory} (h : SameSizes m m') (h' : SameSizes m' m'') :
    SameSizes m m'' :=
  ⟨h'.largest.trans h.largest, h'.limit.trans h.limit, fun id => (h'.size id).trans (h.size id)⟩

theorem SameSizes.setClass {p : SlabClass} (h : p.size = (m.slabclass id).size) :
    SameSizes m (m.setClass id p) := by
  refine ⟨rfl, rfl, fun j => ?_⟩
  by_cases hj : j = id
  · subst hj
    rw [ManagedMemory.setClass_self, h]
  · rw [ManagedMemory.setClass_of_ne hj]

theorem SameSizes.searchSlab (h : SameSizes m m') (left res : Nat) :
    m'.searchSlab size left res = m.searchSlab size left res := by
  induction left generalizing res with
  | zero => simp only [ManagedMemory.searchSlab, h.size]
  | succ left ih => simp only [ManagedMemory.searchSlab, h.size, ih]

theorem SameSizes.getSlabIdBySize (h : SameSizes m m') (size : Nat) :
    m'.getSlabIdBySize size = m.getSlabIdBySize size := by
  unfold ManagedMemory.getSlabIdBySize
  rw [h.largest, h.searchSlab]

theorem SameSizes.region (h : SameSizes m m') (chunk : Chunk) :
    m'.region chunk = m.region chunk := by
  unfold ManagedMemory.region
  rw [h.getSlabIdBySize, h.size]

theorem SameSizes.map_region (h : SameSizes m m') (live : List Chunk) :
    live.map m'.region = live.map m.region :=
  List.map_congr_left fun c _ => h.region c

/-! ## The invariant -/

/-- The end of the part of the area that is used up. -/
def ManagedMemory.used (m : ManagedMemory) (base : Nat) : Nat :=
  base + (m.memoryLimit - m.mem_avail)

/-- The chunks, in use and not, are apart, and lie in the part of the area that is used up.
`live` are the regions that are in use. -/
structure Good (base : Nat) (live : List Region) (m : ManagedMemory) : Prop where
  base_eq : m.mem_base = some base
  largest : m.power_largest ≤ POWER_LARGEST
  avail : m.mem_avail ≤ m.memoryLimit
  current : 0 < m.mem_avail → m.mem_current = m.used base
  tail : ∀ id, (m.slabclass id).end_page_ptr ≠ none → 0 < (m.slabclass id).end_page_free.toNat
  apart : (live ++ m.chunks).Pairwise Region.Apart
  within : ∀ r ∈ live ++ m.chunks, r.Within base (m.used base)

variable {base : Nat} {live live' : List Region} {p : SlabClass}

/-- A class exchanges regions with the ones in use. -/
theorem Good.setClass (h : Good base live m) (hid : id ≤ POWER_LARGEST)
    (htail : p.end_page_ptr ≠ none → 0 < p.end_page_free.toNat)
    (hperm : (live' ++ p.chunks).Perm (live ++ (m.slabclass id).chunks)) :
    Good base live' (m.setClass id p) := by
  have hall : (live' ++ (m.setClass id p).chunks).Perm (live ++ m.chunks) :=
    exchange_perm nodup_classIds (mem_classIds hid) hperm
  refine ⟨h.base_eq, h.largest, h.avail, h.current, fun j => ?_, pairwise_of_perm h.apart hall.symm,
    fun r hr => h.within r (hall.mem_iff.mp hr)⟩
  by_cases hj : j = id
  · subst hj
    rw [ManagedMemory.setClass_self]
    exact htail
  · rw [ManagedMemory.setClass_of_ne hj]
    exact h.tail j

/-- Regions that are forgotten are no harm. -/
theorem Good.sublist (h : Good base live m) (hsub : live'.Sublist live) : Good base live' m :=
  ⟨h.base_eq, h.largest, h.avail, h.current, h.tail,
    h.apart.sublist (hsub.append_right _),
    fun r hr => h.within r ((hsub.append_right _).subset hr)⟩

theorem Good.perm (h : Good base live m) (hperm : live'.Perm live) : Good base live' m :=
  ⟨h.base_eq, h.largest, h.avail, h.current, h.tail,
    pairwise_of_perm h.apart (hperm.append_right _).symm,
    fun r hr => h.within r ((hperm.append_right _).mem_iff.mp hr)⟩

/-! ## A new page -/

/-- A page of the class holds its chunks, and its length is an `int`. The list of the pages can
still grow. -/
structure PageHolds (p : SlabClass) : Prop where
  chunk : 0 < p.perslab.toNat
  length : p.size.toNat * p.perslab.toNat < 2 ^ 31
  list : p.slabs.toNat < 2 ^ 31

instance (p : SlabClass) : Decidable (PageHolds p) :=
  decidable_of_iff (0 < p.perslab.toNat ∧ p.size.toNat * p.perslab.toNat < 2 ^ 31 ∧
    p.slabs.toNat < 2 ^ 31) ⟨fun h => ⟨h.1, h.2.1, h.2.2⟩, fun h => ⟨h.1, h.2, h.3⟩⟩

/-- If the area has room for the page that the class asks for, the page holds its chunks. -/
def PageOk (m : ManagedMemory) (id : Nat) : Prop :=
  (m.slabclass id).len ≤ m.mem_avail → PageHolds (m.slabclass id)

instance (m : ManagedMemory) (id : Nat) : Decidable (PageOk m id) :=
  inferInstanceAs (Decidable (_ → _))

theorem PageHolds.len_eq (h : PageHolds p) : p.len = p.size.toNat * p.perslab.toNat := by
  have hlt := h.length
  have hmul : (p.size * p.perslab).toNat = p.size.toNat * p.perslab.toNat := by
    rw [UInt32.toNat_mul]
    exact Nat.mod_eq_of_lt (by omega)
  rw [SlabClass.len, sizeOfInt, hmul, if_pos hlt]

/-- What the area gives lies between what was used before and what is used then. -/
theorem Good.memory_allocate {a : Answers} {ptr : Nat} (h : Good base live m)
    (hr : m.memory_allocate a size = (m', some ptr)) :
    Good base live m' ∧ size ≤ m.mem_avail ∧
      Region.Within ⟨ptr, size⟩ (m.used base) (m'.used base) := by
  unfold ManagedMemory.memory_allocate at hr
  rw [h.base_eq] at hr
  dsimp only at hr
  split at hr
  · cases hr
  · rename_i hroom
    obtain ⟨rounded, hrounded, hle⟩ : ∃ n, (if size % CHUNK_ALIGN_BYTES ≠ 0 then
        size + (CHUNK_ALIGN_BYTES - size % CHUNK_ALIGN_BYTES) else size) = n ∧ size ≤ n := by
      refine ⟨_, rfl, ?_⟩
      split <;> omega
    rw [hrounded] at hr
    cases hr
    have havail := h.avail
    have hcurrent := h.current
    have hused : m.used base ≤ ManagedMemory.used
        { m with
          mem_current := m.mem_current + rounded
          mem_avail := if rounded < m.mem_avail then m.mem_avail - rounded else 0 } base := by
      simp only [ManagedMemory.used]
      split <;> omega
    refine ⟨⟨rfl, h.largest, ?_, ?_, h.tail, h.apart,
      fun r hr => (h.within r hr).mono (Nat.le_refl _) hused⟩, by omega, ?_⟩
    · dsimp only
      split <;> omega
    · simp only [ManagedMemory.used] at hcurrent ⊢
      split <;> omega
    · simp only [Region.Within, ManagedMemory.used] at hcurrent ⊢
      split <;> omega

theorem grow_slab_list_some {a : Answers} {p' : SlabClass} (h : p.grow_slab_list a = some p') :
    ∃ n, p' = { p with list_size := n } := by
  unfold SlabClass.grow_slab_list at h
  split at h
  · simp only [Option.ite_none_right_eq_some, Option.some.injEq] at h
    exact ⟨_, h.2.symm⟩
  · exact ⟨p.list_size, (Option.some.inj h).symm⟩

/-- The chunks of a new page come to the others. -/
theorem addPage_perm (ptr : Nat) (hid : id ≤ POWER_LARGEST)
    (hnone : (m.slabclass id).end_page_ptr = none) (live : List Region) :
    (live ++ (m.setClass id ((m.slabclass id).addPage ptr)).chunks).Perm
      (carve ptr (m.slabclass id).size.toNat (m.slabclass id).perslab.toNat ++
        (live ++ m.chunks)) := by
  rw [← List.append_assoc]
  refine exchange_perm nodup_classIds (mem_classIds hid) ?_
  simp only [SlabClass.chunks, SlabClass.addPage, hnone, Option.elim, List.append_nil]
  rw [← List.append_assoc, List.append_assoc (carve _ _ _)]
  exact List.perm_append_comm

/-- A class with no rest of a page gets a page above all the chunks. -/
theorem Good.addPage {ptr old : Nat} (h : Good base live m) (hid : id ≤ POWER_LARGEST)
    (hnone : (m.slabclass id).end_page_ptr = none) (hholds : PageHolds (m.slabclass id))
    (hbase : base ≤ old) (hold : ∀ r ∈ live ++ m.chunks, r.Within base old)
    (hpage : Region.Within ⟨ptr, (m.slabclass id).len⟩ old (m.used base)) :
    Good base live (m.setClass id ((m.slabclass id).addPage ptr)) := by
  have hchunks := addPage_perm ptr hid hnone live
  have hnew : ∀ r ∈ carve ptr (m.slabclass id).size.toNat (m.slabclass id).perslab.toNat,
      r.Within old (m.used base) := by
    intro r hr
    rw [hholds.len_eq] at hpage
    exact hpage.part (within_of_mem_carve hr)
  refine ⟨h.base_eq, h.largest, h.avail, h.current, fun j => ?_, ?_, ?_⟩
  · by_cases hj : j = id
    · subst hj
      rw [ManagedMemory.setClass_self]
      exact fun _ => hholds.chunk
    · rw [ManagedMemory.setClass_of_ne hj]
      exact h.tail j
  · exact pairwise_of_perm (pairwise_append_above (pairwise_carve _ _ _) h.apart hnew hold)
      hchunks.symm
  · intro r hr
    rcases List.mem_append.mp (hchunks.mem_iff.mp hr) with hr | hr
    · exact (hnew r hr).mono hbase (Nat.le_refl _)
    · exact h.within r hr

theorem Good.malloced (h : Good base live m) (n : Nat) :
    Good base live { m with mem_malloced := n } :=
  ⟨h.base_eq, h.largest, h.avail, h.current, h.tail, h.apart, h.within⟩

theorem memory_allocate_none {a : Answers} (hr : m.memory_allocate a size = (m', none)) :
    m' = m := by
  unfold ManagedMemory.memory_allocate at hr
  split at hr
  · exact (congrArg Prod.fst hr).symm
  · split at hr
    · cases hr
      rfl
    · cases hr

theorem memory_allocate_some {a : Answers} {ptr : Nat}
    (hr : m.memory_allocate a size = (m', some ptr)) :
    m'.slabclass = m.slabclass ∧ SameSizes m m' := by
  unfold ManagedMemory.memory_allocate at hr
  split at hr
  · obtain ⟨rfl, _⟩ := Prod.mk.inj hr
    exact ⟨rfl, SameSizes.refl m⟩
  · split at hr
    · cases hr
    · cases hr
      exact ⟨rfl, rfl, rfl, fun _ => rfl⟩

/-- What a new page can do: nothing, a longer list of the pages only, or a page. -/
theorem newslab_cases (m : ManagedMemory) (a : Answers) (id : Nat) :
    m.do_slabs_newslab a id = (m, false) ∨
    ∃ n p, p = { m.slabclass id with list_size := n } ∧
      (m.do_slabs_newslab a id = (m.setClass id p, false) ∨
        ∃ m' ptr malloced,
          (m.setClass id p).memory_allocate a (m.slabclass id).len = (m', some ptr) ∧
          m.do_slabs_newslab a id =
            ({ m'.setClass id (p.addPage ptr) with mem_malloced := malloced }, true)) := by
  unfold ManagedMemory.do_slabs_newslab
  dsimp only
  split
  · exact Or.inl rfl
  · cases hgrow : (m.slabclass id).grow_slab_list a with
    | none => exact Or.inl rfl
    | some p =>
      obtain ⟨n, hp⟩ := grow_slab_list_some hgrow
      refine Or.inr ⟨n, p, hp, ?_⟩
      dsimp only
      rcases hr : (m.setClass id p).memory_allocate a (m.slabclass id).len with ⟨m', _ | ptr⟩
      · rw [memory_allocate_none hr]
        exact Or.inl rfl
      · exact Or.inr ⟨m', ptr, _, rfl, rfl⟩

/-- A page that holds its chunks keeps the invariant, also where there is no memory for it. -/
theorem Good.newslab {a : Answers} (h : Good base live m) (hid : id ≤ POWER_LARGEST)
    (hnone : (m.slabclass id).end_page_ptr = none) (hok : PageOk m id) :
    Good base live (m.do_slabs_newslab a id).1 := by
  obtain heq | ⟨n, p, hp, heq⟩ := newslab_cases m a id
  · rw [heq]
    exact h
  · have hgood : Good base live (m.setClass id p) := by
      subst hp
      exact h.setClass hid (h.tail id) (List.Perm.refl _)
    obtain heq | ⟨m', ptr, malloced, hr, heq⟩ := heq
    · rw [heq]
      exact hgood
    · obtain ⟨hgood', hroom, hwithin⟩ := hgood.memory_allocate hr
      have hclass := (memory_allocate_some hr).1
      have hp' : m'.slabclass id = p := by rw [hclass, ManagedMemory.setClass_self]
      have hlen : (m'.slabclass id).len = (m.slabclass id).len := by
        rw [hp', hp]
        rfl
      have hholds : PageHolds (m'.slabclass id) := by
        have := hok hroom
        rw [hp', hp]
        exact ⟨this.chunk, this.length, this.list⟩
      have hchunks : m'.chunks = (m.setClass id p).chunks := by
        unfold ManagedMemory.chunks
        rw [hclass]
      have hpage : Good base live (m'.setClass id ((m'.slabclass id).addPage ptr)) :=
        hgood'.addPage hid (by rw [hp', hp]; exact hnone) hholds
          (Nat.le_add_right base _) (by rw [hchunks]; exact hgood.within)
          (by rw [hlen]; exact hwithin)
      rw [hp'] at hpage
      rw [heq]
      exact hpage.malloced _

theorem newslab_sameSizes (a : Answers) (id : Nat) :
    SameSizes m (m.do_slabs_newslab a id).1 := by
  obtain heq | ⟨n, p, hp, heq⟩ := newslab_cases m a id
  · rw [heq]
    exact SameSizes.refl m
  · have hset : SameSizes m (m.setClass id p) := SameSizes.setClass (by rw [hp])
    obtain heq | ⟨m', ptr, malloced, hr, heq⟩ := heq
    · rw [heq]
      exact hset
    · have hset' : SameSizes m m' := hset.trans (memory_allocate_some hr).2
      have hpage : SameSizes m' (m'.setClass id (p.addPage ptr)) := by
        refine SameSizes.setClass ?_
        rw [hset'.size, hp]
        rfl
      rw [heq]
      have hall := hset'.trans hpage
      exact ⟨hall.largest, hall.limit, hall.size⟩

/-- A new page is of no concern for the other classes. -/
theorem newslab_of_ne (a : Answers) {j : Nat} (hj : j ≠ id) :
    (m.do_slabs_newslab a id).1.slabclass j = m.slabclass j := by
  obtain heq | ⟨n, p, -, heq⟩ := newslab_cases m a id
  · rw [heq]
  · obtain heq | ⟨m', ptr, malloced, hr, heq⟩ := heq
    · rw [heq, ManagedMemory.setClass_of_ne hj]
    · rw [heq]
      show (m'.setClass id _).slabclass j = _
      rw [ManagedMemory.setClass_of_ne hj, (memory_allocate_some hr).1,
        ManagedMemory.setClass_of_ne hj]

/-! ## Chunks -/

/-- The first chunk of the rest of a page. -/
theorem carve_free {ptr size : Nat} {free : UInt32} (h : 0 < free.toNat) :
    carve ptr size free.toNat = ⟨ptr, size⟩ :: carve (ptr + size) size (free - 1).toNat := by
  have hsub : (free - 1).toNat = free.toNat - 1 := by
    have : (1 : UInt32) ≤ free := UInt32.le_iff_toNat_le.mpr h
    rw [UInt32.toNat_sub_of_le _ _ this]
    rfl
  obtain ⟨n, hn⟩ : ∃ n, free.toNat = n + 1 := ⟨free.toNat - 1, by omega⟩
  rw [hsub, hn]
  rfl

/-- The state after a call that gives the pointer, or no chunk. -/
structure Handed (base : Nat) (live : List Region) (m : ManagedMemory) (id : Nat)
    (r : ManagedMemory × Option Nat) : Prop where
  same : SameSizes m r.1
  none : r.2 = none → Good base live r.1
  some : ∀ ptr, r.2 = some ptr →
    Good base (⟨ptr, (m.slabclass id).size.toNat⟩ :: live) r.1 ∧ id ≤ m.power_largest

/-- A chunk that is handed out comes from its class. -/
theorem Good.popChunk (h : Good base live m) (hid : id ≤ m.power_largest) :
    Handed base live m id (m.popChunk id) := by
  have hmax : id ≤ POWER_LARGEST := Nat.le_trans hid h.largest
  unfold ManagedMemory.popChunk
  dsimp only
  split
  · rename_i ptr slots _ hslots
    refine ⟨SameSizes.setClass rfl, nofun, ?_⟩
    rintro _ ⟨⟩
    refine ⟨h.setClass hmax (h.tail id) ?_, hid⟩
    rw [SlabClass.chunks, SlabClass.chunks, hslots]
    exact List.perm_middle.symm
  · exact ⟨SameSizes.refl m, fun _ => h, nofun⟩
  · rename_i ptr hslots hend
    have hfree := h.tail id (by rw [hend]; exact Option.some_ne_none ptr)
    refine ⟨SameSizes.setClass rfl, nofun, ?_⟩
    rintro _ ⟨⟩
    refine ⟨h.setClass hmax ?_ ?_, hid⟩
    · intro hne
      dsimp only at hne ⊢
      split at hne
      · rename_i hleft
        have : ((m.slabclass id).end_page_free - 1).toNat ≠ 0 := fun h0 =>
          hleft (UInt32.toNat_inj.mp h0)
        omega
      · exact absurd rfl hne
    · simp only [SlabClass.chunks, hslots, hend, List.map_nil, List.nil_append, Option.elim_some]
      rw [carve_free hfree]
      by_cases hlast : (m.slabclass id).end_page_free - 1 = 0
      · rw [if_neg (not_not.mpr hlast), hlast]
        exact List.perm_middle.symm
      · rw [if_pos hlast]
        exact List.perm_middle.symm

theorem Good.alloc {a : Answers} (h : Good base live m)
    (hok : id ≤ m.power_largest → (m.slabclass id).end_page_ptr = none →
      (m.slabclass id).slots = [] → PageOk m id) :
    Handed base live m id (m.do_slabs_alloc a id) := by
  unfold ManagedMemory.do_slabs_alloc
  split
  · exact ⟨SameSizes.refl m, fun _ => h, nofun⟩
  · rename_i hlarge
    have hid : id ≤ m.power_largest := by omega
    split
    · exact h.popChunk hid
    · rename_i hempty
      simp only [ne_eq, not_or, not_not] at hempty
      have hgood := h.newslab (a := a) (Nat.le_trans hid h.largest) hempty.1
        (hok hid hempty.1 hempty.2)
      have hsame : SameSizes m (m.do_slabs_newslab a id).1 := newslab_sameSizes a id
      rcases hr : m.do_slabs_newslab a id with ⟨m', _ | _⟩ <;> rw [hr] at hgood hsame
      · exact ⟨hsame, fun _ => hgood, nofun⟩
      · have hid' : id ≤ m'.power_largest := by
          rw [hsame.largest]
          exact hid
        have hpop := hgood.popChunk hid'
        refine ⟨hsame.trans hpop.same, hpop.none, fun ptr hptr => ?_⟩
        have := (hpop.some ptr hptr).1
        rw [hsame.size] at this
        exact ⟨this, hid⟩

/-- A chunk that comes back is in no use. Where the stack cannot grow it is lost. -/
theorem Good.free {a : Answers} {ptr : Nat} (hid : id ≤ m.power_largest)
    (h : Good base (⟨ptr, (m.slabclass id).size.toNat⟩ :: live) m) :
    Good base live (m.do_slabs_free a ptr id) ∧ SameSizes m (m.do_slabs_free a ptr id) := by
  have hmax : id ≤ POWER_LARGEST := Nat.le_trans hid h.largest
  have hpush : ∀ n : UInt32, Good base live (m.setClass id
      { m.slabclass id with slots := ptr :: (m.slabclass id).slots, sl_total := n }) := by
    intro n
    refine h.setClass hmax (h.tail id) ?_
    exact List.perm_middle
  unfold ManagedMemory.do_slabs_free
  dsimp only
  rw [if_neg (by omega)]
  generalize (if (m.slabclass id).sl_total ≠ 0 then (m.slabclass id).sl_total * 2 else 16) =
    new_size
  split
  · split
    · exact ⟨hpush _, SameSizes.setClass rfl⟩
    · exact ⟨h.sublist (List.sublist_cons_self _ _), SameSizes.refl m⟩
  · exact ⟨hpush _, SameSizes.setClass rfl⟩

/-! ## Initialization -/

/-- The classes of a table are new, and none is past the end of the array. -/
structure Fresh (t : SlabTable) : Prop where
  class_new : ∀ id, ∃ size perslab, t.slabclass id = SlabClass.new size perslab
  largest : t.power_largest ≤ POWER_LARGEST

theorem Fresh.cleared : Fresh SlabTable.cleared := ⟨fun _ => ⟨0, 0, rfl⟩, Nat.zero_le _⟩

theorem Fresh.set {t : SlabTable} (h : Fresh t) (hid : id ≤ POWER_LARGEST) (size perslab : UInt32) :
    Fresh (t.set id (SlabClass.new size perslab)) := by
  refine ⟨fun j => ?_, hid⟩
  by_cases hj : j = id
  · subst hj
    exact ⟨size, perslab, update_self ..⟩
  · obtain ⟨n, k, hnew⟩ := h.class_new j
    exact ⟨n, k, (update_of_ne hj ..).trans hnew⟩

theorem Fresh.fill {args : InitArguments} {left i i' : Nat} {size : UInt32} {t t' : SlabTable}
    (h : Fresh t) (hi : i + left ≤ POWER_LARGEST)
    (hfill : SlabTable.fill args left i size t = some (t', i')) :
    Fresh t' ∧ i' ≤ POWER_LARGEST := by
  induction left generalizing i size t with
  | zero =>
    cases hfill
    exact ⟨h, hi⟩
  | succ left ih =>
    unfold SlabTable.fill at hfill
    split at hfill
    · split at hfill
      · cases hfill
      · exact ih (h.set (by omega) _ _) (by omega) hfill
    · cases hfill
      exact ⟨h, by omega⟩

theorem Fresh.table {call : InitCall} {t : SlabTable} (h : call.table = some t) : Fresh t := by
  cases call with
  | classes args =>
    obtain ⟨⟨t', i⟩, hfill, rfl⟩ := Option.map_eq_some_iff.mp h
    obtain ⟨hfresh, hi⟩ := Fresh.cleared.fill (Nat.le_refl _) hfill
    exact hfresh.set hi _ _
  | oneClass args =>
    obtain ⟨perslab, _, rfl⟩ := Option.map_eq_some_iff.mp h
    exact Fresh.cleared.set (Nat.zero_le _) _ _

theorem Fresh.tail_eq_none {t : SlabTable} (h : Fresh t) (id : Nat) :
    (t.slabclass id).end_page_ptr = none := by
  obtain ⟨size, perslab, hnew⟩ := h.class_new id
  rw [hnew]
  rfl

theorem Fresh.chunks_eq_nil {t : SlabTable} (h : Fresh t) (hm : m.slabclass = t.slabclass) :
    m.chunks = [] := by
  refine List.flatMap_eq_nil_iff.mpr fun id _ => ?_
  obtain ⟨size, perslab, hnew⟩ := h.class_new id
  rw [hm, hnew]
  rfl

/-- Before the first page no chunk is there. -/
theorem Fresh.good {t : SlabTable} (h : Fresh t) {memoryLimit : UInt64} {a : Answers}
    (hbase : a.malloc = some base) : Good base [] (t.withArea memoryLimit a) := by
  have hempty : (t.withArea memoryLimit a).chunks = [] := h.chunks_eq_nil rfl
  refine ⟨hbase, h.largest, ?_, ?_, fun id hne => absurd (h.tail_eq_none id) hne, ?_, ?_⟩
  · simp [SlabTable.withArea, hbase]
  · simp [SlabTable.withArea, ManagedMemory.used, hbase]
  · rw [hempty]
    exact List.Pairwise.nil
  · rw [hempty]
    nofun

/-- Pages for classes that have none yet. -/
theorem Good.preallocate {ids : List Nat} {pages : Nat → Answers} (h : Good base [] m)
    (hnodup : ids.Nodup) (hids : ∀ id ∈ ids, id ≤ POWER_LARGEST)
    (hnone : ∀ id ∈ ids, (m.slabclass id).end_page_ptr = none)
    (hok : RunOk ManagedMemory.preallocateStep (fun m e => PageOk m e.1) m
      (ids.map fun id => (id, pages id)))
    (hrun : run ManagedMemory.preallocateStep m (ids.map fun id => (id, pages id)) = some m') :
    Good base [] m' := by
  induction ids generalizing m with
  | nil =>
    cases hrun
    exact h
  | cons id ids ih =>
    obtain ⟨hid, hrest⟩ := List.nodup_cons.mp hnodup
    have hgood := h.newslab (a := pages id) (hids id List.mem_cons_self)
      (hnone id List.mem_cons_self) hok.1
    refine ih hgood hrest (fun j hj => hids j (List.mem_cons_of_mem _ hj)) ?_ (hok.2 _ rfl) hrun
    intro j hj
    have hne : j ≠ id := by
      rintro rfl
      exact hid hj
    rw [newslab_of_ne (pages id) hne]
    exact hnone j (List.mem_cons_of_mem _ hj)

theorem preallocated_spec (call : InitCall) {t : SlabTable} (h : Fresh t) :
    (call.preallocated t).Nodup ∧ ∀ id ∈ call.preallocated t, id ≤ POWER_LARGEST := by
  have hlargest := h.largest
  cases call with
  | classes args =>
    dsimp only [InitCall.preallocated]
    split
    · refine ⟨List.nodup_range, fun id hid => ?_⟩
      have := List.mem_range.mp hid
      omega
    · exact ⟨List.nodup_nil, nofun⟩
  | oneClass args =>
    dsimp only [InitCall.preallocated]
    split
    · refine ⟨List.nodup_singleton _, fun id hid => ?_⟩
      rw [List.mem_singleton.mp hid]
      exact Nat.zero_le _
    · exact ⟨List.nodup_nil, nofun⟩

/-- Each page that `init` takes from the area holds its chunks. -/
def InitOk (call : InitCall) (a : Answers) (pages : Nat → Answers) : Prop :=
  ∀ t ∈ call.table, RunOk ManagedMemory.preallocateStep (fun m e => PageOk m e.1)
    (t.withArea call.memoryLimit a) ((call.preallocated t).map fun id => (id, pages id))

instance (call : InitCall) (a : Answers) (pages : Nat → Answers) :
    Decidable (InitOk call a pages) :=
  inferInstanceAs (Decidable (∀ t ∈ call.table, _))

theorem Good.init {call : InitCall} {a : Answers} {pages : Nat → Answers}
    (hbase : a.malloc = some base) (hok : InitOk call a pages)
    (hinit : ManagedMemory.init call a pages = some m) : Good base [] m := by
  obtain ⟨t, ht, hrun⟩ := Option.bind_eq_some_iff.mp hinit
  have hfresh := Fresh.table ht
  obtain ⟨hnodup, hids⟩ := preallocated_spec call hfresh
  exact (hfresh.good hbase).preallocate hnodup hids (fun id _ => hfresh.tail_eq_none id) (hok t ht)
    hrun

/-! ## Runs -/

/-- Where a class has no chunk left, the page that it asks for holds its chunks. -/
def stepOk (s : State) : Event → Prop
  | .allocate size _ =>
    s.pool.getSlabIdBySize size ≤ s.pool.power_largest →
      (s.pool.slabclass (s.pool.getSlabIdBySize size)).end_page_ptr = none →
      (s.pool.slabclass (s.pool.getSlabIdBySize size)).slots = [] →
      PageOk s.pool (s.pool.getSlabIdBySize size)
  | .deallocate _ _ => True

instance (s : State) (e : Event) : Decidable (stepOk s e) :=
  match e with
  | .allocate _ _ => inferInstanceAs (Decidable (_ → _))
  | .deallocate _ _ => isTrue trivial

/-- The chunks that are handed out are apart from each other, lie in the area, and have the size
that was asked for. -/
structure Separated (base limit : Nat) (s : State) : Prop where
  apart : s.live.Pairwise fun a b => (s.pool.region a).Apart (s.pool.region b)
  within : ∀ c ∈ s.live, (s.pool.region c).Within base (base + limit)
  fits : ∀ c ∈ s.live, c.size ≤ (s.pool.region c).size

/-- The invariant of the runs. -/
structure Held (base limit : Nat) (s : State) : Prop where
  good : Good base (s.live.map s.pool.region) s.pool
  limit_eq : s.pool.memoryLimit = limit
  fits : ∀ c ∈ s.live, c.size ≤ (s.pool.region c).size ∧
    s.pool.getSlabIdBySize c.size ≤ s.pool.power_largest

variable {limit : Nat} {s t : State}

theorem Held.separated (h : Held base limit s) : Separated base limit s := by
  obtain ⟨hlive, -, -⟩ := List.pairwise_append.mp h.good.apart
  refine ⟨List.pairwise_map.mp hlive, fun c hc => ?_, fun c hc => (h.fits c hc).1⟩
  have hwithin := h.good.within _ (List.mem_append_left _ (List.mem_map_of_mem hc))
  refine hwithin.mono (Nat.le_refl _) ?_
  rw [← h.limit_eq]
  exact Nat.add_le_add_left (Nat.sub_le _ _) base

theorem Held.allocate {a : Answers} (h : Held base limit s) (hok : stepOk s (.allocate size a))
    (ht : step s (.allocate size a) = some t) : Held base limit t := by
  have hhanded : Handed base _ _ _ (s.pool.do_slabs_alloc a (s.pool.getSlabIdBySize size)) :=
    h.good.alloc hok
  unfold step at ht
  dsimp only at ht
  rcases hr : s.pool.do_slabs_alloc a (s.pool.getSlabIdBySize size) with ⟨m, _ | ptr⟩ <;>
    rw [hr] at ht hhanded <;> cases ht
  · have hsame := hhanded.same
    refine ⟨?_, hsame.limit.trans h.limit_eq, fun c hc => ?_⟩
    · rw [hsame.map_region]
      exact hhanded.none rfl
    · rw [hsame.region, hsame.getSlabIdBySize, hsame.largest]
      exact h.fits c hc
  · have hsame := hhanded.same
    obtain ⟨hgood, hid⟩ := hhanded.some ptr rfl
    refine ⟨?_, hsame.limit.trans h.limit_eq, fun c hc => ?_⟩
    · rw [hsame.map_region]
      exact hgood
    · rw [hsame.region, hsame.getSlabIdBySize, hsame.largest]
      rcases List.mem_cons.mp hc with rfl | hc
      · -- an id up to the largest class is not the -1 of a size that is too large
        refine ⟨le_size_of_getSlabIdBySize ?_, hid⟩
        have hlargest : s.pool.power_largest ≤ 200 := h.good.largest
        show s.pool.getSlabIdBySize size ≠ 2 ^ 32 - 1
        omega
      · exact h.fits c hc

theorem Held.deallocate {chunk : Chunk} {a : Answers} (h : Held base limit s)
    (ht : step s (.deallocate chunk a) = some t) : Held base limit t := by
  unfold step at ht
  dsimp only at ht
  split at ht
  · rename_i hmem
    cases ht
    have hperm : (s.pool.region chunk :: (s.live.erase chunk).map s.pool.region).Perm
        (s.live.map s.pool.region) :=
      ((List.perm_cons_erase hmem).symm).map s.pool.region
    obtain ⟨hgood, hsame⟩ := Good.free (a := a) (h.fits chunk hmem).2 (h.good.perm hperm)
    refine ⟨?_, hsame.limit.trans h.limit_eq, fun c hc => ?_⟩
    · rw [hsame.map_region]
      exact hgood
    · rw [hsame.region, hsame.getSlabIdBySize, hsame.largest]
      exact h.fits c (List.mem_of_mem_erase hc)
  · cases ht

theorem Held.step (h : Held base limit s) (e : Event) (hok : stepOk s e)
    (ht : memory.step s e = some t) : Held base limit t := by
  cases e with
  | allocate size a => exact h.allocate hok ht
  | deallocate chunk a => exact h.deallocate ht

/-- After every run in which each page that is taken from the area holds its chunks, the chunks
that are handed out are separated. -/
theorem chunks_are_separated {call : InitCall} {a : Answers} {pages : Nat → Answers}
    {es : List Event} (hbase : a.malloc = some base) (hinit_ok : InitOk call a pages)
    (hinit : ManagedMemory.init call a pages = some m)
    (hok : RunOk step stepOk ⟨m, []⟩ es) (hs : run step ⟨m, []⟩ es = some s) :
    Separated base m.memoryLimit s := by
  have hheld : Held base m.memoryLimit ⟨m, []⟩ :=
    ⟨Good.init hbase hinit_ok hinit, rfl, nofun⟩
  exact (run_keeps_of_ok (Held base m.memoryLimit) (fun s e t hs hok ht => hs.step e hok ht)
    hheld hok hs).separated

/-- What a C library with enough memory answers. -/
def enoughMemory : Answers := { malloc := some 4096, realloc := true }

/-- Two chunks of 64 bytes for each page, and the first page at once. -/
def twoChunks : InitCall :=
  .oneClass { chunkSize := 60, memoryLimit := 256, fixedNumberOfSlabPerClass := 2, prealloc := 1 }

def twoPagesRun : List Event :=
  [.allocate 50 enoughMemory, .allocate 64 enoughMemory, .allocate 10 enoughMemory,
    .deallocate ⟨4096, 50⟩ enoughMemory, .allocate 33 enoughMemory]

/-- Chunks of two pages, of which one comes back and is handed out again. -/
theorem chunks_of_two_pages :
    ∃ m s, ManagedMemory.init twoChunks enoughMemory (fun _ => enoughMemory) = some m ∧
      run step ⟨m, []⟩ twoPagesRun = some s ∧
      s.live = [⟨4096, 33⟩, ⟨4224, 10⟩, ⟨4160, 64⟩] ∧ Separated 4096 m.memoryLimit s := by
  have hsome : (ManagedMemory.init twoChunks enoughMemory fun _ => enoughMemory).isSome := by
    decide +kernel
  have hrun : ∀ m ∈ ManagedMemory.init twoChunks enoughMemory fun _ => enoughMemory,
      RunOk step stepOk ⟨m, []⟩ twoPagesRun ∧ (run step ⟨m, []⟩ twoPagesRun).isSome ∧
      ∀ s ∈ run step ⟨m, []⟩ twoPagesRun, s.live = [⟨4096, 33⟩, ⟨4224, 10⟩, ⟨4160, 64⟩] := by
    decide +kernel
  obtain ⟨m, hm⟩ := Option.isSome_iff_exists.mp hsome
  obtain ⟨hok, hs, hlive⟩ := hrun m hm
  obtain ⟨s, hs⟩ := Option.isSome_iff_exists.mp hs
  exact ⟨m, s, hm, hs, hlive s hs, chunks_are_separated rfl (by decide +kernel) hm hok hs⟩

/-- With no fixed number of chunks, a page of the one class has no chunk at all. -/
def noChunk : InitCall :=
  .oneClass { chunkSize := 64, memoryLimit := 128, fixedNumberOfSlabPerClass := 0, prealloc := 0 }

def threeChunksRun : List Event :=
  [.allocate 64 enoughMemory, .allocate 64 enoughMemory, .allocate 64 enoughMemory]

/-- The pages of no chunk never end: the third chunk is after the end of the area. -/
theorem chunk_leaves_the_area :
    ∃ m s, ManagedMemory.init noChunk enoughMemory (fun _ => enoughMemory) = some m ∧
      m.mem_base = some 4096 ∧ m.memoryLimit = 128 ∧
      run step ⟨m, []⟩ threeChunksRun = some s ∧ ¬ Separated 4096 128 s := by
  have hsome : (ManagedMemory.init noChunk enoughMemory fun _ => enoughMemory).isSome := by
    decide +kernel
  have hrun : ∀ m ∈ ManagedMemory.init noChunk enoughMemory fun _ => enoughMemory,
      m.mem_base = some 4096 ∧ m.memoryLimit = 128 ∧ (run step ⟨m, []⟩ threeChunksRun).isSome ∧
      ∀ s ∈ run step ⟨m, []⟩ threeChunksRun,
        ⟨4224, 64⟩ ∈ s.live ∧ ¬ (s.pool.region ⟨4224, 64⟩).Within 4096 (4096 + 128) := by
    decide +kernel
  obtain ⟨m, hm⟩ := Option.isSome_iff_exists.mp hsome
  obtain ⟨hbase, hlimit, hs, hlast⟩ := hrun m hm
  obtain ⟨s, hs⟩ := Option.isSome_iff_exists.mp hs
  obtain ⟨hmem, hout⟩ := hlast s hs
  exact ⟨m, s, hm, hbase, hlimit, hs, fun hsep => hout (hsep.within _ hmem)⟩

end chaos.memory
