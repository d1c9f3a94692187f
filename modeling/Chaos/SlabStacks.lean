-- The stacks of the free chunks of the slab allocator. A chunk that comes back is on the stack of
-- its class, unless the stack is full and cannot grow, and from the stack it is handed out again.
import Chaos.SlabPieces

open Function runs

namespace chaos.memory

variable {m m' : ManagedMemory} {id j ptr q : Nat} {a b : Answers} {p : SlabClass} {r : Option Nat}

/-- A stack that is full can take one more if `realloc` gives it more room. -/
def SlabClass.HasRoom (p : SlabClass) (a : Answers) : Prop :=
  p.slots.length = p.sl_total.toNat →
    a.realloc = true ∧ 0 < (if p.sl_total ≠ 0 then p.sl_total * 2 else 16) ∧
      (if p.sl_total ≠ 0 then p.sl_total * 2 else 16).toNat < 2 ^ 31

instance (p : SlabClass) (a : Answers) : Decidable (p.HasRoom a) :=
  inferInstanceAs (Decidable (_ → _))

/-- The chunk can be handed out again. -/
def ManagedMemory.Reusable (m : ManagedMemory) (ptr : Nat) : Prop :=
  ∃ id, id ≤ m.power_largest ∧ ptr ∈ (m.slabclass id).slots

/-- No stack holds more than it has room for. -/
structure Stacked (m : ManagedMemory) : Prop where
  fits : ∀ id, (m.slabclass id).slots.length ≤ (m.slabclass id).sl_total.toNat
  total : ∀ id, (m.slabclass id).sl_total.toNat < 2 ^ 31

/-! ## Taking a chunk -/

/-- The stacks are the same. -/
structure SameStacks (m m' : ManagedMemory) : Prop where
  slots : ∀ j, (m'.slabclass j).slots = (m.slabclass j).slots
  total : ∀ j, (m'.slabclass j).sl_total = (m.slabclass j).sl_total

theorem SameStacks.refl (m : ManagedMemory) : SameStacks m m := ⟨fun _ => rfl, fun _ => rfl⟩

theorem SameStacks.trans {m'' : ManagedMemory} (h : SameStacks m m') (h' : SameStacks m' m'') :
    SameStacks m m'' :=
  ⟨fun j => (h'.slots j).trans (h.slots j), fun j => (h'.total j).trans (h.total j)⟩

theorem SameStacks.setClass (hslots : p.slots = (m.slabclass id).slots)
    (htotal : p.sl_total = (m.slabclass id).sl_total) : SameStacks m (m.setClass id p) := by
  refine ⟨fun j => ?_, fun j => ?_⟩
  all_goals
    by_cases hj : j = id
    · subst hj
      rw [ManagedMemory.setClass_self]
      assumption
    · rw [ManagedMemory.setClass_of_ne hj]

theorem newslab_stacks (m : ManagedMemory) (a : Answers) (id : Nat) :
    SameStacks m (m.do_slabs_newslab a id).1 := by
  obtain heq | ⟨n, p, rfl, heq⟩ := newslab_cases m a id
  · rw [heq]
    exact SameStacks.refl m
  · have hset : SameStacks m (m.setClass id { m.slabclass id with list_size := n }) :=
      SameStacks.setClass rfl rfl
    obtain heq | ⟨m', page, malloced, hr, heq⟩ := heq
    · rw [heq]
      exact hset
    · have hclass := (memory_allocate_some hr).1
      have hset' : SameStacks m m' :=
        ⟨fun j => by rw [hclass, hset.slots], fun j => by rw [hclass, hset.total]⟩
      have hpage : SameStacks m' (m'.setClass id
          (SlabClass.addPage { m.slabclass id with list_size := n } page)) :=
        SameStacks.setClass (hset'.slots id).symm (hset'.total id).symm
      obtain ⟨hslots, htotal⟩ := hset'.trans hpage
      rw [heq]
      exact ⟨hslots, htotal⟩

/-- The chunk is the top of the stack of the class, and the other stacks are the same. -/
structure Popped (m m' : ManagedMemory) (id ptr : Nat) : Prop where
  slots : (m.slabclass id).slots = ptr :: (m'.slabclass id).slots
  other : ∀ j, j ≠ id → (m'.slabclass j).slots = (m.slabclass j).slots
  total : ∀ j, (m'.slabclass j).sl_total = (m.slabclass j).sl_total

theorem popChunk_stacks (hr : m.popChunk id = (m', r)) :
    ((m.slabclass id).slots = [] ∧ SameStacks m m') ∨ ∃ ptr, r = some ptr ∧ Popped m m' id ptr := by
  unfold ManagedMemory.popChunk at hr
  dsimp only at hr
  split at hr
  · rename_i ptr slots hslots
    obtain ⟨rfl, rfl⟩ := Prod.mk.inj hr
    refine .inr ⟨ptr, rfl, ?_, fun j hj => ?_, fun j => ?_⟩
    · rw [ManagedMemory.setClass_self, hslots]
    · rw [ManagedMemory.setClass_of_ne hj]
    · by_cases hj : j = id
      · subst hj
        rw [ManagedMemory.setClass_self]
      · rw [ManagedMemory.setClass_of_ne hj]
  · rename_i hslots hend
    obtain ⟨rfl, rfl⟩ := Prod.mk.inj hr
    exact .inl ⟨hslots, SameStacks.refl _⟩
  · rename_i page hslots hend
    obtain ⟨rfl, rfl⟩ := Prod.mk.inj hr
    exact .inl ⟨hslots, SameStacks.setClass rfl rfl⟩

/-- A call of the allocator pops a chunk, or it leaves the stacks as they are. -/
theorem alloc_stacks (hr : m.do_slabs_alloc a id = (m', r)) :
    ((id ≤ m.power_largest → (m.slabclass id).slots = []) ∧ SameStacks m m') ∨
      ∃ ptr, r = some ptr ∧ Popped m m' id ptr := by
  unfold ManagedMemory.do_slabs_alloc at hr
  split at hr
  · rename_i hlarge
    obtain ⟨rfl, rfl⟩ := Prod.mk.inj hr
    exact .inl ⟨fun hid => absurd hid (Nat.not_le.mpr hlarge), SameStacks.refl _⟩
  · split at hr
    · rcases popChunk_stacks hr with ⟨hslots, hsame⟩ | hpop
      · exact .inl ⟨fun _ => hslots, hsame⟩
      · exact .inr hpop
    · rename_i hempty
      simp only [ne_eq, not_or, not_not] at hempty
      have hpage := newslab_stacks m a id
      refine .inl ⟨fun _ => hempty.2, ?_⟩
      rcases hnew : m.do_slabs_newslab a id with ⟨n, _ | _⟩ <;> rw [hnew] at hr hpage
      · obtain ⟨rfl, rfl⟩ := Prod.mk.inj hr
        exact hpage
      · rcases popChunk_stacks hr with ⟨-, hsame⟩ | ⟨ptr, -, hpop⟩
        · exact hpage.trans hsame
        · have hslots := hpop.slots
          rw [hpage.slots, hempty.2] at hslots
          cases hslots

theorem SameStacks.stacked (h : SameStacks m m') (hm : Stacked m) : Stacked m' := by
  refine ⟨fun j => ?_, fun j => ?_⟩
  · rw [h.slots, h.total]
    exact hm.fits j
  · rw [h.total]
    exact hm.total j

theorem Popped.slots_le (h : Popped m m' id ptr) (j : Nat) :
    (m'.slabclass j).slots.length ≤ (m.slabclass j).slots.length := by
  by_cases hj : j = id
  · subst hj
    rw [h.slots]
    exact Nat.le_succ _
  · rw [h.other j hj]

theorem Popped.stacked (h : Popped m m' id ptr) (hm : Stacked m) : Stacked m' := by
  refine ⟨fun j => ?_, fun j => ?_⟩
  · rw [h.total]
    exact Nat.le_trans (h.slots_le j) (hm.fits j)
  · rw [h.total]
    exact hm.total j

theorem Stacked.alloc (hm : Stacked m) (hr : m.do_slabs_alloc a id = (m', r)) : Stacked m' := by
  rcases alloc_stacks hr with ⟨-, hsame⟩ | ⟨ptr, -, hpop⟩
  · exact hsame.stacked hm
  · exact hpop.stacked hm

theorem SameStacks.hasRoom (h : SameStacks m m') (hroom : (m.slabclass j).HasRoom b) :
    (m'.slabclass j).HasRoom b := by
  unfold SlabClass.HasRoom
  rw [h.slots, h.total]
  exact hroom

/-- A stack has room after a chunk was popped, and no other one has less. -/
theorem Popped.hasRoom (h : Popped m m' id ptr) (hm : Stacked m)
    (hroom : j = id ∨ (m.slabclass j).HasRoom b) : (m'.slabclass j).HasRoom b := by
  have hfits := hm.fits j
  have hle := h.slots_le j
  intro hfull
  rw [h.total] at hfull ⊢
  rcases hroom with rfl | hroom
  · have hslots := congrArg List.length h.slots
    rw [List.length_cons] at hslots
    omega
  · exact hroom (by omega)

/-- A chunk that can be handed out is handed out, or it still can. -/
theorem ManagedMemory.Reusable.alloc (h : m.Reusable ptr)
    (hlargest : m'.power_largest = m.power_largest) (hr : m.do_slabs_alloc a id = (m', r)) :
    r = some ptr ∨ m'.Reusable ptr := by
  obtain ⟨j, hj, hmem⟩ := h
  rw [← hlargest] at hj
  rcases alloc_stacks hr with ⟨-, hsame⟩ | ⟨top, rfl, hpop⟩
  · exact .inr ⟨j, hj, by rw [hsame.slots]; exact hmem⟩
  · by_cases hid : j = id
    · subst hid
      rw [hpop.slots] at hmem
      rcases List.mem_cons.mp hmem with rfl | hmem
      · exact .inl rfl
      · exact .inr ⟨j, hj, hmem⟩
    · exact .inr ⟨j, hj, by rw [hpop.other j hid]; exact hmem⟩

/-! ## Giving a chunk back -/

theorem ManagedMemory.Reusable.free (h : m.Reusable ptr) :
    (m.do_slabs_free a q id).Reusable ptr := by
  obtain ⟨j, hj, hmem⟩ := h
  rcases do_slabs_free_cases m a q id with heq | ⟨n, heq⟩ <;> rw [heq]
  · exact ⟨j, hj, hmem⟩
  · refine ⟨j, hj, ?_⟩
    by_cases hid : j = id
    · subst hid
      rw [ManagedMemory.setClass_self]
      exact List.mem_cons_of_mem _ hmem
    · rw [ManagedMemory.setClass_of_ne hid]
      exact hmem

/-- Where the stack has room, a chunk that comes back can be handed out again. -/
theorem reusable_do_slabs_free (hid : id ≤ m.power_largest) (hroom : (m.slabclass id).HasRoom a) :
    (m.do_slabs_free a ptr id).Reusable ptr := by
  have hpush : ∀ n : UInt32, (m.setClass id
      { m.slabclass id with slots := ptr :: (m.slabclass id).slots, sl_total := n }).Reusable
        ptr := by
    intro n
    refine ⟨id, hid, ?_⟩
    rw [ManagedMemory.setClass_self]
    exact List.mem_cons_self
  unfold ManagedMemory.do_slabs_free
  dsimp only
  rw [if_neg (by omega)]
  by_cases hfull : (m.slabclass id).slots.length = (m.slabclass id).sl_total.toNat
  · rw [if_pos hfull, if_pos (hroom hfull)]
    exact hpush _
  · rw [if_neg hfull]
    exact hpush _

theorem Stacked.setClass (h : Stacked m) (hfits : p.slots.length ≤ p.sl_total.toNat)
    (htotal : p.sl_total.toNat < 2 ^ 31) : Stacked (m.setClass id p) := by
  refine ⟨fun j => ?_, fun j => ?_⟩
  · by_cases hj : j = id
    · subst hj
      rw [ManagedMemory.setClass_self]
      exact hfits
    · rw [ManagedMemory.setClass_of_ne hj]
      exact h.fits j
  · by_cases hj : j = id
    · subst hj
      rw [ManagedMemory.setClass_self]
      exact htotal
    · rw [ManagedMemory.setClass_of_ne hj]
      exact h.total j

/-- The room of a stack doubles, and it starts with 16. -/
theorem lt_doubled {n : UInt32} (h : n.toNat < 2 ^ 31) :
    n.toNat < (if n ≠ 0 then n * 2 else 16).toNat := by
  by_cases hn : n = 0
  · subst hn
    decide
  · rw [if_pos hn, UInt32.toNat_mul]
    have hpos : n.toNat ≠ 0 := fun h0 => hn (UInt32.toNat_inj.mp h0)
    show n.toNat < n.toNat * 2 % 2 ^ 32
    omega

theorem Stacked.free (h : Stacked m) : Stacked (m.do_slabs_free a ptr id) := by
  have hfits := h.fits id
  have htotal := h.total id
  have hdouble := lt_doubled htotal
  unfold ManagedMemory.do_slabs_free
  dsimp only
  generalize (if (m.slabclass id).sl_total ≠ 0 then (m.slabclass id).sl_total * 2 else 16) =
    new_size at hdouble ⊢
  split
  · exact h
  · split
    · split
      · rename_i hroom
        exact h.setClass (Nat.lt_of_le_of_lt hfits hdouble) hroom.2.2
      · exact h
    · rename_i hroom
      exact h.setClass (Nat.lt_of_le_of_ne hfits hroom) htotal

/-- After `init` the stacks are empty. -/
theorem Stacked.init {call : InitCall} {area : Answers} {pages : Nat → Answers}
    (hinit : ManagedMemory.init call area pages = some m) : Stacked m := by
  obtain ⟨t, ht, hrun⟩ := Option.bind_eq_some_iff.mp hinit
  have hfresh := Fresh.table ht
  have hempty : Stacked (t.withArea call.memoryLimit area) := by
    have hclass : ∀ id, ((t.withArea call.memoryLimit area).slabclass id).slots = [] ∧
        ((t.withArea call.memoryLimit area).slabclass id).sl_total = 0 := by
      intro id
      obtain ⟨size, perslab, hnew⟩ := hfresh.class_new id
      show (t.slabclass id).slots = [] ∧ (t.slabclass id).sl_total = 0
      rw [hnew]
      exact ⟨rfl, rfl⟩
    refine ⟨fun id => ?_, fun id => ?_⟩
    · rw [(hclass id).1]
      exact Nat.zero_le _
    · rw [(hclass id).2]
      decide
  refine run_keeps Stacked (fun m e m' hm hstep => ?_) hempty hrun
  cases hstep
  exact (newslab_stacks m e.2 e.1).stacked hm

end chaos.memory
