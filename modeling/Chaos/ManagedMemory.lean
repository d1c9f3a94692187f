-- The slab allocator. The memory is one area. A class of chunks takes pages from the area, cuts
-- its chunks from its last page, and keeps the chunks that come back on a stack.
import Mathlib.Logic.Function.Basic
import Mathlib.Tactic.Common
import Chaos.Runs

open Function runs

namespace chaos.memory

def POWER_SMALLEST : Nat := 0

def POWER_LARGEST : Nat := 200

def CHUNK_ALIGN_BYTES : Nat := 8

/-! ## The state -/

/-- A class of chunks. The pointers on `slots` have the last one first, and their number is
`sl_curr`. The pages of `slab_list` are never read, so that only their number is here. -/
structure SlabClass where
  size : UInt32
  perslab : UInt32
  slots : List Nat
  sl_total : UInt32
  end_page_ptr : Option Nat
  end_page_free : UInt32
  slabs : UInt32
  list_size : UInt32
  deriving DecidableEq

/-- The class that `memset` leaves, with its chunk size and its chunks for each page. -/
def SlabClass.new (size perslab : UInt32) : SlabClass :=
  { size := size
    perslab := perslab
    slots := []
    sl_total := 0
    end_page_ptr := none
    end_page_free := 0
    slabs := 0
    list_size := 0 }

/-- A `size_t` is a natural number here. `mem_avail` is a part of what `malloc` has given, so
that sums with it stay in range; only `mem_malloced` can pass its range. -/
structure ManagedMemory where
  slabclass : Nat → SlabClass
  mem_malloced : Nat
  power_largest : Nat
  mem_base : Option Nat
  mem_current : Nat
  mem_avail : Nat
  memoryLimit : Nat

/-- What the C library answers to a call: the address of a `malloc`, and if a `realloc` finds
memory. -/
structure Answers where
  malloc : Option Nat
  realloc : Bool
  deriving DecidableEq

/-- An `int` with these bits as a `size_t`. -/
def sizeOfInt (bits : UInt32) : Nat :=
  if bits.toNat < 2 ^ 31 then bits.toNat else 2 ^ 64 - 2 ^ 32 + bits.toNat

/-- The length of a page: the product is an `unsigned int` that becomes an `int`. -/
def SlabClass.len (p : SlabClass) : Nat := sizeOfInt (p.size * p.perslab)

namespace ManagedMemory

def setClass (m : ManagedMemory) (id : Nat) (p : SlabClass) : ManagedMemory :=
  { m with slabclass := update m.slabclass id p }

@[simp] theorem setClass_self (m : ManagedMemory) (id : Nat) (p : SlabClass) :
    (m.setClass id p).slabclass id = p :=
  update_self ..

@[simp] theorem setClass_of_ne {m : ManagedMemory} {id j : Nat} {p : SlabClass} (h : j ≠ id) :
    (m.setClass id p).slabclass j = m.slabclass j :=
  update_of_ne h ..

/-- The loop of `getSlabIdBySize` from the class `res` on, with `left` classes after it. -/
def searchSlab (m : ManagedMemory) (size : Nat) : (left res : Nat) → Nat
  | 0, res => if (m.slabclass res).size.toNat < size then 2 ^ 32 - 1 else res
  | left + 1, res =>
    if (m.slabclass res).size.toNat < size then m.searchSlab size left (res + 1) else res

/-- The first class whose chunks have the size. The value -1 is an `unsigned int`. -/
def getSlabIdBySize (m : ManagedMemory) (size : Nat) : Nat :=
  if size = 0 then 2 ^ 32 - 1 else m.searchSlab size m.power_largest POWER_SMALLEST

/-! ## Pages -/

/-- The next piece of the area, or a piece of its own where there is no area. -/
def memory_allocate (m : ManagedMemory) (a : Answers) (size : Nat) : ManagedMemory × Option Nat :=
  match m.mem_base with
  | none => (m, a.malloc)
  | some _ =>
    if m.mem_avail < size then (m, none)
    else
      let rounded :=
        if size % CHUNK_ALIGN_BYTES ≠ 0 then size + (CHUNK_ALIGN_BYTES - size % CHUNK_ALIGN_BYTES)
        else size
      ({ m with
          mem_current := m.mem_current + rounded
          mem_avail := if rounded < m.mem_avail then m.mem_avail - rounded else 0 },
        some m.mem_current)

end ManagedMemory

/-- Room for one more page in the list of the pages. A `realloc` to size 0 gives no list. -/
def SlabClass.grow_slab_list (p : SlabClass) (a : Answers) : Option SlabClass :=
  if p.slabs = p.list_size then
    let new_size := if p.list_size ≠ 0 then p.list_size * 2 else 16
    if a.realloc ∧ new_size ≠ 0 then some { p with list_size := new_size } else none
  else some p

/-- The page is the last page of the class. -/
def SlabClass.addPage (p : SlabClass) (ptr : Nat) : SlabClass :=
  { p with
    end_page_ptr := some ptr
    end_page_free := p.perslab
    slabs := p.slabs + 1 }

namespace ManagedMemory

def do_slabs_newslab (m : ManagedMemory) (a : Answers) (id : Nat) : ManagedMemory × Bool :=
  let len := (m.slabclass id).len
  if m.memoryLimit ≠ 0 ∧ m.memoryLimit < (m.mem_malloced + len) % 2 ^ 64 ∧
      0 < (m.slabclass id).slabs then
    (m, false)
  else
    match (m.slabclass id).grow_slab_list a with
    | none => (m, false)
    | some p =>
      match (m.setClass id p).memory_allocate a len with
      | (m, none) => (m, false)
      | (m, some ptr) =>
        ({ m.setClass id (p.addPage ptr) with
            mem_malloced := (m.mem_malloced + len) % 2 ^ 64 }, true)

/-! ## Chunks -/

/-- A chunk off the stack, or the first one of the rest of the last page. -/
def popChunk (m : ManagedMemory) (id : Nat) : ManagedMemory × Option Nat :=
  let p := m.slabclass id
  match p.slots, p.end_page_ptr with
  | ptr :: slots, _ => (m.setClass id { p with slots := slots }, some ptr)
  | [], none => (m, none)
  | [], some ptr =>
    let free := p.end_page_free - 1
    (m.setClass id
      { p with
        end_page_free := free
        end_page_ptr := if free ≠ 0 then some (ptr + p.size.toNat) else none }, some ptr)

def do_slabs_alloc (m : ManagedMemory) (a : Answers) (id : Nat) : ManagedMemory × Option Nat :=
  if m.power_largest < id then (m, none)
  else if (m.slabclass id).end_page_ptr ≠ none ∨ (m.slabclass id).slots ≠ [] then m.popChunk id
  else
    match m.do_slabs_newslab a id with
    | (m, false) => (m, none)
    | (m, true) => m.popChunk id

/-- The chunk goes on the stack. A stack of 2^31 pointers or more is more than `realloc` can
give, and then the chunk is in no use any more. -/
def do_slabs_free (m : ManagedMemory) (a : Answers) (ptr : Nat) (id : Nat) : ManagedMemory :=
  let p := m.slabclass id
  if m.power_largest < id then m
  else if p.slots.length = p.sl_total.toNat then
    let new_size := if p.sl_total ≠ 0 then p.sl_total * 2 else 16
    if a.realloc ∧ 0 < new_size ∧ new_size.toNat < 2 ^ 31 then
      m.setClass id { p with slots := ptr :: p.slots, sl_total := new_size }
    else m
  else m.setClass id { p with slots := ptr :: p.slots }

/-! ## Initialization -/

/-- The object that the constructor makes. -/
def constructed : ManagedMemory :=
  { slabclass := fun _ => SlabClass.new 0 0
    mem_malloced := 0
    power_largest := 0
    mem_base := none
    mem_current := 0
    mem_avail := 0
    memoryLimit := 0 }

end ManagedMemory

/-- A size that is a multiple of the alignment. -/
def aligned (size : UInt32) : UInt32 :=
  if size % 8 ≠ 0 then size + (8 - size % 8) else size

/-- The number of chunks for each page. The division by a size of 0 is undefined. -/
def chunksPerSlab (fixedNumber : Int32) (item_size_max : UInt64) (size : UInt32) : Option UInt32 :=
  if fixedNumber ≠ 0 then some fixedNumber.toUInt32
  else if size = 0 then none
  else some (item_size_max / size.toUInt64).toUInt32

/-- The arguments of `init`. The growth of the sizes is floating point: `fits` is the test
`size <= item_size_max / growFactor`, and `grow` is `(unsigned int)(size * growFactor)`. -/
structure InitArguments where
  chunkSize : Int32
  itemMaxSize : UInt64
  memoryLimit : UInt64
  fits : UInt32 → Bool
  grow : UInt32 → UInt32
  prealloc : Int32
  fixedNumberOfSlab : Int32

/-- The arguments of the `init` with one class. -/
structure OneClassArguments where
  chunkSize : Int32
  memoryLimit : UInt64
  fixedNumberOfSlabPerClass : Int32
  prealloc : Int32

/-- The table of the classes, its largest class and the memory of one page of each class. -/
structure SlabTable where
  slabclass : Nat → SlabClass
  power_largest : Nat
  all_slabs_mem : Nat

namespace SlabTable

def set (t : SlabTable) (id : Nat) (p : SlabClass) : SlabTable :=
  { slabclass := update t.slabclass id p
    power_largest := id
    all_slabs_mem := t.all_slabs_mem + (p.size * p.perslab).toNat }

/-- The loop of `init`, `left` times at most, for the class `i` on. -/
def fill (args : InitArguments) : (left i : Nat) → UInt32 → SlabTable → Option (SlabTable × Nat)
  | 0, i, _, t => some (t, i)
  | left + 1, i, size, t =>
    if args.fits size then
      match chunksPerSlab args.fixedNumberOfSlab args.itemMaxSize (aligned size) with
      | none => none
      | some perslab =>
        fill args left (i + 1) (args.grow (aligned size))
          (t.set i (SlabClass.new (aligned size) perslab))
    else some (t, i)

def cleared : SlabTable :=
  { slabclass := fun _ => SlabClass.new 0 0
    power_largest := 0
    all_slabs_mem := 0 }

def ofArguments (args : InitArguments) : Option SlabTable :=
  (fill args (POWER_LARGEST - POWER_SMALLEST) POWER_SMALLEST args.chunkSize.toUInt32 cleared).map
    fun (t, i) => t.set i (SlabClass.new args.itemMaxSize.toUInt32
      (if args.fixedNumberOfSlab ≠ 0 then args.fixedNumberOfSlab.toUInt32 else 1))

/-- With one class `item_size_max` is 0. -/
def ofOneClass (args : OneClassArguments) : Option SlabTable :=
  (chunksPerSlab args.fixedNumberOfSlabPerClass 0 (aligned args.chunkSize.toUInt32)).map
    fun perslab => cleared.set POWER_SMALLEST
      (SlabClass.new (aligned args.chunkSize.toUInt32) perslab)

/-- The object with the table, and the area that it gets. -/
def withArea (t : SlabTable) (memoryLimit : UInt64) (a : Answers) : ManagedMemory :=
  let limit := if memoryLimit = 0 then t.all_slabs_mem else memoryLimit.toNat
  { slabclass := t.slabclass
    mem_malloced := 0
    power_largest := t.power_largest
    mem_base := a.malloc
    mem_current := a.malloc.getD 0
    mem_avail := if a.malloc = none then 0 else limit
    memoryLimit := limit }

end SlabTable

/-- The two forms of `init`. -/
inductive InitCall
  | classes (args : InitArguments)
  | oneClass (args : OneClassArguments)

namespace InitCall

def table : InitCall → Option SlabTable
  | classes args => SlabTable.ofArguments args
  | oneClass args => SlabTable.ofOneClass args

def memoryLimit : InitCall → UInt64
  | classes args => args.memoryLimit
  | oneClass args => args.memoryLimit

/-- The classes that get a page at once. The loop of the first form counts `prealloc` up from 1
and ends when it passes the largest class. -/
def preallocated (t : SlabTable) : InitCall → List Nat
  | classes args => if 1 ≤ args.prealloc then List.range (t.power_largest - 1) else []
  | oneClass args => if 1 ≤ args.prealloc then [POWER_SMALLEST] else []

end InitCall

namespace ManagedMemory

/-- One turn of the preallocation, with the answers that it gets. -/
def preallocateStep (m : ManagedMemory) (e : Nat × Answers) : Option ManagedMemory :=
  some (m.do_slabs_newslab e.2 e.1).1

/-- `init` of a constructed object. `malloc` answers for the area, and `pages` for the page of
each class. -/
def init (call : InitCall) (a : Answers) (pages : Nat → Answers) : Option ManagedMemory :=
  call.table.bind fun t =>
    run preallocateStep (t.withArea call.memoryLimit a)
      ((call.preallocated t).map fun id => (id, pages id))

end ManagedMemory

/-! ## The runs -/

/-- A chunk that is handed out, with the size that was asked for. -/
structure Chunk where
  ptr : Nat
  size : Nat
  deriving DecidableEq

/-- The allocator with the chunks that were handed out and have not come back. -/
structure State where
  pool : ManagedMemory
  live : List Chunk

/-- The calls of a client. The class is the one of the size, as the caches take it. -/
inductive Event
  | allocate (size : Nat) (a : Answers)
  | deallocate (chunk : Chunk) (a : Answers)

/-- A chunk that is not live is not given back. -/
def step (s : State) : Event → Option State
  | .allocate size a =>
    match s.pool.do_slabs_alloc a (s.pool.getSlabIdBySize size) with
    | (m, none) => some { s with pool := m }
    | (m, some ptr) => some { pool := m, live := ⟨ptr, size⟩ :: s.live }
  | .deallocate chunk a =>
    if chunk ∈ s.live then
      some
        { pool := s.pool.do_slabs_free a chunk.ptr (s.pool.getSlabIdBySize chunk.size)
          live := s.live.erase chunk }
    else none

end chaos.memory
