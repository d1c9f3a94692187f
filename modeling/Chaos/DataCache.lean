-- The cache over the slab allocator. An item is a chunk with its key and its value. The items that
-- are linked are in a hash table that grows bucket by bucket, and in the queue of their class. Who
-- uses an item counts itself in the item.
import Chaos.ChainedTable
import Chaos.ManagedMemory

open Function chained_table chaos.memory

namespace chaos.common.data.cache

def KEY_MAX_LENGTH : Nat := 250

/-- The length of the arrays with an entry for each class. -/
def LARGEST_ID : Nat := POWER_LARGEST

/-- The first value of `hashpower`. -/
def HASHPOWER : Nat := 16

/-- The bytes before the terminating zero. -/
structure Key where
  bytes : List UInt8
  short : bytes.length ≤ KEY_MAX_LENGTH
  deriving DecidableEq

/-- The bytes of a buffer whose length is a `uint32_t`. -/
structure Buffer where
  bytes : List UInt8
  inRange : bytes.length < 2 ^ 32
  deriving DecidableEq

def Buffer.bufferLen (b : Buffer) : UInt32 := UInt32.ofNat b.bytes.length

/-- `fits` and `grow` are what the allocator computes with `factor`, which is floating point. -/
structure CacheSettings where
  maxbytes : UInt64
  evict_to_free : Int32
  fits : UInt32 → Bool
  grow : UInt32 → UInt32
  chunk_size : Int32
  use_cas : Int32
  item_size_max : Int32
  preallocation : Int32

/-- The call that initializes the allocator. -/
def CacheSettings.initCall (settings : CacheSettings) : InitCall :=
  .classes
    { chunkSize := settings.chunk_size
      itemMaxSize := settings.item_size_max.toInt64.toUInt64
      memoryLimit := settings.maxbytes
      fits := settings.fits
      grow := settings.grow
      prealloc := settings.preallocation
      fixedNumberOfSlab := 0 }

/-! ## Items -/

/-- A chunk as an item. `item_data` are the bytes from `ITEM_data` on. The flags of `it_flags` are
`linked`, `cas` and `slabbed`. -/
structure Item where
  key : Key
  nsuffix : Nat
  nbytes : UInt32
  item_data : List UInt8
  refcount : UInt16
  linked : Bool
  cas : Bool
  slabbed : Bool
  slabs_clsid : Nat

/-- What `memset` leaves in a new page. -/
def Item.zero : Item :=
  { key := ⟨[], Nat.zero_le _⟩
    nsuffix := 0
    nbytes := 0
    item_data := []
    refcount := 0
    linked := false
    cas := false
    slabbed := false
    slabs_clsid := 0 }

/-- The number of the characters of `%d`. -/
def decimalLength : Int → Nat
  | .ofNat n => (Nat.toDigits 10 n).length
  | .negSucc n => (Nat.toDigits 10 (n + 1)).length + 1

/-- `sizeof(item)`. -/
def sizeof_item : Nat := 40

/-- The length of the suffix `" %d %d\r\n"`, which is a `uint8_t`. -/
def suffixLength (flags : Int) (nbytes : UInt32) : Nat :=
  (1 + decimalLength flags + 1 + decimalLength (nbytes.toInt32.toInt - 2) + 2) % 2 ^ 8

/-- The size of an item, as a `size_t`. -/
def item_make_header (nkey : Nat) (flags : Int) (nbytes : UInt32) : Nat :=
  (sizeof_item + nkey + suffixLength flags nbytes + sizeOfInt nbytes) % 2 ^ 64

namespace Item

/-- Where the data of an item starts. -/
def dataOffset (it : Item) : Nat :=
  sizeof_item + it.key.bytes.length + 1 + it.nsuffix + if it.cas then 8 else 0

/-- `ITEM_ntotal`. -/
def ntotal (it : Item) : Nat :=
  (sizeof_item + it.key.bytes.length + 1 + it.nsuffix + sizeOfInt it.nbytes +
    if it.cas then 8 else 0) % 2 ^ 64

end Item

/-! ## The state -/

/-- The queues stand for `heads` and `tails`, from the head to the tail. `zeroed` is whether the
object was made in storage of zeros: the constructor sets neither the queues nor their sizes.
`handed` and `returned` are the chunks of the calls of the allocator, the last one first. -/
structure DataCache where
  settings : CacheSettings
  memory : State
  items : Nat → Item
  table : Table Nat
  hash_items : UInt32
  queues : Nat → List Nat
  sizes : Nat → UInt32
  zeroed : Bool
  handed : List Nat
  returned : List Nat

/-- What the C library answers: for a page, for a page in the second try, to the `calloc` of a
larger table, and for the stack of the free chunks. -/
structure World where
  page : Answers
  second : Answers
  table : Bool
  stack : Answers
  deriving DecidableEq

namespace DataCache

/-- `init`. Without memory for the table the process ends. -/
def init (settings : CacheSettings) (zeroed table : Bool) (area : Answers) (pages : Nat → Answers) :
    Option DataCache :=
  if table then
    (ManagedMemory.init settings.initCall area pages).map fun pool =>
      { settings := settings
        memory := ⟨pool, []⟩
        items := fun _ => Item.zero
        table := Table.empty HASHPOWER
        hash_items := 0
        queues := fun _ => []
        sizes := fun _ => 0
        zeroed := zeroed
        handed := []
        returned := [] }
  else none

variable (hash : Key → UInt32)

/-- The entries of a class in the arrays are there and were set. -/
def InArrays (s : DataCache) (id : Nat) : Prop := id < LARGEST_ID ∧ s.zeroed = true

instance (s : DataCache) (id : Nat) : Decidable (s.InArrays id) :=
  inferInstanceAs (Decidable (_ ∧ _))

/-- An item is written. -/
def setItem (s : DataCache) (p : Nat) (it : Item) : DataCache :=
  { s with items := update s.items p it }

def key (s : DataCache) (p : Nat) : Key := (s.items p).key

/-- A hash value selects a bucket. -/
def hashOf (k : Key) : Nat := (hash k).toNat

/-! ## The hash table -/

def assoc_find (s : DataCache) (k : Key) : Option Nat := s.table.find (hashOf hash) s.key k

/-- `table` is the answer of `calloc`. -/
def assoc_expand (s : DataCache) (table : Bool) : DataCache :=
  if table then { s with table := s.table.grow } else s

def assoc_insert (s : DataCache) (table : Bool) (p : Nat) : Option DataCache :=
  if s.assoc_find hash (s.key p) = none then
    let s :=
      { s with
        table := s.table.insert (hashOf hash (s.key p)) p
        hash_items := s.hash_items + 1 }
    if s.table.expanding = false ∧ 2 ^ s.table.power * 3 / 2 < s.hash_items.toNat then
      some (s.assoc_expand table)
    else some s
  else none

def assoc_delete (s : DataCache) (k : Key) : Option DataCache :=
  if s.assoc_find hash k = none then none
  else
    some
      { s with
        table := s.table.delete (hashOf hash) s.key k
        hash_items := s.hash_items - 1 }

/-- One turn of the loop of `maintenance_thread`. The number of the new bucket is an `int`. -/
def moveNextBucket (s : DataCache) : Option DataCache :=
  if s.table.expanding then
    if s.table.bucket < 2 ^ (s.table.power - 1) ∧
        ∀ p ∈ s.table.old s.table.bucket, hashOf hash (s.key p) % 2 ^ s.table.power < 2 ^ 31 then
      some { s with table := s.table.moveBucket (hashOf hash) s.key }
    else none
  else some s

/-! ## The allocator -/

def allocate (s : DataCache) (a : Answers) (ntotal id : Nat) : DataCache × Option Nat :=
  match s.memory.pool.do_slabs_alloc a id with
  | (pool, none) => ({ s with memory := { s.memory with pool := pool } }, none)
  | (pool, some p) =>
    ({ s with
        memory := { pool := pool, live := ⟨p, ntotal⟩ :: s.memory.live }
        handed := p :: s.handed }, some p)

def deallocate (s : DataCache) (a : Answers) (p ntotal id : Nat) : DataCache :=
  { s with
    memory :=
      { pool := s.memory.pool.do_slabs_free a p id
        live := s.memory.live.erase ⟨p, ntotal⟩ }
    returned := p :: s.returned }

/-- A new item, with one reference for its maker. -/
def newItem (s : DataCache) (id : Nat) (key : Key) (nbytes : UInt32) : Item :=
  { key := key
    nsuffix := suffixLength 0 nbytes
    nbytes := nbytes
    item_data := []
    refcount := 1
    linked := false
    cas := s.settings.use_cas ≠ 0
    slabbed := false
    slabs_clsid := id }

/-- The end of `do_item_alloc`, in the chunk that it got. -/
def do_item_init (s : DataCache) (p id : Nat) (key : Key) (nbytes : UInt32) : Option DataCache :=
  if (s.items p).slabs_clsid = 0 ∧ s.InArrays id ∧ (s.queues id).head? ≠ some p then
    some (s.setItem p (s.newItem id key nbytes))
  else none

/-- The size of a new item. The length of the key and its zero become a `uint8_t`. -/
def ntotal (s : DataCache) (key : Key) (nbytes : UInt32) : Nat :=
  let size := item_make_header ((key.bytes.length + 1) % 2 ^ 8) 0 nbytes
  if s.settings.use_cas ≠ 0 then (size + 8) % 2 ^ 64 else size

def classOf (s : DataCache) (key : Key) (nbytes : UInt32) : Nat :=
  s.memory.pool.getSlabIdBySize (s.ntotal key nbytes)

/-- Without a chunk, the class counts in `itemstats`, and its tail is looked at. The second try is
not checked for NULL. -/
def do_item_alloc (s : DataCache) (w : World) (key : Key) (nbytes : UInt32) :
    Option (DataCache × Option Nat) :=
  let ntotal := s.ntotal key nbytes
  let id := s.classOf key nbytes
  if id = 0 then some (s, none)
  else
    match s.allocate w.page ntotal id with
    | (s, some p) => (s.do_item_init p id key nbytes).map (·, some p)
    | (s, none) =>
      if LARGEST_ID ≤ id then none
      else if s.settings.evict_to_free = 0 then some (s, none)
      else if s.zeroed = false then none
      else if s.queues id = [] then some (s, none)
      else
        match s.allocate w.second ntotal id with
        | (s, some p) => (s.do_item_init p id key nbytes).map (·, some p)
        | (_, none) => none

def item_free (s : DataCache) (a : Answers) (p : Nat) : Option DataCache :=
  let it := s.items p
  if it.linked = false ∧ s.InArrays it.slabs_clsid ∧
      (s.queues it.slabs_clsid).head? ≠ some p ∧ (s.queues it.slabs_clsid).getLast? ≠ some p ∧
      it.refcount = 0 then
    some ((s.setItem p { it with slabs_clsid := 0, slabbed := true }).deallocate a p it.ntotal
      it.slabs_clsid)
  else none

/-! ## The queues -/

def item_link_q (s : DataCache) (p : Nat) : Option DataCache :=
  let id := (s.items p).slabs_clsid
  if s.InArrays id ∧ (s.items p).slabbed = false ∧ (s.queues id).head? ≠ some p then
    some
      { s with
        queues := update s.queues id (p :: s.queues id)
        sizes := update s.sizes id (s.sizes id + 1) }
  else none

def item_unlink_q (s : DataCache) (p : Nat) : Option DataCache :=
  let id := (s.items p).slabs_clsid
  if s.InArrays id then
    some
      { s with
        queues := update s.queues id ((s.queues id).erase p)
        sizes := update s.sizes id (s.sizes id - 1) }
  else none

/-! ## Items in use -/

def do_item_get (s : DataCache) (k : Key) : DataCache × Option Nat :=
  match s.assoc_find hash k with
  | none => (s, none)
  | some p =>
    (s.setItem p { s.items p with refcount := (s.items p).refcount + 1 }, some p)

def do_item_link (s : DataCache) (table : Bool) (p : Nat) : Option DataCache :=
  if (s.items p).linked = false ∧ (s.items p).slabbed = false then
    ((s.setItem p { s.items p with linked := true }).assoc_insert hash table p).bind
      fun s => s.item_link_q p
  else none

def do_item_unlink (s : DataCache) (a : Answers) (p : Nat) : Option DataCache :=
  if (s.items p).linked then
    ((s.setItem p { s.items p with linked := false }).assoc_delete hash (s.key p)).bind
      fun s => (s.item_unlink_q p).bind
        fun s => if (s.items p).refcount = 0 then s.item_free a p else some s
  else some s

def do_item_remove (s : DataCache) (a : Answers) (p : Nat) : Option DataCache :=
  if (s.items p).slabbed then none
  else
    let s :=
      if (s.items p).refcount ≠ 0 then
        s.setItem p { s.items p with refcount := (s.items p).refcount - 1 }
      else s
    if (s.items p).refcount = 0 ∧ (s.items p).linked = false then s.item_free a p else some s

/-! ## The operations -/

/-- The length and the bytes of the item, or nothing for -1. -/
def getItem (s : DataCache) (a : Answers) (k : Key) :
    Option (DataCache × Option (UInt32 × List UInt8)) :=
  match s.do_item_get hash k with
  | (s, none) => some (s, none)
  | (s, some p) =>
    let nbytes := (s.items p).nbytes
    (s.do_item_remove a p).map (·, some (nbytes, (s.items p).item_data.take nbytes.toNat))

/-- The `memcpy` to a new item. Past the end of its chunk it is undefined. -/
def copyData (s : DataCache) (p : Nat) (buffer : Buffer) : Option DataCache :=
  let it := s.items p
  if it.dataOffset + buffer.bufferLen.toNat ≤
      (s.memory.pool.slabclass it.slabs_clsid).size.toNat then
    some (s.setItem p { it with item_data := buffer.bytes })
  else none

/-- The end of `storeItem`, with the new item. -/
def putItem (s : DataCache) (w : World) (old_it : Option Nat) (new_it : Nat) : Option DataCache :=
  match old_it with
  | none => (s.do_item_link hash w.table new_it).bind fun s => s.do_item_remove w.stack new_it
  | some old =>
    if (s.items old).slabbed then none
    else
      (s.do_item_unlink hash w.stack old).bind
        fun s => (s.do_item_link hash w.table new_it).bind
          fun s => (s.do_item_remove w.stack old).bind
            fun s => s.do_item_remove w.stack new_it

/-- `false` is the answer -1. -/
def storeItem (s : DataCache) (w : World) (k : Key) (buffer : Buffer) : Option (DataCache × Bool) :=
  match s.do_item_get hash k with
  | (s, old_it) =>
    (s.do_item_alloc w k buffer.bufferLen).bind fun
      | (s, none) =>
        match old_it with
        | none => some (s, false)
        | some old => (s.do_item_remove w.stack old).map (·, false)
      | (s, some new_it) =>
        ((s.copyData new_it buffer).bind fun s => s.putItem hash w old_it new_it).map (·, true)

/-- `false` is the answer -1. -/
def deleteItem (s : DataCache) (a : Answers) (k : Key) : Option (DataCache × Bool) :=
  match s.do_item_get hash k with
  | (s, none) => some (s, false)
  | (s, some p) =>
    ((s.do_item_unlink hash a p).bind fun s => s.do_item_remove a p).map (·, true)

/-- The reference is not given back. -/
def isItemPresent (s : DataCache) (k : Key) : DataCache × Bool :=
  let (s, it) := s.do_item_get hash k
  (s, it.isSome)

end DataCache

end chaos.common.data.cache
