-- The low resolution buffers of a device tracker. One is made for the first iterator of a validity
-- and a discretization, and goes with the last. A buffer is found under a key made from the
-- request, and is removed under a key made from the buffer.
import Chaos.CommonBuffer
import Chaos.Decimals

open linked_heap

namespace chaos.caching_system.caching_thread

/-! ## The keys -/

/-- What `key<<validity<<":"<<discretization` writes. -/
def bufferKey (validity discretization : UInt64) : List Char :=
  Nat.toDigits 10 validity.toNat ++ ':' :: Nat.toDigits 10 discretization.toNat

/-- Different requests have different keys. -/
theorem bufferKey_inj {v d v' d' : UInt64} : bufferKey v d = bufferKey v' d' ↔ v = v' ∧ d = d' := by
  constructor
  · intro h
    obtain ⟨hv, hd⟩ := (decimals.append_toDigits_inj rfl).mp h
    exact ⟨UInt64.toNat_inj.mp (decimals.toDigits_injective hv), UInt64.toNat_inj.mp hd⟩
  · rintro ⟨rfl, rfl⟩
    rfl

/-! ## The buffers and their iterators -/

/-- A reader on the buffer `queue`, with the number that `setId` gave it. -/
structure IteratorReader extends IteratorBase where
  id : UInt32
  queue : Nat
  deriving DecidableEq

/-- The garbage iterator of the buffer is an object of its own, and `iteratorGarbage` points to it.
`requested` and `found` are not in the code: the validity that the buffer was opened with, and what
`numberOfReader` held before the constructor, which does not set it. -/
structure BufferTracker (T : Type) where
  controlledBuffer : CommonBuffer T
  numberOfReader : UInt32
  discretization : UInt64
  iteratorGarbage : Nat
  relatedIterators : List Nat
  requested : UInt64
  found : UInt32

/-- The pointers are addresses, and an address is given out once. `queues` are the garbage
iterators that the garbage collector has. `opened` is not in the code: the iterators that clients
opened and did not close, in order, each with the validity and the discretization it asked for. -/
structure AbstractDeviceTracker (T : Type) where
  lastNumber : UInt32
  buffers : Heap (BufferTracker T)
  iterators : Heap IteratorReader
  garbageIterators : Heap UInt32
  iteratorIdToBufferTracker : AList fun _ : UInt32 => Nat
  lowResQueues : AList fun _ : List Char => Nat
  queues : List Nat
  allocated : Nat
  opened : List (Nat × UInt64 × UInt64)

variable {T : Type}

namespace BufferTracker

def getValidity (b : BufferTracker T) : UInt64 := b.controlledBuffer.validita

/-- The key that `closeBuffer` makes. -/
def key (b : BufferTracker T) : List Char := bufferKey b.getValidity b.discretization

end BufferTracker

namespace AbstractDeviceTracker

/-- A tracker whose first number is `lastNumber`. Its garbage collector has the queue of the high
resolution when it was started; nothing sets the number of that garbage iterator. -/
def new (T : Type) (lastNumber : UInt32) (started : Option UInt32) : AbstractDeviceTracker T :=
  { lastNumber := lastNumber
    buffers := ∅
    iterators := ∅
    garbageIterators := match started with
      | none => ∅
      | some id => (∅ : Heap UInt32).insert 0 id
    iteratorIdToBufferTracker := ∅
    lowResQueues := ∅
    queues := match started with
      | none => []
      | some _ => [0]
    allocated := 1
    opened := [] }

/-- The number before the addition. -/
def getNewId (t : AbstractDeviceTracker T) : AbstractDeviceTracker T × UInt32 :=
  ({ t with lastNumber := t.lastNumber + 1 }, t.lastNumber)

/-- A new buffer with its garbage iterator. `found` is what the memory of the count held. -/
def newBuffer (t : AbstractDeviceTracker T) (validity discretization : UInt64) (found : UInt32) :
    Option (AbstractDeviceTracker T × Nat) := do
  let (queue, _) ← (CommonBuffer.new T validity).getIteratorGarbage
  let (t, id) := t.getNewId
  let b : BufferTracker T :=
    { controlledBuffer := queue
      numberOfReader := found
      discretization := discretization
      iteratorGarbage := t.allocated + 1
      relatedIterators := []
      requested := validity
      found := found }
  return ({ t with
      buffers := t.buffers.insert t.allocated b
      garbageIterators := t.garbageIterators.insert (t.allocated + 1) id
      allocated := t.allocated + 2 },
    t.allocated)

/-- One more reader of the buffer, with a new number. -/
def getIterator (t : AbstractDeviceTracker T) (buffer : Nat) :
    Option (AbstractDeviceTracker T × Nat × UInt32) := do
  let b ← t.buffers.lookup buffer
  let (t, id) := t.getNewId
  let iterator := t.allocated
  let b := { b with
    numberOfReader := b.numberOfReader + 1
    relatedIterators := b.relatedIterators ++ [iterator] }
  return ({ t with
      buffers := t.buffers.insert buffer b
      iterators := t.iterators.insert iterator { id := id, queue := buffer }
      allocated := t.allocated + 1 },
    iterator, id)

/-- The loop of `deleteIterator`: the element after one that was erased is not looked at. -/
def eraseRelated (iterators : Heap IteratorReader) (id : UInt32) : List Nat → Option (List Nat)
  | [] => some []
  | p :: rest => do
    let q ← iterators.lookup p
    if id = q.id then
      match rest with
      | [] => return []
      | r :: rest => return r :: (← eraseRelated iterators id rest)
    else return p :: (← eraseRelated iterators id rest)

def deleteIterator (t : AbstractDeviceTracker T) (buffer iterator : Nat) :
    Option (AbstractDeviceTracker T) := do
  let b ← t.buffers.lookup buffer
  let it ← t.iterators.lookup iterator
  let related ← eraseRelated t.iterators it.id b.relatedIterators
  let b := { b with numberOfReader := b.numberOfReader - 1, relatedIterators := related }
  return { t with
    buffers := t.buffers.insert buffer b
    iterators := t.iterators.erase iterator }

/-- The loop of the destructor of a buffer, from the index `i` on. Each turn takes at least one
iterator from the list, so that `fuel` is its length. -/
def deleteRelated (buffer : Nat) : Nat → Nat → AbstractDeviceTracker T →
    Option (AbstractDeviceTracker T)
  | 0, _, t => some t
  | fuel + 1, i, t => do
    let b ← t.buffers.lookup buffer
    match b.relatedIterators[i]? with
    | none => return t
    | some iterator => deleteRelated buffer fuel (i + 1) (← t.deleteIterator buffer iterator)

/-- The destructor of a buffer. -/
def deleteBuffer (t : AbstractDeviceTracker T) (buffer : Nat) :
    Option (AbstractDeviceTracker T) := do
  let b ← t.buffers.lookup buffer
  let t ← deleteRelated buffer b.relatedIterators.length 0 t
  return { t with
    buffers := t.buffers.erase buffer
    garbageIterators := t.garbageIterators.erase b.iteratorGarbage }

/-- The first queue with the number of `queueToPurge` goes. -/
def removeQueueToGarbage (ids : Heap UInt32) (queueToPurge : Nat) : List Nat → Option (List Nat)
  | [] => some []
  | temp :: rest => do
    let a ← ids.lookup temp
    let b ← ids.lookup queueToPurge
    if a = b then return rest else return temp :: (← removeQueueToGarbage ids queueToPurge rest)

/-! ## The calls -/

/-- The buffer of the key, or a new one, gets one more iterator. -/
def openBuffer (t : AbstractDeviceTracker T) (validity discretization : UInt64) (found : UInt32) :
    Option (AbstractDeviceTracker T) := do
  let key := bufferKey validity discretization
  match t.lowResQueues.lookup key with
  | none =>
    let (t, buffer) ← t.newBuffer validity discretization found
    let t := { t with lowResQueues := t.lowResQueues.insert key buffer }
    let (t, iterator, id) ← t.getIterator buffer
    let b ← t.buffers.lookup buffer
    return { t with
      iteratorIdToBufferTracker := t.iteratorIdToBufferTracker.insert id buffer
      queues := t.queues ++ [b.iteratorGarbage]
      opened := t.opened ++ [(iterator, validity, discretization)] }
  | some buffer =>
    let (t, iterator, id) ← t.getIterator buffer
    return { t with
      iteratorIdToBufferTracker := t.iteratorIdToBufferTracker.insert id buffer
      opened := t.opened ++ [(iterator, validity, discretization)] }

/-- A buffer without readers goes, and so does the entry of its key; to erase an entry that is not
there is an error. With no buffer for its number the iterator would be one of the high resolution,
which no client has here. -/
def closeBuffer (t : AbstractDeviceTracker T) (iterator : Nat) :
    Option (AbstractDeviceTracker T) := do
  let it ← t.iterators.lookup iterator
  let t := { t with opened := t.opened.filter fun e => e.1 ≠ iterator }
  match t.iteratorIdToBufferTracker.lookup it.id with
  | none => return t
  | some buffer =>
    let b ← t.buffers.lookup buffer
    let key := b.key
    let t ← t.deleteIterator buffer iterator
    let b ← t.buffers.lookup buffer
    if b.numberOfReader = 0 then
      let queues ← removeQueueToGarbage t.garbageIterators b.iteratorGarbage t.queues
      let t ← { t with queues := queues }.deleteBuffer buffer
      if key ∈ t.lowResQueues then
        return { t with
          lowResQueues := t.lowResQueues.erase key
          iteratorIdToBufferTracker := t.iteratorIdToBufferTracker.erase it.id }
      else none
    else
      return { t with iteratorIdToBufferTracker := t.iteratorIdToBufferTracker.erase it.id }

/-- What happens to a tracker. A number may also be taken by another tracker. -/
inductive Op where
  | openBuffer (validity discretization : UInt64) (found : UInt32)
  | closeBuffer (iterator : Nat)
  | newIdElsewhere

def step (t : AbstractDeviceTracker T) : Op → Option (AbstractDeviceTracker T)
  | .openBuffer validity discretization found => t.openBuffer validity discretization found
  | .closeBuffer iterator => t.closeBuffer iterator
  | .newIdElsewhere => some t.getNewId.1

end AbstractDeviceTracker

end chaos.caching_system.caching_thread
