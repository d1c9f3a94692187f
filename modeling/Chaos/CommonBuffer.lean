-- The queue of the caching system: one writer puts elements at the head, any number of readers
-- take the ones that are not out of date, and one garbage iterator moves the pivot over the old
-- ones and frees what no smart pointer holds. Each call is one step, and the clock stands still
-- inside it.
import Chaos.LinkedHeap
import Chaos.Runs

open Function runs linked_heap

namespace chaos.caching_system

variable {U : Type}

/-! ## The elements and the queue -/

/-- `timestamp` has the 64 bits of the `long` that `getTimestamp` returns. -/
structure AbstractDataElement (U : Type) where
  data : U
  timestamp : UInt64

/-- The pointers `next` and `data` may be NULL. -/
structure Element (U : Type) where
  next : Option Nat := none
  data : Option (AbstractDataElement U) := none
  timedOut : UInt64 := 0

/-- `elements` holds what is allocated and not freed, by its address, and the two counters of an
element stand beside it. An address is given out once: it is the number of elements that were
allocated before. `eliminati` is not in the code: the addresses that were freed, in order. -/
structure CommonBuffer (U : Type) where
  elements : Heap (Element U)
  readerCount : Nat → UInt32
  referenceCount : Nat → UInt32
  allocati : Nat
  eliminati : List Nat
  head : Nat
  tail : Nat
  last : Option Nat
  pivot : Nat
  validita : UInt64
  elementiInCodaCorrenti : UInt32

/-- `stopAndResume` is the element that the smart pointer of the iterator points to. -/
structure IteratorBase where
  current : Option Nat := none
  stopAndResume : Option Nat := none
  deriving DecidableEq

/-- The garbage iterator never has a smart pointer. -/
structure IteratorGarbage where
  current : Nat
  lastDiv : Option Nat := none
  deriving DecidableEq

/-- One more, or one less, in the counter of an element. -/
def bump (count : Nat → UInt32) (n : Nat) : Nat → UInt32 := update count n (count n + 1)

@[inherit_doc bump]
def drop (count : Nat → UInt32) (n : Nat) : Nat → UInt32 := update count n (count n - 1)

namespace CommonBuffer

/-- A validity of less than 1 is 1. -/
def atLeastOne (validity : UInt64) : UInt64 := if validity < 1 then 1 else validity

/-- The queue with its dummy element. -/
def new (U : Type) (validity : UInt64) : CommonBuffer U :=
  { elements := (∅ : Heap (Element U)).insert 0 {}
    readerCount := fun _ => 0
    referenceCount := fun _ => 0
    allocati := 1
    eliminati := []
    head := 0
    tail := 0
    last := none
    pivot := 0
    validita := atLeastOne validity
    elementiInCodaCorrenti := 0 }

def setValidity (b : CommonBuffer U) (validity : UInt64) : CommonBuffer U :=
  { b with validita := atLeastOne validity }

/-! ## The operations of an element

An operation on an element that is not allocated is `none`, and so is one through a null pointer. -/

def increment (b : CommonBuffer U) (n : Nat) : Option (CommonBuffer U) :=
  (b.elements.lookup n).map fun _ => { b with readerCount := bump b.readerCount n }

def decrementCounter (b : CommonBuffer U) (n : Nat) : Option (CommonBuffer U) :=
  (b.elements.lookup n).map fun _ => { b with readerCount := drop b.readerCount n }

def incrementReferenceCount (b : CommonBuffer U) (n : Nat) : Option (CommonBuffer U) :=
  (b.elements.lookup n).map fun _ => { b with referenceCount := bump b.referenceCount n }

def decrementReferenceCount (b : CommonBuffer U) (n : Nat) : Option (CommonBuffer U) :=
  (b.elements.lookup n).map fun _ => { b with referenceCount := drop b.referenceCount n }

/-- The comparison is one of unsigned numbers. An element without data is never out of date. -/
def isValid (b : CommonBuffer U) (now : UInt64) (n : Nat) : Option Bool :=
  (b.elements.lookup n).map fun e => !(e.data.isSome && decide (e.timedOut < now))

/-- The constructor and the destructor of a smart pointer. -/
def newSmartPointer (b : CommonBuffer U) (n : Nat) : Option (CommonBuffer U) :=
  b.incrementReferenceCount n

@[inherit_doc newSmartPointer]
def deleteSmartPointer (b : CommonBuffer U) (n : Nat) : Option (CommonBuffer U) :=
  b.decrementReferenceCount n

/-! ## The writer -/

/-- A new element, with its two counters at zero. -/
def allocNode (b : CommonBuffer U) : CommonBuffer U × Nat :=
  ({ b with
      elementiInCodaCorrenti := b.elementiInCodaCorrenti + 1
      elements := b.elements.insert b.allocati {}
      readerCount := update b.readerCount b.allocati 0
      referenceCount := update b.referenceCount b.allocati 0
      allocati := b.allocati + 1 },
    b.allocati)

/-- To free an element that is not allocated is an error. -/
def deAllocNode (b : CommonBuffer U) (node : Nat) : Option (CommonBuffer U) :=
  (b.elements.lookup node).map fun _ =>
    { b with
      elementiInCodaCorrenti := b.elementiInCodaCorrenti - 1
      elements := b.elements.erase node
      eliminati := b.eliminati ++ [node] }

/-- The data go in the element at the head, and a new element is the head after it. The result is
the element of the smart pointer, if one was asked for. -/
def enqueue (b : CommonBuffer U) (data : AbstractDataElement U) (smartPointer : Bool) :
    Option (CommonBuffer U × Option Nat) := do
  let (b, node) := b.allocNode
  let testa := b.head
  let timeout := data.timestamp + b.validita
  let e ← b.elements.lookup testa
  let b := { b with
    elements := b.elements.insert testa { e with data := some data, timedOut := timeout }
    last := some testa }
  let b ← if smartPointer then b.newSmartPointer testa else some b
  let e ← b.elements.lookup testa
  let b := { b with elements := b.elements.insert testa { e with next := some node }, head := node }
  return (b, if smartPointer then some testa else none)

/-! ## The garbage -/

/-- The element at the tail goes, unless it is the pivot or the head. -/
def dequeue (b : CommonBuffer U) : Option (CommonBuffer U) :=
  if b.tail = b.pivot ∨ b.tail = b.head then some b
  else do
    let e ← b.elements.lookup b.tail
    let next ← e.next
    { b with tail := next }.deAllocNode b.tail

/-- The loop of `clearUnusedData`. It goes over each element at most once, so that `fuel` is the
number of elements that were ever allocated. -/
def clearLoop (fine testa : Nat) :
    Nat → CommonBuffer U → Option Nat → Nat → Option (CommonBuffer U)
  | 0, _, _, _ => none
  | fuel + 1, b, prev, cursor =>
    if cursor = fine ∨ cursor = testa then some b
    else do
      let e ← b.elements.lookup cursor
      if b.referenceCount cursor ≤ 0 then
        if cursor = b.tail then
          let b ← b.dequeue
          clearLoop fine testa fuel b none b.tail
        else
          let p ← prev
          let before ← b.elements.lookup p
          let b := { b with elements := b.elements.insert p { before with next := e.next } }
          let b ← b.deAllocNode cursor
          match e.next with
          | none => some b
          | some succ => clearLoop fine testa fuel b prev succ
      else
        match e.next with
        | none => some b
        | some succ => clearLoop fine testa fuel b (some cursor) succ

/-- Free the elements from the tail to the pivot that no smart pointer points to. -/
def clearUnusedData (b : CommonBuffer U) : Option (CommonBuffer U) :=
  clearLoop b.pivot b.head b.allocati b none b.tail

/-- The garbage iterator begins at the pivot, and reads there. -/
def getIteratorGarbage (b : CommonBuffer U) : Option (CommonBuffer U × IteratorGarbage) := do
  let c ← b.increment b.pivot
  return (c, { current := b.pivot })

/-- The iterator is on an element that can be read. -/
def isReady (b : CommonBuffer U) (current : Option Nat) : Option Bool := do
  let c ← current
  let e ← b.elements.lookup c
  return !(e.next.isNone || c == b.head || e.data.isNone)

/-- Move the pivot over one element that is out of date. The last element before the head stays
after the pivot, whatever its age. -/
def markOldData (now : UInt64) (b : CommonBuffer U) (g : IteratorGarbage) :
    Option (Bool × CommonBuffer U × IteratorGarbage) := do
  let tempDiv := b.pivot
  let e ← b.elements.lookup tempDiv
  if !(← b.isValid now tempDiv) && e.next.isSome && tempDiv != b.head && e.next != some b.head then
    let next ← e.next
    let (b, g) ←
      if g.lastDiv ≠ some tempDiv then do
        let b ← b.increment next
        let b ← b.decrementCounter tempDiv
        some (b, { current := next, lastDiv := some tempDiv })
      else some (b, g)
    if b.readerCount tempDiv ≤ 0 then return (true, { b with pivot := next }, g)
    else return (false, b, g)
  else return (false, b, g)

/-- The loop over `markOldData`. -/
def markLoop (now : UInt64) :
    Nat → CommonBuffer U → IteratorGarbage → Option (CommonBuffer U × IteratorGarbage)
  | 0, _, _ => none
  | fuel + 1, b, g => do
    let (again, b, g) ← markOldData now b g
    if again then markLoop now fuel b g else return (b, g)

def clearQueue (now : UInt64) (b : CommonBuffer U) (g : IteratorGarbage) :
    Option (CommonBuffer U × IteratorGarbage) := do
  let b ← b.clearUnusedData
  if ← b.isReady (some g.current) then markLoop now b.allocati b g else return (b, g)

/-! ## The readers -/

/-- The pivot cannot change inside a call, so that the loop ends in its first turn. -/
def lockPivot (b : CommonBuffer U) : Option (CommonBuffer U × Nat) := do
  let b ← b.increment b.pivot
  return (b, b.pivot)

def unlockPivot (b : CommonBuffer U) (pivo : Nat) : Option (CommonBuffer U) :=
  b.decrementCounter pivo

def attachStream (b : CommonBuffer U) (it : IteratorBase) :
    Option (CommonBuffer U × IteratorBase) := do
  let b ← b.increment b.pivot
  return (b, { it with current := some b.pivot })

def leaveStream (b : CommonBuffer U) (it : IteratorBase) : Option (CommonBuffer U) := do
  let c ← it.current
  let _ ← b.elements.lookup c
  if 0 < b.readerCount c then b.decrementCounter c else return b

/-- Go to the next element: it is counted before the one that is left. -/
def updateIterator (b : CommonBuffer U) (it : IteratorBase) :
    Option (CommonBuffer U × IteratorBase) := do
  let c ← it.current
  let e ← b.elements.lookup c
  let m ← e.next
  let b ← b.increment m
  let b ← if 0 < b.readerCount c then b.decrementCounter c else some b
  return (b, { it with current := some m })

/-- Delete the smart pointer of the iterator, if it has one. -/
def dropResume (b : CommonBuffer U) (it : IteratorBase) :
    Option (CommonBuffer U × IteratorBase) := do
  let b ← match it.stopAndResume with
    | none => some b
    | some n => b.deleteSmartPointer n
  return (b, { it with stopAndResume := none })

/-- The smart pointer of the iterator goes to its current element. -/
def stopHere (b : CommonBuffer U) (it : IteratorBase) :
    Option (CommonBuffer U × IteratorBase) := do
  let (b, it) ← b.dropResume it
  let c ← it.current
  let b ← b.newSmartPointer c
  return (b, { it with stopAndResume := some c })

/-- The do loop of `jumpToNextValidElement`, which goes on by one element in a turn. -/
def jumpLoop (now : UInt64) (testa : Nat) :
    Nat → CommonBuffer U → IteratorBase → Option (Bool × CommonBuffer U × IteratorBase)
  | 0, _, _ => none
  | fuel + 1, b, it => do
    if ← b.isReady it.current then
      let (b, it) ← b.updateIterator it
      let c ← it.current
      if !(← b.isValid now c) && c != testa then jumpLoop now testa fuel b it
      else return (true, b, it)
    else
      let (b, it) ← b.stopHere it
      let b ← b.leaveStream it
      return (false, b, it)

def jumpToNextValidElement (now : UInt64) (b : CommonBuffer U) (it : IteratorBase) :
    Option (Bool × CommonBuffer U × IteratorBase) := do
  let testa := b.head
  let c ← it.current
  let _ ← b.elements.lookup c
  let b ← if b.readerCount c = 0 then b.increment c else some b
  if ← b.isReady it.current then
    if !(← b.isValid now c) then jumpLoop now testa b.allocati b it else return (true, b, it)
  else
    let (b, it) ← b.stopHere it
    let b ← b.leaveStream it
    return (false, b, it)

/-- Leave the current element for the pivot, and go on from there. -/
def restartAtPivot (now : UInt64) (b : CommonBuffer U) (it : IteratorBase) :
    Option (Bool × CommonBuffer U × IteratorBase) := do
  let b ← b.leaveStream it
  let (b, it) ← b.dropResume it
  let (b, it) ← b.attachStream it
  jumpToNextValidElement now b it

/-- The element that a read begins with. The reader comes back to the element where it stopped,
and where that one is out of date it goes on from there or from the pivot, as their time-outs say.
It is `false` when there is nothing to read. -/
def chooseCurrent (now : UInt64) (b : CommonBuffer U) (it : IteratorBase) :
    Option (Bool × CommonBuffer U × IteratorBase) := do
  let testa := b.head
  if it.stopAndResume.isSome then
    let c ← it.current
    let e ← b.elements.lookup c
    if ← b.isValid now c then
      let b ← b.increment c
      let (b, it) ← b.dropResume it
      return (true, b, it)
    else if e.next.isNone || c == testa then
      let (b, it) ← b.stopHere it
      return (false, b, it)
    else
      let b ← b.increment c
      let limitTimeStamp := e.timedOut
      if b.pivot ≠ testa then
        let p ← b.elements.lookup b.pivot
        if p.timedOut < limitTimeStamp then
          let (found, b, it) ← jumpToNextValidElement now b it
          if found then
            let (b, it) ← b.dropResume it
            return (true, b, it)
          else return (false, b, it)
        else restartAtPivot now b it
      else restartAtPivot now b it
  else if it.current.isNone then
    let (b, it) ← b.attachStream it
    return (true, b, it)
  else return (true, b, it)

/-- The loop of `bufferedReader`, with the elements of the smart pointers that it makes. -/
def readLoop (testa : Nat) :
    Nat → CommonBuffer U → IteratorBase → Option (List Nat × CommonBuffer U × IteratorBase)
  | 0, b, it => some ([], b, it)
  | limit + 1, b, it => do
    if (← b.isReady it.current) && it.current != some testa then
      let c ← it.current
      let b ← b.newSmartPointer c
      let (b, it) ← b.updateIterator it
      let (buffer, b, it) ← readLoop testa limit b it
      return (c :: buffer, b, it)
    else return ([], b, it)

/-- A negative limit is `INT_MAX`. -/
def readLimit (limit : Int) : Nat := if limit < 0 then 2147483647 else limit.toNat

def bufferedReader (now : UInt64) (limit : Int) (b : CommonBuffer U) (it : IteratorBase) :
    Option (List Nat × CommonBuffer U × IteratorBase) := do
  let (b, tempPivot) ← b.lockPivot
  let (found, b, it) ← chooseCurrent now b it
  let b ← b.unlockPivot tempPivot
  if found then
    let (buffer, b, it) ← readLoop b.head (readLimit limit) b it
    let (b, it) ← b.stopHere it
    let b ← b.leaveStream it
    return (buffer, b, it)
  else return ([], b, it)

end CommonBuffer

/-! ## The runs -/

/-- The histories are not in the code: the elements that the reader received, each with the time
of its read, the times of its reads, and the pivot at its first read. -/
structure IteratorReader extends IteratorBase where
  received : List (Nat × UInt64) := []
  reads : List UInt64 := []
  first : Option Nat := none
  deriving DecidableEq

/-- What the histories of a reader are after a read. -/
def IteratorReader.note (r : IteratorReader) (now : UInt64) (pivot : Nat) (buffer : List Nat)
    (it : IteratorBase) : IteratorReader :=
  { it with
    received := r.received ++ buffer.map fun n => (n, now)
    reads := r.reads ++ [now]
    first := r.first.or (some pivot) }

/-- A queue with all who use it. `pointers` are the elements of the smart pointers that the
clients hold, `now` is the clock, and `timeouts` is not in the code: the time-out that each
element was enqueued with. -/
structure System (U : Type) where
  queue : CommonBuffer U
  readers : List IteratorReader := []
  garbage : Option IteratorGarbage := none
  pointers : List Nat := []
  now : UInt64
  timeouts : List UInt64 := []

/-- The calls, and the clock that goes on between them. -/
inductive Op (U : Type) where
  | enqueue (data : AbstractDataElement U) (smartPointer : Bool)
  | setValidity (validity : UInt64)
  | newReader
  | bufferedReader (reader : Nat) (limit : Int)
  | release (pointer : Nat)
  | getIteratorGarbage
  | clearQueue
  | tick (time : UInt64)

namespace System

def new (U : Type) (validity now : UInt64) : System U :=
  { queue := CommonBuffer.new U validity, now := now }

def enqueue (w : System U) (data : AbstractDataElement U) (smartPointer : Bool) :
    Option (System U) := do
  let (b, pointer) ← w.queue.enqueue data smartPointer
  return { w with
    queue := b
    pointers := w.pointers ++ pointer.toList
    timeouts := w.timeouts ++ [data.timestamp + w.queue.validita] }

def bufferedReader (w : System U) (i : Nat) (limit : Int) : Option (System U) :=
  match w.readers[i]? with
  | none => some w
  | some r => do
    let (buffer, b, it) ← w.queue.bufferedReader w.now limit r.toIteratorBase
    return { w with
      queue := b
      readers := w.readers.set i (r.note w.now w.queue.pivot buffer it)
      pointers := w.pointers ++ buffer }

/-- A client deletes one of its smart pointers. -/
def release (w : System U) (i : Nat) : Option (System U) :=
  match w.pointers[i]? with
  | none => some w
  | some n => do
    let b ← w.queue.deleteSmartPointer n
    return { w with queue := b, pointers := w.pointers.eraseIdx i }

/-- There is only one garbage iterator. -/
def getIteratorGarbage (w : System U) : Option (System U) :=
  if w.garbage.isSome then some w
  else do
    let (b, g) ← w.queue.getIteratorGarbage
    return { w with queue := b, garbage := some g }

def clearQueue (w : System U) : Option (System U) :=
  match w.garbage with
  | none => some w
  | some g => do
    let (b, g) ← w.queue.clearQueue w.now g
    return { w with queue := b, garbage := some g }

def step (w : System U) : Op U → Option (System U)
  | .enqueue data smartPointer => w.enqueue data smartPointer
  | .setValidity validity => some { w with queue := w.queue.setValidity validity }
  | .newReader => some { w with readers := w.readers ++ [{}] }
  | .bufferedReader i limit => w.bufferedReader i limit
  | .release i => w.release i
  | .getIteratorGarbage => w.getIteratorGarbage
  | .clearQueue => w.clearQueue
  | .tick time => some { w with now := max w.now time }

end System

end chaos.caching_system
