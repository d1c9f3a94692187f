-- A device tracker with its iterators of the high resolution, and how it is shut down. Both loops
-- over these iterators take one from the list that they walk, and go on with the next index.
import Chaos.DeviceTracker

open linked_heap

namespace chaos.caching_system.caching_thread

/-- `highResIterator` points to the iterators of the high resolution, whose numbers are in
`highResIds`. Their addresses are of the same memory as those of the low resolution. -/
structure DeviceTracker (T : Type) where
  lowRes : AbstractDeviceTracker T
  highResIterator : List Nat
  highResIds : Heap UInt32

namespace DeviceTracker

variable {T : Type} (t : DeviceTracker T)

def new (T : Type) (lastNumber : UInt32) (started : Option UInt32) : DeviceTracker T where
  lowRes := .new T lastNumber started
  highResIterator := []
  highResIds := ∅

/-- `getId` of an iterator. A deleted one has none. -/
def getId (iterator : Nat) : Option UInt32 :=
  match t.lowRes.iterators.lookup iterator with
  | some it => some it.id
  | none => t.highResIds.lookup iterator

def openMaxResBuffer : DeviceTracker T :=
  let (lowRes, id) := t.lowRes.getNewId
  { lowRes := { lowRes with allocated := lowRes.allocated + 1 }
    highResIterator := t.highResIterator ++ [lowRes.allocated]
    highResIds := t.highResIds.insert lowRes.allocated id }

def openBuffer (validity discretization : UInt64) (found : UInt32) : Option (DeviceTracker T) :=
  (t.lowRes.openBuffer validity discretization found).map fun lowRes => { t with lowRes := lowRes }

/-- The loop of `closeBuffer` over the iterators of the high resolution, from the index `i` on. The
number of the closed iterator is read in each turn, also after it was deleted. With `fuel` for each
iterator the loop comes to its end. -/
def closeLoop (iterator : Nat) : Nat → Nat → DeviceTracker T → Option (DeviceTracker T)
  | 0, _, t => some t
  | fuel + 1, i, t =>
    match t.highResIterator[i]? with
    | none => some t
    | some other => do
      let a ← t.getId iterator
      let b ← t.getId other
      if a = b then
        closeLoop iterator fuel (i + 1)
          { lowRes := { t.lowRes with iterators := t.lowRes.iterators.erase iterator }
            highResIterator := t.highResIterator.eraseIdx i
            highResIds := t.highResIds.erase iterator }
      else closeLoop iterator fuel (i + 1) t

/-- With a buffer for the number, the iterator is taken for one of its iterators. -/
def closeBuffer (iterator : Nat) : Option (DeviceTracker T) := do
  let id ← t.getId iterator
  match t.lowRes.iteratorIdToBufferTracker.lookup id with
  | none =>
    let opened := t.lowRes.opened.filter fun e => e.1 ≠ iterator
    closeLoop iterator t.highResIterator.length 0 { t with
      lowRes := { t.lowRes with opened := opened } }
  | some buffer =>
    let lowRes :=
      if iterator ∈ t.lowRes.iterators then t.lowRes
      else { t.lowRes with
        iterators := t.lowRes.iterators.insert iterator { id := id, queue := buffer } }
    let lowRes ← lowRes.closeBuffer iterator
    return { t with lowRes := lowRes, highResIds := t.highResIds.erase iterator }

/-- The loop of `shutDownTracking` over the iterators of the high resolution. Each turn takes at
least one from the list or goes on to the next. -/
def shutDownLoop : Nat → Nat → DeviceTracker T → Option (DeviceTracker T)
  | 0, _, t => some t
  | fuel + 1, i, t =>
    match t.highResIterator[i]? with
    | none => some t
    | some iterator => (t.closeBuffer iterator).bind (shutDownLoop fuel (i + 1))

/-- What follows the loop walks an empty map, and deletes no buffer. -/
def shutDownTracking : Option (DeviceTracker T) := shutDownLoop t.highResIterator.length 0 t

/-- What happens to a tracker before it is shut down. -/
inductive Op where
  | openMaxResBuffer
  | openBuffer (validity discretization : UInt64) (found : UInt32)
  | closeBuffer (iterator : Nat)
  | newIdElsewhere

def step (t : DeviceTracker T) : Op → Option (DeviceTracker T)
  | .openMaxResBuffer => some t.openMaxResBuffer
  | .openBuffer validity discretization found => t.openBuffer validity discretization found
  | .closeBuffer iterator => t.closeBuffer iterator
  | .newIdElsewhere => some { t with lowRes := t.lowRes.getNewId.1 }

end DeviceTracker

end chaos.caching_system.caching_thread
