-- The two queues that hand their elements to a group of worker threads: the plain one and the one
-- with priorities. The threads, `deinit` and the other callers interleave; what happens under
-- `qMutex` is one step. A wait on a condition may end without a notification, so a thread that
-- waits can always look at the queue again, and the notifications are no part of the state.
import Chaos.BinaryHeap
import Chaos.Runs

namespace chaos.pqueue

open runs List

/-! ## One element -/

/-- What the listener and `processBufferElement` do with an element. An exception of
`elementWillBeProcessed` is one of `processBufferElement` before it does anything. -/
structure Processing where
  eventListener : Bool
  elementWillBeProcessed : Bool := true
  elementHasBeenDetached : Bool := false
  throws : Bool := false
  elementWillBeDiscarded : Bool := true
  deriving DecidableEq, Repr

/-- The listener does not want the element to be processed. -/
def Processing.stopped (p : Processing) : Bool := p.eventListener && !p.elementWillBeProcessed

/-- The listener does not want the element to be discarded. -/
def Processing.kept (p : Processing) : Bool := p.eventListener && !p.elementWillBeDiscarded

inductive Fate where
  | deleted
  | detached
  | kept
  deriving DecidableEq, Repr

def Processing.detaching (p : Processing) : List Fate :=
  if p.elementHasBeenDetached then [.detached] else []

/-- What the two queues have of their own. `wrap` is what `push` puts into the queue for an
element, and `drain` is the order in which `clear` takes the elements out. `executeOnThread` is one
round of the loop: what becomes of the element, and whether the thread leaves the loop. -/
structure QueueKind (E A : Type) where
  full : List E → Bool
  wrap : Nat → A → E
  element : E → Nat
  push : List E → E → List E
  pop : List E → List E
  drain : List E → List E
  executeOnThread : E → Processing → List Fate × Bool
  clear : E → List Fate
  element_wrap : ∀ n a, element (wrap n a) = n
  push_perm : ∀ q e, push q e ~ e :: q
  pop_perm : ∀ e q, pop (e :: q) ~ q
  drain_perm : ∀ q, drain q ~ q

/-! ## The plain queue -/

namespace CObjectProcessingQueue

def CObjectProcessingQueue_MAX_ELEMENT_IN_QUEUE : Nat := 1000

def executeOnThread (p : Processing) : List Fate × Bool :=
  if p.stopped then ([.deleted], false)
  -- a detached element goes no further, unless an exception came after it was detached
  else if p.elementHasBeenDetached && !p.throws then (p.detaching, false)
  else if p.kept then (p.detaching ++ [.kept], true)
  else (p.detaching ++ [.deleted], false)

/-- `clear` pops the pointers and deletes nothing. -/
def kind : QueueKind Nat Unit where
  full q := decide (CObjectProcessingQueue_MAX_ELEMENT_IN_QUEUE < q.length)
  wrap n _ := n
  element n := n
  push q n := q ++ [n]
  pop q := q.tail
  drain q := q
  executeOnThread _ p := executeOnThread p
  clear _ := []
  element_wrap _ _ := rfl
  push_perm q e := perm_append_singleton e q
  pop_perm _ _ := .refl _
  drain_perm _ := .refl _

end CObjectProcessingQueue

/-! ## The queue with priorities -/

structure PriorityQueuedElement where
  element : Nat
  priority : Int := 50
  disposeOnDestroy : Bool := true
  deriving DecidableEq, Repr

/-- The destructor of the wrapper. An element that it does not delete stays with its owner, as a
detached one does. -/
def PriorityQueuedElement.destroy (e : PriorityQueuedElement) : Fate :=
  if e.disposeOnDestroy then .deleted else .detached

namespace CObjectProcessingPriorityQueue

/-- An exception leaves `disposeOnDestroy` as it was pushed. A listener that keeps the element
keeps the thread in its loop. -/
def executeOnThread (e : PriorityQueuedElement) (p : Processing) : List Fate × Bool :=
  if p.stopped then ([e.destroy], false)
  else
    let after : PriorityQueuedElement :=
      if p.throws then e else { e with disposeOnDestroy := !p.elementHasBeenDetached }
    if p.kept then (p.detaching ++ [.kept], false)
    else if after.disposeOnDestroy then (p.detaching ++ [.deleted], false)
    else ([after.destroy], false)

/-- The priority is an `unsigned int` that becomes an `int`. -/
def kind : QueueKind PriorityQueuedElement (BitVec 32 × Bool) where
  full _ := false
  wrap n a := { element := n, priority := a.1.toInt, disposeOnDestroy := a.2 }
  element e := e.element
  push q e := heap.push (·.priority) q e
  pop q := heap.pop (·.priority) q
  drain q := heap.drain (·.priority) q.length q
  executeOnThread := executeOnThread
  clear e := [e.destroy]
  element_wrap _ _ := rfl
  push_perm _ _ := heap.push_perm
  pop_perm _ _ := heap.pop_perm
  drain_perm _ := heap.drain_perm (Nat.le_refl _)

end CObjectProcessingPriorityQueue

/-! ## The threads -/

/-- Where a worker thread is: before the test of its loop, before the lock of `waitAndPop`, waiting
for an element, with an element, or out of its loop. -/
inductive ThreadPhase (E : Type) where
  | looping
  | entering
  | waiting
  | processing (e : E)
  | ended
  deriving DecidableEq, Repr

/-- The thread is in `waitAndPop`, and takes an element before it tests its loop again. -/
def ThreadPhase.popping {E : Type} : ThreadPhase E → Bool
  | .entering | .waiting => true
  | _ => false

/-- Elements are named by the number of their acceptance. `draining` is the number of the calls of
`deinit(true)` that wait for the empty queue. The last three are not in the code: the number of the
accepted elements, the thread that each delivered element went to, and what became of each. -/
structure ProcessingQueue (E : Type) where
  bufferQueue : List E := []
  in_deinit : Bool := false
  threads : List (ThreadPhase E)
  draining : Nat := 0
  accepted : Nat := 0
  delivered : List (Nat × Nat) := []
  fates : List (Nat × Fate) := []
  deriving DecidableEq, Repr

namespace ProcessingQueue

variable {E A : Type}

/-- The queue after `init`. -/
def init (threadNumber : Nat) : ProcessingQueue E :=
  { threads := replicate threadNumber .looping }

def move (s : ProcessingQueue E) (thread : Nat) (phase : ThreadPhase E) : ProcessingQueue E :=
  { s with threads := s.threads.set thread phase }

/-- A push that is refused leaves the element with its caller. -/
def push (k : QueueKind E A) (s : ProcessingQueue E) (args : A) : ProcessingQueue E :=
  if s.in_deinit || k.full s.bufferQueue then s
  else { s with
    bufferQueue := k.push s.bufferQueue (k.wrap s.accepted args)
    accepted := s.accepted + 1 }

/-- The test of the loop of `executeOnThread`. -/
def loop (s : ProcessingQueue E) (thread : Nat) : Option (ProcessingQueue E) :=
  match s.threads[thread]? with
  | some .looping => some (s.move thread (if s.in_deinit then .ended else .entering))
  | _ => none

/-- One look at the queue. Without an element the thread waits, or goes back to its loop when
the queue is in deinit. -/
def waitAndPop (k : QueueKind E A) (s : ProcessingQueue E) (thread : Nat) :
    Option (ProcessingQueue E) :=
  match s.threads[thread]? with
  | some .entering | some .waiting =>
    match s.bufferQueue with
    | [] => some (s.move thread (if s.in_deinit then .looping else .waiting))
    | e :: rest =>
      some ({ s with
        bufferQueue := k.pop (e :: rest)
        delivered := s.delivered ++ [(k.element e, thread)] }.move thread (.processing e))
  | _ => none

/-- The round of the loop after `waitAndPop`. -/
def process (k : QueueKind E A) (s : ProcessingQueue E) (thread : Nat) (p : Processing) :
    Option (ProcessingQueue E) :=
  match s.threads[thread]? with
  | some (.processing e) =>
    let done := k.executeOnThread e p
    some ({ s with fates := s.fates ++ done.1.map (k.element e, ·) }.move thread
      (if done.2 then .ended else .looping))
  | _ => none

def clear (k : QueueKind E A) (s : ProcessingQueue E) : ProcessingQueue E :=
  { s with
    bufferQueue := []
    fates := s.fates ++ (k.drain s.bufferQueue).flatMap fun e => (k.clear e).map (k.element e, ·) }

/-- `deinit` up to its wait. What comes after it, the notification of the threads and the join,
changes nothing here. -/
def deinit (s : ProcessingQueue E) (waithForEmptyQueue : Bool) : ProcessingQueue E :=
  { s with
    in_deinit := true
    draining :=
      if waithForEmptyQueue && !s.bufferQueue.isEmpty then s.draining + 1 else s.draining }

/-- A call of `deinit` that waits looks at the queue again. -/
def waitEmpty (s : ProcessingQueue E) : Option (ProcessingQueue E) :=
  match s.draining with
  | 0 => none
  | others + 1 => some (if s.bufferQueue.isEmpty then { s with draining := others } else s)

inductive Label (A : Type) where
  | push (args : A)
  | loop (thread : Nat)
  | waitAndPop (thread : Nat)
  | process (thread : Nat) (p : Processing)
  | clear
  | deinit (waithForEmptyQueue : Bool)
  | waitEmpty
  deriving DecidableEq, Repr

def step (k : QueueKind E A) (s : ProcessingQueue E) : Label A → Option (ProcessingQueue E)
  | .push args => some (s.push k args)
  | .loop thread => s.loop thread
  | .waitAndPop thread => s.waitAndPop k thread
  | .process thread p => s.process k thread p
  | .clear => some (s.clear k)
  | .deinit waithForEmptyQueue => some (s.deinit waithForEmptyQueue)
  | .waitEmpty => s.waitEmpty

/-! ## What the queue promises -/

/-- The thread has the element with this number. -/
def holds (k : QueueKind E A) (n : Nat) : ThreadPhase E → Bool
  | .processing e => decide (k.element e = n)
  | _ => false

/-- How often an element is in the queue, with a thread, or has met its fate. -/
def places (k : QueueKind E A) (s : ProcessingQueue E) (n : Nat) : Nat :=
  (s.bufferQueue.map k.element).count n + s.threads.countP (holds k n) +
    (s.fates.map Prod.fst).count n

/-- A call of `deinit(true)` waits for the elements of the queue, and no thread is there who would
take them. -/
def Hanging (s : ProcessingQueue E) : Prop :=
  0 < s.draining ∧ s.bufferQueue ≠ [] ∧ ∀ phase ∈ s.threads, phase = .ended

/-- Every accepted element goes to one thread at most and has one place, and `deinit` does not wait
for threads that are gone. -/
structure DrainsAndDisposes (k : QueueKind E A) (s : ProcessingQueue E) : Prop where
  delivered_once : (s.delivered.map Prod.fst).Nodup
  one_place : ∀ n < s.accepted, s.places k n = 1
  not_hanging : ¬ s.Hanging

/-- The number of the threads that still take an element. -/
def poppers (s : ProcessingQueue E) : Nat := s.threads.countP (·.popping)

end ProcessingQueue

end chaos.pqueue
