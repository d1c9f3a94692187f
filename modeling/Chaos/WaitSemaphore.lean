-- The semaphores that the synchronous requests of a message channel wait on. Each request id has
-- a semaphore in a map; the thread that sent the request waits on it, and the thread that gets
-- the response leaves it there and wakes the waiter. Each critical section is one step.
import Chaos.Runs

namespace chaos.common.thread

/-! ## The state -/

/-- A response is named by the number of its arrival. -/
structure ObjectWaitSemaphore where
  inWait : Bool := false
  answered : Bool := false
  objecForWait : Option Nat := none
  deriving DecidableEq, Repr

/-- Where a thread is in `wait`: before the section of the semaphore, inside it and asleep, or
after it with what it took from there. -/
inductive WaitPhase where
  | entering
  | blocked
  | returning (result : Option Nat)
  deriving DecidableEq, Repr

structure Waiter (K : Type*) where
  waitOnKey : K
  ks : Nat
  timed : Bool
  phase : WaitPhase
  deriving DecidableEq, Repr

/-- A call of `setWaithedObjectForKey` that found a semaphore. It has the lock of the map to its
end; `isSet` says that it has left the object. -/
structure Setter (K : Type*) where
  key : K
  obj : Nat
  ks : Nat
  isSet : Bool
  deriving DecidableEq, Repr

/-- An entry of the map may be NULL, and a semaphore that is deleted is `none` in `sems`.
The lists are not in the code: the keys of the responses in the order they arrived, the
responses that were accepted for a key, and the ones that a wait on a key returned. -/
structure MultiKeyObjectWaitSemaphore (K : Type*) where
  keySemaphoreMap : K → Option (Option Nat) := fun _ => none
  sems : Nat → Option ObjectWaitSemaphore := fun _ => none
  next : Nat := 0
  setter : Option (Setter K) := none
  waiters : Nat → Option (Waiter K) := fun _ => none
  arrived : List K := []
  accepted : List (K × Nat) := []
  returned : List (K × Nat) := []

namespace ObjectWaitSemaphore

def setWaithedObject (ks : ObjectWaitSemaphore) (obj : Nat) : ObjectWaitSemaphore :=
  { ks with objecForWait := some obj }

def unlock (ks : ObjectWaitSemaphore) : ObjectWaitSemaphore := { ks with answered := true }

/-- The first part of `wait`, up to the sleep. Another thread that waits makes it return NULL. -/
def enterWait (ks : ObjectWaitSemaphore) : ObjectWaitSemaphore × WaitPhase :=
  if ks.inWait then (ks, .returning none)
  else ({ ks with inWait := true, answered := false }, .blocked)

/-- The last part of `wait`, after the sleep. -/
def leaveWait (ks : ObjectWaitSemaphore) : ObjectWaitSemaphore × WaitPhase :=
  ({ inWait := false, answered := false, objecForWait := none }, .returning ks.objecForWait)

end ObjectWaitSemaphore

/-! ## The steps -/

namespace MultiKeyObjectWaitSemaphore

variable {K : Type*} [DecidableEq K]

/-- `initKey` leaves a key that has an entry as it is, also when the entry is NULL. -/
def initKey (s : MultiKeyObjectWaitSemaphore K) (keyToInit : K) :
    Option (MultiKeyObjectWaitSemaphore K) :=
  if (s.keySemaphoreMap keyToInit).isSome then some s
  else if s.setter.isSome then none
  else some { s with
    keySemaphoreMap := Function.update s.keySemaphoreMap keyToInit (some (some s.next))
    sems := Function.update s.sems s.next (some {})
    next := s.next + 1 }

/-- A response arrives, and `setWaithedObjectForKey` takes the lock of the map. It returns false
at once where the key has no semaphore. -/
def setWaithedObjectForKey (s : MultiKeyObjectWaitSemaphore K) (key : K) :
    Option (MultiKeyObjectWaitSemaphore K) :=
  if s.setter.isSome then none
  else
    let s' := { s with arrived := s.arrived ++ [key] }
    match s.keySemaphoreMap key with
    | some (some ks) => some { s' with setter := some ⟨key, s.arrived.length, ks, false⟩ }
    | _ => some s'

/-- The section of `setWaithedObject`. -/
def setObject (s : MultiKeyObjectWaitSemaphore K) : Option (MultiKeyObjectWaitSemaphore K) :=
  match s.setter with
  | some ⟨key, obj, ks, false⟩ =>
    (s.sems ks).map fun sem => { s with
      sems := Function.update s.sems ks (some (sem.setWaithedObject obj))
      setter := some ⟨key, obj, ks, true⟩ }
  | _ => none

/-- The section of `unlock`; the call then returns true and gives the lock of the map back. -/
def unlock (s : MultiKeyObjectWaitSemaphore K) : Option (MultiKeyObjectWaitSemaphore K) :=
  match s.setter with
  | some ⟨key, obj, ks, true⟩ =>
    (s.sems ks).map fun sem => { s with
      sems := Function.update s.sems ks (some sem.unlock)
      setter := none
      accepted := s.accepted ++ [(key, obj)] }
  | _ => none

/-- `wait` finds the semaphore, under the lock of the map. A key without an entry gets a NULL
one, and the wait returns NULL. -/
def wait (s : MultiKeyObjectWaitSemaphore K) (thread : Nat) (waitOnKey : K) (timed : Bool) :
    Option (MultiKeyObjectWaitSemaphore K) :=
  if s.setter.isSome ∨ (s.waiters thread).isSome then none
  else
    match s.keySemaphoreMap waitOnKey with
    | none => some { s with
        keySemaphoreMap := Function.update s.keySemaphoreMap waitOnKey (some none) }
    | some none => some s
    | some (some ks) => some { s with
        waiters := Function.update s.waiters thread (some ⟨waitOnKey, ks, timed, .entering⟩) }

/-- One section of the semaphore in `wait`. Using a semaphore that was deleted is undefined. -/
def waiterStep (s : MultiKeyObjectWaitSemaphore K) (thread : Nat) (w : Waiter K)
    (change : ObjectWaitSemaphore → ObjectWaitSemaphore × WaitPhase) :
    Option (MultiKeyObjectWaitSemaphore K) :=
  (s.sems w.ks).map fun sem => { s with
    sems := Function.update s.sems w.ks (some (change sem).1)
    waiters := Function.update s.waiters thread (some { w with phase := (change sem).2 }) }

def enter (s : MultiKeyObjectWaitSemaphore K) (thread : Nat) :
    Option (MultiKeyObjectWaitSemaphore K) :=
  match s.waiters thread with
  | some w =>
    if w.phase = .entering then s.waiterStep thread w ObjectWaitSemaphore.enterWait else none
  | none => none

/-- The waiter wakes up because it is answered. -/
def wake (s : MultiKeyObjectWaitSemaphore K) (thread : Nat) :
    Option (MultiKeyObjectWaitSemaphore K) :=
  match s.waiters thread with
  | some w =>
    if w.phase = .blocked ∧ (s.sems w.ks).any (·.answered) then
      s.waiterStep thread w ObjectWaitSemaphore.leaveWait
    else none
  | none => none

/-- The time of a timed wait is over. What the semaphore holds is returned in this case too. -/
def timeout (s : MultiKeyObjectWaitSemaphore K) (thread : Nat) :
    Option (MultiKeyObjectWaitSemaphore K) :=
  match s.waiters thread with
  | some w =>
    if w.phase = .blocked ∧ w.timed then
      s.waiterStep thread w ObjectWaitSemaphore.leaveWait
    else none
  | none => none

/-- The key is erased and the semaphore deleted, with a response that it may hold. -/
def erase (s : MultiKeyObjectWaitSemaphore K) (w : Waiter K) :
    Option (MultiKeyObjectWaitSemaphore K) :=
  (s.sems w.ks).map fun _ => { s with
    keySemaphoreMap := Function.update s.keySemaphoreMap w.waitOnKey none
    sems := Function.update s.sems w.ks none }

/-- The end of `wait`. The untimed one erases its key without the lock of the map; the timed one
takes the lock, and leaves everything as it is when the key is gone. -/
def leave (s : MultiKeyObjectWaitSemaphore K) (thread : Nat) :
    Option (MultiKeyObjectWaitSemaphore K) :=
  match s.waiters thread with
  | some w =>
    match w.phase with
    | .returning result =>
      let s' := { s with
        waiters := Function.update s.waiters thread none
        returned := s.returned ++ (result.map fun obj => (w.waitOnKey, obj)).toList }
      if w.timed then
        if s.setter.isSome then none
        else if (s.keySemaphoreMap w.waitOnKey).isSome then s'.erase w
        else some s'
      else s'.erase w
    | _ => none
  | none => none

inductive Label (K : Type*) where
  | initKey (keyToInit : K)
  | setWaithedObjectForKey (key : K)
  | setObject
  | unlock
  | wait (thread : Nat) (waitOnKey : K) (timed : Bool)
  | enter (thread : Nat)
  | wake (thread : Nat)
  | timeout (thread : Nat)
  | leave (thread : Nat)
  deriving DecidableEq, Repr

def step (s : MultiKeyObjectWaitSemaphore K) : Label K → Option (MultiKeyObjectWaitSemaphore K)
  | .initKey keyToInit => s.initKey keyToInit
  | .setWaithedObjectForKey key => s.setWaithedObjectForKey key
  | .setObject => s.setObject
  | .unlock => s.unlock
  | .wait thread waitOnKey timed => s.wait thread waitOnKey timed
  | .enter thread => s.enter thread
  | .wake thread => s.wake thread
  | .timeout thread => s.timeout thread
  | .leave thread => s.leave thread

end MultiKeyObjectWaitSemaphore

end chaos.common.thread
