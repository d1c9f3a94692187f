-- What becomes of the events that the server receives. One scheduler has the actions for alerts and
-- another one those for instruments. What happens under `eventSchedulerMutext` and what happens to
-- one action under its own lock are one step each, and the threads interleave between the steps.
import Mathlib.Data.List.Sort
import Chaos.BinaryHeap
import Chaos.EventDescriptor
import Chaos.Runs

namespace chaos.event

open runs byte_buffer

inductive EventType
  | EventTypeAlert
  | EventTypeInstrument
  | EventTypeCommand
  | EventTypeCustom
  deriving DecidableEq, Repr

/-! ## The actions -/

/-- The constructor leaves `fired` and `enabled` as they are in memory. The trigger of an identifier
is always `true`, so the map is a set. -/
structure EventAction where
  fired : Bool
  enabled : Bool
  indetifierExecutioTrigger : List (List UInt8) := []
  deriving DecidableEq, Repr

namespace EventAction

def setFired (a : EventAction) (fired : Bool) : Bool × EventAction :=
  (fired && a.enabled, { a with fired := fired && a.enabled })

def setEnabled (a : EventAction) (enabled : Bool) : EventAction := { a with enabled }

def registerForIdentifier (a : EventAction) (newIdentifier : List UInt8) : EventAction :=
  { a with indetifierExecutioTrigger := a.indetifierExecutioTrigger.insert newIdentifier }

/-- The test is the wrong way round: an identifier that is there stays there. -/
def deregisterForIdentifier (a : EventAction) (newIdentifier : List UInt8) : EventAction :=
  if newIdentifier ∈ a.indetifierExecutioTrigger then a
  else { a with
    indetifierExecutioTrigger := a.indetifierExecutioTrigger.filter (· ≠ newIdentifier) }

def clearAllRegisteredIdentifier (a : EventAction) : EventAction :=
  { a with indetifierExecutioTrigger := [] }

/-- An action without identifiers takes every event. -/
def hasIdentifier (a : EventAction) (newIdentifier : List UInt8) : Bool :=
  decide (newIdentifier ∈ a.indetifierExecutioTrigger) || a.indetifierExecutioTrigger.isEmpty

end EventAction

/-! ## What is received -/

namespace EventDescriptor

variable (e : EventDescriptor)

/-- The constructor of an instrument event: type 1 and priority 31. -/
def createInstrument : EventDescriptor where
  eventData := sign ++ ([0x29, 0, 0x7D] ++ List.replicate 1019 0)
  length_eq := by
    rw [List.length_append, List.length_append, List.length_replicate]
    rfl

def setEventData (serializedEvent : List UInt8)
    (h : serializedEvent.length ≤ EVENT_DATA_BYTE_LENGTH) : EventDescriptor where
  eventData := write e.eventData 0 serializedEvent
  length_eq := by rw [length_write (by rw [e.length_eq, Nat.zero_add]; exact h), e.length_eq]

def getEventPriority : UInt8 := e.eventData.getD EVT_HEADER_BYTE_LENGTH 0 >>> 2

/-- The identifier as a string of C, which ends before its first zero. -/
def identifier : List UInt8 :=
  ((e.getIdentification.getD []).take e.getIdentificationlength.toNat).takeWhile (· ≠ 0)

end EventDescriptor

/-- The event that is handed to the root handler. The assertion that `length` is not zero is no part
of a release. -/
def dispatchEventToHandler (serializedEvent : List UInt8) (length : Nat) :
    Except CException EventDescriptor :=
  if read serializedEvent 0 2 ≠ sign then
    .error ⟨2, "Bad event signature", "EventServer::dispatchEventToHandler"⟩
  else if h : EVT_DATA_MAX_BYTE_LENGTH < length then
    .error ⟨1, "Event memory size exceed the max allowed", "EventServer::dispatchEventToHandler"⟩
  else
    have hle : (serializedEvent.take length).length ≤ EVENT_DATA_BYTE_LENGTH := by
      rw [List.length_take]
      exact (Nat.min_le_left _ _).trans ((Nat.le_of_not_lt h).trans (by decide))
    match serializedEvent.getD EVT_HEADER_BYTE_LENGTH 0 &&& 3 with
    | 0 => .ok (EventDescriptor.create.setEventData _ hle)
    | 1 => .ok (EventDescriptor.createInstrument.setEventData _ hle)
    | _ => .error ⟨3, "Event not yet implemented", "EventFactory::getEventInstance"⟩

def max_length : Nat := 1024

/-- The buffer is zero before a datagram is received. -/
def handle_receive_from (datagram : List UInt8) : Except CException EventDescriptor :=
  let data := datagram.take max_length
  dispatchEventToHandler (data ++ List.replicate (max_length - data.length) 0) data.length

/-! ## The schedulers -/

/-- The number counts the events that are accepted, and is not in the code. -/
structure Queued where
  number : Nat
  element : EventDescriptor

def Queued.priority (q : Queued) : Nat := q.element.getEventPriority.toNat

/-- How far `processBufferElement` is with an event: `rest` are the actions that the iterator has
not come to. Of the actions that it came to, `matching` have the identifier of the event, and for
those in `handled` `handleEvent` was called. `listed` is the whole list, and `thrown` says that
`handleEvent` has thrown. These four are not in the code. -/
structure Visit where
  queued : Queued
  listed : List Nat
  rest : List Nat
  matching : List Nat := []
  handled : List Nat := []
  thrown : Bool := false

/-- The thread of a scheduler: it waits for an event, has one, or has the mutex and goes through the
actions. -/
inductive Worker where
  | waiting
  | taken (q : Queued)
  | visiting (v : Visit)

/-- The map from the UUID of an action to the action is the list of the actions in the order of
their UUIDs. -/
structure EventTypeScheduler where
  armed : Bool := false
  bufferQueue : List Queued := []
  eventActionList : List Nat := []
  worker : Worker := .waiting

def EventTypeScheduler.init : EventTypeScheduler := { armed := true }

def EventTypeScheduler.locked (s : EventTypeScheduler) : Bool :=
  match s.worker with
  | .visiting _ => true
  | _ => false

inductive SchedulerName where
  | alertEventScheduler
  | instrumentEventScheduler
  deriving DecidableEq, Repr

/-- `deregistering` are the actions that `deregisterEventAction` has removed from the first
scheduler only. The last four are not in the code: how many events were accepted, which actions were
registered for alerts, and which events were processed or dropped. -/
structure DefaultEventDispatcher where
  actions : Nat → EventAction
  scheduler : SchedulerName → EventTypeScheduler
  deregistering : List Nat := []
  accepted : Nat := 0
  registered : List Nat := []
  processed : List Visit := []
  dropped : List Nat := []

namespace DefaultEventDispatcher

variable {κ : Type} [LinearOrder κ] (uuid : Nat → κ) (s : DefaultEventDispatcher)

def init (actions : Nat → EventAction) : DefaultEventDispatcher where
  actions := actions
  scheduler := fun _ => .init

def setScheduler (name : SchedulerName) (scheduler : EventTypeScheduler) : DefaultEventDispatcher :=
  { s with scheduler := Function.update s.scheduler name scheduler }

def setWorker (name : SchedulerName) (worker : Worker) : DefaultEventDispatcher :=
  s.setScheduler name { s.scheduler name with worker }

def setAction (a : Nat) (action : EventAction) : DefaultEventDispatcher :=
  { s with actions := Function.update s.actions a action }

/-- A scheduler that is not armed throws, and the server catches it. -/
def push (name : SchedulerName) (event : EventDescriptor) : Option DefaultEventDispatcher :=
  let scheduler := s.scheduler name
  if scheduler.locked then none
  else if !scheduler.armed then some s
  else some { s.setScheduler name { scheduler with
      bufferQueue := heap.push Queued.priority scheduler.bufferQueue ⟨s.accepted, event⟩ } with
    accepted := s.accepted + 1 }

def executeAlertHandler (event : EventDescriptor) : Option DefaultEventDispatcher :=
  s.push .alertEventScheduler event

/-- The events of instruments go to the scheduler of the alerts too. -/
def executeInstrumentHandler (event : EventDescriptor) : Option DefaultEventDispatcher :=
  s.push .alertEventScheduler event

/-- A datagram that is no event is logged. -/
def receive (datagram : List UInt8) : Option DefaultEventDispatcher :=
  match handle_receive_from datagram with
  | .error _ => some s
  | .ok event =>
    if event.getEventType = 0 then s.executeAlertHandler event
    else s.executeInstrumentHandler event

/-- An action whose UUID is in the list is not installed again. -/
def installEventAction (name : SchedulerName) (a : Nat) : Option DefaultEventDispatcher :=
  let scheduler := s.scheduler name
  if scheduler.locked then none
  else if uuid a ∈ scheduler.eventActionList.map uuid then some s
  else some ((s.setScheduler name { scheduler with
      eventActionList := scheduler.eventActionList.orderedInsert (uuid · ≤ uuid ·) a }).setAction a
    ((s.actions a).setEnabled true))

def removeEventAction (name : SchedulerName) (a : Nat) : Option DefaultEventDispatcher :=
  let scheduler := s.scheduler name
  if scheduler.locked then none
  else if uuid a ∉ scheduler.eventActionList.map uuid then some s
  else some ((s.setScheduler name { scheduler with
      eventActionList := scheduler.eventActionList.filter (uuid · ≠ uuid a) }).setAction a
    ((s.actions a).setEnabled false))

def registerEventAction (a : Nat) (eventType : EventType) : Option DefaultEventDispatcher :=
  match eventType with
  | .EventTypeAlert =>
    { s with registered := a :: s.registered }.installEventAction uuid .alertEventScheduler a
  | .EventTypeInstrument => s.installEventAction uuid .instrumentEventScheduler a
  | _ => some s

/-- The action is removed from the first scheduler. -/
def deregisterEventAction (a : Nat) : Option DefaultEventDispatcher :=
  (s.removeEventAction uuid .alertEventScheduler a).map fun t =>
    { t with deregistering := a :: t.deregistering }

/-- The action is removed from the second scheduler. -/
def deregisterSecond (a : Nat) : Option DefaultEventDispatcher :=
  if a ∉ s.deregistering then none
  else { s with deregistering := s.deregistering.erase a }.removeEventAction uuid
    .instrumentEventScheduler a

def waitAndPop (name : SchedulerName) : Option DefaultEventDispatcher :=
  let scheduler := s.scheduler name
  match scheduler.worker, scheduler.bufferQueue with
  | .waiting, q :: rest => some (s.setScheduler name { scheduler with
      bufferQueue := heap.pop Queued.priority (q :: rest), worker := .taken q })
  | _, _ => none

/-- `processBufferElement` takes the mutex. -/
def lockActions (name : SchedulerName) : Option DefaultEventDispatcher :=
  let scheduler := s.scheduler name
  match scheduler.worker with
  | .taken q =>
    some (s.setWorker name
      (.visiting ⟨q, scheduler.eventActionList, scheduler.eventActionList, [], [], false⟩))
  | _ => none

/-- `processBufferElement` ends. -/
def endVisit (name : SchedulerName) (v : Visit) : DefaultEventDispatcher :=
  { s.setWorker name .waiting with processed := s.processed ++ [v] }

/-- One turn of the loop over the actions, or its end. An exception of `handleEvent` ends the loop
with the action fired, and the actions behind it are not called. -/
def visit (name : SchedulerName) (throws : Bool) : Option DefaultEventDispatcher :=
  match (s.scheduler name).worker with
  | .visiting v =>
    match v.rest with
    | [] => some (s.endVisit name v)
    | a :: rest =>
      let (canbeExecuted, action) := (s.actions a).setFired true
      let hasIdentifier := action.hasIdentifier v.queued.element.identifier
      let next := { v with rest, matching := if hasIdentifier then v.matching ++ [a] else v.matching }
      if !canbeExecuted then some ((s.setAction a action).setWorker name (.visiting next))
      else if !hasIdentifier then
        some ((s.setAction a (action.setFired false).2).setWorker name (.visiting next))
      else
        let called := { next with handled := v.handled ++ [a] }
        if throws then some ((s.setAction a action).endVisit name { called with thrown := true })
        else some ((s.setAction a (action.setFired false).2).setWorker name (.visiting called))
  | _ => none

/-- The first half of `deinit`. -/
def disarm (name : SchedulerName) : Option DefaultEventDispatcher :=
  let scheduler := s.scheduler name
  if scheduler.locked then none
  else some (s.setScheduler name { scheduler with armed := false })

/-- The second half of `deinit`: the events of the queue are deleted. -/
def clear (name : SchedulerName) : Option DefaultEventDispatcher :=
  let scheduler := s.scheduler name
  if scheduler.armed then none
  else some { s.setScheduler name { scheduler with bufferQueue := [] } with
    dropped := s.dropped ++ scheduler.bufferQueue.map Queued.number }

inductive Label where
  | receive (datagram : List UInt8)
  | registerEventAction (a : Nat) (eventType : EventType)
  | deregisterEventAction (a : Nat)
  | deregisterSecond (a : Nat)
  | registerForIdentifier (a : Nat) (newIdentifier : List UInt8)
  | deregisterForIdentifier (a : Nat) (newIdentifier : List UInt8)
  | clearAllRegisteredIdentifier (a : Nat)
  | waitAndPop (name : SchedulerName)
  | lockActions (name : SchedulerName)
  | visit (name : SchedulerName) (throws : Bool)
  | disarm (name : SchedulerName)
  | clear (name : SchedulerName)
  deriving DecidableEq, Repr

def step : Label → Option DefaultEventDispatcher
  | .receive datagram => s.receive datagram
  | .registerEventAction a eventType => s.registerEventAction uuid a eventType
  | .deregisterEventAction a => s.deregisterEventAction uuid a
  | .deregisterSecond a => s.deregisterSecond uuid a
  | .registerForIdentifier a newIdentifier =>
    some (s.setAction a ((s.actions a).registerForIdentifier newIdentifier))
  | .deregisterForIdentifier a newIdentifier =>
    some (s.setAction a ((s.actions a).deregisterForIdentifier newIdentifier))
  | .clearAllRegisteredIdentifier a =>
    some (s.setAction a (s.actions a).clearAllRegisteredIdentifier)
  | .waitAndPop name => s.waitAndPop name
  | .lockActions name => s.lockActions name
  | .visit name throws => s.visit name throws
  | .disarm name => s.disarm name
  | .clear name => s.clear name

end DefaultEventDispatcher

/-! ## What the dispatcher promises -/

def Worker.numbers : Worker → List Nat
  | .waiting => []
  | .taken q => [q.number]
  | .visiting v => [v.queued.number]

def EventTypeScheduler.numbers (s : EventTypeScheduler) : List Nat :=
  s.bufferQueue.map Queued.number ++ s.worker.numbers

/-- The actions are come to in the order of their UUIDs, which are all different, and those that are
called are some of those with the identifier. -/
structure Visit.Fair {κ : Type} [LinearOrder κ] (uuid : Nat → κ) (v : Visit) : Prop where
  sorted : v.listed.Pairwise (uuid · < uuid ·)
  seen : ∃ seen, v.listed = seen ++ v.rest ∧ v.matching.Sublist seen
  handled : v.handled.Sublist v.matching

/-- Every accepted event is in one place, and is shown to an action once at most. The actions are
those that were registered for alerts, and the scheduler of the instruments never has an event. -/
structure DefaultEventDispatcher.Delivers {κ : Type} [LinearOrder κ] (uuid : Nat → κ)
    (s : DefaultEventDispatcher) : Prop where
  accepted_once : List.Perm ((s.scheduler .alertEventScheduler).numbers ++
    (s.processed.map (·.queued.number) ++ s.dropped)) (List.range s.accepted)
  instrument_idle : (s.scheduler .instrumentEventScheduler).numbers = []
  fair : ∀ v ∈ s.processed, v.Fair uuid
  alert_only : ∀ v ∈ s.processed, ∀ a ∈ v.listed, a ∈ s.registered

/-- One more action is seen. -/
theorem Visit.Fair.next {κ : Type} [LinearOrder κ] {uuid : Nat → κ} {v : Visit} (h : v.Fair uuid)
    {a : Nat} {rest : List Nat} (hrest : v.rest = a :: rest) {matching handled : List Nat} {thrown : Bool}
    (hmatching : matching = v.matching ∧ handled = v.handled ∨
      matching = v.matching ++ [a] ∧ (handled = v.handled ∨ handled = v.handled ++ [a])) :
    Visit.Fair uuid { v with rest, matching, handled, thrown } := by
  obtain ⟨seen, hlisted, hsub⟩ := h.seen
  refine ⟨h.sorted, ⟨seen ++ [a], ?_, ?_⟩, ?_⟩
  · rw [hlisted, hrest, List.append_assoc, List.singleton_append]
  · rcases hmatching with ⟨rfl, -⟩ | ⟨rfl, -⟩
    · exact hsub.trans (List.sublist_append_left _ _)
    · exact hsub.append (.refl _)
  · rcases hmatching with ⟨rfl, rfl⟩ | ⟨rfl, rfl | rfl⟩
    · exact h.handled
    · exact h.handled.trans (List.sublist_append_left _ _)
    · exact h.handled.append (.refl _)

namespace DefaultEventDispatcher

section

variable {κ : Type} [LinearOrder κ] {uuid : Nat → κ} {s t : DefaultEventDispatcher}

structure Good (uuid : Nat → κ) (s : DefaultEventDispatcher) : Prop extends Delivers uuid s where
  sorted : (s.scheduler .alertEventScheduler).eventActionList.Pairwise (uuid · < uuid ·)
  listed : ∀ a ∈ (s.scheduler .alertEventScheduler).eventActionList, a ∈ s.registered
  visiting : ∀ v, (s.scheduler .alertEventScheduler).worker = .visiting v →
    v.listed = (s.scheduler .alertEventScheduler).eventActionList ∧ v.Fair uuid

theorem good_init (actions : Nat → EventAction) : Good uuid (init actions) where
  accepted_once := by
    simp [init, EventTypeScheduler.init, EventTypeScheduler.numbers, Worker.numbers]
  instrument_idle := rfl
  fair := by simp [init]
  alert_only := by simp [init]
  sorted := .nil
  listed := by simp [init, EventTypeScheduler.init]
  visiting := by simp [init, EventTypeScheduler.init]

/-- What the invariant speaks of. -/
structure Same (s t : DefaultEventDispatcher) : Prop where
  scheduler : t.scheduler = s.scheduler
  accepted : t.accepted = s.accepted
  registered : ∀ a ∈ s.registered, a ∈ t.registered
  processed : t.processed = s.processed
  dropped : t.dropped = s.dropped

theorem Good.same (h : Good uuid s) (ht : Same s t) : Good uuid t where
  accepted_once := by
    rw [ht.scheduler, ht.processed, ht.dropped, ht.accepted]
    exact h.accepted_once
  instrument_idle := by
    rw [ht.scheduler]
    exact h.instrument_idle
  fair := by
    rw [ht.processed]
    exact h.fair
  alert_only := by
    rw [ht.processed]
    exact fun v hv a ha => ht.registered a (h.alert_only v hv a ha)
  sorted := by
    rw [ht.scheduler]
    exact h.sorted
  listed := by
    rw [ht.scheduler]
    exact fun a ha => ht.registered a (h.listed a ha)
  visiting := by
    rw [ht.scheduler]
    exact h.visiting

theorem same_setAction (s : DefaultEventDispatcher) (a : Nat) (action : EventAction) :
    Same s (s.setAction a action) := ⟨rfl, rfl, fun _ h => h, rfl, rfl⟩

@[simp] theorem setScheduler_self (s : DefaultEventDispatcher) (name : SchedulerName)
    (scheduler : EventTypeScheduler) : (s.setScheduler name scheduler).scheduler name = scheduler :=
  Function.update_self ..

@[simp] theorem setScheduler_processed (s : DefaultEventDispatcher) (name : SchedulerName)
    (scheduler : EventTypeScheduler) : (s.setScheduler name scheduler).processed = s.processed :=
  rfl

/-- Another list of the actions of instruments, or other flags. -/
theorem Good.setInstrument (h : Good uuid s) {scheduler : EventTypeScheduler}
    (hnumbers : scheduler.numbers = []) :
    Good uuid (s.setScheduler .instrumentEventScheduler scheduler) where
  accepted_once := h.accepted_once
  instrument_idle := by rw [setScheduler_self]; exact hnumbers
  fair := h.fair
  alert_only := h.alert_only
  sorted := h.sorted
  listed := h.listed
  visiting := h.visiting

/-- The same events, with the same actions. -/
theorem Good.setAlert (h : Good uuid s) {scheduler : EventTypeScheduler}
    (hnumbers : List.Perm scheduler.numbers (s.scheduler .alertEventScheduler).numbers)
    (hlist : scheduler.eventActionList = (s.scheduler .alertEventScheduler).eventActionList)
    (hvisit : ∀ v, scheduler.worker = .visiting v →
      v.listed = scheduler.eventActionList ∧ v.Fair uuid) :
    Good uuid (s.setScheduler .alertEventScheduler scheduler) where
  accepted_once := by
    rw [setScheduler_self]
    exact (hnumbers.append_right _).trans h.accepted_once
  instrument_idle := h.instrument_idle
  fair := h.fair
  alert_only := h.alert_only
  sorted := by
    rw [setScheduler_self, hlist]
    exact h.sorted
  listed := by
    rw [setScheduler_self, hlist]
    exact h.listed
  visiting := by
    rw [setScheduler_self]
    exact hvisit

/-- Another list of actions, while the scheduler is not locked. -/
theorem Good.setList (h : Good uuid s) {list : List Nat}
    (hunlocked : (s.scheduler .alertEventScheduler).locked = false)
    (hsorted : list.Pairwise (uuid · < uuid ·)) (hlisted : ∀ a ∈ list, a ∈ s.registered) :
    Good uuid (s.setScheduler .alertEventScheduler
      { s.scheduler .alertEventScheduler with eventActionList := list }) where
  accepted_once := h.accepted_once
  instrument_idle := h.instrument_idle
  fair := h.fair
  alert_only := h.alert_only
  sorted := hsorted
  listed := hlisted
  visiting := by
    intro v hv
    simp only [setScheduler_self] at hv
    simp [EventTypeScheduler.locked, hv] at hunlocked

theorem Good.push (h : Good uuid s) {event : EventDescriptor}
    (hs : s.push .alertEventScheduler event = some t) : Good uuid t := by
  unfold DefaultEventDispatcher.push at hs
  simp only at hs
  split_ifs at hs with hlocked harmed
  · cases hs
    exact h
  · cases hs
    refine { h with accepted_once := ?_, visiting := h.visiting }
    have hperm : (heap.push Queued.priority (s.scheduler .alertEventScheduler).bufferQueue
        ⟨s.accepted, event⟩).Perm (⟨s.accepted, event⟩ ::
          (s.scheduler .alertEventScheduler).bufferQueue) := heap.push_perm
    simp only [setScheduler_self, EventTypeScheduler.numbers, List.range_succ]
    refine (((hperm.map Queued.number).append_right _).append_right _).trans ?_
    exact (List.Perm.cons s.accepted h.accepted_once).trans (List.perm_append_singleton _ _).symm

theorem Good.receive (h : Good uuid s) {datagram : List UInt8}
    (hs : s.receive datagram = some t) : Good uuid t := by
  unfold DefaultEventDispatcher.receive at hs
  split at hs
  · cases hs
    exact h
  · split_ifs at hs
    · exact h.push hs
    · exact h.push hs

theorem sorted_orderedInsert {list : List Nat} {a : Nat} (hsorted : list.Pairwise (uuid · < uuid ·))
    (hnew : uuid a ∉ list.map uuid) :
    (list.orderedInsert (uuid · ≤ uuid ·) a).Pairwise (uuid · < uuid ·) := by
  induction list with
  | nil => simp
  | cons b bs ih =>
    rw [List.pairwise_cons] at hsorted
    simp only [List.map_cons, List.mem_cons, not_or] at hnew
    rw [List.orderedInsert_cons]
    split_ifs with hle
    · have hlt : uuid a < uuid b := lt_of_le_of_ne hle hnew.1
      refine .cons ?_ (.cons hsorted.1 hsorted.2)
      intro c hc
      rcases List.mem_cons.mp hc with rfl | hc
      · exact hlt
      · exact hlt.trans (hsorted.1 c hc)
    · refine .cons ?_ (ih hsorted.2 hnew.2)
      intro c hc
      rcases (List.mem_orderedInsert _).mp hc with rfl | hc
      · exact not_le.mp hle
      · exact hsorted.1 c hc

theorem Good.install (h : Good uuid s) {name : SchedulerName} {a : Nat}
    (ha : name = .alertEventScheduler → a ∈ s.registered)
    (hs : s.installEventAction uuid name a = some t) : Good uuid t := by
  unfold installEventAction at hs
  simp only at hs
  split_ifs at hs with hlocked hin
  · cases hs
    exact h
  · cases hs
    refine Good.same ?_ (same_setAction _ _ _)
    cases name with
    | alertEventScheduler =>
      refine h.setList (by simpa using hlocked) (sorted_orderedInsert h.sorted hin) ?_
      intro b hb
      rcases (List.mem_orderedInsert _).mp hb with rfl | hb
      · exact ha rfl
      · exact h.listed b hb
    | instrumentEventScheduler => exact h.setInstrument h.instrument_idle

theorem Good.remove (h : Good uuid s) {name : SchedulerName} {a : Nat}
    (hs : s.removeEventAction uuid name a = some t) : Good uuid t := by
  unfold removeEventAction at hs
  simp only at hs
  split_ifs at hs with hlocked hin
  · cases hs
    refine Good.same ?_ (same_setAction _ _ _)
    cases name with
    | alertEventScheduler =>
      refine h.setList (by simpa using hlocked) (h.sorted.filter _) ?_
      intro b hb
      exact h.listed b (List.mem_of_mem_filter hb)
    | instrumentEventScheduler => exact h.setInstrument h.instrument_idle
  · cases hs
    exact h

/-- The scheduler of the instruments has nothing to do. -/
theorem Good.instrument (h : Good uuid s) :
    (s.scheduler .instrumentEventScheduler).bufferQueue = [] ∧
      (s.scheduler .instrumentEventScheduler).worker = .waiting := by
  have hnone := List.append_eq_nil_iff.mp h.instrument_idle
  refine ⟨List.map_eq_nil_iff.mp hnone.1, ?_⟩
  cases hw : (s.scheduler .instrumentEventScheduler).worker with
  | waiting => rfl
  | taken q => simp [hw, Worker.numbers] at hnone
  | visiting v => simp [hw, Worker.numbers] at hnone

theorem Good.waitAndPop (h : Good uuid s) {name : SchedulerName}
    (hs : s.waitAndPop name = some t) : Good uuid t := by
  unfold DefaultEventDispatcher.waitAndPop at hs
  simp only at hs
  split at hs
  · rename_i q rest hworker hqueue
    cases hs
    cases name with
    | alertEventScheduler =>
      refine h.setAlert ?_ rfl (by simp)
      have hperm : (heap.pop Queued.priority (q :: rest)).Perm rest := heap.pop_perm
      simp only [EventTypeScheduler.numbers, hworker, hqueue, Worker.numbers, List.append_nil]
      refine ((hperm.map Queued.number).append_right _).trans ?_
      exact List.perm_append_singleton _ _
    | instrumentEventScheduler => simp [h.instrument.1] at hqueue
  · cases hs

theorem Good.lockActions (h : Good uuid s) {name : SchedulerName}
    (hs : s.lockActions name = some t) : Good uuid t := by
  unfold DefaultEventDispatcher.lockActions at hs
  simp only at hs
  split at hs
  · rename_i q hworker
    cases hs
    cases name with
    | alertEventScheduler =>
      refine h.setAlert ?_ rfl ?_
      · simp [EventTypeScheduler.numbers, hworker, Worker.numbers]
      · intro v hv
        simp only [Worker.visiting.injEq] at hv
        subst hv
        exact ⟨rfl, h.sorted, ⟨[], rfl, .slnil⟩, .slnil⟩
    | instrumentEventScheduler => simp [h.instrument.2] at hworker
  · cases hs

theorem Good.endVisit (h : Good uuid s) {old v : Visit}
    (hworker : (s.scheduler .alertEventScheduler).worker = .visiting old)
    (hnumber : v.queued = old.queued) (hlist : v.listed = old.listed) (hfair : v.Fair uuid) :
    Good uuid (s.endVisit .alertEventScheduler v) := by
  obtain ⟨hlisted, -⟩ := h.visiting old hworker
  have hmem {w : Visit} (hw : w ∈ s.processed ++ [v]) : w ∈ s.processed ∨ w = v := by
    simpa using hw
  refine ⟨⟨?_, h.instrument_idle, ?_, ?_⟩, h.sorted, h.listed, ?_⟩
  · refine List.Perm.trans ?_ h.accepted_once
    simp only [DefaultEventDispatcher.endVisit, setWorker, setScheduler_self,
      EventTypeScheduler.numbers, hworker, Worker.numbers, List.append_nil, List.map_append,
      List.map_cons, List.map_nil, hnumber, List.append_assoc]
    refine List.Perm.append_left _ ?_
    exact (List.perm_append_comm_assoc _ _ _)
  · intro w hw
    rcases hmem hw with hw | rfl
    · exact h.fair w hw
    · exact hfair
  · intro w hw a ha
    rcases hmem hw with hw | rfl
    · exact h.alert_only w hw a ha
    · rw [hlist, hlisted] at ha
      exact h.listed a ha
  · intro w hw
    simp [DefaultEventDispatcher.endVisit, setWorker] at hw

/-- What a turn over one action adds to the visit. -/
def Added (enabled : Bool) (v : Visit) (a : Nat) (matching handled : List Nat) : Prop :=
  matching = v.matching ∧ handled = v.handled ∨
    matching = v.matching ++ [a] ∧ handled = if enabled then v.handled ++ [a] else v.handled

theorem visit_cases {name : SchedulerName} {throws : Bool} (hs : s.visit name throws = some t) :
    ∃ v, (s.scheduler name).worker = .visiting v ∧
      (v.rest = [] ∧ t = s.endVisit name v ∨
        ∃ a rest action matching handled, v.rest = a :: rest ∧
          action.enabled = (s.actions a).enabled ∧
          Added (s.actions a).enabled v a matching handled ∧
          (t = (s.setAction a action).setWorker name (.visiting { v with rest, matching, handled }) ∨
            t = (s.setAction a action).endVisit name
              { v with rest, matching, handled, thrown := true })) := by
  unfold DefaultEventDispatcher.visit at hs
  split at hs
  · rename_i v hworker
    refine ⟨v, hworker, ?_⟩
    cases hrest : v.rest with
    | nil =>
      rw [hrest] at hs
      exact .inl ⟨rfl, (Option.some.inj hs).symm⟩
    | cons a rest =>
      rw [hrest] at hs
      simp only [EventAction.setFired, Bool.true_and] at hs
      refine .inr ⟨a, rest, ?_⟩
      split_ifs at hs with hmatch hdisabled hthrows hdisabled
      all_goals
        cases hs
        first
          | refine ⟨_, _, _, rfl, ?_, ?_, .inl rfl⟩
          | refine ⟨_, _, _, rfl, ?_, ?_, .inr rfl⟩
        · rfl
        · simp_all [Added]
  · cases hs

theorem Good.visit (h : Good uuid s) {name : SchedulerName} {throws : Bool}
    (hs : s.visit name throws = some t) : Good uuid t := by
  obtain ⟨v, hworker, ⟨-, ht⟩ | ⟨a, rest, action, matching, handled, hrest, -, hadd, ht⟩⟩ :=
    visit_cases hs
  · cases name with
    | alertEventScheduler =>
      rw [ht]
      exact h.endVisit hworker rfl rfl (h.visiting v hworker).2
    | instrumentEventScheduler => simp [h.instrument.2] at hworker
  · cases name with
    | alertEventScheduler =>
      have hsame := h.same (same_setAction s a action)
      have hfair {thrown : Bool} : Visit.Fair uuid { v with rest, matching, handled, thrown } := by
        refine (h.visiting v hworker).2.next hrest ?_
        rcases hadd with ⟨rfl, rfl⟩ | ⟨rfl, rfl⟩
        · exact .inl ⟨rfl, rfl⟩
        · refine .inr ⟨rfl, ?_⟩
          split_ifs
          · exact .inr rfl
          · exact .inl rfl
      rcases ht with rfl | rfl
      · refine hsame.setAlert ?_ rfl ?_
        · have hsched : (s.setAction a action).scheduler = s.scheduler := rfl
          simp [EventTypeScheduler.numbers, hsched, hworker, Worker.numbers]
        · intro w hw
          simp only [Worker.visiting.injEq] at hw
          subst hw
          exact ⟨(h.visiting v hworker).1, hfair⟩
      · exact hsame.endVisit hworker rfl rfl hfair
    | instrumentEventScheduler => simp [h.instrument.2] at hworker

theorem Good.disarm (h : Good uuid s) {name : SchedulerName} (hs : s.disarm name = some t) :
    Good uuid t := by
  unfold DefaultEventDispatcher.disarm at hs
  simp only at hs
  split_ifs at hs
  cases hs
  cases name with
  | alertEventScheduler => exact h.setAlert (.refl _) rfl h.visiting
  | instrumentEventScheduler => exact h.setInstrument h.instrument_idle

theorem Good.clear (h : Good uuid s) {name : SchedulerName} (hs : s.clear name = some t) :
    Good uuid t := by
  unfold DefaultEventDispatcher.clear at hs
  simp only at hs
  split_ifs at hs
  cases hs
  cases name with
  | alertEventScheduler =>
    refine ⟨⟨?_, h.instrument_idle, h.fair, h.alert_only⟩, h.sorted, h.listed, h.visiting⟩
    refine List.Perm.trans ?_ h.accepted_once
    simp only [setScheduler_self, EventTypeScheduler.numbers, List.map_nil, List.nil_append]
    rw [← List.append_assoc, ← List.append_assoc, List.append_assoc _ _ s.dropped]
    exact List.perm_append_comm.trans (by simp [List.append_assoc])
  | instrumentEventScheduler =>
    have hempty : Good uuid (s.setScheduler .instrumentEventScheduler
        { s.scheduler .instrumentEventScheduler with bufferQueue := [] }) :=
      h.setInstrument (by simp [EventTypeScheduler.numbers, h.instrument.2, Worker.numbers])
    refine hempty.same ⟨rfl, rfl, fun _ h => h, rfl, ?_⟩
    simp [h.instrument.1, setScheduler]

theorem Good.step (h : Good uuid s) {l : Label} (hs : s.step uuid l = some t) : Good uuid t := by
  cases l with
  | receive datagram => exact h.receive hs
  | registerEventAction a eventType =>
    cases eventType with
    | EventTypeAlert =>
      have hsame := h.same (t := { s with registered := a :: s.registered })
        ⟨rfl, rfl, fun _ hb => List.mem_cons_of_mem _ hb, rfl, rfl⟩
      exact hsame.install (fun _ => List.mem_cons_self) hs
    | EventTypeInstrument => exact h.install (by intro hne; cases hne) hs
    | EventTypeCommand | EventTypeCustom =>
      cases hs
      exact h
  | deregisterEventAction a =>
    obtain ⟨u, hu, rfl⟩ := Option.map_eq_some_iff.mp hs
    exact (h.remove hu).same ⟨rfl, rfl, fun _ hb => hb, rfl, rfl⟩
  | deregisterSecond a =>
    simp only [DefaultEventDispatcher.step, deregisterSecond] at hs
    split_ifs at hs
    exact (h.same (t := { s with deregistering := s.deregistering.erase a })
      ⟨rfl, rfl, fun _ hb => hb, rfl, rfl⟩).remove hs
  | registerForIdentifier a newIdentifier | deregisterForIdentifier a newIdentifier
  | clearAllRegisteredIdentifier a =>
    cases hs
    exact h.same (same_setAction _ _ _)
  | waitAndPop name => exact h.waitAndPop hs
  | lockActions name => exact h.lockActions hs
  | visit name throws => exact h.visit hs
  | disarm name => exact h.disarm hs
  | clear name => exact h.clear hs

theorem good_of_run {actions : Nat → EventAction} {labels : List Label}
    (hr : run (step uuid) (init actions) labels = some t) : Good uuid t :=
  run_keeps (Good uuid) (fun _ _ _ h hs => h.step hs) (good_init actions) hr

/-- In every run, every accepted event is in one place and is shown to an action once at most. -/
theorem events_are_delivered_once (uuid : Nat → κ) (actions : Nat → EventAction)
    (labels : List Label) (t : DefaultEventDispatcher)
    (hr : run (step uuid) (init actions) labels = some t) : Delivers uuid t :=
  (good_of_run hr).toDelivers

/-- An action, and an event of priority 63 with the identifier `u`. -/
def firstAlert : List Label :=
  [.registerEventAction 4 .EventTypeAlert,
    .receive [0x45, 0x43, 0x29, 0, 0xFC, 1, 0, 2, 0, 1, 0x75, 0, 7], .waitAndPop .alertEventScheduler,
    .lockActions .alertEventScheduler, .visit .alertEventScheduler false,
    .visit .alertEventScheduler false]

def unset : EventAction := { fired := false, enabled := false }

theorem first_alert_is_delivered : Delivers (id : Nat → Nat)
    ((run (step id) (init fun _ => unset) firstAlert).get (by decide +kernel)) :=
  events_are_delivered_once id (fun _ => unset) firstAlert _ (Option.some_get _).symm

/-! ## Which event is next -/

/-- The queue of a scheduler is a heap. -/
def Heaps (s : DefaultEventDispatcher) : Prop :=
  ∀ name, heap.Ordered Queued.priority (s.scheduler name).bufferQueue

theorem Heaps.setScheduler (h : Heaps s) (name : SchedulerName) {scheduler : EventTypeScheduler}
    (hqueue : heap.Ordered Queued.priority scheduler.bufferQueue) :
    Heaps (s.setScheduler name scheduler) := by
  intro other
  unfold DefaultEventDispatcher.setScheduler
  simp only [Function.update_apply]
  split_ifs
  · exact hqueue
  · exact h other

theorem Heaps.push (h : Heaps s) {event : EventDescriptor}
    (hs : s.push .alertEventScheduler event = some t) : Heaps t := by
  unfold DefaultEventDispatcher.push at hs
  simp only at hs
  split_ifs at hs
  · cases hs
    exact h
  · cases hs
    exact h.setScheduler _ (heap.ordered_push (h _))

theorem Heaps.install (h : Heaps s) {name : SchedulerName} {a : Nat}
    (hs : s.installEventAction uuid name a = some t) : Heaps t := by
  unfold installEventAction at hs
  simp only at hs
  split_ifs at hs
  · cases hs
    exact h
  · cases hs
    exact h.setScheduler _ (h _)

theorem Heaps.remove (h : Heaps s) {name : SchedulerName} {a : Nat}
    (hs : s.removeEventAction uuid name a = some t) : Heaps t := by
  unfold removeEventAction at hs
  simp only at hs
  split_ifs at hs
  · cases hs
    exact h.setScheduler _ (h _)
  · cases hs
    exact h

theorem Heaps.step (h : Heaps s) {l : Label} (hs : s.step uuid l = some t) : Heaps t := by
  cases l with
  | receive datagram =>
    simp only [DefaultEventDispatcher.step, receive] at hs
    split at hs
    · cases hs
      exact h
    · split_ifs at hs
      · exact h.push hs
      · exact h.push hs
  | registerEventAction a eventType =>
    cases eventType with
    | EventTypeAlert => exact Heaps.install (s := { s with registered := a :: s.registered }) h hs
    | EventTypeInstrument => exact h.install hs
    | EventTypeCommand | EventTypeCustom =>
      cases hs
      exact h
  | deregisterEventAction a =>
    obtain ⟨u, hu, rfl⟩ := Option.map_eq_some_iff.mp hs
    have hremoved := h.remove hu
    exact hremoved
  | deregisterSecond a =>
    simp only [DefaultEventDispatcher.step, deregisterSecond] at hs
    split_ifs at hs
    exact Heaps.remove (s := { s with deregistering := s.deregistering.erase a }) h hs
  | registerForIdentifier a newIdentifier | deregisterForIdentifier a newIdentifier
  | clearAllRegisteredIdentifier a =>
    cases hs
    exact h
  | waitAndPop name =>
    simp only [DefaultEventDispatcher.step, waitAndPop] at hs
    split at hs
    · rename_i hqueue
      cases hs
      exact h.setScheduler _ (heap.ordered_pop (hqueue ▸ h name))
    · cases hs
  | lockActions name =>
    simp only [DefaultEventDispatcher.step, lockActions] at hs
    split at hs
    · cases hs
      exact h.setScheduler _ (h _)
    · cases hs
  | visit name throws =>
    obtain ⟨v, -, ⟨-, rfl⟩ | ⟨a, rest, action, matching, handled, -, -, -, rfl | rfl⟩⟩ :=
      visit_cases hs
    all_goals exact h.setScheduler _ (h _)
  | disarm name =>
    simp only [DefaultEventDispatcher.step, disarm] at hs
    split_ifs at hs
    cases hs
    exact h.setScheduler _ (h _)
  | clear name =>
    simp only [DefaultEventDispatcher.step, clear] at hs
    split_ifs at hs
    cases hs
    exact h.setScheduler _ heap.ordered_nil

end

end DefaultEventDispatcher

end chaos.event
