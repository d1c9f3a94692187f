-- The feeder of the services of a list of URLs. Each URL has a slot in a table that only grows.
-- The slots that are online are in a heap by priority, and the one in use is held outside of it.
import Chaos.BinaryHeap
import Chaos.Runs
import Mathlib.Data.Finset.Max

namespace chaos.common.network

/-! ## The state -/

/-- A slot of the table. A pointer to a slot, and its `index`, is its number; a service is a
pointer that the handler gave, `none` for NULL. -/
structure URLService where
  priority : UInt32 := 0
  online : Bool := false
  service : Option Nat := none
  deriving DecidableEq, Repr, Inhabited

inductive URLServiceFeedMode where
  | failOver
  | roundRobin
  deriving DecidableEq, Repr

/-- `list_size` counts bytes. `disposed` is not in the code: the services that were given back to
the handler. -/
structure URLServiceFeeder where
  list_size : UInt32 := 0
  current_service : Option Nat := none
  service_list : List URLService := []
  online_urls : List Nat := []
  offline_urls : Finset Nat := ∅
  available_url : Finset Nat := ∅
  feed_mode : URLServiceFeedMode := .roundRobin
  disposed : List (Option Nat) := []
  deriving DecidableEq

namespace URLServiceFeeder

def slot (s : URLServiceFeeder) (idx : Nat) : URLService := s.service_list.getD idx default

/-- What `decreasingOrderMyType` compares. -/
def priority (s : URLServiceFeeder) (idx : Nat) : Nat := (s.slot idx).priority.toNat

/-! ## The operations -/

section Table

-- `sizeof(URLService)`
variable (size : Nat)

def number_of_url (s : URLServiceFeeder) : Nat := s.list_size.toNat / size

/-- Ten slots more when none is available. -/
def grow (s : URLServiceFeeder) : URLServiceFeeder :=
  if s.available_url.card = 0 then
    let old_element_num := s.number_of_url size
    let list_size := s.list_size + UInt32.ofNat (size * 10)
    let added := List.range' old_element_num (list_size.toNat / size - old_element_num)
    { s with
      list_size
      service_list := s.service_list ++ added.map fun idx => { priority := UInt32.ofNat idx }
      available_url := s.available_url ∪ added.toFinset }
  else s

/-- The slot is pushed with the priority it had before, and then gets its new one. Taking the
first element of an empty set is undefined. -/
def addURL (s : URLServiceFeeder) (service : Option Nat) (priority : UInt32) :
    Option (Nat × URLServiceFeeder) :=
  let s := s.grow size
  if h : s.available_url.Nonempty then
    let service_index := s.available_url.min' h
    some (service_index, { s with
      online_urls := heap.push s.priority s.online_urls service_index
      available_url := s.available_url.erase service_index
      service_list := s.service_list.set service_index ⟨priority, true, service⟩ })
  else none

/-- `clear` takes neither the flag `online` nor `current_service` back. -/
def clear (s : URLServiceFeeder) (dispose_service : Bool) : URLServiceFeeder :=
  let indexes := Finset.range (s.number_of_url size)
  { s with
    online_urls := []
    service_list := s.service_list.map fun slot => { slot with priority := 0, service := none }
    available_url := s.available_url ∪ indexes
    offline_urls := s.offline_urls \ indexes
    disposed := s.disposed ++
      if dispose_service then (s.service_list.map (·.service)).filter Option.isSome else [] }

/-- All elements but those of the index are popped into a second queue, and merged back. -/
def removeFromOnlineQueue (s : URLServiceFeeder) (url_index : Nat) : URLServiceFeeder :=
  let popped := heap.drain s.priority s.online_urls.length s.online_urls
  let work_queue := (popped.filter (· ≠ url_index)).foldl (heap.push s.priority) []
  let merged := heap.drain s.priority work_queue.length work_queue
  { s with online_urls := merged.foldl (heap.push s.priority) [] }

/-- The index that is one past the table passes the check of the range, and reading its slot is
undefined. -/
def removeURL (s : URLServiceFeeder) (idx : UInt32) (deallocate_service : Bool) :
    Option URLServiceFeeder :=
  if s.number_of_url size < idx.toNat then some s
  else if deallocate_service ∧ s.service_list.length ≤ idx.toNat then none
  else
    let s := s.removeFromOnlineQueue idx.toNat
    some { s with
      disposed := s.disposed ++ if deallocate_service then [(s.slot idx.toNat).service] else []
      available_url := insert idx.toNat s.available_url }

def setURLOffline (s : URLServiceFeeder) (idx : UInt32) : Option URLServiceFeeder :=
  if s.number_of_url size < idx.toNat then some s
  else if s.service_list.length ≤ idx.toNat then none
  else some { s with
    current_service := if s.current_service = some idx.toNat then none else s.current_service
    service_list := s.service_list.modify idx.toNat fun slot => { slot with online := false }
    offline_urls := insert idx.toNat s.offline_urls }

def setURLOnline (s : URLServiceFeeder) (idx : UInt32) : Option URLServiceFeeder :=
  if s.number_of_url size < idx.toNat then some s
  else if s.service_list.length ≤ idx.toNat then none
  else some { s with
    service_list := s.service_list.modify idx.toNat fun slot => { slot with online := true }
    offline_urls := s.offline_urls.erase idx.toNat
    online_urls := heap.push s.priority s.online_urls idx.toNat }

end Table

/-- Slots at the top that are not online are moved to the offline ones. Each turn pops one slot,
so that the length of the queue bounds the turns. -/
def getNextLoop : Nat → URLServiceFeeder → Option Nat × URLServiceFeeder
  | 0, s => (none, s)
  | fuel + 1, s =>
    match s.online_urls with
    | [] => (none, s)
    | top :: _ =>
      let popped := { s with online_urls := heap.pop s.priority s.online_urls }
      if (s.slot top).online then (some top, popped)
      else getNextLoop fuel { popped with offline_urls := insert top s.offline_urls }

def getNext (s : URLServiceFeeder) : Option Nat × URLServiceFeeder :=
  s.getNextLoop s.online_urls.length

def getService (s : URLServiceFeeder) : Option Nat × URLServiceFeeder :=
  match s.current_service with
  | none =>
    match s.getNext with
    | (none, s) => (none, s)
    | (some next, s) => ((s.slot next).service, { s with current_service := some next })
  | some last_service =>
    match s.feed_mode with
    | .failOver => ((s.slot last_service).service, s)
    | .roundRobin =>
      match s.getNext with
      | (none, s) => ((s.slot last_service).service, s)
      | (some next, s) =>
        -- we have a new service so we can push the old one
        ((s.slot next).service, { s with
          current_service := some next
          online_urls := heap.push s.priority s.online_urls last_service })

def setFeedMode (s : URLServiceFeeder) (new_feed_mode : URLServiceFeedMode) : URLServiceFeeder :=
  { s with feed_mode := new_feed_mode }

/-! ## The steps -/

/-- A call. The handler's answer for the URL comes with `addURL`. -/
inductive Label where
  | addURL (service : Option Nat) (priority : UInt32)
  | removeURL (idx : UInt32) (deallocate_service : Bool)
  | setURLOffline (idx : UInt32)
  | setURLOnline (idx : UInt32)
  | getService
  | clear (dispose_service : Bool)
  | setFeedMode (new_feed_mode : URLServiceFeedMode)
  deriving DecidableEq, Repr

def step (size : Nat) (s : URLServiceFeeder) : Label → Option URLServiceFeeder
  | .addURL service priority => (s.addURL size service priority).map Prod.snd
  | .removeURL idx deallocate_service => s.removeURL size idx deallocate_service
  | .setURLOffline idx => s.setURLOffline size idx
  | .setURLOnline idx => s.setURLOnline size idx
  | .getService => some s.getService.2
  | .clear dispose_service => some (s.clear size dispose_service)
  | .setFeedMode new_feed_mode => some (s.setFeedMode new_feed_mode)

end URLServiceFeeder

end chaos.common.network
