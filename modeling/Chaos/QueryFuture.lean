-- The query side of the direct io driver. A query is sent to the data cloud first; the future
-- of its result is put in the map of the driver afterwards, under the write lock. The answers
-- of the server find the future through that map, by the query id they carry.
import Chaos.Runs

namespace chaos.common.io

/-! ## The future of a query -/

inductive QueryFutureState where
  | created
  | executed
  | startResult
  | receivingResult
  | endResult
  | error
  deriving DecidableEq, Repr

/-- What the driver calls on a future. -/
inductive FutureCall (P : Type*) where
  | notifyStartResultPhase (total_element_found : UInt64)
  | pushDataPack (received_datapack : P) (datapack_index : UInt64)
  | notifyEndResultPhase (error : Int) (error_message : List UInt8)
  deriving DecidableEq, Repr

/-- `P` is the type of the data packs. `calls` and `taken` are not in the code: they record the
calls of the driver and the packs that the client took out of the queue. -/
structure QueryFuture (P : Type*) where
  query_id : List UInt8
  total_found_element : UInt64 := 0
  fetched_element_index : UInt64 := 0
  error : Int := 0
  error_message : List UInt8 := []
  state : QueryFutureState := .created
  data_pack_queue : List P := []
  calls : List (FutureCall P) := []
  taken : List P := []
  deriving DecidableEq, Repr

namespace QueryFuture

variable {P : Type*}

def pushDataPack (q : QueryFuture P) (received_datapack : P) (datapack_index : UInt64) :
    QueryFuture P :=
  -- the queue is not of a fixed size, so the push is never refused
  { q with
    fetched_element_index := q.fetched_element_index + 1
    state := .receivingResult
    data_pack_queue := q.data_pack_queue ++ [received_datapack]
    calls := q.calls ++ [.pushDataPack received_datapack datapack_index] }

def notifyStartResultPhase (q : QueryFuture P) (total_element_found : UInt64) : QueryFuture P :=
  { q with
    state := .startResult
    total_found_element := total_element_found
    calls := q.calls ++ [.notifyStartResultPhase total_element_found] }

def notifyEndResultPhase (q : QueryFuture P) (error : Int) (error_message : List UInt8) :
    QueryFuture P :=
  let calls := q.calls ++ [.notifyEndResultPhase error error_message]
  if error ≠ 0 then
    { q with error := error, state := .error, error_message := error_message, calls := calls }
  else
    { q with error := error, state := .endResult, calls := calls }

/-- The client takes the oldest pack, when there is one. The waiting for it is left out. -/
def getDataPack (q : QueryFuture P) : QueryFuture P :=
  match q.data_pack_queue with
  | [] => q
  | pack :: rest => { q with data_pack_queue := rest, taken := q.taken ++ [pack] }

end QueryFuture

/-! ## The messages of the server -/

inductive Message where
  | startResult (total_element_found : UInt64)
  | result (data_found : List UInt8) (element_index : UInt64)
  | endResult (error : Int) (error_message : List UInt8)
  deriving DecidableEq, Repr

/-- What the server answers to one query: one start, the results, and one end. -/
structure Answer where
  total_element_found : UInt64
  results : List (List UInt8 × UInt64)
  error : Int
  error_message : List UInt8
  deriving DecidableEq, Repr

def Answer.messages (answer : Answer) : List Message :=
  .startResult answer.total_element_found
    :: answer.results.map (fun r => .result r.1 r.2)
    ++ [.endResult answer.error answer.error_message]

/-! ## The driver -/

/-- The future of a call of `performQuery`: not there before the call has the lock, then held by
the client, until the client releases it. -/
inductive FutureSlot (P : Type*) where
  | awaited
  | held (future : QueryFuture P)
  | released
  deriving DecidableEq, Repr

/-- One call of `performQuery` that sent its query, with the messages of the answer that are
still on their way and the ones that have arrived. -/
structure Query (P : Type*) where
  query_id : List UInt8
  answer : Answer
  in_flight : List Message
  arrived : List Message := []
  future : FutureSlot P := .awaited
  deriving DecidableEq, Repr

/-- The map names a future by the number of the call that made it. -/
structure IODirectIODriver (P : Type*) where
  map_query_future : List UInt8 → Option Nat := fun _ => none
  queries : List (Query P) := []

namespace IODirectIODriver

variable {P : Type*}

/-- The first part of `performQuery`: a service is asked for, and the query is sent to it. -/
def queryDataCloud (s : IODirectIODriver P) (next_client : Bool) (err : Int)
    (query_id : List UInt8) (answer : Answer) : IODirectIODriver P :=
  if !next_client then s
  else if err = 0 then
    { s with queries := s.queries ++
        [{ query_id := query_id, answer := answer, in_flight := answer.messages }] }
  else s

/-- `std::map::insert` leaves an entry that is there as it is. -/
def insert (map : List UInt8 → Option Nat) (query_id : List UInt8) (n : Nat) :
    List UInt8 → Option Nat :=
  if (map query_id).isSome then map else Function.update map query_id (some n)

/-- The second part of `performQuery`, under the write lock. -/
def registerQuery (s : IODirectIODriver P) (n : Nat) : Option (IODirectIODriver P) :=
  match s.queries[n]? with
  | none => none
  | some q =>
    match q.future with
    | .awaited => some
        { map_query_future := insert s.map_query_future q.query_id n
          queries := s.queries.set n { q with future := .held { query_id := q.query_id } } }
    | _ => none

/-- A release of what the client does not hold is a double delete, and undefined. -/
def releaseQuery (s : IODirectIODriver P) (n : Nat) : Option (IODirectIODriver P) :=
  match s.queries[n]? with
  | none => none
  | some q =>
    match q.future with
    | .held future => some
        { map_query_future := Function.update s.map_query_future future.query_id none
          queries := s.queries.set n { q with future := .released } }
    | _ => none

def getDataPack (s : IODirectIODriver P) (n : Nat) : Option (IODirectIODriver P) :=
  match s.queries[n]? with
  | none => none
  | some q =>
    match q.future with
    | .held future => some
        { s with queries := s.queries.set n { q with future := .held future.getDataPack } }
    | _ => none

/-- The lookup that the three handlers share. An entry of a deleted future is undefined to
use. -/
def onFuture (s : IODirectIODriver P) (query_id : List UInt8)
    (call : QueryFuture P → QueryFuture P) : Option (IODirectIODriver P) :=
  match s.map_query_future query_id with
  | none => some s
  | some n =>
    match s.queries[n]? with
    | none => none
    | some q =>
      match q.future with
      | .held future => some
          { s with queries := s.queries.set n { q with future := .held (call future) } }
      | _ => none

def consumeDataCloudQueryStartResult (s : IODirectIODriver P) (query_id : List UInt8)
    (total_element_found : UInt64) : Option (IODirectIODriver P) :=
  s.onFuture query_id fun q => q.notifyStartResultPhase total_element_found

/-- `parse` is the constructor of `CDataWrapper`, `none` where it throws: the data is no pack
then, and the handler only logs it. -/
def consumeDataCloudQueryResult (parse : List UInt8 → Option P) (s : IODirectIODriver P)
    (query_id data_found : List UInt8) (element_index : UInt64) : Option (IODirectIODriver P) :=
  s.onFuture query_id fun q =>
    match parse data_found with
    | some data_pack => q.pushDataPack data_pack element_index
    | none => q

def consumeDataCloudQueryEndResult (s : IODirectIODriver P) (query_id : List UInt8) (error : Int)
    (error_message : List UInt8) : Option (IODirectIODriver P) :=
  s.onFuture query_id fun q =>
    if error_message.length ≠ 0 then q.notifyEndResultPhase error error_message
    else q.notifyEndResultPhase error []

def consume (parse : List UInt8 → Option P) (s : IODirectIODriver P) (query_id : List UInt8) :
    Message → Option (IODirectIODriver P)
  | .startResult total => s.consumeDataCloudQueryStartResult query_id total
  | .result data_found element_index =>
    s.consumeDataCloudQueryResult parse query_id data_found element_index
  | .endResult error error_message =>
    s.consumeDataCloudQueryEndResult query_id error error_message

/-- The message number `i` of those on their way to query `n` arrives. -/
def arrive (parse : List UInt8 → Option P) (s : IODirectIODriver P) (n i : Nat) :
    Option (IODirectIODriver P) :=
  match s.queries[n]? with
  | none => none
  | some q =>
    match q.in_flight[i]? with
    | none => none
    | some m =>
      let q' := { q with in_flight := q.in_flight.eraseIdx i, arrived := q.arrived ++ [m] }
      ({ s with queries := s.queries.set n q' } : IODirectIODriver P).consume parse q.query_id m

/-- The steps of the driver. The critical sections of the map are one step each. -/
inductive Label where
  | queryDataCloud (next_client : Bool) (err : Int) (query_id : List UInt8) (answer : Answer)
  | registerQuery (n : Nat)
  | arrive (n i : Nat)
  | getDataPack (n : Nat)
  | releaseQuery (n : Nat)
  deriving DecidableEq, Repr

def step (parse : List UInt8 → Option P) (s : IODirectIODriver P) :
    Label → Option (IODirectIODriver P)
  | .queryDataCloud next_client err query_id answer =>
    some (s.queryDataCloud next_client err query_id answer)
  | .registerQuery n => s.registerQuery n
  | .arrive n i => s.arrive parse n i
  | .getDataPack n => s.getDataPack n
  | .releaseQuery n => s.releaseQuery n

end IODirectIODriver

end chaos.common.io
