-- The engine that answers the queries of the data cloud. The queries wait in a queue; each turn
-- takes the first one, makes one step of it and puts it back at the end, until it is over. A step
-- searches the index, fetches a page of packs or forwards some of them to the client.
import Chaos.IndexCursor
import Chaos.Runs

namespace chaos.data_service.query_engine

open db_system vfs

/-! ## The state -/

inductive DataCloudQueryPhase where
  | empty
  | needSearch
  | fetchData
  | forwardData
  | error
  | clientDisconnected
  | ended
  deriving DecidableEq, Repr

/-- A message to the client. A pack is named by its number among those that the query fetched. -/
inductive Message where
  | startResult (total_element_found : UInt64)
  | result (element_index : UInt32) (pack : Nat)
  | endResult (error : Int)
  deriving DecidableEq, Repr

/-- `query_cursor_ptr` is the cursor of `vfs_query`. The last three are not in the code: the packs
that were fetched, those of them that were freed and the messages that the channel took. -/
structure DataCloudQuery where
  query_id : String
  answer_endpoint : String
  query : DataPackIndexQuery
  query_phase : DataCloudQueryPhase := .needSearch
  total_data_pack_sent : UInt32 := 0
  query_cursor_ptr : Option MongoDBIndexCursor := none
  number_of_element_to_forward : Nat := 0
  fetched_data_vector : List Nat := []
  packs : List IndexDocument := []
  freed : List Nat := []
  messages : List Message := []
  deriving DecidableEq

def DataCloudQuery.query_computed_unique_id (query : DataCloudQuery) : String :=
  query.query_id ++ "_" ++ query.answer_endpoint

/-- A pointer to a query is its number among those that were submitted. An entry of the map of the
connections keeps the query that opened the connection. -/
structure QueryEngine where
  queries : List DataCloudQuery := []
  query_queue : List Nat := []
  map_query_id_connection : List (String × Nat) := []
  deriving DecidableEq

/-- What becomes of a message: it is sent, it is not and the channel frees its data, or it is sent
and the client disconnects before the call returns. -/
inductive SendOutcome where
  | sent
  | failed
  | disconnected
  deriving DecidableEq, Repr

/-- What the world outside does during one step: whether the database answers, which packs the
storage can read, whether the client goes away while a page is read, whether a new connection can
be opened, and what becomes of the messages. -/
structure World where
  searches : Bool
  readable : IndexDocument → Bool
  disconnects : Bool
  connects : Bool
  startSend : SendOutcome
  sends : Nat → SendOutcome
  endSend : SendOutcome

/-! ## The messages -/

/-- `getChannelForQuery`: the entry of the map for the query after the call, none for an error. -/
def getChannelForQuery (w : World) (n : Nat) (entry : Option Nat) : Option Nat :=
  entry.or (if w.connects then some n else none)

namespace DataCloudQuery

def getNumberOfElementFound (query : DataCloudQuery) : UInt64 :=
  query.query_cursor_ptr.elim 0 (·.element_found)

def getNumberOfFetchedElement (query : DataCloudQuery) : UInt64 :=
  query.query_cursor_ptr.elim 0 (·.number_of_element_fetched)

/-- The error of the call is not looked at. -/
def sendStartResultFaseToClient (w : World) (query : DataCloudQuery) (channel : Option Nat) :
    DataCloudQuery :=
  let message := .startResult query.getNumberOfElementFound
  match channel, w.startSend with
  | none, _ | _, .failed => query
  | some _, .sent => { query with messages := query.messages ++ [message] }
  | some _, .disconnected => { query with
      messages := query.messages ++ [message]
      query_phase := .clientDisconnected }

def QueryEngine_FORWARDING_PAGE_DIMENSION : Nat := 50

/-- The loop of `sendDataToClient`, with the number of turns that are left of the page. The packs
are taken from the end of the vector. The `FoundDataPack` is deleted in each turn; its data is the
channel's from the call on. -/
def sendDataLoop (w : World) : Nat → Nat → DataCloudQuery → Option (Int × DataCloudQuery)
  | 0, _, query => some (0, query)
  | left + 1, sent_count, query =>
    match query.number_of_element_to_forward with
    | 0 => some (0, query)
    | last + 1 =>
      match query.fetched_data_vector[last]? with
      | none => none
      | some datapack_to_forward =>
        let query := { query with
          number_of_element_to_forward := last
          total_data_pack_sent := query.total_data_pack_sent + 1 }
        let message := .result query.total_data_pack_sent datapack_to_forward
        match w.sends sent_count with
        | .sent =>
          sendDataLoop w left (sent_count + 1)
            { query with messages := query.messages ++ [message] }
        | .failed => some (-1, { query with freed := query.freed ++ [datapack_to_forward] })
        | .disconnected => some (-1, { query with
            messages := query.messages ++ [message]
            query_phase := .clientDisconnected })

def sendDataToClient (w : World) (query : DataCloudQuery) (channel : Option Nat) :
    Option (Int × DataCloudQuery) :=
  match channel with
  | none => some (-1, query)
  | some _ => sendDataLoop w QueryEngine_FORWARDING_PAGE_DIMENSION 0 query

def sendEndResultFaseToClient (w : World) (query : DataCloudQuery) (channel : Option Nat)
    (error : Int) : DataCloudQuery :=
  match channel, w.endSend with
  | none, _ | _, .failed => query
  | some _, _ => { query with messages := query.messages ++ [.endResult error] }

/-! ## The steps of one query -/

/-- `readDataPackPage` returns an error when it takes an element whose pack cannot be read. -/
def readFails (db : IndexCollection) (readable : IndexDocument → Bool) (c : MongoDBIndexCursor)
    (limit_to : UInt32) : Bool :=
  if c.element_found = c.number_of_element_fetched then false
  else
    match if c.hasNext then some c else c.performNextPagedQuery db with
    | none => false
    | some c =>
      let r := readLoop readable
        (c.fetched_element_page.drop c.number_of_returned_element_in_page.toNat) limit_to
      decide (r.1 ≠ r.2.length)

/-- The call of `readDataPackPage`: whether it fails, and the query with the packs that it put into
the vector. A database that does not answer is seen when a page is needed. -/
def readDataPackPage (db : IndexCollection) (w : World) (query : DataCloudQuery)
    (limit_to : UInt32) : Option (Bool × DataCloudQuery) :=
  match query.query_cursor_ptr with
  | none => none
  | some c =>
    if c.element_found ≠ c.number_of_element_fetched ∧ c.hasNext = false ∧ w.searches = false then
      some (true, query)
    else
      (vfs.readDataPackPage db w.readable c limit_to).map fun r =>
        (readFails db w.readable c limit_to, { query with
          query_cursor_ptr := some r.1
          packs := query.packs ++ r.2
          fetched_data_vector :=
            query.fetched_data_vector ++ List.range' query.packs.length r.2.length })

def RESULT_PAGE_DIMENSION : UInt32 := 100

/-- `executeQuery` of the `VFSQuery`. -/
def executeQuery (db : IndexCollection) (w : World) (query : DataCloudQuery) :
    Except Int MongoDBIndexCursor :=
  if w.searches then MongoDBIndexCursor.start db query.query RESULT_PAGE_DIMENSION
  else .error (-1)

/-- The phase after a page was read, and the error to report. The query is at its end when the page
is empty and the counters of the cursor agree. -/
def phaseAfterFetch (w : World) (err : Bool) (query : DataCloudQuery) :
    DataCloudQueryPhase × Int :=
  let query_phase := if w.disconnects then .clientDisconnected else query.query_phase
  if err then (.error, -2)
  else if query.fetched_data_vector.length = 0 ∧
      query.getNumberOfFetchedElement = query.getNumberOfElementFound then (.ended, 0)
  else if query.fetched_data_vector.length ≠ 0 ∧ query_phase = .fetchData then (.forwardData, 0)
  else (query_phase, 0)

/-- The first `switch` of `process_query`: the query, the error to report and the entry of the map
after it. -/
def stepPhase (db : IndexCollection) (w : World) (n : Nat) (query : DataCloudQuery)
    (entry : Option Nat) : Option (DataCloudQuery × Int × Option Nat) :=
  match query.query_phase with
  | .needSearch =>
    match query.executeQuery db w with
    | .error _ => some ({ query with query_phase := .error }, -1, entry)
    | .ok cursor =>
      let channel := getChannelForQuery w n entry
      let query := { query with query_phase := .fetchData, query_cursor_ptr := some cursor }
      some (query.sendStartResultFaseToClient w channel, 0, channel)
  | .fetchData =>
    (query.readDataPackPage db w 100).map fun (err, query) =>
      -- how many elements have to be returned to the client, or deleted in case of error
      ({ query with
        query_phase := (query.phaseAfterFetch w err).1
        number_of_element_to_forward := query.fetched_data_vector.length },
        (query.phaseAfterFetch w err).2, entry)
  | .forwardData =>
    let channel := getChannelForQuery w n entry
    (query.sendDataToClient w channel).map fun (err, query) =>
      if err ≠ 0 then ({ query with query_phase := .error }, -3, channel)
      else if query.number_of_element_to_forward = 0 then
        ({ query with
          query_phase := .fetchData
          number_of_element_to_forward := 0
          fetched_data_vector := [] }, 0, channel)
      else (query, 0, channel)
  | _ => some (query, 0, entry)

/-- The end of a query: the last message, and the deletion of the packs that were not sent. -/
def finish (w : World) (n : Nat) (query : DataCloudQuery) (error : Int) (entry : Option Nat) :
    DataCloudQuery :=
  let query := query.sendEndResultFaseToClient w (getChannelForQuery w n entry) error
  { query with
    freed := query.freed ++
      (query.fetched_data_vector.take query.number_of_element_to_forward).reverse
    number_of_element_to_forward := 0 }

/-- One turn of a query: the query, and the entry of the map and whether the query goes back into
the queue. -/
def turn (db : IndexCollection) (w : World) (n : Nat) (query : DataCloudQuery)
    (entry : Option Nat) : Option (DataCloudQuery × Option Nat × Bool) :=
  (query.stepPhase db w n entry).map fun (query, query_error, entry) =>
    match query.query_phase with
    | .error => (query.finish w n query_error entry, none, false)
    | .ended => (query.finish w n 0 entry, none, false)
    | .clientDisconnected => (query.finish w n (-3) entry, none, false)
    | _ => (query, entry, true)

end DataCloudQuery

/-! ## The engine -/

namespace QueryEngine

/-- The entry of an id is set, or erased. -/
def setConnection (map : List (String × Nat)) (id : String) (entry : Option Nat) :
    List (String × Nat) :=
  (entry.map fun n => (id, n)).toList ++ map.filter fun e => e.1 ≠ id

/-- A new query goes to the end of the queue. -/
def executeQuery (s : QueryEngine) (query_id answer_endpoint : String)
    (query : DataPackIndexQuery) : QueryEngine :=
  { s with
    queries := s.queries ++
      [{ query_id := query_id, answer_endpoint := answer_endpoint, query := query }]
    query_queue := s.query_queue ++ [s.queries.length] }

/-- One pass of the loop of `process_query`. With an empty queue the thread waits. -/
def process_query (db : IndexCollection) (w : World) (s : QueryEngine) : Option QueryEngine :=
  match s.query_queue with
  | [] => some s
  | n :: rest =>
    s.queries[n]?.bind fun query =>
      let id := query.query_computed_unique_id
      (query.turn db w n (s.map_query_id_connection.lookup id)).map fun (query, entry, again) =>
        { queries := s.queries.set n query
          query_queue := if again then rest ++ [n] else rest
          map_query_id_connection := setConnection s.map_query_id_connection id entry }

/-- The client of the connection disconnects. The query of an entry must not be deleted. -/
def handleEvent (s : QueryEngine) (unique_query_key : String) : Option QueryEngine :=
  match s.map_query_id_connection.lookup unique_query_key with
  | none => some s
  | some n =>
    if n ∈ s.query_queue then
      some { s with
        queries := s.queries.modify n fun query =>
          { query with query_phase := .clientDisconnected } }
    else none

inductive Label where
  | executeQuery (query_id answer_endpoint : String) (query : DataPackIndexQuery)
  | process_query (w : World)
  | handleEvent (unique_query_key : String)

def step (db : IndexCollection) (s : QueryEngine) : Label → Option QueryEngine
  | .executeQuery query_id answer_endpoint query =>
    some (s.executeQuery query_id answer_endpoint query)
  | .process_query w => s.process_query db w
  | .handleEvent unique_query_key => s.handleEvent unique_query_key

end QueryEngine

end chaos.data_service.query_engine
