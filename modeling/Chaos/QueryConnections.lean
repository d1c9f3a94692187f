-- The connections of the engine. A query that sends to its client looks for the entry of its id,
-- and opens a connection and a channel when there is none. The end of a query closes what the
-- entry of its id holds.
import Chaos.QueryEngine

namespace chaos.data_service.query_engine

open db_system

/-! ## The state -/

/-- `none` is `NULL`. A connection, a channel and a query are named by their numbers among those
that were obtained and submitted. -/
structure ClientConnectionInfo where
  connection : Option Nat := none
  channel : Option Nat := none
  query : Option Nat := none
  deriving DecidableEq, Repr

/-- What the world answers when a connection is opened: whether there is memory for the entry,
whether `getNewConnection` gives a connection and `getNewChannelInstance` a channel. -/
structure Opening where
  allocated : Bool
  connection : Bool
  channel : Bool
  deriving DecidableEq, Repr

/-- The last six are not in the code: the queries that were deleted, the queries that each
connection and channel was obtained for, those that were released, and whether a `NULL` connection
was dereferenced. -/
structure ConnectedEngine where
  queries : List DataCloudQuery := []
  query_queue : List Nat := []
  map_query_id_connection : List (String × ClientConnectionInfo) := []
  disposed : List Nat := []
  connections : List Nat := []
  channels : List Nat := []
  released_connections : List Nat := []
  released_channels : List Nat := []
  crashed : Bool := false
  deriving DecidableEq

namespace DataCloudQuery

/-- Whether the first `switch` of `process_query` sends to the client. -/
def sends (db : IndexCollection) (w : World) (query : DataCloudQuery) : Bool :=
  match query.query_phase with
  | .needSearch =>
    match query.executeQuery db w with
    | .error _ => false
    | .ok _ => true
  | .forwardData => true
  | _ => false

/-- The phases that end a query. -/
def isOver (query : DataCloudQuery) : Bool :=
  query.query_phase = .error ∨ query.query_phase = .ended ∨
    query.query_phase = .clientDisconnected

/-- The error of the last message. -/
def endError (query : DataCloudQuery) (query_error : Int) : Int :=
  match query.query_phase with
  | .error => query_error
  | .clientDisconnected => -3
  | _ => 0

end DataCloudQuery

namespace ConnectedEngine

/-! ## The entries of the map -/

/-- The descriptions of the connection are read before it is compared with `NULL`. -/
def disposeClientConnectionInfo (s : ConnectedEngine) (client_info : ClientConnectionInfo) :
    ConnectedEngine :=
  match client_info.connection with
  | none => { s with crashed := true }
  | some connection => { s with
      released_channels := s.released_channels ++ client_info.channel.toList
      released_connections := s.released_connections ++ [connection] }

/-- `getChannelForQuery` for the query with number `n`, with `none` for an error. -/
def getChannelForQuery (s : ConnectedEngine) (opens : Opening) (n : Nat) (query : DataCloudQuery) :
    ConnectedEngine × Option ClientConnectionInfo :=
  match s.map_query_id_connection.lookup query.query_computed_unique_id with
  | some connection_info => (s, some connection_info)
  | none =>
    if opens.allocated = false then (s, none)
    else if opens.connection = false then (s.disposeClientConnectionInfo {}, none)
    else
      let connection := s.connections.length
      let s := { s with connections := s.connections ++ [n] }
      if opens.channel = false then
        (s.disposeClientConnectionInfo { connection := some connection }, none)
      else
        let connection_info : ClientConnectionInfo :=
          { connection := some connection, channel := some s.channels.length, query := some n }
        ({ s with
          channels := s.channels ++ [n]
          map_query_id_connection :=
            (query.query_computed_unique_id, connection_info) :: s.map_query_id_connection },
          some connection_info)

/-! ## The steps -/

/-- A query that the queue does not take is deleted. -/
def executeQuery (s : ConnectedEngine) (query_id answer_endpoint : String)
    (query : DataPackIndexQuery) (pushes : Bool) : ConnectedEngine :=
  let n := s.queries.length
  { s with
    queries := s.queries ++
      [{ query_id := query_id, answer_endpoint := answer_endpoint, query := query }]
    query_queue := if pushes then s.query_queue ++ [n] else s.query_queue
    disposed := if pushes then s.disposed else s.disposed ++ [n] }

/-- The first `switch` of `process_query` for the query with number `n`, and the error to report. -/
def stepPhase (db : IndexCollection) (w : World) (opens : Opening) (n : Nat)
    (query : DataCloudQuery) (s : ConnectedEngine) :
    Option (ConnectedEngine × DataCloudQuery × Int) :=
  let r := if query.sends db w then s.getChannelForQuery opens n query else (s, none)
  if r.1.crashed then some (r.1, query, 0)
  else (query.stepPhase db { w with connects := r.2.isSome } n none).map fun (query, error, _) =>
    ({ r.1 with queries := r.1.queries.set n query }, query, error)

/-- The end of a query: the last message, and the deletion of its entry and of the query. -/
def finish (w : World) (opens : Opening) (n : Nat) (query : DataCloudQuery) (query_error : Int)
    (s : ConnectedEngine) : ConnectedEngine :=
  let r := s.getChannelForQuery opens n query
  if r.1.crashed then r.1
  else
    let s := { r.1 with
      queries := r.1.queries.set n
        (query.finish { w with connects := r.2.isSome } n (query.endError query_error) none)
      disposed := r.1.disposed ++ [n] }
    match s.map_query_id_connection.lookup query.query_computed_unique_id with
    | none => s
    | some client_info =>
      { s.disposeClientConnectionInfo client_info with
        map_query_id_connection := s.map_query_id_connection.filter fun e =>
          e.1 ≠ query.query_computed_unique_id }

/-- A query that the queue does not take back is deleted, and nothing else is done. -/
def reschedule (s : ConnectedEngine) (pushes : Bool) (n : Nat) : ConnectedEngine :=
  if pushes then { s with query_queue := s.query_queue ++ [n] }
  else { s with disposed := s.disposed ++ [n] }

/-- One pass of the loop of `process_query`. With an empty queue the thread waits. `first` and
`last` are for the two calls of `getChannelForQuery` that there may be. -/
def process_query (db : IndexCollection) (w : World) (first last : Opening) (pushes : Bool)
    (s : ConnectedEngine) : Option ConnectedEngine :=
  match s.query_queue with
  | [] => some s
  | n :: rest =>
    s.queries[n]?.bind fun query =>
      (stepPhase db w first n query { s with query_queue := rest }).map fun (s, query, error) =>
        if s.crashed then s
        else if query.isOver then finish w last n query error s
        else s.reschedule pushes n

/-- An event of a connection. The query of its entry must not be deleted. -/
def handleEvent (s : ConnectedEngine) (unique_query_key : String) (disconnected : Bool) :
    Option ConnectedEngine :=
  match s.map_query_id_connection.lookup unique_query_key with
  | none => some s
  | some client_info =>
    if disconnected = false then some s
    else
      match client_info.query with
      | none => none
      | some n =>
        if n ∈ s.disposed then none
        else some { s with
          queries := s.queries.modify n fun query =>
            { query with query_phase := .clientDisconnected } }

inductive Label where
  | executeQuery (query_id answer_endpoint : String) (query : DataPackIndexQuery) (pushes : Bool)
  | process_query (w : World) (first last : Opening) (pushes : Bool)
  | handleEvent (unique_query_key : String) (disconnected : Bool)

/-- After a `NULL` connection was dereferenced there is no step. -/
def step (db : IndexCollection) (s : ConnectedEngine) (a : Label) : Option ConnectedEngine :=
  if s.crashed then none
  else
    match a with
    | .executeQuery query_id answer_endpoint query pushes =>
      some (s.executeQuery query_id answer_endpoint query pushes)
    | .process_query w first last pushes => s.process_query db w first last pushes
    | .handleEvent unique_query_key disconnected => s.handleEvent unique_query_key disconnected

end ConnectedEngine

end chaos.data_service.query_engine
