-- The laws of the connections of the engine. The clean up after a connection that could not be
-- opened reads from it, and a query that the queue does not take back is deleted while its entry
-- stays. What the runs keep in which neither happens.
import Chaos.NumberedList
import Chaos.QueryAnswers
import Chaos.QueryConnections
import Mathlib.Data.List.Nodup
import Mathlib.Data.List.Perm.Basic

namespace chaos.data_service.query_engine

open db_system vfs runs

namespace ConnectedEngine

/-! ## What is claimed -/

/-- Of the things that were obtained for the queries `owners`, each is released at most once, and
once when its query is deleted. -/
def ReleasedOnce (owners released disposed : List Nat) : Prop :=
  ∀ (i n : Nat), owners[i]? = some n →
    released.count i ≤ 1 ∧ (n ∈ disposed → released.count i = 1)

/-- An entry has a connection, a channel and a query that is not deleted. -/
def EntryOk (s : ConnectedEngine) (client_info : ClientConnectionInfo) : Prop :=
  client_info.connection ≠ none ∧ client_info.channel ≠ none ∧
    ∃ n, client_info.query = some n ∧ n < s.queries.length ∧ n ∉ s.disposed

structure IsConnected (s : ConnectedEngine) : Prop where
  alive : s.crashed = false
  entries : ∀ e ∈ s.map_query_id_connection, s.EntryOk e.2
  connections : ReleasedOnce s.connections s.released_connections s.disposed
  channels : ReleasedOnce s.channels s.released_channels s.disposed

/-- A connection that is asked for is got. -/
def Connects (s : ConnectedEngine) (opens : Opening) (query : DataCloudQuery) : Prop :=
  s.map_query_id_connection.lookup query.query_computed_unique_id = none →
    opens.allocated = true → opens.connection = true

/-- Each connection that a turn asks for is got, and the queue takes the query back. -/
def InTurn (db : IndexCollection) (s : ConnectedEngine) : Label → Prop
  | .process_query w first last pushes => ∀ n ∈ s.query_queue.head?, ∀ query ∈ s.queries[n]?,
      (query.sends db w = true → s.Connects first query) ∧
      ∀ r ∈ stepPhase db w first n query { s with query_queue := s.query_queue.tail },
        if r.2.1.isOver = true then r.1.Connects last r.2.1 else pushes = true
  | _ => True

instance (s : ConnectedEngine) (opens : Opening) (query : DataCloudQuery) :
    Decidable (s.Connects opens query) :=
  inferInstanceAs (Decidable (_ → _ → _))

instance (db : IndexCollection) (s : ConnectedEngine) : ∀ a, Decidable (InTurn db s a)
  | .process_query w first last pushes => inferInstanceAs (Decidable
      (∀ n ∈ s.query_queue.head?, ∀ query ∈ s.queries[n]?,
        (query.sends db w = true → s.Connects first query) ∧
        ∀ r ∈ stepPhase db w first n query { s with query_queue := s.query_queue.tail },
          if r.2.1.isOver = true then r.1.Connects last r.2.1 else pushes = true))
  | .executeQuery _ _ _ _ | .handleEvent _ _ => isTrue trivial

/-! ## The entries of a map -/

section

variable {κ ν : Type*} [DecidableEq κ] {map : List (κ × ν)} {key : κ} {value : ν}

/-- With unique keys, the entry that was found is the one that the erasure takes away. -/
theorem perm_of_lookup (hkeys : (map.map Prod.fst).Nodup) (h : map.lookup key = some value) :
    map.Perm ((key, value) :: map.filter fun e => e.1 ≠ key) := by
  obtain ⟨before, after, rfl, -⟩ := List.lookup_eq_some_iff.mp h
  have hnot : ∀ e ∈ before ++ after, e.1 ≠ key := by
    rintro e he rfl
    have hperm : ((before ++ (e.1, value) :: after).map Prod.fst).Perm
        (e.1 :: (before ++ after).map Prod.fst) := List.perm_middle.map _
    exact (List.nodup_cons.mp (hperm.nodup_iff.mp hkeys)).1 (List.mem_map_of_mem he)
  have hrest : (before ++ (key, value) :: after).filter (fun e => decide (e.1 ≠ key)) =
      before ++ after := by
    rw [List.filter_append, List.filter_cons, if_neg (by simp), ← List.filter_append,
      List.filter_eq_self]
    intro e he
    simpa using hnot e he
  rw [hrest]
  exact List.perm_middle

/-- A key without an entry. -/
theorem not_mem_of_lookup (h : map.lookup key = none) : key ∉ map.map Prod.fst := by
  intro hmem
  obtain ⟨e, he, rfl⟩ := List.mem_map.mp hmem
  simpa using List.lookup_eq_none_iff.mp h e he

end

/-! ## The id of a query -/

section

variable {db : IndexCollection} {w : World} {query query' : DataCloudQuery}

/-- No step of a query changes what its id is made of. -/
def SameId (query query' : DataCloudQuery) : Prop :=
  query'.query_id = query.query_id ∧ query'.answer_endpoint = query.answer_endpoint

theorem SameId.eq (h : SameId query query') :
    query'.query_computed_unique_id = query.query_computed_unique_id := by
  unfold DataCloudQuery.query_computed_unique_id
  rw [h.1, h.2]

theorem sameId_sendDataLoop {left sent_count : Nat} {err : Int}
    (h : DataCloudQuery.sendDataLoop w left sent_count query = some (err, query')) :
    SameId query query' := by
  induction left generalizing sent_count query with
  | zero =>
    cases h
    exact ⟨rfl, rfl⟩
  | succ left ih =>
    unfold DataCloudQuery.sendDataLoop at h
    split at h
    · cases h
      exact ⟨rfl, rfl⟩
    · split at h
      · cases h
      · simp only at h
        split at h
        · have hrest := ih h
          exact ⟨hrest.1, hrest.2⟩
        · cases h
          exact ⟨rfl, rfl⟩
        · cases h
          exact ⟨rfl, rfl⟩

theorem sameId_sendStart (channel : Option Nat) :
    SameId query (query.sendStartResultFaseToClient w channel) := by
  unfold DataCloudQuery.sendStartResultFaseToClient
  split <;> exact ⟨rfl, rfl⟩

theorem sameId_readDataPackPage {limit_to : UInt32} {err : Bool}
    (h : query.readDataPackPage db w limit_to = some (err, query')) : SameId query query' := by
  unfold DataCloudQuery.readDataPackPage at h
  split at h
  · cases h
  · split at h
    · cases h
      exact ⟨rfl, rfl⟩
    · obtain ⟨r, -, heq⟩ := Option.map_eq_some_iff.mp h
      cases heq
      exact ⟨rfl, rfl⟩

theorem sameId_sendData {channel : Option Nat} {err : Int}
    (h : query.sendDataToClient w channel = some (err, query')) : SameId query query' := by
  unfold DataCloudQuery.sendDataToClient at h
  split at h
  · cases h
    exact ⟨rfl, rfl⟩
  · exact sameId_sendDataLoop h

theorem sameId_stepPhase {n : Nat} {entry entry' : Option Nat} {error : Int}
    (h : query.stepPhase db w n entry = some (query', error, entry')) : SameId query query' := by
  unfold DataCloudQuery.stepPhase at h
  split at h
  · split at h
    · cases h
      exact ⟨rfl, rfl⟩
    · cases h
      exact sameId_sendStart _
  · obtain ⟨⟨err, read⟩, hread, heq⟩ := Option.map_eq_some_iff.mp h
    cases heq
    have hsame := sameId_readDataPackPage hread
    exact ⟨hsame.1, hsame.2⟩
  · obtain ⟨⟨err, sent⟩, hsend, heq⟩ := Option.map_eq_some_iff.mp h
    have hsent := sameId_sendData hsend
    simp only at heq
    split at heq
    · cases heq
      exact hsent
    split at heq <;> cases heq
    · exact hsent
    · exact hsent
  · cases h
    exact ⟨rfl, rfl⟩

theorem sameId_finish (n : Nat) (error : Int) (entry : Option Nat) :
    SameId query (query.finish w n error entry) := by
  unfold DataCloudQuery.finish DataCloudQuery.sendEndResultFaseToClient
  split <;> exact ⟨rfl, rfl⟩

end

/-! ## The invariant -/

/-- A query that was submitted and is not deleted. -/
def Live (s : ConnectedEngine) (n : Nat) : Prop := n < s.queries.length ∧ n ∉ s.disposed

/-- An entry of the map is of a live query with its id, which its connection and its channel were
obtained for. -/
def EntryGood (s : ConnectedEngine) (e : String × ClientConnectionInfo) : Prop :=
  ∃ connection channel n query,
    e.2 = ⟨some connection, some channel, some n⟩ ∧ s.connections[connection]? = some n ∧
    s.channels[channel]? = some n ∧ s.queries[n]? = some query ∧
    query.query_computed_unique_id = e.1 ∧ n ∉ s.disposed

/-- What was obtained is released, or it is in one entry of the map. -/
structure Good (s : ConnectedEngine) : Prop where
  alive : s.crashed = false
  queue : s.query_queue.Nodup
  live : ∀ n ∈ s.query_queue, s.Live n
  submitted : ∀ n ∈ s.disposed, n < s.queries.length
  keys : (s.map_query_id_connection.map Prod.fst).Nodup
  entries : ∀ e ∈ s.map_query_id_connection, s.EntryGood e
  connections : (s.released_connections ++
    s.map_query_id_connection.filterMap (·.2.connection)).Perm (List.range s.connections.length)
  channels : (s.released_channels ++
    s.map_query_id_connection.filterMap (·.2.channel)).Perm (List.range s.channels.length)

variable {db : IndexCollection} {s t : ConnectedEngine} {w : World} {query : DataCloudQuery}
  {n : Nat}

/-- An entry stays good where its things and its query do. -/
theorem EntryGood.mono {e : String × ClientConnectionInfo} (h : s.EntryGood e)
    (hconnections : ∀ (i m : Nat), s.connections[i]? = some m → t.connections[i]? = some m)
    (hchannels : ∀ (i m : Nat), s.channels[i]? = some m → t.channels[i]? = some m)
    (hqueries : ∀ (m : Nat) query, s.queries[m]? = some query → m ∉ s.disposed →
      query.query_computed_unique_id = e.1 → m ∉ t.disposed ∧
        ∃ query', t.queries[m]? = some query' ∧ SameId query query') :
    t.EntryGood e := by
  obtain ⟨connection, channel, m, query, heq, hconnection, hchannel, hquery, hid, hlive⟩ := h
  obtain ⟨hlive', query', hquery', hsame⟩ := hqueries m query hquery hlive hid
  exact ⟨connection, channel, m, query', heq, hconnections _ _ hconnection,
    hchannels _ _ hchannel, hquery', hsame.eq.trans hid, hlive'⟩

/-- What is in no entry of the map was released once, and the rest not yet. -/
theorem releasedOnce_of_perm {owners released held disposed : List Nat}
    (hperm : (released ++ held).Perm (List.range owners.length))
    (hheld : ∀ i ∈ held, ∀ n, owners[i]? = some n → n ∉ disposed) :
    ReleasedOnce owners released disposed := by
  intro i n hi
  have hlt := (List.getElem?_eq_some_iff.mp hi).1
  have hcount : released.count i + held.count i = 1 := by
    rw [← List.count_append, hperm.count_eq]
    exact List.count_eq_one_of_mem List.nodup_range (List.mem_range.mpr hlt)
  refine ⟨by omega, fun hdisposed => ?_⟩
  have hnone : held.count i = 0 :=
    List.count_eq_zero.mpr fun hin => hheld i hin n hi hdisposed
  omega

theorem Good.isConnected (h : Good s) : IsConnected s := by
  refine ⟨h.alive, ?_, releasedOnce_of_perm h.connections ?_, releasedOnce_of_perm h.channels ?_⟩
  · intro e he
    obtain ⟨connection, channel, n, query, heq, -, -, hquery, -, hlive⟩ := h.entries e he
    rw [heq]
    exact ⟨by simp, by simp, n, rfl, (List.getElem?_eq_some_iff.mp hquery).1, hlive⟩
  · intro i hi n hn
    obtain ⟨e, he, heqi⟩ := List.mem_filterMap.mp hi
    obtain ⟨connection, channel, m, query, heq, hconnection, -, -, -, hlive⟩ := h.entries e he
    rw [heq] at heqi
    cases heqi
    rw [hconnection] at hn
    cases hn
    exact hlive
  · intro i hi n hn
    obtain ⟨e, he, heqi⟩ := List.mem_filterMap.mp hi
    obtain ⟨connection, channel, m, query, heq, -, hchannel, -, -, hlive⟩ := h.entries e he
    rw [heq] at heqi
    cases heqi
    rw [hchannel] at hn
    cases hn
    exact hlive

/-! ## The opening of a connection -/

/-- Something new is obtained, and is in an entry or released. -/
theorem perm_range_succ {a b : List Nat} {k : Nat} (h : (a ++ b).Perm (List.range k)) :
    (a ++ k :: b).Perm (List.range (k + 1)) := by
  rw [List.range_succ]
  exact (List.perm_middle.trans (h.cons k)).trans (List.perm_append_singleton _ _).symm

/-- The call leaves the queries, the queue and the deleted queries. -/
theorem Good.getChannelForQuery (h : Good s) {opens : Opening} {q : DataCloudQuery}
    (hq : s.queries[n]? = some q) (hlive : n ∉ s.disposed) (hid : SameId q query)
    (hconnects : s.Connects opens query) :
    Good (s.getChannelForQuery opens n query).1 ∧
      (s.getChannelForQuery opens n query).1.queries = s.queries ∧
      (s.getChannelForQuery opens n query).1.query_queue = s.query_queue ∧
      (s.getChannelForQuery opens n query).1.disposed = s.disposed := by
  unfold ConnectedEngine.getChannelForQuery
  split
  · exact ⟨h, rfl, rfl, rfl⟩
  rename_i hnone
  split
  · exact ⟨h, rfl, rfl, rfl⟩
  rename_i hallocated
  rw [if_neg (by simp [hconnects hnone (by simpa using hallocated)])]
  have hold : ∀ e ∈ s.map_query_id_connection, ∀ {t : ConnectedEngine},
      t.queries = s.queries → t.disposed = s.disposed →
      (∃ l, t.connections = s.connections ++ l) → (∃ l, t.channels = s.channels ++ l) →
      t.EntryGood e := by
    rintro e he t hqueries hdisposed ⟨l, hl⟩ ⟨l', hl'⟩
    apply (h.entries e he).mono
    · intro i m hi
      rw [hl]
      exact numbered_list.getElem?_append_of_some hi l
    · intro i m hi
      rw [hl']
      exact numbered_list.getElem?_append_of_some hi l'
    · intro m query hm hdead _
      rw [hqueries, hdisposed]
      exact ⟨hdead, query, hm, rfl, rfl⟩
  dsimp only
  split
  · -- the connection is released at once
    refine ⟨⟨h.alive, h.queue, h.live, h.submitted, h.keys, ?_, ?_, ?_⟩, rfl, rfl, rfl⟩
    · intro e he
      exact hold e he rfl rfl ⟨[n], rfl⟩ ⟨[], by simp [disposeClientConnectionInfo]⟩
    · simp only [disposeClientConnectionInfo, List.length_append, List.length_cons,
        List.length_nil, Nat.zero_add, List.append_assoc, List.singleton_append]
      exact perm_range_succ h.connections
    · simpa [disposeClientConnectionInfo] using h.channels
  · refine ⟨⟨h.alive, h.queue, h.live, h.submitted, ?_, ?_, ?_, ?_⟩, rfl, rfl, rfl⟩
    · rw [List.map_cons]
      exact List.nodup_cons.mpr ⟨not_mem_of_lookup hnone, h.keys⟩
    · intro e he
      rcases List.mem_cons.mp he with rfl | he
      · exact ⟨_, _, n, q, rfl, by simp, by simp, hq, hid.eq.symm, hlive⟩
      · exact hold e he rfl rfl ⟨[n], rfl⟩ ⟨[n], rfl⟩
    · simp only [List.filterMap_cons, List.length_append, List.length_cons, List.length_nil]
      exact perm_range_succ h.connections
    · simp only [List.filterMap_cons, List.length_append, List.length_cons, List.length_nil]
      exact perm_range_succ h.channels

/-! ## The steps -/

/-- A query goes on under its id. -/
theorem Good.set (h : Good s) {q : DataCloudQuery} (hq : s.queries[n]? = some q)
    (hid : SameId q query) : Good { s with queries := s.queries.set n query } := by
  have hlt := (List.getElem?_eq_some_iff.mp hq).1
  refine ⟨h.alive, h.queue, ?_, ?_, h.keys, ?_, h.connections, h.channels⟩
  · intro m hm
    exact ⟨by simpa using (h.live m hm).1, (h.live m hm).2⟩
  · intro m hm
    simpa using h.submitted m hm
  · intro e he
    refine (h.entries e he).mono (fun _ _ hi => hi) (fun _ _ hi => hi) ?_
    intro m q' hm hdead _
    refine ⟨hdead, ?_⟩
    by_cases hmn : n = m
    · subst hmn
      rw [hq] at hm
      cases hm
      exact ⟨query, List.getElem?_set_self hlt, hid⟩
    · exact ⟨q', by rw [List.getElem?_set_ne hmn, hm], rfl, rfl⟩

/-- The first part of a turn. -/
theorem Good.stepPhase (h : Good s) {opens : Opening} {query' : DataCloudQuery} {error : Int}
    (hq : s.queries[n]? = some query) (hlive : n ∉ s.disposed)
    (hconnects : query.sends db w = true → s.Connects opens query)
    (ht : stepPhase db w opens n query s = some (t, query', error)) :
    Good t ∧ t.queries[n]? = some query' ∧ t.query_queue = s.query_queue ∧
      t.disposed = s.disposed := by
  obtain ⟨r, hr⟩ : ∃ r, r = if query.sends db w then s.getChannelForQuery opens n query
    else (s, none) := ⟨_, rfl⟩
  have hopened : Good r.1 ∧ r.1.queries = s.queries ∧ r.1.query_queue = s.query_queue ∧
      r.1.disposed = s.disposed := by
    rw [hr]
    split
    · rename_i hsends
      exact h.getChannelForQuery hq hlive ⟨rfl, rfl⟩ (hconnects hsends)
    · exact ⟨h, rfl, rfl, rfl⟩
  obtain ⟨hgood, hqueries, hqueue, hdisposed⟩ := hopened
  unfold ConnectedEngine.stepPhase at ht
  dsimp only at ht
  rw [← hr, if_neg (by simp [hgood.alive])] at ht
  obtain ⟨⟨query₁, error₁, entry⟩, hstep, heq⟩ := Option.map_eq_some_iff.mp ht
  cases heq
  have hq' := hq
  rw [← hqueries] at hq'
  refine ⟨hgood.set hq' (sameId_stepPhase hstep), ?_, hqueue, hdisposed⟩
  exact List.getElem?_set_self (List.getElem?_eq_some_iff.mp hq').1

/-- A query is deleted together with the entry of its id. -/
theorem Good.finish (h : Good s) {opens : Opening} {query_error : Int}
    (hq : s.queries[n]? = some query) (hlive : n ∉ s.disposed) (hqueue : n ∉ s.query_queue)
    (hconnects : s.Connects opens query) : Good (s.finish w opens n query query_error) := by
  obtain ⟨hgood, hqueries, hqueue', hdisposed⟩ :=
    h.getChannelForQuery hq hlive ⟨rfl, rfl⟩ hconnects
  unfold ConnectedEngine.finish
  generalize s.getChannelForQuery opens n query = r at *
  dsimp only
  rw [if_neg (by simp [hgood.alive])]
  rw [← hqueries] at hq
  obtain ⟨query', hquery'⟩ : ∃ query', query' =
    query.finish { w with connects := r.2.isSome } n (query.endError query_error) none := ⟨_, rfl⟩
  have hsame : SameId query query' := hquery' ▸ sameId_finish n _ _
  have hset := hgood.set hq hsame
  have hlive' : ∀ m ∈ r.1.query_queue, m < (r.1.queries.set n query').length ∧
      m ∉ r.1.disposed ++ [n] := by
    intro m hm
    refine ⟨(hset.live m hm).1, ?_⟩
    rw [List.mem_append, not_or, List.mem_singleton]
    refine ⟨(hset.live m hm).2, ?_⟩
    rintro rfl
    exact hqueue (hqueue' ▸ hm)
  have hsubmitted : ∀ m ∈ r.1.disposed ++ [n], m < (r.1.queries.set n query').length := by
    intro m hm
    rcases List.mem_append.mp hm with hm | hm
    · exact hset.submitted m hm
    · rw [List.mem_singleton.mp hm, List.length_set]
      exact (List.getElem?_eq_some_iff.mp hq).1
  have hrest : ∀ e ∈ r.1.map_query_id_connection, e.1 ≠ query.query_computed_unique_id →
      ∀ {t : ConnectedEngine}, t.queries = r.1.queries.set n query' →
        t.disposed = r.1.disposed ++ [n] → t.connections = r.1.connections →
        t.channels = r.1.channels → t.EntryGood e := by
    intro e he hkey t htqueries htdisposed htconnections htchannels
    apply (hset.entries e he).mono
    · rw [htconnections]
      exact fun _ _ hi => hi
    · rw [htchannels]
      exact fun _ _ hi => hi
    · intro m q hm hdead hid
      refine ⟨?_, q, by rw [htqueries]; exact hm, rfl, rfl⟩
      rw [htdisposed, List.mem_append, not_or, List.mem_singleton]
      refine ⟨hdead, ?_⟩
      rintro rfl
      -- the entry would be the one of the id
      have hlt := (List.getElem?_eq_some_iff.mp hq).1
      rw [List.getElem?_set_self hlt] at hm
      cases hm
      exact hkey (hid.symm.trans hsame.eq)
  rw [← hquery']
  split
  · rename_i hnone
    refine ⟨hset.alive, hset.queue, hlive', hsubmitted, hset.keys, ?_, hset.connections,
      hset.channels⟩
    intro e he
    refine hrest e he ?_ rfl rfl rfl rfl
    intro heq
    exact not_mem_of_lookup hnone (heq ▸ List.mem_map_of_mem he)
  · rename_i client_info hsome
    have hperm := perm_of_lookup hset.keys hsome
    obtain ⟨connection, channel, m, q, heq, -⟩ :=
      hset.entries _ (hperm.symm.subset List.mem_cons_self)
    obtain rfl : client_info = ⟨some connection, some channel, some m⟩ := heq
    have hconnections := hperm.filterMap (·.2.connection)
    have hchannels := hperm.filterMap (·.2.channel)
    simp only [List.filterMap_cons] at hconnections hchannels
    refine ⟨hset.alive, hset.queue, hlive', hsubmitted, ?_, ?_, ?_, ?_⟩
    · exact (List.filter_sublist.map _).nodup hset.keys
    · intro e he
      rw [List.mem_filter] at he
      exact hrest e he.1 (by simpa using he.2) rfl rfl rfl rfl
    · simp only [disposeClientConnectionInfo, List.append_assoc, List.singleton_append]
      exact (hconnections.symm.append_left _).trans hset.connections
    · simp only [disposeClientConnectionInfo, Option.toList_some, List.append_assoc,
        List.singleton_append]
      exact (hchannels.symm.append_left _).trans hset.channels

theorem Good.executeQuery (h : Good s) (query_id answer_endpoint : String)
    (q : DataPackIndexQuery) (pushes : Bool) :
    Good (s.executeQuery query_id answer_endpoint q pushes) := by
  have hnew : ∀ m ∈ s.query_queue, m ≠ s.queries.length :=
    fun m hm => Nat.ne_of_lt (h.live m hm).1
  unfold ConnectedEngine.executeQuery
  refine ⟨h.alive, ?_, ?_, ?_, h.keys, ?_, h.connections, h.channels⟩
  · dsimp only
    split
    · exact numbered_list.nodup_snoc h.queue fun hin => hnew _ hin rfl
    · exact h.queue
  · intro m hm
    have hnew' : s.queries.length ∉ s.disposed :=
      fun hin => Nat.lt_irrefl _ (h.submitted _ hin)
    unfold Live
    rw [List.length_append, List.length_singleton]
    cases pushes with
    | true =>
      rcases List.mem_append.mp hm with hm | hm
      · exact ⟨Nat.lt_succ_of_lt (h.live m hm).1, (h.live m hm).2⟩
      · rw [List.mem_singleton.mp hm]
        exact ⟨Nat.lt_succ_self _, hnew'⟩
    | false =>
      refine ⟨Nat.lt_succ_of_lt (h.live m hm).1, ?_⟩
      simpa using ⟨(h.live m hm).2, hnew m hm⟩
  · intro m hm
    rw [List.length_append, List.length_singleton]
    cases pushes with
    | true => exact Nat.lt_succ_of_lt (h.submitted m hm)
    | false =>
      rcases List.mem_append.mp hm with hm | hm
      · exact Nat.lt_succ_of_lt (h.submitted m hm)
      · rw [List.mem_singleton.mp hm]
        exact Nat.lt_succ_self _
  · intro e he
    refine (h.entries e he).mono (fun _ _ hi => hi) (fun _ _ hi => hi) ?_
    intro m q hm hdead _
    refine ⟨?_, q, numbered_list.getElem?_append_of_some hm _, rfl, rfl⟩
    have hlt := (List.getElem?_eq_some_iff.mp hm).1
    dsimp only
    split
    · exact hdead
    · rw [List.mem_append, not_or, List.mem_singleton]
      exact ⟨hdead, Nat.ne_of_lt hlt⟩

theorem Good.process_query (h : Good s) {first last : Opening} {pushes : Bool}
    (hok : InTurn db s (.process_query w first last pushes))
    (ht : s.process_query db w first last pushes = some t) : Good t := by
  unfold ConnectedEngine.process_query at ht
  split at ht
  · cases ht
    exact h
  rename_i n rest hqueue
  obtain ⟨query, hq, hmap⟩ := Option.bind_eq_some_iff.mp ht
  obtain ⟨⟨u, query', error⟩, hstep, heq⟩ := Option.map_eq_some_iff.mp hmap
  have hnodup := h.queue
  rw [hqueue, List.nodup_cons] at hnodup
  have hlive := h.live n (by rw [hqueue]; exact List.mem_cons_self)
  have hpopped : Good { s with query_queue := rest } := by
    refine ⟨h.alive, hnodup.2, ?_, h.submitted, h.keys, h.entries, h.connections, h.channels⟩
    intro m hm
    exact h.live m (by rw [hqueue]; exact List.mem_cons_of_mem _ hm)
  obtain ⟨hfirst, hlast⟩ := hok n (by rw [hqueue]; rfl) query hq
  rw [hqueue] at hlast
  have hchosen := hlast _ hstep
  obtain ⟨hgood, hquery', hqueue', hdisposed⟩ := hpopped.stepPhase hq hlive.2 hfirst hstep
  dsimp only at heq
  rw [if_neg (by simp [hgood.alive])] at heq
  have hn : n ∉ u.query_queue := hqueue' ▸ hnodup.1
  have hdead : n ∉ u.disposed := hdisposed ▸ hlive.2
  split at heq
  · rename_i hover
    rw [if_pos hover] at hchosen
    exact heq ▸ hgood.finish hquery' hdead hn hchosen
  · rename_i hover
    rw [if_neg hover] at hchosen
    rw [hchosen] at heq
    subst heq
    refine ⟨hgood.alive, ?_, ?_, hgood.submitted, hgood.keys, hgood.entries,
      hgood.connections, hgood.channels⟩
    · exact numbered_list.nodup_snoc hgood.queue hn
    · intro m hm
      rcases List.mem_append.mp hm with hm | hm
      · exact hgood.live m hm
      · rw [List.mem_singleton.mp hm]
        exact ⟨(List.getElem?_eq_some_iff.mp hquery').1, hdead⟩

theorem Good.handleEvent (h : Good s) {key : String} {disconnected : Bool}
    (ht : s.handleEvent key disconnected = some t) : Good t := by
  unfold ConnectedEngine.handleEvent at ht
  split at ht
  · cases ht
    exact h
  split at ht
  · cases ht
    exact h
  split at ht
  · cases ht
  rename_i client_info hlookup _ _ n hn
  split at ht
  · cases ht
  obtain rfl := Option.some.inj ht
  obtain ⟨connection, channel, m, q, heq, -, -, hq, -⟩ :=
    h.entries _ ((perm_of_lookup h.keys hlookup).symm.subset List.mem_cons_self)
  obtain rfl : client_info = ⟨some connection, some channel, some m⟩ := heq
  cases hn
  have : Inhabited DataCloudQuery := ⟨q⟩
  rw [List.modify_eq_set, hq]
  exact h.set hq ⟨rfl, rfl⟩

theorem Good.step (h : Good s) {a : Label} (hok : InTurn db s a) (ht : s.step db a = some t) :
    Good t := by
  unfold ConnectedEngine.step at ht
  rw [if_neg (by simp [h.alive])] at ht
  cases a with
  | executeQuery query_id answer_endpoint query pushes =>
    cases ht
    exact h.executeQuery query_id answer_endpoint query pushes
  | process_query w first last pushes => exact h.process_query hok ht
  | handleEvent key disconnected => exact h.handleEvent ht

theorem new_good : Good {} := by
  refine ⟨rfl, List.nodup_nil, ?_, ?_, List.nodup_nil, ?_, .refl _, .refl _⟩
  · simp
  · simp
  · simp

/-- The connections are kept in every run in which each one that is asked for is got and the queue
takes each query back. -/
theorem connections_are_kept {labels : List Label} (hok : RunOk (step db) (InTurn db) {} labels)
    (hr : run (step db) {} labels = some t) : IsConnected t := by
  have hstep : ∀ s a t, Good s → InTurn db s a → step db s a = some t → Good t :=
    fun _ _ _ h hin ht => h.step hin ht
  exact (run_keeps_of_ok _ hstep new_good hok hr).isConnected

open QueryEngine (fineWorld)

/-- A connection and a channel are got. -/
def opened : Opening := ⟨true, true, true⟩

/-- The first client gets everything. The first channel for the second client cannot be made, and
the client goes away after the first message. -/
theorem two_connections_are_released :
    RunOk (step threeIndexes) (InTurn threeIndexes) {}
      [.executeQuery "1" "a" queryAll true, .executeQuery "2" "b" queryAll true,
        .process_query fineWorld opened opened true,
        .process_query fineWorld ⟨true, true, false⟩ opened true,
        .process_query fineWorld opened opened true, .process_query fineWorld opened opened true,
        .process_query fineWorld opened opened true, .process_query fineWorld opened opened true,
        .handleEvent "2_b" true, .process_query fineWorld opened opened true,
        .process_query fineWorld opened opened true] ∧
    ∃ t, run (step threeIndexes) {}
      [.executeQuery "1" "a" queryAll true, .executeQuery "2" "b" queryAll true,
        .process_query fineWorld opened opened true,
        .process_query fineWorld ⟨true, true, false⟩ opened true,
        .process_query fineWorld opened opened true, .process_query fineWorld opened opened true,
        .process_query fineWorld opened opened true, .process_query fineWorld opened opened true,
        .handleEvent "2_b" true, .process_query fineWorld opened opened true,
        .process_query fineWorld opened opened true] = some t ∧
      t.disposed = [0, 1] ∧ t.connections = [0, 1, 1] ∧ t.released_connections = [1, 0, 2] ∧
      IsConnected t := by
  have hok : RunOk (step threeIndexes) (InTurn threeIndexes) {}
      [.executeQuery "1" "a" queryAll true, .executeQuery "2" "b" queryAll true,
        .process_query fineWorld opened opened true,
        .process_query fineWorld ⟨true, true, false⟩ opened true,
        .process_query fineWorld opened opened true, .process_query fineWorld opened opened true,
        .process_query fineWorld opened opened true, .process_query fineWorld opened opened true,
        .handleEvent "2_b" true, .process_query fineWorld opened opened true,
        .process_query fineWorld opened opened true] := by decide +kernel
  exact ⟨hok, _, rfl, by decide +kernel, by decide +kernel, by decide +kernel,
    connections_are_kept hok rfl⟩

/-- The answer endpoint of the first query is none that a connection can be made to, and the clean
up reads from the connection. The queue does not take the second query back: its entry stays with a
query that is deleted, and its connection is not released. -/
theorem connections_are_lost :
    (∃ t, run (step threeIndexes) {} [.executeQuery "1" "" queryAll true,
        .process_query fineWorld ⟨true, false, false⟩ opened true] = some t ∧
      t.crashed = true ∧ ¬ IsConnected t) ∧
    ∃ t, run (step threeIndexes) {} [.executeQuery "1" "a" queryAll true,
        .process_query fineWorld opened opened false] = some t ∧
      t.map_query_id_connection = [("1_a", ⟨some 0, some 0, some 0⟩)] ∧ t.disposed = [0] ∧
      t.connections = [0] ∧ t.released_connections = [] ∧ ¬ IsConnected t := by
  constructor
  · exact ⟨_, rfl, by decide +kernel, fun h => absurd h.alive (by decide +kernel)⟩
  · refine ⟨_, rfl, by decide +kernel, by decide +kernel, by decide +kernel, by decide +kernel, ?_⟩
    intro h
    have hcount := (h.connections 0 0 (by decide +kernel)).2 (by decide +kernel)
    exact absurd hcount (by decide +kernel)

end ConnectedEngine

end chaos.data_service.query_engine
