-- What the clients of the query engine get. Where nothing goes wrong, a query leaves the queue
-- after a bounded number of turns and its client has got every pack that was found, as long as no
-- page of the cursor ends at a time stamp that it cannot go on from.
import Chaos.NumberedList
import Chaos.PagedReading
import Chaos.QueryPacks
import Mathlib.Data.List.Perm.Subperm

namespace chaos.data_service.query_engine

open db_system vfs runs MongoDBIndexCursor

/-! ## What is claimed -/

namespace DataCloudQuery

def resultOf (r : UInt32 × Nat) : Message := .result r.1 r.2

/-- The packs are those that the cursor found. The client got the start, then each pack once, and
then the end without an error. -/
def Delivered (db : IndexCollection) (query : DataCloudQuery) : Prop :=
  ∃ c, start db query.query RESULT_PAGE_DIMENSION = .ok c ∧ query.packs = found db c.query ∧
    ∃ results : List (UInt32 × Nat),
      query.messages = .startResult (UInt64.ofNat (found db c.query).length) ::
        results.map resultOf ++ [.endResult 0] ∧
      (results.map Prod.snd).Perm (List.range query.packs.length)

end DataCloudQuery

/-- Nothing goes wrong during the step. -/
structure World.Fine (w : World) : Prop where
  searches : w.searches = true
  readable : ∀ d, w.readable d = true
  disconnects : w.disconnects = false
  connects : w.connects = true
  startSend : w.startSend = .sent
  sends : ∀ i, w.sends i = .sent
  endSend : w.endSend = .sent

/-- The range matches an index. What is left to fetch is counted in 32 bits, and the cursor goes on
after each full page: the last time stamp of it, read without a sign, is before the end of the
range and not 0. -/
def Pageable (db : IndexCollection) (q : DataPackIndexQuery) : Prop :=
  ∃ c, start db q DataCloudQuery.RESULT_PAGE_DIMENSION = .ok c ∧
    (found db c.query).length < 2 ^ 32 ∧
    ∀ k < (found db c.query).length, 100 ∣ k → PageStarts db c.query k

namespace QueryEngine

/-- A query that the cursor can page through, or a step in which nothing goes wrong. -/
def Smooth (db : IndexCollection) : Label → Prop
  | .executeQuery _ _ query => Pageable db query
  | .process_query w => w.Fine
  | .handleEvent _ => False

/-- The number of turns. -/
def turns (labels : List Label) : Nat :=
  labels.countP fun
    | .process_query _ => true
    | _ => false

end QueryEngine

/-! ## When nothing goes wrong -/

namespace DataCloudQuery

variable {db : IndexCollection} {q : DataPackIndexQuery} {w : World} {query : DataCloudQuery}

/-- A query that was searched: the cursor is after the packs that were fetched, the ones that were
found first, and each of them was sent or waits in the vector. -/
structure Answering (db : IndexCollection) (q : DataPackIndexQuery) (query : DataCloudQuery) :
    Prop where
  cursor : ∃ c, query.query_cursor_ptr = some c ∧
    At db q RESULT_PAGE_DIMENSION c query.packs.length query.packs.length
  packs : query.packs = (found db q).take query.packs.length
  messages : ∃ results : List (UInt32 × Nat),
    query.messages = .startResult (UInt64.ofNat (found db q).length) :: results.map resultOf ∧
    (results.map Prod.snd ++
      query.fetched_data_vector.take query.number_of_element_to_forward).Perm
        (List.range query.packs.length)
  bound : query.number_of_element_to_forward ≤ query.fetched_data_vector.length
  phase : (query.query_phase = .fetchData ∧ query.fetched_data_vector = [] ∧
      query.number_of_element_to_forward = 0) ∨
    (query.query_phase = .forwardData ∧ 0 < query.number_of_element_to_forward)

/-- A query that waits for its next turn. -/
structure Waiting (db : IndexCollection) (c : MongoDBIndexCursor) (query : DataCloudQuery) :
    Prop where
  search : start db query.query RESULT_PAGE_DIMENSION = .ok c
  left : (found db c.query).length < 2 ^ 32
  starts : ∀ k < (found db c.query).length, 100 ∣ k → PageStarts db c.query k
  state : (query.query_phase = .needSearch ∧ query.packs = [] ∧ query.messages = [] ∧
      query.fetched_data_vector = [] ∧ query.number_of_element_to_forward = 0) ∨
    Answering db c.query query

/-- A bound on the turns that a query still needs when `total` packs were found. -/
def turnsLeft (total : Nat) (query : DataCloudQuery) : Nat :=
  2 * (total - query.packs.length) +
    match query.query_phase with
    | .needSearch => 2
    | .fetchData => 1
    | .forwardData => 1 + query.number_of_element_to_forward
    | _ => 0

theorem getChannelForQuery_of_fine (hw : w.Fine) (n : Nat) (entry : Option Nat) :
    ∃ m, getChannelForQuery w n entry = some m := by
  unfold getChannelForQuery
  rw [hw.connects]
  cases entry with
  | none => exact ⟨n, rfl⟩
  | some m => exact ⟨m, rfl⟩

/-- The packs go to the client from the end of the vector. -/
theorem sendDataLoop_of_fine (hw : w.Fine) (left sent_count : Nat) (query : DataCloudQuery)
    (hb : query.number_of_element_to_forward ≤ query.fetched_data_vector.length) :
    ∃ (query' : DataCloudQuery) (results : List (UInt32 × Nat)),
      sendDataLoop w left sent_count query = some (0, query') ∧
      query'.messages = query.messages ++ results.map resultOf ∧
      query'.number_of_element_to_forward = query.number_of_element_to_forward - left ∧
      (results.map Prod.snd ++
        query.fetched_data_vector.take query'.number_of_element_to_forward).Perm
          (query.fetched_data_vector.take query.number_of_element_to_forward) := by
  induction left generalizing sent_count query with
  | zero => exact ⟨query, [], rfl, by simp, rfl, .refl _⟩
  | succ left ih =>
    unfold sendDataLoop
    split
    · rename_i hzero
      exact ⟨query, [], rfl, by simp, by omega, .refl _⟩
    · rename_i last hlast
      have hlt : last < query.fetched_data_vector.length := by omega
      have hpack := List.getElem?_eq_getElem hlt
      rw [hpack]
      simp only [hw.sends]
      generalize query.fetched_data_vector[last] = pack at *
      obtain ⟨query', results, hloop, hmessages, hnumber, hperm⟩ :=
        ih (sent_count + 1) { query with
          number_of_element_to_forward := last
          total_data_pack_sent := query.total_data_pack_sent + 1
          messages := query.messages ++ [.result (query.total_data_pack_sent + 1) pack] } hlt.le
      refine ⟨query', (query.total_data_pack_sent + 1, pack) :: results, hloop, ?_, ?_, ?_⟩
      · rw [hmessages]
        simp [resultOf]
      · rw [hnumber, hlast]
        simp only
        omega
      · rw [List.perm_iff_count] at hperm ⊢
        intro a
        have hcount := count_take_succ hpack a
        have hrest := hperm a
        simp only [List.map_cons, List.count_append, List.count_cons, hlast, hcount,
          List.count_nil] at hrest ⊢
        omega

theorem readFails_of_readable {readable : IndexDocument → Bool} {limit_to : UInt32}
    (hread : ∀ d, readable d = true) (hlimit : 1 ≤ limit_to.toNat) (c : MongoDBIndexCursor) :
    readFails db readable c limit_to = false := by
  unfold readFails
  by_cases hall : c.element_found = c.number_of_element_fetched
  · rw [if_pos hall]
  · rw [if_neg hall]
    split
    · rfl
    · rw [readLoop_of_readable hlimit fun d _ => hread d]
      simp

/-- The first turn searches, and tells the client how many packs were found. -/
theorem turn_needSearch (hw : w.Fine) {c : MongoDBIndexCursor}
    (hsearch : start db query.query RESULT_PAGE_DIMENSION = .ok c)
    (hphase : query.query_phase = .needSearch) (hpacks : query.packs = [])
    (hmessages : query.messages = []) (hvector : query.fetched_data_vector = [])
    (hnumber : query.number_of_element_to_forward = 0) (n : Nat) (entry : Option Nat) :
    ∃ query' entry', query.turn db w n entry = some (query', entry', true) ∧
      query'.query = query.query ∧ Answering db c.query query' ∧
      ∀ total, turnsLeft total query' < turnsLeft total query := by
  obtain ⟨m, hm⟩ := getChannelForQuery_of_fine hw n entry
  have hat := at_start hsearch
  refine ⟨{ query with
    query_phase := .fetchData
    query_cursor_ptr := some c
    messages := [.startResult c.element_found] }, some m, ?_, rfl, ?_, ?_⟩
  · simp [turn, stepPhase, hphase, executeQuery, hw.searches, hsearch, hm,
      sendStartResultFaseToClient, hw.startSend, hmessages, getNumberOfElementFound]
  · refine ⟨⟨c, rfl, ?_⟩, ?_, ⟨[], ?_, ?_⟩, ?_, .inl ⟨rfl, hvector, hnumber⟩⟩
    · rw [hpacks]
      exact hat
    · simp [hpacks]
    · rw [hat.found_eq]
      rfl
    · simp [hpacks, hvector]
    · simp [hnumber]
  · intro total
    simp [turnsLeft, hphase, hpacks]

/-- A page of the cursor is as large as a call of `readDataPackPage` may take, so that the call
that fetches it takes all of it. -/
theorem readDataPackPage_whole {c : MongoDBIndexCursor} {k : Nat} {readable : IndexDocument → Bool}
    (hread : ∀ d, readable d = true) (hat : At db q RESULT_PAGE_DIMENSION c k k)
    (hleft : (found db q).length < 2 ^ 32) (hk : k < (found db q).length)
    (hstart : PageStarts db q k) :
    ∃ c' size, 0 < size ∧ vfs.readDataPackPage db readable c 100 =
        some (c', ((found db q).drop k).take size) ∧
      At db q RESULT_PAGE_DIMENSION c' (k + size) (k + size) := by
  have hfit : PagesFit RESULT_PAGE_DIMENSION (found db q).length :=
    ⟨hleft, Nat.lt_of_le_of_lt (Nat.min_le_left _ _) (by decide)⟩
  obtain ⟨size, hsize⟩ : ∃ size, size = min 100 ((found db q).length - k) := ⟨_, rfl⟩
  have hcall : callSize 100 k (k + size) = size := by
    have hlimit : (100 : UInt32).toNat = 100 := rfl
    unfold callSize
    omega
  obtain ⟨c', hr, hat'⟩ : ∃ c', vfs.readDataPackPage db readable c 100 =
        some (c', ((found db q).drop k).take (callSize 100 k (k + size))) ∧
      At db q RESULT_PAGE_DIMENSION c' (k + callSize 100 k (k + size)) (k + size) :=
    hat.call_next (by decide) (fun d _ => hread d) (by decide) hfit hk hstart
      (by rw [hsize]; rfl)
  rw [hcall] at hr hat'
  exact ⟨c', size, by omega, hr, hat'⟩

/-- A turn that fetches a page. -/
theorem turn_fetchData (hw : w.Fine) (h : Answering db q query)
    (hleft : (found db q).length < 2 ^ 32)
    (hstarts : ∀ k < (found db q).length, 100 ∣ k → PageStarts db q k)
    (hphase : query.query_phase = .fetchData) (hvector : query.fetched_data_vector = [])
    (hmore : query.packs.length < (found db q).length) (n : Nat) (entry : Option Nat) :
    ∃ query' entry', query.turn db w n entry = some (query', entry', true) ∧
      query'.query = query.query ∧ Answering db q query' ∧
      turnsLeft (found db q).length query' < turnsLeft (found db q).length query := by
  obtain ⟨c, hc, hat⟩ := h.cursor
  obtain ⟨results, hmessages, hperm⟩ := h.messages
  have hdvd : 100 ∣ query.packs.length := by
    rcases hat.aligned with heq | hdvd
    · omega
    · exact hdvd
  obtain ⟨c', size, hpos, hcall, hat'⟩ :=
    readDataPackPage_whole hw.readable hat hleft hmore (hstarts _ hmore hdvd)
  have hfails : readFails db w.readable c 100 = false :=
    readFails_of_readable hw.readable (by decide) c
  have hfetched := hat'.fetched
  have hlength : (((found db q).drop query.packs.length).take size).length = size := by
    rw [List.length_take, List.length_drop]
    omega
  generalize hpage : ((found db q).drop query.packs.length).take size = page at *
  refine ⟨{ query with
    query_phase := .forwardData
    query_cursor_ptr := some c'
    packs := query.packs ++ page
    fetched_data_vector := List.range' query.packs.length size
    number_of_element_to_forward := size }, entry, ?_, rfl, ?_, ?_⟩
  · have hne : size ≠ 0 := Nat.ne_of_gt hpos
    simp [turn, stepPhase, hphase, readDataPackPage, hc, hw.searches, hcall, hfails,
      phaseAfterFetch, hw.disconnects, hvector, hlength, hne]
  · refine ⟨⟨c', rfl, ?_⟩, ?_, ⟨results, hmessages, ?_⟩, ?_, .inr ⟨rfl, hpos⟩⟩
    · simpa [hlength] using hat'
    · have htake : (found db q).take (query.packs.length + size) = query.packs ++ page := by
        rw [List.take_add, hpage, ← h.packs]
      simp [hlength, htake]
    · rw [hvector, List.take_nil, List.append_nil] at hperm
      rw [List.take_of_length_le (by simp), List.length_append, hlength, List.range_eq_range',
        ← List.range'_append_1, ← List.range_eq_range']
      simpa using hperm.append_right _
    · simp
  · simp only [turnsLeft, hphase, List.length_append, hlength]
    omega

/-- The turn that finds nothing more to fetch ends the query. -/
theorem turn_end (hw : w.Fine) {c₀ : MongoDBIndexCursor}
    (hsearch : start db query.query RESULT_PAGE_DIMENSION = .ok c₀)
    (h : Answering db c₀.query query) (hleft : (found db c₀.query).length < 2 ^ 32)
    (hphase : query.query_phase = .fetchData) (hvector : query.fetched_data_vector = [])
    (hall : query.packs.length = (found db c₀.query).length) (n : Nat) (entry : Option Nat) :
    ∃ query', query.turn db w n entry = some (query', none, false) ∧ query'.Delivered db := by
  obtain ⟨c, hc, hat⟩ := h.cursor
  obtain ⟨results, hmessages, hperm⟩ := h.messages
  obtain ⟨m, hm⟩ := getChannelForQuery_of_fine hw n entry
  have hcounters := (hat.fetched_all hleft).mpr hall
  have hcall : vfs.readDataPackPage db w.readable c 100 = some (c, []) := hat.call_done hleft hall
  have hfails : readFails db w.readable c 100 = false :=
    readFails_of_readable hw.readable (by decide) c
  refine ⟨{ query with
    query_phase := .ended
    number_of_element_to_forward := 0
    messages := query.messages ++ [.endResult 0] }, ?_, c₀, hsearch, ?_, results, ?_, ?_⟩
  · simp [turn, stepPhase, hphase, readDataPackPage, hc, hw.searches, hcall, hfails,
      phaseAfterFetch, hvector, getNumberOfFetchedElement, getNumberOfElementFound, hcounters,
      DataCloudQuery.finish, sendEndResultFaseToClient, hm, hw.endSend]
  · have hpacks := h.packs
    rw [hall, List.take_length] at hpacks
    exact hpacks
  · rw [hmessages, List.cons_append]
  · rw [hvector, List.take_nil, List.append_nil] at hperm
    exact hperm

/-- A turn that forwards a part of the page. -/
theorem turn_forwardData (hw : w.Fine) (h : Answering db q query)
    (hphase : query.query_phase = .forwardData)
    (hpos : 0 < query.number_of_element_to_forward) (n : Nat) (entry : Option Nat) :
    ∃ query' entry', query.turn db w n entry = some (query', entry', true) ∧
      query'.query = query.query ∧ Answering db q query' ∧
      ∀ total, turnsLeft total query' < turnsLeft total query := by
  obtain ⟨m, hm⟩ := getChannelForQuery_of_fine hw n entry
  obtain ⟨sent, results', hloop, hmessages', hnumber, hperm'⟩ :=
    sendDataLoop_of_fine hw QueryEngine_FORWARDING_PAGE_DIMENSION 0 query h.bound
  obtain ⟨hasked, hcursor, hvector, hpacks, hfewer, hkeep, -⟩ := forwarded_sendDataLoop hloop
  obtain ⟨results, hmessages, hperm⟩ := h.messages
  have hresults : sent.messages = .startResult (UInt64.ofNat (found db q).length) ::
      (results ++ results').map resultOf := by
    rw [hmessages', hmessages, List.map_append, List.cons_append]
  have hall : ((results ++ results').map Prod.snd ++
      query.fetched_data_vector.take sent.number_of_element_to_forward).Perm
        (List.range query.packs.length) := by
    rw [List.map_append, List.append_assoc]
    exact (hperm'.append_left _).trans hperm
  have hcursor' : ∃ c, sent.query_cursor_ptr = some c ∧
      At db q RESULT_PAGE_DIMENSION c sent.packs.length sent.packs.length := by
    rw [hcursor, hpacks]
    exact h.cursor
  have htaken : sent.packs = (found db q).take sent.packs.length := by
    rw [hpacks]
    exact h.packs
  have hphase' : sent.query_phase = .forwardData := (hkeep rfl).trans hphase
  by_cases hzero : sent.number_of_element_to_forward = 0
  · -- the page is sent, and the next one can be fetched
    refine ⟨{ sent with
      query_phase := .fetchData
      number_of_element_to_forward := 0
      fetched_data_vector := [] }, some m, ?_, hasked, ?_, ?_⟩
    · simp [turn, stepPhase, hphase, hm, sendDataToClient, hloop, hzero]
    · refine ⟨hcursor', htaken, ⟨results ++ results', hresults, ?_⟩, Nat.le_refl _,
        .inl ⟨rfl, rfl, rfl⟩⟩
      rw [hzero] at hall
      simpa [hpacks] using hall
    · intro total
      simp only [turnsLeft, hphase, hpacks]
      omega
  · refine ⟨sent, some m, ?_, hasked, ?_, ?_⟩
    · simp [turn, stepPhase, hphase, hm, sendDataToClient, hloop, hzero, hphase']
    · refine ⟨hcursor', htaken, ⟨results ++ results', hresults, ?_⟩, ?_,
        .inr ⟨hphase', Nat.pos_of_ne_zero hzero⟩⟩
      · rw [hvector, hpacks]
        exact hall
      · rw [hvector]
        exact hfewer.trans h.bound
    · intro total
      have hless : sent.number_of_element_to_forward < query.number_of_element_to_forward := by
        rw [hnumber, QueryEngine_FORWARDING_PAGE_DIMENSION]
        omega
      simp only [turnsLeft, hphase, hphase', hpacks]
      omega

/-- A turn of a query that waits ends it with everything delivered, or brings it nearer to that. -/
theorem Waiting.turn {c : MongoDBIndexCursor} (h : Waiting db c query) (hw : w.Fine) (n : Nat)
    (entry : Option Nat) :
    ∃ query' entry' again, query.turn db w n entry = some (query', entry', again) ∧
      (again = false → query'.Delivered db) ∧
      (again = true → Waiting db c query' ∧
        turnsLeft (found db c.query).length query' <
          turnsLeft (found db c.query).length query) := by
  rcases h.state with ⟨hphase, hpacks, hmessages, hvector, hnumber⟩ | hanswering
  · obtain ⟨query', entry', hturn, hasked, hanswering, hless⟩ :=
      turn_needSearch hw h.search hphase hpacks hmessages hvector hnumber n entry
    refine ⟨query', entry', true, hturn, nofun, fun _ => ⟨?_, hless _⟩⟩
    exact ⟨hasked ▸ h.search, h.left, h.starts, .inr hanswering⟩
  · rcases hanswering.phase with ⟨hphase, hvector, -⟩ | ⟨hphase, hpos⟩
    · obtain ⟨_, -, hat⟩ := hanswering.cursor
      rcases Nat.lt_or_eq_of_le hat.fetched with hmore | hall
      · obtain ⟨query', entry', hturn, hasked, hanswering', hless⟩ :=
          turn_fetchData hw hanswering h.left h.starts hphase hvector hmore n entry
        refine ⟨query', entry', true, hturn, nofun, fun _ => ⟨?_, hless⟩⟩
        exact ⟨hasked ▸ h.search, h.left, h.starts, .inr hanswering'⟩
      · obtain ⟨query', hturn, hdelivered⟩ :=
          turn_end hw h.search hanswering h.left hphase hvector hall n entry
        exact ⟨query', none, false, hturn, fun _ => hdelivered, nofun⟩
    · obtain ⟨query', entry', hturn, hasked, hanswering', hless⟩ :=
        turn_forwardData hw hanswering hphase hpos n entry
      refine ⟨query', entry', true, hturn, nofun, fun _ => ⟨?_, hless _⟩⟩
      exact ⟨hasked ▸ h.search, h.left, h.starts, .inr hanswering'⟩

theorem Waiting.of_turn {c : MongoDBIndexCursor} (h : Waiting db c query) (hw : w.Fine) {n : Nat}
    {entry entry' : Option Nat} {query' : DataCloudQuery} {again : Bool}
    (ht : query.turn db w n entry = some (query', entry', again)) :
    (again = false → query'.Delivered db) ∧
      (again = true → Waiting db c query' ∧
        turnsLeft (found db c.query).length query' <
          turnsLeft (found db c.query).length query) := by
  obtain ⟨query'', entry'', again', hturn, hresult⟩ := h.turn hw n entry
  rw [ht] at hturn
  cases hturn
  exact hresult

/-- The bound on the turns of a query, from the packs that the search finds. -/
def turnsOf (db : IndexCollection) (query : DataCloudQuery) : Nat :=
  match start db query.query RESULT_PAGE_DIMENSION with
  | .error _ => 0
  | .ok c => turnsLeft (found db c.query).length query

theorem Waiting.turnsOf_eq {c : MongoDBIndexCursor} (h : Waiting db c query) :
    turnsOf db query = turnsLeft (found db c.query).length query := by
  unfold turnsOf
  rw [h.search]

end DataCloudQuery

namespace QueryEngine

variable {db : IndexCollection} {s t : QueryEngine}

/-- The queries in the queue go on, and the others have delivered everything. -/
structure Going (db : IndexCollection) (s : QueryEngine) : Prop where
  nodup : s.query_queue.Nodup
  known : ∀ n ∈ s.query_queue, n < s.queries.length
  waiting : ∀ (n : Nat) query, s.queries[n]? = some query → n ∈ s.query_queue →
    ∃ c, query.Waiting db c
  delivered : ∀ (n : Nat) query, s.queries[n]? = some query → n ∉ s.query_queue →
    query.Delivered db

theorem going_executeQuery (h : Going db s) (query_id answer_endpoint : String)
    {q : DataPackIndexQuery} (hq : Pageable db q) :
    Going db (s.executeQuery query_id answer_endpoint q) := by
  have hmem : ∀ n, n ∈ (s.executeQuery query_id answer_endpoint q).query_queue ↔
      n ∈ s.query_queue ∨ n = s.queries.length := by
    simp [executeQuery]
  constructor
  · apply numbered_list.nodup_snoc h.nodup
    intro hn
    exact Nat.lt_irrefl _ (h.known _ hn)
  · intro n hn
    have hlength : (s.executeQuery query_id answer_endpoint q).queries.length =
        s.queries.length + 1 := by simp [executeQuery]
    rcases (hmem n).mp hn with hn | rfl
    · have := h.known n hn
      omega
    · omega
  · intro n query hquery hn
    rcases getElem?_executeQuery hquery with hold | ⟨rfl, rfl⟩
    · refine h.waiting n query hold (((hmem n).mp hn).resolve_right ?_)
      exact Nat.ne_of_lt (List.getElem?_eq_some_iff.mp hold).1
    · obtain ⟨c, hsearch, hleft, hstarts⟩ := hq
      exact ⟨c, hsearch, hleft, hstarts, .inl ⟨rfl, rfl, rfl, rfl, rfl⟩⟩
  · intro n query hquery hn
    rw [hmem, not_or] at hn
    rcases getElem?_executeQuery hquery with hold | ⟨rfl, -⟩
    · exact h.delivered n query hold hn.1
    · exact absurd rfl hn.2

theorem going_turn {w : World} (h : Going db s) (hw : w.Fine)
    (ht : s.process_query db w = some t) : Going db t := by
  rcases process_query_cases ht with ⟨-, rfl⟩ | ⟨m, rest, query, query', entry, entry', again,
    hqueue, hquery, hturn, hqueries, hqueue'⟩
  · exact h
  have hnodup := h.nodup
  rw [hqueue, List.nodup_cons] at hnodup
  have hlt := (List.getElem?_eq_some_iff.mp hquery).1
  obtain ⟨c, hwaiting⟩ := h.waiting m query hquery (by simp [hqueue])
  obtain ⟨hdelivered, hagain⟩ := hwaiting.of_turn hw hturn
  have hget : ∀ n q, t.queries[n]? = some q →
      n = m ∧ q = query' ∨ n ≠ m ∧ s.queries[n]? = some q := by
    intro n q hq
    rw [hqueries] at hq
    exact numbered_list.of_getElem?_set hq
  have hmem : ∀ n, n ≠ m → (n ∈ t.query_queue ↔ n ∈ s.query_queue) := by
    intro n hn
    rw [hqueue', hqueue]
    split_ifs <;> simp [hn]
  have hback : m ∈ t.query_queue ↔ again = true := by
    rw [hqueue']
    split_ifs with hagain' <;> simp [hagain', hnodup.1]
  constructor
  · rw [hqueue']
    split_ifs
    · exact numbered_list.nodup_snoc hnodup.2 hnodup.1
    · exact hnodup.2
  · intro n hn
    rw [hqueries, List.length_set]
    by_cases hnm : n = m
    · rw [hnm]
      exact hlt
    · exact h.known n ((hmem n hnm).mp hn)
  · intro n q hq hn
    rcases hget n q hq with ⟨rfl, rfl⟩ | ⟨hnm, hq⟩
    · exact ⟨c, (hagain (hback.mp hn)).1⟩
    · exact h.waiting n q hq ((hmem n hnm).mp hn)
  · intro n q hq hn
    rcases hget n q hq with ⟨rfl, rfl⟩ | ⟨hnm, hq⟩
    · rw [hback, Bool.not_eq_true] at hn
      exact hdelivered hn
    · exact h.delivered n q hq fun hmem' => hn ((hmem n hnm).mpr hmem')

/-- A turn in which nothing goes wrong can be made. -/
theorem process_query_isSome {w : World} (h : Going db s) (hw : w.Fine) :
    ∃ t, s.process_query db w = some t := by
  unfold process_query
  cases hqueue : s.query_queue with
  | nil => exact ⟨s, rfl⟩
  | cons n rest =>
    have hn : n ∈ s.query_queue := by simp [hqueue]
    obtain ⟨query, hquery⟩ : ∃ query, s.queries[n]? = some query :=
      ⟨_, List.getElem?_eq_getElem (h.known n hn)⟩
    obtain ⟨c, hwaiting⟩ := h.waiting n query hquery hn
    obtain ⟨query', entry', again, hturn, -⟩ := hwaiting.turn hw n
      (s.map_query_id_connection.lookup query.query_computed_unique_id)
    simp [hquery, hturn]

theorem going_step {a : Label} (h : Going db s) (ha : Smooth db a) :
    ∃ t, s.step db a = some t ∧ Going db t := by
  cases a with
  | executeQuery query_id answer_endpoint q =>
    exact ⟨_, rfl, going_executeQuery h query_id answer_endpoint ha⟩
  | process_query w =>
    obtain ⟨t, ht⟩ := process_query_isSome h ha
    exact ⟨t, ht, going_turn h ha ht⟩
  | handleEvent key => exact ha.elim

/-! ## The turns until a query has left -/

/-- A query is nearer to its end, or nearer to the head of the queue, after each turn. `size` is a
bound on the length of the queue. -/
def distance (db : IndexCollection) (size n : Nat) (s : QueryEngine) : Nat :=
  if n ∈ s.query_queue then
    (s.queries[n]?.elim 0 (·.turnsOf db)) * size + s.query_queue.idxOf n + 1
  else 0

theorem Going.length_le (h : Going db s) : s.query_queue.length ≤ s.queries.length := by
  have hsub : s.query_queue.Subperm (List.range s.queries.length) :=
    List.subperm_of_subset h.nodup fun n hn => List.mem_range.mpr (h.known n hn)
  simpa using hsub.length_le

theorem distance_executeQuery {size n : Nat} (query_id answer_endpoint : String)
    (q : DataPackIndexQuery) (hn : n < s.queries.length) :
    distance db size n (s.executeQuery query_id answer_endpoint q) = distance db size n s := by
  have hmem : n ∈ (s.executeQuery query_id answer_endpoint q).query_queue ↔
      n ∈ s.query_queue := by
    simp [executeQuery, Nat.ne_of_lt hn]
  unfold distance
  simp only [hmem]
  split_ifs with hqueue
  · simp only [executeQuery, List.getElem?_append_left hn, List.idxOf_append_of_mem hqueue]
  · rfl

/-- The query at the head goes to the end of the queue with fewer turns to make, or it leaves. The
others come one place nearer. -/
theorem distance_turn {w : World} {size n : Nat} (h : Going db s) (hw : w.Fine)
    (hsize : s.queries.length ≤ size) (ht : s.process_query db w = some t) :
    distance db size n t ≤ distance db size n s - 1 := by
  rcases process_query_cases ht with ⟨hqueue, rfl⟩ | ⟨m, rest, query, query', entry, entry', again,
    hqueue, hquery, hturn, hqueries, hqueue'⟩
  · simp [distance, hqueue]
  have hlt := (List.getElem?_eq_some_iff.mp hquery).1
  have hnodup := h.nodup
  rw [hqueue, List.nodup_cons] at hnodup
  obtain ⟨c, hwaiting⟩ := h.waiting m query hquery (by simp [hqueue])
  obtain ⟨-, hagain⟩ := hwaiting.of_turn hw hturn
  unfold distance
  rw [hqueue, hqueue', hqueries]
  by_cases hnm : n = m
  · subst hnm
    rw [List.getElem?_set_self hlt, hquery]
    cases again with
    | false => simp [hnodup.1]
    | true =>
      obtain ⟨hwaiting', hless⟩ := hagain rfl
      have hrest : rest.length + 1 ≤ size := by
        have hle := h.length_le
        rw [hqueue, List.length_cons] at hle
        omega
      have hturns : (query'.turnsOf db + 1) * size ≤ query.turnsOf db * size := by
        apply Nat.mul_le_mul_right
        rw [hwaiting.turnsOf_eq, hwaiting'.turnsOf_eq]
        exact hless
      rw [Nat.add_mul, Nat.one_mul] at hturns
      simp [List.idxOf_append_of_notMem hnodup.1]
      omega
  · rw [List.getElem?_set_ne (Ne.symm hnm)]
    by_cases hmem : n ∈ rest
    · have hidx : List.idxOf n (if again = true then rest ++ [m] else rest) = rest.idxOf n := by
        split_ifs
        · exact List.idxOf_append_of_mem hmem
        · rfl
      have hin : n ∈ if again = true then rest ++ [m] else rest := by
        split_ifs
        · exact List.mem_append_left _ hmem
        · exact hmem
      rw [if_pos hin, if_pos (List.mem_cons_of_mem _ hmem), hidx,
        List.idxOf_cons_ne _ (Ne.symm hnm)]
      omega
    · have hout : n ∉ if again = true then rest ++ [m] else rest := by
        split_ifs <;> simp [hmem, hnm]
      rw [if_neg hout]
      omega

/-- The queries are never fewer, and each turn brings a query nearer to its end. -/
theorem distance_run {size n : Nat} {labels : List Label} (h : Going db s)
    (hok : ∀ a ∈ labels, Smooth db a) (hn : n < s.queries.length)
    (hr : run (step db) s labels = some t) (hsize : t.queries.length ≤ size) :
    s.queries.length ≤ t.queries.length ∧
      distance db size n t ≤ distance db size n s - turns labels := by
  induction labels generalizing s with
  | nil =>
    cases hr
    exact ⟨Nat.le_refl _, Nat.le_refl _⟩
  | cons a labels ih =>
    obtain ⟨u, hu, hrest⟩ := run_cons_some.mp hr
    have ha := hok a List.mem_cons_self
    have hok' : ∀ b ∈ labels, Smooth db b := fun b hb => hok b (List.mem_cons_of_mem _ hb)
    obtain ⟨u', hu', hgoing⟩ := going_step h ha
    rw [hu] at hu'
    cases hu'
    cases a with
    | executeQuery query_id answer_endpoint q =>
      cases hu
      have hlength : (s.executeQuery query_id answer_endpoint q).queries.length =
          s.queries.length + 1 := by simp [executeQuery]
      obtain ⟨hle, hdistance⟩ := ih hgoing hok' (by omega) hrest
      rw [distance_executeQuery query_id answer_endpoint q hn] at hdistance
      exact ⟨by omega, by simpa [turns] using hdistance⟩
    | process_query w =>
      have hlength : u.queries.length = s.queries.length := by
        rcases process_query_cases hu with ⟨-, rfl⟩ | ⟨_, _, _, _, _, _, _, -, -, -, hqueries, -⟩
        · rfl
        · rw [hqueries, List.length_set]
      obtain ⟨hle, hdistance⟩ := ih hgoing hok' (by omega) hrest
      have hturn : distance db size n u ≤ distance db size n s - 1 :=
        distance_turn h ha (by omega) hu
      refine ⟨by omega, ?_⟩
      have hturns : turns (.process_query w :: labels) = turns labels + 1 := by simp [turns]
      omega
    | handleEvent key => exact ha.elim

/-- A query that waits leaves the queue after a number of turns that is bounded for each query in
the engine. -/
theorem leaves_of_turns {n : Nat} {labels : List Label} (h : Going db s)
    (hok : ∀ a ∈ labels, Smooth db a) (hn : n ∈ s.query_queue)
    (hr : run (step db) s labels = some t)
    (hturns : (s.queries[n]?.elim 0 (·.turnsOf db) + 1) * t.queries.length ≤ turns labels) :
    n ∉ t.query_queue := by
  obtain ⟨hle, hdistance⟩ := distance_run h hok (h.known n hn) hr (Nat.le_refl _)
  have hidx : s.query_queue.idxOf n < t.queries.length :=
    (List.idxOf_lt_length_of_mem hn).trans_le (h.length_le.trans hle)
  intro hmem
  unfold distance at hdistance
  rw [if_pos hmem, if_pos hn] at hdistance
  rw [Nat.add_mul, Nat.one_mul] at hturns
  omega

/-! ## The law -/

theorem going_start : Going db {} := by
  constructor
  · exact List.nodup_nil
  · intro n hn
    cases hn
  · intro n query hquery
    simp at hquery
  · intro n query hquery
    simp at hquery

theorem going_run {labels : List Label} (h : Going db s) (hok : ∀ a ∈ labels, Smooth db a) :
    ∃ t, run (step db) s labels = some t ∧ Going db t := by
  refine run_ends_of_ok (Going db) (fun _ _ h ha => going_step h ha) h ?_
  exact RunOk.of_forall hok

/-- The world when nothing goes wrong. -/
def fineWorld : World where
  searches := true
  readable := fun _ => true
  disconnects := false
  connects := true
  startSend := .sent
  sends := fun _ => .sent
  endSend := .sent

/-- A hundred and one indexes whose time stamps are negative as `long long`. -/
def lateIndexes : IndexCollection where
  documents := (List.range 101).map fun i : Nat => indexAt ((i : Int) - 101)
  ordered := by
    rw [List.pairwise_map]
    refine List.pairwise_lt_range.imp ?_
    intro i j hij _ _
    simp only [indexAt]
    omega
  longLong := by
    simp only [List.mem_map, List.mem_range]
    rintro d ⟨i, hi, rfl⟩
    simp only [indexAt]
    omega
  findNOther := fun _ _ => []

/-- All packs up to a time. -/
def queryUntil : DataPackIndexQuery := { did := "bpm", ds_type := 0, start_ts := 0, end_ts := 1000 }

end QueryEngine

end chaos.data_service.query_engine
