-- The order of the results of a query. The packs are fetched into a vector from its front and sent
-- from its end, so that two packs of one page change places.
import Chaos.QueryAnswers

namespace chaos.data_service.query_engine

open db_system vfs runs

/-! ## What is claimed -/

/-- The index and the pack of each result that was sent, in order. -/
def results (messages : List Message) : List (UInt32 × Nat) :=
  messages.filterMap fun
    | .result element_index pack => some (element_index, pack)
    | _ => none

namespace DataCloudQuery

/-- The results that were sent are the packs in the order of the cursor, numbered from one. -/
def InOrder (query : DataCloudQuery) : Prop :=
  ∀ (k : Nat) element_index pack, (results query.messages)[k]? = some (element_index, pack) →
    element_index.toNat = k + 1 ∧ pack = k

/-- A turn that forwards sends nothing, or the only pack of its page with a number that fits. -/
def ForwardsOne (w : World) (n : Nat) (entry : Option Nat) (query : DataCloudQuery) : Prop :=
  query.query_phase = .forwardData →
    getChannelForQuery w n entry = none ∨ w.sends 0 = .failed ∨
      query.fetched_data_vector.length ≤ 1 ∧ query.total_data_pack_sent.toNat + 1 < 2 ^ 32

end DataCloudQuery

namespace QueryEngine

/-- All queries send their results in order. -/
def AllInOrder (s : QueryEngine) : Prop := ∀ query ∈ s.queries, query.InOrder

/-- The turn of the first query of the queue forwards one pack at most. -/
def ForwardsOne (s : QueryEngine) : Label → Prop
  | .process_query w => ∀ n rest query, s.query_queue = n :: rest → s.queries[n]? = some query →
      query.ForwardsOne w n (s.map_query_id_connection.lookup query.query_computed_unique_id)
  | _ => True

end QueryEngine

/-! ## The results -/

@[simp] theorem results_append (l m : List Message) : results (l ++ m) = results l ++ results m :=
  List.filterMap_append

@[simp] theorem results_startResult (n : UInt64) : results [.startResult n] = [] := rfl

@[simp] theorem results_result (i : UInt32) (pack : Nat) : results [.result i pack] = [(i, pack)] :=
  rfl

@[simp] theorem results_endResult (err : Int) : results [.endResult err] = [] := rfl

namespace DataCloudQuery

variable {db : IndexCollection} {w : World} {query query' : DataCloudQuery} {n : Nat}
  {entry : Option Nat}

theorem InOrder.congr (h : query.InOrder)
    (hresults : results query'.messages = results query.messages) : query'.InOrder := by
  unfold InOrder
  rw [hresults]
  exact h

/-- One result more. -/
theorem inOrder_concat (h : query.InOrder) {i : UInt32} {pack : Nat}
    (hmessages : query'.messages = query.messages ++ [.result i pack])
    (hi : i.toNat = (results query.messages).length + 1)
    (hpack : pack = (results query.messages).length) : query'.InOrder := by
  intro k element_index pack' hk
  rw [hmessages, results_append, results_result, List.getElem?_append] at hk
  split_ifs at hk with hlt
  · exact h k element_index pack' hk
  · obtain ⟨hk', -⟩ := List.getElem?_eq_some_iff.mp hk
    obtain rfl : k = (results query.messages).length := by
      rw [List.length_singleton] at hk'
      omega
    rw [Nat.sub_self] at hk
    cases hk
    exact ⟨hi, hpack⟩

/-- The next result after those of the query is the one in order. -/
theorem InOrder.next (h : query'.InOrder) {i : UInt32} {pack : Nat} {more : List Message}
    (hmessages : query'.messages = query.messages ++ [.result i pack] ++ more) :
    i.toNat = (results query.messages).length + 1 ∧ pack = (results query.messages).length := by
  refine h _ i pack ?_
  rw [hmessages, results_append, results_append, results_result, List.append_assoc,
    List.getElem?_append_right (Nat.le_refl _), Nat.sub_self]
  rfl

/-! ## One query -/

/-- The query, before its end, is after the packs that it has sent: they are all that was fetched,
or the page that it is going to send is what was fetched after them. -/
structure InSync (query : DataCloudQuery) : Prop where
  order : query.InOrder
  sent : query.query_phase = .needSearch ∨ query.query_phase = .fetchData ∨
    query.query_phase = .forwardData →
      query.total_data_pack_sent.toNat = (results query.messages).length
  idle : query.query_phase = .needSearch ∨ query.query_phase = .fetchData →
    query.fetched_data_vector = [] ∧ (results query.messages).length = query.packs.length
  page : query.query_phase = .forwardData → query.fetched_data_vector ≠ [] ∧
    query.number_of_element_to_forward = query.fetched_data_vector.length ∧
    query.fetched_data_vector =
      List.range' (results query.messages).length query.fetched_data_vector.length ∧
    query.packs.length = (results query.messages).length + query.fetched_data_vector.length

/-- A query that is over only has to keep its order. -/
theorem InSync.of_over (horder : query.InOrder)
    (hphase : query.query_phase = .error ∨ query.query_phase = .ended ∨
      query.query_phase = .clientDisconnected) : query.InSync := by
  rcases hphase with hphase | hphase | hphase <;> exact ⟨horder, by simp [hphase], by simp [hphase],
    by simp [hphase]⟩

theorem results_finish (w : World) (n : Nat) (query : DataCloudQuery) (error : Int)
    (entry : Option Nat) :
    results (query.finish w n error entry).messages = results query.messages := by
  simp only [finish, sendEndResultFaseToClient]
  split <;> simp

theorem query_phase_finish (w : World) (n : Nat) (query : DataCloudQuery) (error : Int)
    (entry : Option Nat) : (query.finish w n error entry).query_phase = query.query_phase := by
  simp only [finish, sendEndResultFaseToClient]
  split <;> rfl

/-- The end of a turn sends no result. -/
theorem turn_cases {again : Bool} {entry' : Option Nat}
    (ht : query.turn db w n entry = some (query', entry', again)) :
    ∃ stepped error entry₁, query.stepPhase db w n entry = some (stepped, error, entry₁) ∧
      results query'.messages = results stepped.messages ∧
      (query' = stepped ∨ query'.query_phase = .error ∨ query'.query_phase = .ended ∨
        query'.query_phase = .clientDisconnected) := by
  obtain ⟨⟨stepped, error, entry₁⟩, hs, heq⟩ := Option.map_eq_some_iff.mp ht
  refine ⟨stepped, error, entry₁, hs, ?_⟩
  simp only at heq
  split at heq <;> cases heq
  · rename_i hphase
    exact ⟨results_finish .., .inr (.inl ((query_phase_finish ..).trans hphase))⟩
  · rename_i hphase
    exact ⟨results_finish .., .inr (.inr (.inl ((query_phase_finish ..).trans hphase)))⟩
  · rename_i hphase
    exact ⟨results_finish .., .inr (.inr (.inr ((query_phase_finish ..).trans hphase)))⟩
  · exact ⟨rfl, .inl rfl⟩

/-! ## The turns that do not forward -/

theorem InSync.stepPhase (h : query.InSync) (hphase : query.query_phase ≠ .forwardData)
    {error : Int} {entry' : Option Nat}
    (hs : query.stepPhase db w n entry = some (query', error, entry')) : query'.InSync := by
  unfold DataCloudQuery.stepPhase at hs
  split at hs
  · rename_i hsearch
    obtain ⟨hnil, hpacks⟩ := h.idle (.inl hsearch)
    have hsent := h.sent (.inl hsearch)
    split at hs
    · cases hs
      exact .of_over h.order (.inl rfl)
    · rename_i cursor hcursor
      simp only [Option.some.injEq, Prod.mk.injEq] at hs
      obtain ⟨rfl, -, -⟩ := hs
      unfold sendStartResultFaseToClient
      split
      · exact ⟨h.order, fun _ => hsent, fun _ => ⟨hnil, hpacks⟩, by simp⟩
      · exact ⟨h.order, fun _ => hsent, fun _ => ⟨hnil, hpacks⟩, by simp⟩
      · refine ⟨h.order.congr (by simp), fun _ => ?_, fun _ => ⟨hnil, ?_⟩, by simp⟩
        · simpa using hsent
        · simpa using hpacks
      · exact .of_over (h.order.congr (by simp)) (.inr (.inr rfl))
  · rename_i hfetch
    obtain ⟨hnil, hpacks⟩ := h.idle (.inr hfetch)
    have hsent := h.sent (.inr (.inl hfetch))
    obtain ⟨⟨err, read⟩, hr, heq⟩ := Option.map_eq_some_iff.mp hs
    obtain ⟨cursor, docs, rfl⟩ := readDataPackPage_spec hnil hr
    cases heq
    -- the page is put into the vector behind what was sent
    refine ⟨h.order, fun _ => hsent, ?_, ?_⟩
    · simp only [phaseAfterFetch, hfetch, List.length_range', List.range'_eq_nil_iff,
        List.length_append]
      split_ifs <;> simp_all
    · intro hforward
      refine ⟨?_, rfl, ?_, ?_⟩
      · simp only [phaseAfterFetch, hfetch] at hforward
        simp only [ne_eq, ← List.length_eq_zero_iff]
        split_ifs at hforward <;> simp_all
      · simp only [List.length_range', hpacks]
      · simp only [List.length_range', List.length_append, hpacks]
  · rename_i hforward
    exact absurd hforward hphase
  · cases hs
    exact h

/-! ## The turns that forward -/

theorem sendDataLoop_extends (w : World) (left sent_count : Nat) (query : DataCloudQuery)
    (hb : query.number_of_element_to_forward ≤ query.fetched_data_vector.length) :
    ∃ err query' more, sendDataLoop w left sent_count query = some (err, query') ∧
      query'.messages = query.messages ++ more := by
  induction left generalizing sent_count query with
  | zero => exact ⟨0, query, [], rfl, by simp⟩
  | succ left ih =>
    unfold sendDataLoop
    split
    · exact ⟨0, query, [], rfl, by simp⟩
    · rename_i last hlast
      have hlt : last < query.fetched_data_vector.length := by omega
      rw [List.getElem?_eq_getElem hlt]
      dsimp only
      split
      · obtain ⟨err, query', more, hloop, hmessages⟩ := ih (sent_count + 1) { query with
          number_of_element_to_forward := last
          total_data_pack_sent := query.total_data_pack_sent + 1
          messages := query.messages ++
            [.result (query.total_data_pack_sent + 1) query.fetched_data_vector[last]] } hlt.le
        refine ⟨err, query',
          .result (query.total_data_pack_sent + 1) query.fetched_data_vector[last] :: more,
          hloop, ?_⟩
        rw [hmessages]
        simp
      · exact ⟨-1, _, [], rfl, by simp⟩
      · exact ⟨-1, _, _, rfl, rfl⟩

/-- The first pack that is sent is the last one of the vector. -/
theorem sendDataLoop_first {left last pack : Nat}
    (hnumber : query.number_of_element_to_forward = last + 1)
    (hpack : query.fetched_data_vector[last]? = some pack) (hsend : w.sends 0 ≠ .failed) :
    ∃ err query' more, sendDataLoop w (left + 1) 0 query = some (err, query') ∧
      query'.messages =
        query.messages ++ [.result (query.total_data_pack_sent + 1) pack] ++ more := by
  have hlt : last < query.fetched_data_vector.length := (List.getElem?_eq_some_iff.mp hpack).1
  unfold sendDataLoop
  rw [hnumber]
  dsimp only
  rw [hpack]
  cases hfirst : w.sends 0 with
  | sent => exact sendDataLoop_extends w left 1 _ hlt.le
  | failed => exact absurd hfirst hsend
  | disconnected => exact ⟨-1, _, [], rfl, by simp⟩

/-- With no channel, or a first message that fails, nothing is sent and the query is over. -/
theorem InSync.stepPhase_silent (h : query.InSync) (hphase : query.query_phase = .forwardData)
    (hsilent : getChannelForQuery w n entry = none ∨ w.sends 0 = .failed) :
    ∃ stepped error entry', query.stepPhase db w n entry = some (stepped, error, entry') ∧
      stepped.query_phase = .error ∧ stepped.messages = query.messages := by
  obtain ⟨hvector, hnumber, -, -⟩ := h.page hphase
  unfold DataCloudQuery.stepPhase sendDataToClient
  rw [hphase]
  dsimp only
  cases hchannel : getChannelForQuery w n entry with
  | none => exact ⟨_, _, _, rfl, rfl, rfl⟩
  | some m =>
    have hfailed : w.sends 0 = .failed := by simpa [hchannel] using hsilent
    obtain ⟨last, hlast⟩ := Nat.exists_eq_succ_of_ne_zero
      (hnumber.trans_ne (mt List.length_eq_zero_iff.mp hvector))
    have hlt : last < query.fetched_data_vector.length := by omega
    simp only [QueryEngine_FORWARDING_PAGE_DIMENSION, sendDataLoop, hlast, Nat.succ_eq_add_one,
      List.getElem?_eq_getElem hlt, hfailed]
    exact ⟨_, _, _, rfl, rfl, rfl⟩

/-- Otherwise the last pack of the page is sent first. -/
theorem InSync.stepPhase_sends (h : query.InSync) (hphase : query.query_phase = .forwardData)
    (hchannel : getChannelForQuery w n entry ≠ none) (hsend : w.sends 0 ≠ .failed) :
    ∃ stepped error entry' more, query.stepPhase db w n entry = some (stepped, error, entry') ∧
      stepped.messages = query.messages ++ [.result (query.total_data_pack_sent + 1)
        ((results query.messages).length + (query.fetched_data_vector.length - 1))] ++ more := by
  obtain ⟨hvector, hnumber, hrange, -⟩ := h.page hphase
  obtain ⟨last, hlast⟩ := Nat.exists_eq_succ_of_ne_zero
    (hnumber.trans_ne (mt List.length_eq_zero_iff.mp hvector))
  obtain ⟨m, hm⟩ := Option.ne_none_iff_exists'.mp hchannel
  have hpack : query.fetched_data_vector[last]? =
      some ((results query.messages).length + (query.fetched_data_vector.length - 1)) := by
    have hlen : last = query.fetched_data_vector.length - 1 := by omega
    rw [hrange, List.getElem?_range' (by omega), List.length_range', hlen, Nat.one_mul]
  obtain ⟨err, query', more, hloop, hmessages⟩ := sendDataLoop_first hlast hpack hsend
  have hsent : query.sendDataToClient w (getChannelForQuery w n entry) = some (err, query') := by
    rw [hm]
    exact hloop
  unfold DataCloudQuery.stepPhase
  rw [hphase]
  dsimp only
  rw [hsent, Option.map_some]
  dsimp only
  split_ifs
  · exact ⟨_, _, _, more, rfl, hmessages⟩
  · exact ⟨_, _, _, more, rfl, hmessages⟩
  · exact ⟨_, _, _, more, rfl, hmessages⟩

/-- The only pack of a page is sent, and the query goes on to the next page or is over. -/
theorem InSync.stepPhase_one (h : query.InSync) (hphase : query.query_phase = .forwardData)
    (hchannel : getChannelForQuery w n entry ≠ none) (hsend : w.sends 0 ≠ .failed)
    (hone : query.fetched_data_vector.length = 1)
    (hfits : query.total_data_pack_sent.toNat + 1 < 2 ^ 32) {error : Int} {entry' : Option Nat}
    (hs : query.stepPhase db w n entry = some (query', error, entry')) : query'.InSync := by
  obtain ⟨-, hnumber, hrange, hpacks⟩ := h.page hphase
  have hsent := h.sent (.inr (.inr hphase))
  rw [hone] at hnumber hrange hpacks
  obtain ⟨m, hm⟩ := Option.ne_none_iff_exists'.mp hchannel
  have hindex : (query.total_data_pack_sent + 1).toNat = (results query.messages).length + 1 := by
    rw [UInt32.toNat_add, ← hsent]
    exact Nat.mod_eq_of_lt hfits
  have horder : ∀ next : DataCloudQuery, next.messages = query.messages ++
      [.result (query.total_data_pack_sent + 1) (results query.messages).length] →
      next.InOrder := fun next hmessages => inOrder_concat h.order hmessages hindex rfl
  have hpack : query.fetched_data_vector[0]? = some (results query.messages).length := by
    rw [hrange]
    rfl
  unfold DataCloudQuery.stepPhase sendDataToClient at hs
  rw [hphase, hm] at hs
  simp only [QueryEngine_FORWARDING_PAGE_DIMENSION, sendDataLoop, hnumber, hpack] at hs
  cases hfirst : w.sends 0 with
  | sent =>
    simp only [hfirst] at hs
    cases hs
    refine ⟨horder _ rfl, fun _ => ?_, fun _ => ⟨rfl, ?_⟩, by simp⟩
    · simpa using hindex
    · simpa using hpacks.symm
  | failed => exact absurd hfirst hsend
  | disconnected =>
    simp only [hfirst] at hs
    cases hs
    exact .of_over (horder _ rfl) (.inl rfl)

/-! ## Every turn -/

/-- A turn that sends more than one pack of a page, or wraps the number, is out of order. -/
theorem InSync.one_of_inOrder (h : query.InSync) (hphase : query.query_phase = .forwardData)
    {more : List Message} (ho : query'.InOrder)
    (hmessages : query'.messages = query.messages ++ [.result (query.total_data_pack_sent + 1)
      ((results query.messages).length + (query.fetched_data_vector.length - 1))] ++ more) :
    query.fetched_data_vector.length = 1 ∧ query.total_data_pack_sent.toNat + 1 < 2 ^ 32 := by
  obtain ⟨hvector, -, -, -⟩ := h.page hphase
  have hpos : 0 < query.fetched_data_vector.length := List.length_pos_iff.mpr hvector
  have hsent := h.sent (.inr (.inr hphase))
  obtain ⟨hindex, hpack⟩ := ho.next hmessages
  have hlt := (query.total_data_pack_sent + 1).toNat_lt
  exact ⟨by omega, by omega⟩

theorem InSync.of_stepPhase (h : query.InSync) {error : Int} {entry' : Option Nat}
    (hs : query.stepPhase db w n entry = some (query', error, entry')) (ho : query'.InOrder) :
    query'.InSync := by
  by_cases hphase : query.query_phase = .forwardData
  · by_cases hsilent : getChannelForQuery w n entry = none ∨ w.sends 0 = .failed
    · obtain ⟨stepped, _, _, hs', hover, -⟩ := h.stepPhase_silent hphase hsilent
      rw [hs'] at hs
      cases hs
      exact .of_over ho (.inl hover)
    · rw [not_or] at hsilent
      obtain ⟨stepped, _, _, more, hs', hmessages⟩ := h.stepPhase_sends hphase hsilent.1 hsilent.2
      have heq := hs'.symm.trans hs
      cases heq
      obtain ⟨hone, hfits⟩ := h.one_of_inOrder hphase ho hmessages
      exact h.stepPhase_one hphase hsilent.1 hsilent.2 hone hfits hs
  · exact h.stepPhase hphase hs

theorem InSync.of_turn (h : query.InSync) {entry' : Option Nat} {again : Bool}
    (ht : query.turn db w n entry = some (query', entry', again)) (ho : query'.InOrder) :
    query'.InSync := by
  obtain ⟨stepped, error, entry₁, hs, hresults, heq | hover⟩ := turn_cases ht
  · subst heq
    exact h.of_stepPhase hs ho
  · exact .of_over ho hover

/-- A turn keeps the order just when it forwards one pack at most. -/
theorem InSync.forwardsOne_iff (h : query.InSync) :
    query.ForwardsOne w n entry ↔ ∀ query' entry' again,
      query.turn db w n entry = some (query', entry', again) → query'.InOrder := by
  constructor
  · intro hok query' entry' again ht
    obtain ⟨stepped, error, entry₁, hs, hresults, -⟩ := turn_cases ht
    refine InOrder.congr ?_ hresults
    by_cases hphase : query.query_phase = .forwardData
    · by_cases hsilent : getChannelForQuery w n entry = none ∨ w.sends 0 = .failed
      · obtain ⟨stepped', _, _, hs', -, hsame⟩ := h.stepPhase_silent hphase hsilent
        rw [hs'] at hs
        cases hs
        exact h.order.congr (congrArg results hsame)
      · have hone := hok hphase
        rw [← or_assoc, or_iff_right hsilent] at hone
        rw [not_or] at hsilent
        have hpos := List.length_pos_iff.mpr (h.page hphase).1
        exact (h.stepPhase_one hphase hsilent.1 hsilent.2 (by omega) hone.2 hs).order
    · exact (h.stepPhase hphase hs).order
  · intro hall hphase
    rw [← or_assoc, or_iff_not_imp_left]
    intro hsends
    rw [not_or] at hsends
    obtain ⟨stepped, error, entry₁, more, hs, hmessages⟩ :=
      h.stepPhase_sends hphase hsends.1 hsends.2
    have hturn : ∃ query' entry' again, query.turn db w n entry = some (query', entry', again) := by
      unfold turn
      rw [hs]
      exact ⟨_, _, _, rfl⟩
    obtain ⟨query', entry', again, ht⟩ := hturn
    obtain ⟨stepped', _, _, hs', hresults, -⟩ := turn_cases ht
    have heq := hs'.symm.trans hs
    cases heq
    have ho : stepped.InOrder := (hall query' entry' again ht).congr hresults.symm
    obtain ⟨hone, hfits⟩ := h.one_of_inOrder hphase ho hmessages
    exact ⟨hone.le, hfits⟩

end DataCloudQuery

/-! ## The engine -/

namespace QueryEngine

variable {db : IndexCollection} {s t : QueryEngine}

/-- All queries are in sync. -/
def AllInSync (s : QueryEngine) : Prop := ∀ query ∈ s.queries, query.InSync

/-- A query before its first turn. -/
def newQuery (query_id answer_endpoint : String) (q : DataPackIndexQuery) : DataCloudQuery :=
  { query_id := query_id, answer_endpoint := answer_endpoint, query := q }

theorem inSync_newQuery (query_id answer_endpoint : String) (q : DataPackIndexQuery) :
    (newQuery query_id answer_endpoint q).InSync := by
  refine ⟨?_, fun _ => rfl, fun _ => ⟨rfl, rfl⟩, by simp [newQuery]⟩
  intro k element_index pack hk
  simp [newQuery, results] at hk

theorem process_query_of_turn {w : World} {n : Nat} {rest : List Nat}
    {query query' : DataCloudQuery} {entry' : Option Nat} {again : Bool}
    (hqueue : s.query_queue = n :: rest) (hquery : s.queries[n]? = some query)
    (ht : query.turn db w n (s.map_query_id_connection.lookup query.query_computed_unique_id) =
      some (query', entry', again)) :
    ∃ t, s.process_query db w = some t ∧ query' ∈ t.queries := by
  have hlt := (List.getElem?_eq_some_iff.mp hquery).1
  unfold process_query
  rw [hqueue]
  dsimp only
  rw [hquery, Option.bind_some, ht]
  exact ⟨_, rfl, List.mem_set hlt query'⟩

/-- Where a query comes from that is there after a step. -/
theorem mem_queries_step {a : Label} (ht : s.step db a = some t) {query' : DataCloudQuery}
    (hmem : query' ∈ t.queries) :
    query' ∈ s.queries ∨
    (∃ query_id answer_endpoint q, query' = newQuery query_id answer_endpoint q) ∨
    (∃ query ∈ s.queries, query' = { query with query_phase := .clientDisconnected }) ∨
    ∃ w n rest query entry' again, a = .process_query w ∧ s.query_queue = n :: rest ∧
      s.queries[n]? = some query ∧
      query.turn db w n (s.map_query_id_connection.lookup query.query_computed_unique_id) =
        some (query', entry', again) := by
  cases a with
  | executeQuery query_id answer_endpoint q =>
    cases ht
    rcases List.mem_append.mp hmem with hold | hnew
    · exact .inl hold
    · exact .inr (.inl ⟨query_id, answer_endpoint, q, List.mem_singleton.mp hnew⟩)
  | process_query w =>
    change s.process_query db w = some t at ht
    unfold process_query at ht
    split at ht
    · cases ht
      exact .inl hmem
    · rename_i n rest hqueue
      obtain ⟨query, hquery, hmap⟩ := Option.bind_eq_some_iff.mp ht
      obtain ⟨⟨turned, entry', again⟩, hturn, rfl⟩ := Option.map_eq_some_iff.mp hmap
      rcases List.mem_or_eq_of_mem_set hmem with hold | rfl
      · exact .inl hold
      · exact .inr (.inr (.inr ⟨w, n, rest, query, entry', again, rfl, hqueue, hquery, hturn⟩))
  | handleEvent key =>
    change s.handleEvent key = some t at ht
    unfold handleEvent at ht
    split at ht
    · cases ht
      exact .inl hmem
    · split_ifs at ht
      cases ht
      obtain ⟨m, hm⟩ := List.mem_iff_getElem?.mp hmem
      simp only [List.getElem?_modify] at hm
      obtain ⟨query, hquery, rfl⟩ := Option.map_eq_some_iff.mp hm
      have hold := List.mem_of_getElem? hquery
      split_ifs
      · exact .inr (.inr (.inl ⟨query, hold, rfl⟩))
      · exact .inl hold

theorem allInSync_step {a : Label} (h : AllInSync s) (ht : s.step db a = some t)
    (ho : t.AllInOrder) : AllInSync t := by
  intro query' hmem
  rcases mem_queries_step ht hmem with hold | ⟨_, _, _, rfl⟩ | ⟨query, hold, rfl⟩ |
    ⟨w, n, rest, query, entry', again, -, -, hquery, hturn⟩
  · exact h query' hold
  · exact inSync_newQuery ..
  · exact .of_over (h query hold).order (.inr (.inr rfl))
  · exact (h query (List.mem_of_getElem? hquery)).of_turn hturn (ho query' hmem)

/-- A step keeps all results in order just when its turn forwards one pack at most. -/
theorem forwardsOne_iff {a : Label} (h : AllInSync s) :
    s.ForwardsOne a ↔ ∀ t, s.step db a = some t → t.AllInOrder := by
  constructor
  · intro hok t ht query' hmem
    rcases mem_queries_step ht hmem with hold | ⟨_, _, _, rfl⟩ | ⟨query, hold, rfl⟩ |
      ⟨w, n, rest, query, entry', again, rfl, hqueue, hquery, hturn⟩
    · exact (h query' hold).order
    · exact (inSync_newQuery ..).order
    · exact (h query hold).order
    · have hone := hok n rest query hqueue hquery
      exact (h query (List.mem_of_getElem? hquery)).forwardsOne_iff.mp hone _ _ _ hturn
  · intro hall
    cases a with
    | executeQuery | handleEvent => trivial
    | process_query w =>
      intro n rest query hqueue hquery
      have hturns : ∀ query' entry' again, query.turn db w n
          (s.map_query_id_connection.lookup query.query_computed_unique_id) =
            some (query', entry', again) → query'.InOrder := by
        intro query' entry' again hturn
        obtain ⟨t, ht, hmem⟩ := process_query_of_turn hqueue hquery hturn
        exact hall t ht query' hmem
      exact (h query (List.mem_of_getElem? hquery)).forwardsOne_iff.mpr hturns

/-- In a run all results are sent in order just when each turn forwards one pack at most. -/
theorem all_in_order_iff (db : IndexCollection) (labels : List Label) :
    RunOk (step db) ForwardsOne {} labels ↔
      ∀ n t, run (step db) {} (labels.take n) = some t → t.AllInOrder :=
  runOk_iff_all_good AllInSync (fun _ h query hquery => (h query hquery).order)
    (fun _ _ _ h ht ho => allInSync_step h ht ho) (fun _ _ h => forwardsOne_iff h)
    (fun _ hquery => by simp at hquery)

/-- The three packs of a page are sent from the last one. -/
theorem last_pack_is_sent_first : ¬ ∀ (db : IndexCollection) (labels : List Label) (n : Nat) t,
    run (step db) {} (labels.take n) = some t → t.AllInOrder := by
  intro h
  have hrun : (run (step threeIndexes) {} (.executeQuery "1" "a" queryAll ::
      List.replicate 3 (.process_query fineWorld))).any
        (fun s => s.queries.any fun query =>
          decide ((results query.messages)[0]? = some (1, 2))) := by
    decide
  obtain ⟨s, hr, hs⟩ := Option.any_eq_true _ _ |>.mp hrun
  obtain ⟨query, hmem, hfirst⟩ := List.any_eq_true.mp hs
  have horder := h threeIndexes (.executeQuery "1" "a" queryAll ::
    List.replicate 3 (.process_query fineWorld)) 4 s hr query hmem 0 1 2
      (of_decide_eq_true hfirst)
  exact absurd horder.2 (by decide)

end QueryEngine

end chaos.data_service.query_engine
