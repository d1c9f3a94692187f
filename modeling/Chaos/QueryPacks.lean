-- Where the packs are that a query has fetched. Whatever goes wrong in the world outside, each of
-- them is sent or freed, and once.
import Chaos.NumberedList
import Chaos.QueryEngine
import Mathlib.Data.List.Perm.Basic

namespace chaos.data_service.query_engine

open db_system vfs runs

/-! ## What is claimed -/

/-- The packs that were sent, in order. -/
def sentPacks (messages : List Message) : List Nat :=
  messages.filterMap fun
    | .result _ pack => some pack
    | _ => none

namespace DataCloudQuery

/-- Each pack that was fetched was either sent or freed, and once. -/
def Accounted (query : DataCloudQuery) : Prop :=
  (sentPacks query.messages ++ query.freed).Perm (List.range query.packs.length)

end DataCloudQuery

/-! ## Where the packs are -/

namespace DataCloudQuery

variable {db : IndexCollection} {w : World} {query : DataCloudQuery} {n : Nat} {entry : Option Nat}

/-- Each pack was sent or freed, or waits in the vector. -/
structure Held (query : DataCloudQuery) : Prop where
  packs : (sentPacks query.messages ++ query.freed ++
    query.fetched_data_vector.take query.number_of_element_to_forward).Perm
      (List.range query.packs.length)
  bound : query.number_of_element_to_forward ≤ query.fetched_data_vector.length
  idle : query.query_phase = .needSearch ∨ query.query_phase = .fetchData →
    query.fetched_data_vector = []

@[simp] theorem sentPacks_append (l m : List Message) :
    sentPacks (l ++ m) = sentPacks l ++ sentPacks m :=
  List.filterMap_append

@[simp] theorem sentPacks_startResult (n : UInt64) : sentPacks [.startResult n] = [] := rfl

@[simp] theorem sentPacks_result (i : UInt32) (pack : Nat) : sentPacks [.result i pack] = [pack] :=
  rfl

@[simp] theorem sentPacks_endResult (err : Int) : sentPacks [.endResult err] = [] := rfl

/-- A pack that leaves the end of the vector is counted where it goes to. -/
theorem count_take_succ {vector : List Nat} {last pack : Nat} (h : vector[last]? = some pack)
    (a : Nat) :
    (vector.take (last + 1)).count a = (vector.take last).count a + [pack].count a := by
  rw [List.take_add_one, h, Option.toList_some, List.count_append]

/-- What the sending of some packs does to a query. However it goes, no pack is lost and none is
sent or freed twice. -/
structure Forwarded (query : DataCloudQuery) (err : Int) (query' : DataCloudQuery) : Prop where
  asked : query'.query = query.query
  cursor : query'.query_cursor_ptr = query.query_cursor_ptr
  vector : query'.fetched_data_vector = query.fetched_data_vector
  packs : query'.packs = query.packs
  fewer : query'.number_of_element_to_forward ≤ query.number_of_element_to_forward
  phase : err = 0 → query'.query_phase = query.query_phase
  perm : (sentPacks query'.messages ++ query'.freed ++
      query'.fetched_data_vector.take query'.number_of_element_to_forward).Perm
    (sentPacks query.messages ++ query.freed ++
      query.fetched_data_vector.take query.number_of_element_to_forward)

theorem Forwarded.refl (err : Int) : Forwarded query err query :=
  ⟨rfl, rfl, rfl, rfl, Nat.le_refl _, fun _ => rfl, .refl _⟩

theorem forwarded_sendDataLoop {left sent_count : Nat} {err : Int} {query' : DataCloudQuery}
    (h : sendDataLoop w left sent_count query = some (err, query')) :
    Forwarded query err query' := by
  induction left generalizing sent_count query with
  | zero =>
    cases h
    exact .refl 0
  | succ left ih =>
    unfold sendDataLoop at h
    split at h
    · cases h
      exact .refl 0
    · rename_i last hlast
      split at h
      · cases h
      · rename_i pack hpack
        have hcount := count_take_succ hpack
        have hless : last ≤ query.number_of_element_to_forward := by
          rw [hlast]
          exact Nat.le_succ last
        simp only at h
        split at h
        · obtain ⟨hasked, hcursor, hvector, hpacks, hfewer, hphase, hperm⟩ := ih h
          refine ⟨hasked, hcursor, hvector, hpacks, hfewer.trans hless, hphase, hperm.trans ?_⟩
          rw [List.perm_iff_count]
          intro a
          simp only [sentPacks_append, sentPacks_result, List.count_append, hlast, hcount]
          omega
        · cases h
          refine ⟨rfl, rfl, rfl, rfl, hless, nofun, ?_⟩
          rw [List.perm_iff_count]
          intro a
          simp only [List.count_append, hlast, hcount]
          omega
        · cases h
          refine ⟨rfl, rfl, rfl, rfl, hless, nofun, ?_⟩
          rw [List.perm_iff_count]
          intro a
          simp only [sentPacks_append, sentPacks_result, List.count_append, hlast, hcount]
          omega

theorem forwarded_sendDataToClient {channel : Option Nat} {err : Int} {query' : DataCloudQuery}
    (h : query.sendDataToClient w channel = some (err, query')) : Forwarded query err query' := by
  unfold sendDataToClient at h
  split at h
  · cases h
    exact .refl (-1)
  · exact forwarded_sendDataLoop h

theorem sendStart_spec (w : World) (query : DataCloudQuery) (channel : Option Nat) :
    ∃ messages phase, query.sendStartResultFaseToClient w channel =
        { query with messages := messages, query_phase := phase } ∧
      sentPacks messages = sentPacks query.messages ∧
      (phase = query.query_phase ∨ phase = .clientDisconnected) := by
  unfold sendStartResultFaseToClient
  split
  · exact ⟨_, _, rfl, rfl, .inl rfl⟩
  · exact ⟨_, _, rfl, rfl, .inl rfl⟩
  · exact ⟨_, _, rfl, by simp, .inl rfl⟩
  · exact ⟨_, _, rfl, by simp, .inr rfl⟩

/-- At the end the packs of the vector that were not sent are freed. -/
theorem Held.finish (h : Held query) (error : Int) :
    Held (query.finish w n error entry) ∧
      (query.finish w n error entry).number_of_element_to_forward = 0 := by
  have hend : ∀ channel, ∃ messages, query.sendEndResultFaseToClient w channel error =
      { query with messages := messages } ∧ sentPacks messages = sentPacks query.messages := by
    intro channel
    unfold sendEndResultFaseToClient
    split
    · exact ⟨_, rfl, rfl⟩
    · exact ⟨_, rfl, rfl⟩
    · exact ⟨_, rfl, by simp⟩
  obtain ⟨messages, heq, hsent⟩ := hend (getChannelForQuery w n entry)
  unfold DataCloudQuery.finish
  rw [heq]
  refine ⟨⟨?_, Nat.zero_le _, h.idle⟩, rfl⟩
  refine .trans ?_ h.packs
  simp only [hsent, List.take_zero, List.append_nil, ← List.append_assoc]
  exact (List.reverse_perm _).append_left _

/-- What `readDataPackPage` does to a query with an empty vector. -/
theorem readDataPackPage_spec {limit_to : UInt32} {err : Bool} {query' : DataCloudQuery}
    (hnil : query.fetched_data_vector = [])
    (hr : query.readDataPackPage db w limit_to = some (err, query')) :
    ∃ cursor docs, query' = { query with
      query_cursor_ptr := cursor
      packs := query.packs ++ docs
      fetched_data_vector := List.range' query.packs.length docs.length } := by
  unfold DataCloudQuery.readDataPackPage at hr
  split at hr
  · cases hr
  · split_ifs at hr
    · cases hr
      refine ⟨query.query_cursor_ptr, [], ?_⟩
      simp [← hnil]
    · obtain ⟨⟨c, docs⟩, -, hq⟩ := Option.map_eq_some_iff.mp hr
      cases hq
      refine ⟨some c, docs, ?_⟩
      simp [hnil]

theorem Held.stepPhase (h : Held query) {query' : DataCloudQuery} {error : Int}
    {entry' : Option Nat} (hs : query.stepPhase db w n entry = some (query', error, entry')) :
    Held query' := by
  unfold DataCloudQuery.stepPhase at hs
  split at hs
  · rename_i hphase
    have hnil := h.idle (.inl hphase)
    split at hs
    · cases hs
      exact ⟨h.packs, h.bound, fun _ => hnil⟩
    · rename_i cursor hcursor
      simp only [Option.some.injEq, Prod.mk.injEq] at hs
      obtain ⟨rfl, -, -⟩ := hs
      obtain ⟨messages, phase, heq, hsent, -⟩ := sendStart_spec w
        { query with query_phase := .fetchData, query_cursor_ptr := some cursor }
        (getChannelForQuery w n entry)
      rw [heq]
      refine ⟨?_, h.bound, fun _ => hnil⟩
      rw [hsent]
      exact h.packs
  · rename_i hphase
    have hnil := h.idle (.inr hphase)
    have hpacks := h.packs
    rw [hnil, List.take_nil, List.append_nil] at hpacks
    obtain ⟨⟨err, read⟩, hr, heq⟩ := Option.map_eq_some_iff.mp hs
    obtain ⟨cursor, docs, rfl⟩ := readDataPackPage_spec hnil hr
    cases heq
    refine ⟨?_, Nat.le_refl _, ?_⟩
    · simp only [List.take_length, List.length_append]
      rw [List.range_eq_range', ← List.range'_append_1]
      rw [List.range_eq_range'] at hpacks
      simpa using hpacks.append_right _
    · simp only [phaseAfterFetch, hphase, List.length_range', List.range'_eq_nil_iff]
      split_ifs <;> simp_all
  · rename_i hphase
    obtain ⟨⟨err, sent⟩, hsend, heq⟩ := Option.map_eq_some_iff.mp hs
    have hsent := forwarded_sendDataToClient hsend
    have hbound := h.bound
    have hpacks := hsent.perm.trans h.packs
    rw [← hsent.packs] at hpacks
    simp only at heq
    split_ifs at heq with herr hzero
    · cases heq
      refine ⟨hpacks, ?_, nofun⟩
      rw [hsent.vector]
      exact hsent.fewer.trans hbound
    · cases heq
      rw [hzero, List.take_zero] at hpacks
      exact ⟨by simpa using hpacks, Nat.le_refl _, fun _ => rfl⟩
    · cases heq
      rw [not_not] at herr
      refine ⟨hpacks, ?_, ?_⟩
      · rw [hsent.vector]
        exact hsent.fewer.trans hbound
      · rw [hsent.phase herr, hphase]
        nofun
  · cases hs
    exact h

theorem Held.turn (h : Held query) {query' : DataCloudQuery} {entry' : Option Nat} {again : Bool}
    (ht : query.turn db w n entry = some (query', entry', again)) :
    Held query' ∧ (again = false → query'.number_of_element_to_forward = 0) := by
  obtain ⟨⟨stepped, error, entry₁⟩, hs, heq⟩ := Option.map_eq_some_iff.mp ht
  have hstep := h.stepPhase hs
  simp only at heq
  split at heq
  · cases heq
    exact (hstep.finish error).imp_right fun hzero _ => hzero
  · cases heq
    exact (hstep.finish 0).imp_right fun hzero _ => hzero
  · cases heq
    exact (hstep.finish (-3)).imp_right fun hzero _ => hzero
  · cases heq
    exact ⟨hstep, nofun⟩

end DataCloudQuery

namespace QueryEngine

variable {db : IndexCollection} {s t : QueryEngine}

/-- The packs of a query that has left the queue are all sent or freed. -/
def Stored (s : QueryEngine) : Prop :=
  ∀ (n : Nat) query, s.queries[n]? = some query →
    query.Held ∧ (n ∉ s.query_queue → query.number_of_element_to_forward = 0)

/-- What a turn does to the engine. -/
theorem process_query_cases {w : World} (ht : s.process_query db w = some t) :
    (s.query_queue = [] ∧ t = s) ∨
    ∃ n rest query query' entry entry' again, s.query_queue = n :: rest ∧
      s.queries[n]? = some query ∧
      query.turn db w n entry = some (query', entry', again) ∧
      t.queries = s.queries.set n query' ∧
      t.query_queue = if again then rest ++ [n] else rest := by
  unfold process_query at ht
  split at ht
  · rename_i hqueue
    cases ht
    exact .inl ⟨hqueue, rfl⟩
  · rename_i n rest hqueue
    obtain ⟨query, hquery, hmap⟩ := Option.bind_eq_some_iff.mp ht
    obtain ⟨⟨query', entry', again⟩, hturn, rfl⟩ := Option.map_eq_some_iff.mp hmap
    exact .inr ⟨n, rest, query, query', _, entry', again, hqueue, hquery, hturn, rfl, rfl⟩

theorem getElem?_executeQuery {query_id answer_endpoint : String} {q : DataPackIndexQuery} {n : Nat}
    {query : DataCloudQuery}
    (h : (s.executeQuery query_id answer_endpoint q).queries[n]? = some query) :
    s.queries[n]? = some query ∨ (n = s.queries.length ∧
      query = { query_id := query_id, answer_endpoint := answer_endpoint, query := q }) := by
  simp only [executeQuery] at h
  exact numbered_list.of_getElem?_concat h

theorem stored_step {a : Label} (h : Stored s) (ht : s.step db a = some t) : Stored t := by
  intro n query hquery
  cases a with
  | executeQuery query_id answer_endpoint q =>
    cases ht
    rcases getElem?_executeQuery hquery with hold | ⟨rfl, rfl⟩
    · refine (h n query hold).imp_right fun hzero hn => hzero fun hmem => hn ?_
      exact List.mem_append_left _ hmem
    · exact ⟨⟨.refl _, Nat.le_refl _, fun _ => rfl⟩, fun _ => rfl⟩
  | process_query w =>
    rcases process_query_cases ht with ⟨-, rfl⟩ | ⟨m, rest, q, q', entry, entry', again, hqueue, hq,
      hturn, hqueries, hqueue'⟩
    · exact h n query hquery
    · rw [hqueries] at hquery
      rcases numbered_list.of_getElem?_set hquery with ⟨rfl, rfl⟩ | ⟨hnm, hquery⟩
      · refine ((h n q hq).1.turn hturn).imp_right fun hzero hn => hzero ?_
        cases again with
        | false => rfl
        | true => simp [hqueue'] at hn
      · refine (h n query hquery).imp_right fun hzero hn => hzero ?_
        have hrest : n ∉ rest := by
          intro hmem
          apply hn
          rw [hqueue']
          split_ifs
          · exact List.mem_append_left _ hmem
          · exact hmem
        rw [hqueue, List.mem_cons, not_or]
        exact ⟨hnm, hrest⟩
  | handleEvent key =>
    change s.handleEvent key = some t at ht
    unfold handleEvent at ht
    split at ht
    · cases ht
      exact h n query hquery
    · rename_i m hm
      split_ifs at ht with hmem
      cases ht
      simp only at hquery
      by_cases hn : m = n
      · subst hn
        rw [List.getElem?_modify_eq] at hquery
        obtain ⟨q, hq, rfl⟩ := Option.map_eq_some_iff.mp hquery
        obtain ⟨hheld, hzero⟩ := h m q hq
        exact ⟨⟨hheld.packs, hheld.bound, by rintro (hp | hp) <;> cases hp⟩, hzero⟩
      · rw [List.getElem?_modify_ne _ _ hn] at hquery
        exact h n query hquery

/-- In every run, a query that has left the queue has sent or freed each of its packs once. -/
theorem accounted_of_run {labels : List Label} (hr : run (step db) {} labels = some s) {n : Nat}
    {query : DataCloudQuery} (hquery : s.queries[n]? = some query) (hn : n ∉ s.query_queue) :
    query.Accounted := by
  have hstored : Stored s := by
    refine run_keeps Stored (fun _ _ _ h ht => stored_step h ht) ?_ hr
    intro n query hquery
    simp at hquery
  obtain ⟨hheld, hzero⟩ := hstored n query hquery
  have hpacks := hheld.packs
  rw [hzero hn, List.take_zero, List.append_nil] at hpacks
  exact hpacks

end QueryEngine

end chaos.data_service.query_engine
