-- What becomes of the answers of the data cloud. A message that arrives after the future of its
-- query is in the map is applied to that future exactly once. Nothing keeps a message that
-- arrives between the sending of the query and the registration: the handler drops it.
import Chaos.NumberedList
import Chaos.QueryFuture

namespace chaos.common.io

open runs IODirectIODriver

variable {P : Type*} {parse : List UInt8 → Option P}

/-! ## What is delivered -/

/-- The call that a message is for. Data that is no pack is for none. -/
def callOf (parse : List UInt8 → Option P) : Message → Option (FutureCall P)
  | .startResult total => some (.notifyStartResultPhase total)
  | .result data_found element_index => (parse data_found).map (.pushDataPack · element_index)
  | .endResult error error_message => some (.notifyEndResultPhase error error_message)

/-- The pack that a call pushes. -/
def FutureCall.pack : FutureCall P → Option P
  | .pushDataPack received_datapack _ => some received_datapack
  | _ => none

def FutureCall.isStart : FutureCall P → Bool
  | .notifyStartResultPhase _ => true
  | _ => false

def FutureCall.isEnd : FutureCall P → Bool
  | .notifyEndResultPhase _ _ => true
  | _ => false

/-- The packs of an answer. -/
def Answer.packs (parse : List UInt8 → Option P) (answer : Answer) : List P :=
  answer.results.filterMap fun r => parse r.1

/-- The future got each message of its query that has arrived exactly once. When no message is on
its way any more, these are all packs of the answer, one start and one end. -/
structure DeliveredTo (parse : List UInt8 → Option P) (q : Query P) (future : QueryFuture P) :
    Prop where
  applied_once : future.calls = q.arrived.filterMap (callOf parse)
  kept : future.calls.filterMap FutureCall.pack = future.taken ++ future.data_pack_queue
  pushed_once : q.in_flight = [] →
    (future.calls.filterMap FutureCall.pack).Perm (q.answer.packs parse)
  started_once : q.in_flight = [] → future.calls.countP FutureCall.isStart = 1
  ended_once : q.in_flight = [] → future.calls.countP FutureCall.isEnd = 1

/-- No result is lost: every future that the client holds got its messages. -/
def NoResultLost (parse : List UInt8 → Option P) (s : IODirectIODriver P) : Prop :=
  ∀ (n : Nat) q future, s.queries[n]? = some q → q.future = .held future →
    DeliveredTo parse q future

/-- A query that is over: its future is released and no message of it is on its way. -/
def Query.Done (q : Query P) : Prop := q.future = .released ∧ q.in_flight = []

/-- A query id is new when every earlier query of that id is over, and a message arrives after
the call that sent its query has registered the future. -/
def Awaited (s : IODirectIODriver P) : Label → Prop
  | .queryDataCloud _ _ query_id _ => ∀ q ∈ s.queries, q.query_id = query_id → q.Done
  | .arrive n _ => ∀ q, s.queries[n]? = some q → q.future ≠ .awaited
  | _ => True

instance [DecidableEq P] (q : Query P) : Decidable q.Done :=
  inferInstanceAs (Decidable (_ ∧ _))

instance [DecidableEq P] (s : IODirectIODriver P) : ∀ a, Decidable (Awaited s a)
  | .queryDataCloud _ _ query_id _ =>
    inferInstanceAs (Decidable (∀ q ∈ s.queries, q.query_id = query_id → q.Done))
  | .arrive n _ => inferInstanceAs (Decidable (∀ q, s.queries[n]? = some q → q.future ≠ .awaited))
  | .registerQuery _ => isTrue trivial
  | .getDataPack _ => isTrue trivial
  | .releaseQuery _ => isTrue trivial

/-! ## The messages of an answer -/

/-- The calls that the results of an answer are for. -/
def Answer.pushes (parse : List UInt8 → Option P) (answer : Answer) : List (FutureCall P) :=
  answer.results.filterMap fun r => (parse r.1).map (.pushDataPack · r.2)

theorem calls_of_messages (answer : Answer) :
    answer.messages.filterMap (callOf parse)
      = .notifyStartResultPhase answer.total_element_found :: answer.pushes parse
        ++ [.notifyEndResultPhase answer.error answer.error_message] := by
  simp only [Answer.messages, Answer.pushes, List.cons_append, List.filterMap_cons,
    List.filterMap_append, List.filterMap_map, List.filterMap_nil, callOf]
  rfl

theorem packs_of_messages (answer : Answer) :
    (answer.messages.filterMap (callOf parse)).filterMap FutureCall.pack = answer.packs parse := by
  rw [calls_of_messages]
  simp only [Answer.pushes, Answer.packs, List.cons_append, List.filterMap_cons,
    List.filterMap_append, List.filterMap_nil, FutureCall.pack, List.append_nil,
    List.filterMap_filterMap]
  congr 1
  funext r
  cases parse r.1 <;> rfl

/-- A kind of call that is no push is counted outside the results. -/
theorem count_pushes {p : FutureCall P → Bool} (hp : ∀ pack i, p (.pushDataPack pack i) = false)
    (answer : Answer) : (answer.pushes parse).countP p = 0 := by
  rw [List.countP_eq_zero]
  intro call hcall
  obtain ⟨r, -, hr⟩ := List.mem_filterMap.mp hcall
  obtain ⟨pack, -, rfl⟩ := Option.map_eq_some_iff.mp hr
  simp [hp]

theorem starts_of_messages (answer : Answer) :
    (answer.messages.filterMap (callOf parse)).countP FutureCall.isStart = 1 := by
  rw [calls_of_messages, List.cons_append, List.countP_cons, List.countP_append,
    count_pushes (fun _ _ => rfl)]
  rfl

theorem ends_of_messages (answer : Answer) :
    (answer.messages.filterMap (callOf parse)).countP FutureCall.isEnd = 1 := by
  rw [calls_of_messages, List.cons_append, List.countP_cons, List.countP_append,
    count_pushes (fun _ _ => rfl)]
  rfl

/-! ## What a message does to a future -/

/-- The change that the handler of a message makes to the future it finds. -/
def receive (parse : List UInt8 → Option P) : Message → QueryFuture P → QueryFuture P
  | .startResult total, q => q.notifyStartResultPhase total
  | .result data_found element_index, q =>
    match parse data_found with
    | some data_pack => q.pushDataPack data_pack element_index
    | none => q
  | .endResult error error_message, q =>
    if error_message.length ≠ 0 then q.notifyEndResultPhase error error_message
    else q.notifyEndResultPhase error []

theorem consume_eq (s : IODirectIODriver P) (query_id : List UInt8) (m : Message) :
    s.consume parse query_id m = s.onFuture query_id (receive parse m) := by
  cases m <;> rfl

/-- The packs that were pushed are the ones taken and the ones still in the queue. -/
def Kept (q : QueryFuture P) : Prop :=
  q.calls.filterMap FutureCall.pack = q.taken ++ q.data_pack_queue

theorem notifyEndResultPhase_query_id (q : QueryFuture P) (error : Int)
    (error_message : List UInt8) :
    (q.notifyEndResultPhase error error_message).query_id = q.query_id := by
  unfold QueryFuture.notifyEndResultPhase
  split_ifs <;> rfl

theorem notifyEndResultPhase_calls (q : QueryFuture P) (error : Int)
    (error_message : List UInt8) :
    (q.notifyEndResultPhase error error_message).calls
      = q.calls ++ [.notifyEndResultPhase error error_message] := by
  unfold QueryFuture.notifyEndResultPhase
  split_ifs <;> rfl

/-- The handler of the end passes an empty message where there is none, which is the message that
was sent. -/
theorem receive_end (error : Int) (error_message : List UInt8) (q : QueryFuture P) :
    receive parse (.endResult error error_message) q
      = q.notifyEndResultPhase error error_message := by
  cases error_message <;> rfl

theorem receive_query_id (m : Message) (q : QueryFuture P) :
    (receive parse m q).query_id = q.query_id := by
  cases m with
  | startResult total => rfl
  | result data_found element_index =>
    cases h : parse data_found <;> simp [receive, h, QueryFuture.pushDataPack]
  | endResult error error_message => rw [receive_end, notifyEndResultPhase_query_id]

theorem receive_calls (m : Message) (q : QueryFuture P) :
    (receive parse m q).calls = q.calls ++ (callOf parse m).toList := by
  cases m with
  | startResult total => rfl
  | result data_found element_index =>
    cases h : parse data_found <;> simp [receive, callOf, h, QueryFuture.pushDataPack]
  | endResult error error_message =>
    rw [receive_end, notifyEndResultPhase_calls]
    rfl

theorem Kept.receive {q : QueryFuture P} (h : Kept q) (m : Message) :
    Kept (receive parse m q) := by
  unfold Kept at h ⊢
  rw [receive_calls, List.filterMap_append, h]
  cases m with
  | startResult total => simp [io.receive, callOf, FutureCall.pack,
      QueryFuture.notifyStartResultPhase]
  | result data_found element_index =>
    cases hp : parse data_found <;>
      simp [io.receive, callOf, FutureCall.pack, QueryFuture.pushDataPack, hp]
  | endResult error error_message =>
    rw [receive_end]
    unfold QueryFuture.notifyEndResultPhase
    split_ifs <;> simp [callOf, FutureCall.pack]

theorem Kept.getDataPack {q : QueryFuture P} (h : Kept q) : Kept q.getDataPack := by
  unfold Kept QueryFuture.getDataPack at *
  cases hq : q.data_pack_queue with
  | nil => simpa [hq] using h
  | cons pack rest => simpa [hq] using h

theorem getDataPack_calls (q : QueryFuture P) : q.getDataPack.calls = q.calls := by
  unfold QueryFuture.getDataPack
  cases q.data_pack_queue <;> rfl

theorem getDataPack_query_id (q : QueryFuture P) : q.getDataPack.query_id = q.query_id := by
  unfold QueryFuture.getDataPack
  cases q.data_pack_queue <;> rfl

/-! ## The invariant -/

/-- What holds of query `n` when the map of the driver is `map`. -/
structure QueryGood (parse : List UInt8 → Option P) (map : List UInt8 → Option Nat) (n : Nat)
    (q : Query P) : Prop where
  sent : (q.arrived ++ q.in_flight).Perm q.answer.messages
  before : q.future = .awaited → q.arrived = []
  own_id : ∀ future, q.future = .held future → future.query_id = q.query_id
  applied : ∀ future, q.future = .held future → future.calls = q.arrived.filterMap (callOf parse)
  kept : ∀ future, q.future = .held future → Kept future
  found : ∀ future, q.future = .held future → map q.query_id = some n

/-- Every query is good, each entry of the map is of a future that the client holds, and of two
queries of one id one is over. -/
structure Good (parse : List UInt8 → Option P) (s : IODirectIODriver P) : Prop where
  queries : ∀ (n : Nat) q, s.queries[n]? = some q → QueryGood parse s.map_query_future n q
  entries : ∀ query_id n, s.map_query_future query_id = some n → ∃ q future,
    s.queries[n]? = some q ∧ q.future = .held future ∧ q.query_id = query_id
  ids : ∀ (n m : Nat) q r, n ≠ m → s.queries[n]? = some q → s.queries[m]? = some r →
    q.query_id = r.query_id → q.Done ∨ r.Done

theorem QueryGood.delivered {map : List UInt8 → Option Nat} {n : Nat} {q : Query P}
    (h : QueryGood parse map n q) {future : QueryFuture P} (hq : q.future = .held future) :
    DeliveredTo parse q future := by
  have hcalls := h.applied future hq
  -- with nothing on its way, what has arrived is the whole answer
  have hperm : q.in_flight = [] →
      future.calls.Perm (q.answer.messages.filterMap (callOf parse)) := by
    intro hnil
    have hsent := h.sent
    rw [hnil, List.append_nil] at hsent
    rw [hcalls]
    exact hsent.filterMap _
  refine ⟨hcalls, h.kept future hq, ?_, ?_, ?_⟩
  · intro hnil
    rw [← packs_of_messages]
    exact (hperm hnil).filterMap _
  · intro hnil
    rw [(hperm hnil).countP_eq, starts_of_messages]
  · intro hnil
    rw [(hperm hnil).countP_eq, ends_of_messages]

/-- A query that is not over, and the entry of its id, may change together. -/
theorem Good.set {s : IODirectIODriver P} (hs : Good parse s) {n : Nat} {q q' : Query P}
    {map : List UInt8 → Option Nat} (hq : s.queries[n]? = some q) (hopen : ¬ q.Done)
    (hid : q'.query_id = q.query_id) (hgood : QueryGood parse map n q')
    (hother : ∀ query_id, query_id ≠ q.query_id → map query_id = s.map_query_future query_id)
    (hentry : ∀ m, map q.query_id = some m → m = n ∧ ∃ future, q'.future = .held future) :
    Good parse { map_query_future := map, queries := s.queries.set n q' } := by
  have hn : n < s.queries.length := (List.getElem?_eq_some_iff.mp hq).1
  -- another query of the same id is over
  have hdone : ∀ (m : Nat) r, m ≠ n → s.queries[m]? = some r → r.query_id = q.query_id →
      r.Done := by
    intro m r hmn hr hrid
    rcases hs.ids m n r q hmn hr hq hrid with h | h
    · exact h
    · exact absurd h hopen
  have hget : ∀ (m : Nat) r, (s.queries.set n q')[m]? = some r →
      (m = n ∧ r = q') ∨ (m ≠ n ∧ s.queries[m]? = some r) := by
    intro m r hr
    exact numbered_list.of_getElem?_set hr
  constructor
  · intro m r hr
    rcases hget m r hr with ⟨rfl, rfl⟩ | ⟨hmn, hr⟩
    · exact hgood
    · have hold := hs.queries m r hr
      refine { hold with found := ?_ }
      intro future hf
      have hne : r.query_id ≠ q.query_id := by
        intro heq
        have hrel := (hdone m r hmn hr heq).1
        rw [hf] at hrel
        cases hrel
      exact (hother _ hne).trans (hold.found future hf)
  · intro query_id m hm
    by_cases hkey : query_id = q.query_id
    · subst hkey
      obtain ⟨rfl, future, hf⟩ := hentry m hm
      exact ⟨q', future, List.getElem?_set_self hn, hf, hid⟩
    · obtain ⟨r, future, hr, hf, hrid⟩ := hs.entries query_id m ((hother _ hkey).symm.trans hm)
      have hmn : m ≠ n := by
        rintro rfl
        rw [hq] at hr
        cases hr
        exact hkey hrid.symm
      exact ⟨r, future, by rw [List.getElem?_set_ne (Ne.symm hmn)]; exact hr, hf, hrid⟩
  · intro m k r t hmk hr ht hrt
    rcases hget m r hr with ⟨hm, hrq⟩ | ⟨hm, hr⟩ <;> rcases hget k t ht with ⟨hk, htq⟩ | ⟨hk, ht⟩
    · exact absurd (hm.trans hk.symm) hmk
    · exact .inr (hdone k t hk ht (by rw [← hrt, hrq, hid]))
    · exact .inl (hdone m r hm hr (by rw [hrt, htq, hid]))
    · exact hs.ids m k r t hmk hr ht hrt

/-! ## What the steps do -/

theorem not_done_of_held {q : Query P} {future : QueryFuture P} (h : q.future = .held future) :
    ¬ q.Done := by
  rintro ⟨hrel, -⟩
  rw [h] at hrel
  cases hrel

/-- The entry of the id of a query that is not over is the one of that query. -/
theorem Good.entry {s : IODirectIODriver P} (hs : Good parse s) {n m : Nat} {q : Query P}
    (hq : s.queries[n]? = some q) (hopen : ¬ q.Done)
    (hm : s.map_query_future q.query_id = some m) :
    m = n ∧ ∃ future, q.future = .held future := by
  obtain ⟨r, future, hr, hf, hrid⟩ := hs.entries _ _ hm
  by_cases hmn : m = n
  · subst hmn
    rw [hq] at hr
    cases hr
    exact ⟨rfl, future, hf⟩
  · rcases hs.ids m n r q hmn hr hq hrid with h | h
    · exact absurd h (not_done_of_held hf)
    · exact absurd h hopen

theorem good_queryDataCloud {s : IODirectIODriver P} (hs : Good parse s) (next_client : Bool)
    (err : Int) (query_id : List UInt8) (answer : Answer)
    (hnew : ∀ q ∈ s.queries, q.query_id = query_id → q.Done) :
    Good parse (s.queryDataCloud next_client err query_id answer) := by
  unfold queryDataCloud
  split_ifs
  · exact hs
  · have hget : ∀ (m : Nat) r,
        (s.queries ++ [⟨query_id, answer, answer.messages, [], .awaited⟩])[m]? = some r →
        s.queries[m]? = some r ∨
          (m = s.queries.length ∧ r = ⟨query_id, answer, answer.messages, [], .awaited⟩) := by
      intro m r hr
      exact numbered_list.of_getElem?_concat hr
    constructor
    · intro m r hr
      rcases hget m r hr with hr | ⟨-, rfl⟩
      · exact hs.queries m r hr
      · refine ⟨.refl _, fun _ => rfl, ?_, ?_, ?_, ?_⟩ <;> simp
    · intro id m hm
      obtain ⟨r, future, hr, hf, hrid⟩ := hs.entries id m hm
      refine ⟨r, future, ?_, hf, hrid⟩
      exact numbered_list.getElem?_append_of_some hr _
    · intro m k r t hmk hr ht hrt
      rcases hget m r hr with hr | ⟨hm, rfl⟩ <;> rcases hget k t ht with ht | ⟨hk, rfl⟩
      · exact hs.ids m k r t hmk hr ht hrt
      · exact .inl (hnew r (List.mem_of_getElem? hr) hrt)
      · exact .inr (hnew t (List.mem_of_getElem? ht) hrt.symm)
      · exact absurd (hm.trans hk.symm) hmk
  · exact hs

theorem good_registerQuery {s t : IODirectIODriver P} (hs : Good parse s) {n : Nat}
    (ht : s.registerQuery n = some t) : Good parse t := by
  unfold registerQuery at ht
  split at ht
  · cases ht
  · rename_i q hq
    split at ht
    · rename_i hawait
      cases ht
      have hopen : ¬ q.Done := by
        rintro ⟨hrel, -⟩
        rw [hawait] at hrel
        cases hrel
      -- no entry is in the way of the new one
      have hfree : s.map_query_future q.query_id = none := by
        rw [Option.eq_none_iff_forall_ne_some]
        intro m hm
        obtain ⟨-, future, hf⟩ := hs.entry hq hopen hm
        rw [hawait] at hf
        cases hf
      have hmap : IODirectIODriver.insert s.map_query_future q.query_id n
          = Function.update s.map_query_future q.query_id (some n) := by
        simp [IODirectIODriver.insert, hfree]
      have hold := hs.queries n q hq
      rw [hmap]
      apply hs.set hq hopen
      · rfl
      · refine ⟨hold.sent, nofun, ?_, ?_, ?_, ?_⟩ <;> rintro future ⟨⟩
        · rfl
        · simp [hold.before hawait]
        · rfl
        · exact Function.update_self ..
      · intro query_id hne
        exact Function.update_of_ne hne ..
      · intro m hm
        rw [Function.update_self] at hm
        exact ⟨(Option.some.inj hm).symm, _, rfl⟩
    · cases ht

theorem good_releaseQuery {s t : IODirectIODriver P} (hs : Good parse s) {n : Nat}
    (ht : s.releaseQuery n = some t) : Good parse t := by
  unfold releaseQuery at ht
  split at ht
  · cases ht
  · rename_i q hq
    split at ht
    · rename_i future hheld
      cases ht
      have hold := hs.queries n q hq
      rw [hold.own_id future hheld]
      apply hs.set hq (not_done_of_held hheld)
      · rfl
      · exact ⟨hold.sent, nofun, nofun, nofun, nofun, nofun⟩
      · intro query_id hne
        exact Function.update_of_ne hne ..
      · intro m hm
        rw [Function.update_self] at hm
        cases hm
    · cases ht

theorem good_getDataPack {s t : IODirectIODriver P} (hs : Good parse s) {n : Nat}
    (ht : s.getDataPack n = some t) : Good parse t := by
  unfold getDataPack at ht
  split at ht
  · cases ht
  · rename_i q hq
    split at ht
    · rename_i future hheld
      cases ht
      have hold := hs.queries n q hq
      apply hs.set hq (not_done_of_held hheld)
      · rfl
      · refine ⟨hold.sent, nofun, ?_, ?_, ?_, ?_⟩ <;> rintro future' ⟨⟩
        · rw [getDataPack_query_id, hold.own_id future hheld]
        · rw [getDataPack_calls, hold.applied future hheld]
        · exact (hold.kept future hheld).getDataPack
        · exact hold.found future hheld
      · exact fun _ _ => rfl
      · intro m hm
        exact ⟨(hs.entry hq (not_done_of_held hheld) hm).1, _, rfl⟩
    · cases ht

/-- A query with one message less on its way and one more arrived. -/
def Query.arrive (q : Query P) (i : Nat) (m : Message) (slot : FutureSlot P) : Query P :=
  { q with in_flight := q.in_flight.eraseIdx i, arrived := q.arrived ++ [m], future := slot }

theorem Query.arrive_sent {q : Query P} {i : Nat} {m : Message} (hm : q.in_flight[i]? = some m)
    (hsent : (q.arrived ++ q.in_flight).Perm q.answer.messages) (slot : FutureSlot P) :
    ((q.arrive i m slot).arrived ++ (q.arrive i m slot).in_flight).Perm
      (q.arrive i m slot).answer.messages := by
  obtain ⟨hi, rfl⟩ := List.getElem?_eq_some_iff.mp hm
  refine .trans ?_ hsent
  simp only [Query.arrive, List.append_assoc, List.singleton_append]
  have hmiddle : (q.in_flight[i] :: q.in_flight.eraseIdx i).Perm q.in_flight := by
    rw [List.eraseIdx_eq_take_drop_succ]
    conv_rhs => rw [← List.take_append_drop i q.in_flight, List.drop_eq_getElem_cons hi]
    exact List.perm_middle.symm
  exact hmiddle.append_left _

theorem good_arrive {s t : IODirectIODriver P} (hs : Good parse s) {n i : Nat}
    (hreg : ∀ q, s.queries[n]? = some q → q.future ≠ .awaited)
    (ht : s.arrive parse n i = some t) : Good parse t := by
  unfold arrive at ht
  split at ht
  · cases ht
  · rename_i q hq
    split at ht
    · cases ht
    · rename_i m hm
      have hopen : ¬ q.Done := by
        rintro ⟨-, hnil⟩
        rw [hnil] at hm
        cases hm
      have hold := hs.queries n q hq
      have hlen : n < s.queries.length := (List.getElem?_eq_some_iff.mp hq).1
      rw [consume_eq] at ht
      unfold onFuture at ht
      cases hslot : q.future with
      | awaited => exact absurd hslot (hreg q hq)
      | held future =>
        -- the entry of the id is the one of this query, so its future gets the message
        simp only [hold.found future hslot, List.getElem?_set_self hlen, hslot,
          List.set_set, Option.some.injEq] at ht
        subst ht
        apply hs.set hq hopen
        · rfl
        · have hsent := Query.arrive_sent hm hold.sent (.held (receive parse m future))
          refine ⟨hsent, nofun, ?_, ?_, ?_, ?_⟩ <;> rintro future' ⟨⟩
          · rw [receive_query_id]
            exact hold.own_id future hslot
          · rw [receive_calls, hold.applied future hslot]
            rw [List.filterMap_append, List.filterMap_cons]
            cases callOf parse m <;> rfl
          · exact (hold.kept future hslot).receive m
          · exact hold.found future hslot
        · exact fun _ _ => rfl
        · intro k hk
          exact ⟨(hs.entry hq hopen hk).1, _, rfl⟩
      | released =>
        -- no other query of the id is open, so the handler finds no entry
        have hfree : s.map_query_future q.query_id = none := by
          rw [Option.eq_none_iff_forall_ne_some]
          intro k hk
          obtain ⟨-, future, hf⟩ := hs.entry hq hopen hk
          rw [hslot] at hf
          cases hf
        simp only [hfree, Option.some.injEq] at ht
        subst ht
        apply hs.set hq hopen
        · rfl
        · refine ⟨Query.arrive_sent hm hold.sent q.future, ?_, ?_, ?_, ?_, ?_⟩ <;> simp [hslot]
        · exact fun _ _ => rfl
        · intro k hk
          rw [hfree] at hk
          cases hk

theorem good_step {s t : IODirectIODriver P} {a : Label} (hs : Good parse s) (ha : Awaited s a)
    (ht : s.step parse a = some t) : Good parse t := by
  cases a with
  | queryDataCloud next_client err query_id answer =>
    cases ht
    exact good_queryDataCloud hs next_client err query_id answer ha
  | registerQuery n => exact good_registerQuery hs ht
  | arrive n i => exact good_arrive hs ha ht
  | getDataPack n => exact good_getDataPack hs ht
  | releaseQuery n => exact good_releaseQuery hs ht

/-! ## The laws -/

theorem good_start : Good parse ({} : IODirectIODriver P) := by
  constructor
  · intro n q h
    simp at h
  · intro query_id n h
    cases h
  · intro n m q r _ h
    simp at h

/-- In every run in which each message arrives after the registration of its query, and no id of
a query that is not over is used again, no result is lost. -/
theorem no_result_is_lost (parse : List UInt8 → Option P) {labels : List Label}
    {s : IODirectIODriver P} (hok : RunOk (step parse) Awaited {} labels)
    (hr : run (step parse) {} labels = some s) : NoResultLost parse s := by
  have hgood : Good parse s :=
    run_keeps_of_ok (Good parse) (fun _ _ _ h ha ht => good_step h ha ht) good_start hok hr
  intro n q future hq hf
  exact (hgood.queries n q hq).delivered hf

/-- Two queries whose answers arrive in turns, the packs of the first taken by the client. -/
theorem answers_of_two_queries : ∃ s, run (step some) {}
    [.queryDataCloud true 0 [97] ⟨1, [([1], 0)], 0, []⟩, .registerQuery 0,
      .queryDataCloud true 0 [98] ⟨1, [([2], 0)], 3, [101]⟩, .arrive 0 0, .registerQuery 1,
      .arrive 1 0, .arrive 0 0, .getDataPack 0, .arrive 1 0, .arrive 0 0, .arrive 1 0] = some s ∧
    NoResultLost some s := by
  have hok : RunOk (step some) Awaited {}
      [.queryDataCloud true 0 [97] ⟨1, [([1], 0)], 0, []⟩, .registerQuery 0,
        .queryDataCloud true 0 [98] ⟨1, [([2], 0)], 3, [101]⟩, .arrive 0 0, .registerQuery 1,
        .arrive 1 0, .arrive 0 0, .getDataPack 0, .arrive 1 0, .arrive 0 0, .arrive 1 0] := by
    decide
  exact ⟨_, rfl, no_result_is_lost some hok rfl⟩

/-- The answer comes back before the call that sent the query has the lock: the future of the
query never gets any of it. -/
theorem early_answer_is_lost : ∃ s, run (step some) {}
    [.queryDataCloud true 0 [97] ⟨1, [([1], 0)], 0, []⟩, .arrive 0 0, .arrive 0 0, .arrive 0 0,
      .registerQuery 0] = some s ∧ ¬ NoResultLost some s := by
  refine ⟨_, rfl, ?_⟩
  intro h
  have hstart := (h 0 _ _ rfl rfl).started_once rfl
  cases hstart

end chaos.common.io
