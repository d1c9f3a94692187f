-- The requests of a message channel and their answers, from the thread that sends a request to the
-- thread that gets an answer. The network may lose, repeat and reorder what is sent, and the threads
-- of the channel, the dispatcher and the server interleave.
import Chaos.ActionProcessing
import Chaos.SemaphoreKeys

namespace chaos.common.message

open thread dispatcher runs

/-! ## The channel -/

/-- What `sendRequest` is called with. -/
structure Request where
  async : Bool
  nodeID : String
  actionName : String
  requestPack : Option CDataWrapper

/-- Who the channel is to the others. -/
structure ChannelAddress where
  channelID : String
  publishedHostAndPort : String

/-- The pack that goes to the remote host, with the keys in the order in which they are added. -/
def Request.pack (r : Request) (address : ChannelAddress) (currentRequestID : Int32) :
    CDataWrapper :=
  (r.requestPack.map fun pack => (CS_CMDM_ACTION_MESSAGE, BSONElement.object pack)).toList ++
    [(CS_CMDM_ACTION_DOMAIN, .string r.nodeID), (CS_CMDM_ACTION_NAME, .string r.actionName),
      (CS_CMDM_ANSWER_ID, .numberInt currentRequestID),
      (CS_CMDM_ANSWER_DOMAIN, .string address.channelID),
      (CS_CMDM_ANSWER_ACTION, .string "response"),
      (CS_CMDM_ANSWER_HOST_IP, .string address.publishedHostAndPort)]

/-- Where a thread is in `sendRequest`: it has the id of its request, the semaphore of the id is
made, the request is submitted, or it waits. -/
inductive Stage where
  | counted
  | initialized
  | submitted
  | waiting
  deriving DecidableEq, Repr

/-- A request is named by the number of its call. -/
structure Call where
  number : Nat
  currentRequestID : Int32
  stage : Stage
  deriving DecidableEq, Repr

/-- The channel, the server and the network between them. `sent` and `answers` are all the packs
that were ever sent, each with the number of its request: the network delivers any of them at any
time, any number of times or never. `objects` are the responses by the number of their arrival.
What is not in the code: the requests of all calls, how the actions of the requests ended, what the
calls of `sendRequest` and of `pollAnswer` returned, and what the handler was given. -/
structure RpcExchange where
  channelRequestIDCounter : Int32 := 0
  sem : MultiKeyObjectWaitSemaphore Int32 := {}
  calls : Nat → Option Call := fun _ => none
  sent : List (Nat × CDataWrapper) := []
  answers : List (Nat × NetworkForwardInfo) := []
  objects : List CDataWrapper := []
  requests : List Request := []
  served : List (Nat × ActionEnd) := []
  results : List (Nat × Option CDataWrapper) := []
  polled : List (Int32 × Option CDataWrapper) := []
  handled : List (Int32 × CDataWrapper) := []

namespace RpcExchange

variable (address : ChannelAddress) (s : RpcExchange)

def setCall (thread : Nat) (call : Option Call) : RpcExchange :=
  { s with calls := Function.update s.calls thread call }

/-- The counter is increased, and its new value is the id of the request. -/
def count (thread : Nat) (r : Request) : Option RpcExchange :=
  if (s.calls thread).isSome ∨ (s.sem.waiters thread).isSome then none
  else
    let currentRequestID := s.channelRequestIDCounter + 1
    some { s.setCall thread (some ⟨s.requests.length, currentRequestID, .counted⟩) with
      channelRequestIDCounter := currentRequestID
      requests := s.requests ++ [r] }

/-- The semaphore of an asynchronous request is not made. -/
def initKey (thread : Nat) : Option RpcExchange :=
  match s.calls thread with
  | some ⟨n, id, .counted⟩ =>
    let initialized := s.setCall thread (some ⟨n, id, .initialized⟩)
    if (s.requests[n]?).all (·.async) then some initialized
    else (s.sem.initKey id).map fun sem => { initialized with sem }
  | _ => none

def submit (thread : Nat) : Option RpcExchange :=
  match s.calls thread with
  | some ⟨n, id, .initialized⟩ =>
    (s.requests[n]?).map fun r =>
      { s.setCall thread (if r.async then none else some ⟨n, id, .submitted⟩) with
        sent := s.sent ++ [(n, r.pack address id)] }
  | _ => none

/-- `wait` on the id of the request. One that finds no semaphore returns NULL at once. -/
def wait (thread : Nat) (timed : Bool) : Option RpcExchange :=
  match s.calls thread with
  | some ⟨n, id, .submitted⟩ =>
    (s.sem.wait thread id timed).map fun sem =>
      if (sem.waiters thread).isSome then
        { s.setCall thread (some ⟨n, id, .waiting⟩) with sem }
      else { s.setCall thread none with sem, results := s.results ++ [(n, none)] }
  | _ => none

/-- `pollAnswer`, by a thread that is in no call of `sendRequest`. -/
def pollAnswer (thread : Nat) (request_id : Int32) : Option RpcExchange :=
  if (s.calls thread).isSome then none
  else (s.sem.wait thread request_id true).map fun sem =>
    if (sem.waiters thread).isSome then { s with sem }
    else { s with sem, polled := s.polled ++ [(request_id, none)] }

/-- The wait of a thread returns what it took from the semaphore. -/
def leave (thread : Nat) : Option RpcExchange :=
  match s.sem.waiters thread with
  | some w =>
    match w.phase with
    | .returning result => (s.sem.leave thread).map fun sem =>
        let object := result.bind fun obj => s.objects[obj]?
        match s.calls thread with
        | some call =>
          { s.setCall thread none with sem, results := s.results ++ [(call.number, object)] }
        | none => { s with sem, polled := s.polled ++ [(w.waitOnKey, object)] }
    | _ => none
  | none => none

/-- The server processes a request that reached it. What it knows and what its actions do may be
anything. -/
def serve (i : Nat) (world : World) (domainActionsContainer : action.DomainActions)
    (descriptors : action.Descriptors) : Option RpcExchange :=
  (s.sent[i]?).map fun message =>
    let processed := processBufferElement world domainActionsContainer descriptors message.2
    { s with
      answers := s.answers ++ processed.sent.map (message.1, ·)
      served := s.served ++ (processed.called.map (message.1, ·)).toList }

/-- The action of the channel: a response that no thread waits for goes to the handler. A response
without an id is dropped. -/
def response (responseData : CDataWrapper) : Option RpcExchange :=
  if ¬ responseData.hasKey CS_CMDM_MESSAGE_ID then some s
  else
    let requestID := responseData.getInt32Value CS_CMDM_MESSAGE_ID
    (s.sem.setWaithedObjectForKey requestID).map fun sem =>
      { s with
        sem
        objects := s.objects ++ [responseData]
        handled := if sem.setter.isSome then s.handled else s.handled ++ [(requestID, responseData)] }

/-- An answer reaches the host of the channel, and its dispatcher calls the action of the channel
with the message of the pack. -/
def deliver (j : Nat) : Option RpcExchange :=
  match s.answers[j]? with
  | none => none
  | some (_, answer) =>
    if answer.message.getStringValue CS_CMDM_ACTION_DOMAIN = some address.channelID ∧
        answer.message.getStringValue CS_CMDM_ACTION_NAME = some "response" then
      (answer.message.findCSDataValue CS_CMDM_ACTION_MESSAGE).bind s.response
    else none

inductive Label where
  | count (thread : Nat) (r : Request)
  | initKey (thread : Nat)
  | submit (thread : Nat)
  | wait (thread : Nat) (timed : Bool)
  | pollAnswer (thread : Nat) (request_id : Int32)
  | enter (thread : Nat)
  | wake (thread : Nat)
  | timeout (thread : Nat)
  | leave (thread : Nat)
  | serve (i : Nat) (world : World) (domainActionsContainer : action.DomainActions)
    (descriptors : action.Descriptors)
  | deliver (j : Nat)
  | setObject
  | unlock

def step : Label → Option RpcExchange
  | .count thread r => s.count thread r
  | .initKey thread => s.initKey thread
  | .submit thread => s.submit address thread
  | .wait thread timed => s.wait thread timed
  | .pollAnswer thread request_id => s.pollAnswer thread request_id
  | .enter thread => (s.sem.enter thread).map ({ s with sem := · })
  | .wake thread => (s.sem.wake thread).map ({ s with sem := · })
  | .timeout thread => (s.sem.timeout thread).map ({ s with sem := · })
  | .leave thread => s.leave thread
  | .serve i world domainActionsContainer descriptors =>
    s.serve i world domainActionsContainer descriptors
  | .deliver j => s.deliver address j
  | .setObject => s.sem.setObject.map ({ s with sem := · })
  | .unlock => s.sem.unlock.map ({ s with sem := · })

/-! ## One request and its answer -/

/-- What the server reads from a pack of the channel. -/
theorem answerInfo_pack (r : Request) (id : Int32) : answerInfo (r.pack address id) =
    some (some ⟨id, address.publishedHostAndPort, address.channelID, "response"⟩) := by
  cases hr : r.requestPack <;>
    simp [answerInfo, Request.pack, hr, CDataWrapper.hasKey, CDataWrapper.getField,
      CDataWrapper.getStringValue, CDataWrapper.getInt32Value, CS_CMDM_ANSWER_ID,
      CS_CMDM_ANSWER_HOST_IP, CS_CMDM_ANSWER_DOMAIN, CS_CMDM_ANSWER_ACTION, CS_CMDM_ACTION_DOMAIN,
      CS_CMDM_ACTION_NAME, CS_CMDM_ACTION_MESSAGE]

/-- An answer is sent for an action that was called, and says how it ended. -/
theorem of_mem_sent {world : World} {actions : action.DomainActions}
    {descriptors : action.Descriptors} {pack : CDataWrapper} {answer : NetworkForwardInfo}
    (h : answer ∈ (processBufferElement world actions descriptors pack).sent) :
    ∃ ended result info, (processBufferElement world actions descriptors pack).called = some ended ∧
      remoteActionResult ended = some result ∧ answerInfo pack = some (some info) ∧
      answer.message = responsePack info result := by
  unfold processBufferElement at h ⊢
  cases hname : pack.getStringValue CS_CMDM_ACTION_NAME with
  | none => simp [hname] at h
  | some actionName =>
    cases haction : actions.getActionDescriptor actionName with
    | none => simp [hname, haction] at h
    | some p =>
      cases hanswer : answerInfo pack with
      | none => simp [hname, haction, hanswer] at h
      | some answered =>
        cases hresult : remoteActionResult
            (world.call p (pack.findCSDataValue CS_CMDM_ACTION_MESSAGE)) with
        | none => simp [hname, haction, hanswer, hresult, apply_ite Processed.sent] at h
        | some result =>
          cases answered with
          | none => simp [hname, haction, hanswer, hresult, apply_ite Processed.sent] at h
          | some info =>
            simp only [hname, haction, hanswer, hresult] at h ⊢
            split_ifs at h ⊢ with hfire
            · refine ⟨_, result, info, rfl, hresult, rfl, ?_⟩
              simp only [submitResponse] at h
              split at h
              · rw [List.mem_singleton.mp h]
              · simp at h
              · simp at h
            · simp at h

/-- The channel finds the id of its request in the answer. -/
theorem requestID_of_result {ended : ActionEnd} {result : CDataWrapper} (id : Int32)
    (h : remoteActionResult ended = some result) :
    CDataWrapper.hasKey (result ++ [(CS_CMDM_MESSAGE_ID, .numberInt id)]) CS_CMDM_MESSAGE_ID ∧
      CDataWrapper.getInt32Value (result ++ [(CS_CMDM_MESSAGE_ID, .numberInt id)])
        CS_CMDM_MESSAGE_ID = id := by
  have hnone : CDataWrapper.getField result CS_CMDM_MESSAGE_ID = none := by
    rcases ended with (_ | fields) | ex | _ <;> cases h <;>
      simp [CDataWrapper.getField, exceptionFields, CS_CMDM_MESSAGE_ID, CS_CMDM_ACTION_MESSAGE,
        CS_CMDM_ACTION_SUBMISSION_ERROR_CODE, CS_CMDM_ACTION_SUBMISSION_ERROR_DOMAIN,
        CS_CMDM_ACTION_SUBMISSION_ERROR_MESSAGE]
  have hfield : CDataWrapper.getField (result ++ [(CS_CMDM_MESSAGE_ID, .numberInt id)])
      CS_CMDM_MESSAGE_ID = some (.numberInt id) := by
    unfold CDataWrapper.getField at hnone ⊢
    rw [Option.map_eq_none_iff] at hnone
    rw [List.find?_append, hnone]
    simp
  simp [CDataWrapper.hasKey, CDataWrapper.getInt32Value, hfield]

theorem findCSDataValue_responsePack (info : AnswerInfo) (result : CDataWrapper) :
    (responsePack info result).findCSDataValue CS_CMDM_ACTION_MESSAGE =
      some (result ++ [(CS_CMDM_MESSAGE_ID, .numberInt info.answerID)]) := by
  unfold responsePack
  split_ifs <;>
    simp [CDataWrapper.findCSDataValue, CDataWrapper.hasKey, CDataWrapper.getCSDataValue,
      CDataWrapper.getField, CS_CMDM_REMOTE_HOST_IP, CS_CMDM_ACTION_DOMAIN, CS_CMDM_ACTION_NAME,
      CS_CMDM_ACTION_MESSAGE]

/-! ## The invariant -/

section

variable {address : ChannelAddress} {s t : RpcExchange}

/-- The id of a request, by the number of its call. -/
def requestID (n : Nat) : Int32 := Int32.ofNat (n + 1)

/-- The data says how the action of a request with this id ended. -/
def Answers (s : RpcExchange) (id : Int32) (data : CDataWrapper) : Prop :=
  ∃ n ended result, n < s.requests.length ∧ requestID n = id ∧ (n, ended) ∈ s.served ∧
    remoteActionResult ended = some result ∧
    data = result ++ [(CS_CMDM_MESSAGE_ID, .numberInt id)]

/-- A synchronous request has this id. -/
def Synchronous (s : RpcExchange) (id : Int32) : Prop :=
  ∃ n r, s.requests[n]? = some r ∧ r.async = false ∧ requestID n = id

/-- What the packs on the network come from. -/
structure Network (address : ChannelAddress) (s : RpcExchange) : Prop where
  sent : ∀ n pack, (n, pack) ∈ s.sent →
    ∃ r, s.requests[n]? = some r ∧ pack = r.pack address (requestID n)
  answers : ∀ n answer, (n, answer) ∈ s.answers → ∃ ended result, n < s.requests.length ∧
    (n, ended) ∈ s.served ∧ remoteActionResult ended = some result ∧ answer.message =
      responsePack ⟨requestID n, address.publishedHostAndPort, address.channelID, "response"⟩ result

/-- Every call has the id of its own request, and waits on it. -/
structure Calls (s : RpcExchange) : Prop where
  counter : s.channelRequestIDCounter = Int32.ofNat s.requests.length
  calls : ∀ thread c, s.calls thread = some c →
    c.number < s.requests.length ∧ c.currentRequestID = requestID c.number
  waits : ∀ thread c w, s.calls thread = some c → s.sem.waiters thread = some w →
    w.waitOnKey = c.currentRequestID

/-- Only synchronous requests have a semaphore, and a response that finds none goes to the
handler. -/
structure Offered (s : RpcExchange) : Prop where
  mapped : ∀ key ks, s.sem.keySemaphoreMap key = some (some ks) → Synchronous s key
  waiters : ∀ thread w, s.sem.waiters thread = some w → Synchronous s w.waitOnKey
  polled : ∀ key data, (key, some data) ∈ s.polled → Synchronous s key
  offered : ∀ (obj : Nat) key data, s.sem.arrived[obj]? = some key → s.objects[obj]? = some data →
    Synchronous s key ∨ (key, data) ∈ s.handled

structure Good (address : ChannelAddress) (s : RpcExchange) : Prop extends Network address s,
    Calls s, Offered s where
  keyed : ∃ keyOf, s.sem.Keyed keyOf
  aligned : s.objects.length = s.sem.arrived.length
  objects : ∀ (obj : Nat) key data, s.sem.arrived[obj]? = some key → s.objects[obj]? = some data →
    Answers s key data
  results : ∀ n data, (n, some data) ∈ s.results →
    n < s.requests.length ∧ Answers s (requestID n) data
  polls : ∀ key data, (key, some data) ∈ s.polled → Answers s key data
  handler : ∀ key data, (key, data) ∈ s.handled → Answers s key data

/-- Requests and answered actions are added only. -/
structure Grows (s t : RpcExchange) : Prop where
  requests : s.requests <+: t.requests
  served : ∀ e ∈ s.served, e ∈ t.served

theorem Grows.same (hrequests : t.requests = s.requests) (hserved : t.served = s.served) :
    Grows s t := by
  refine ⟨hrequests ▸ List.prefix_refl _, ?_⟩
  rw [hserved]
  exact fun _ he => he

theorem Grows.getElem? (h : Grows s t) {n : Nat} {r : Request} (hr : s.requests[n]? = some r) :
    t.requests[n]? = some r := by
  obtain ⟨added, hadded⟩ := h.requests
  rw [← hadded]
  exact numbered_list.getElem?_append_of_some hr _

theorem Answers.grow {id : Int32} {data : CDataWrapper} (ha : Answers s id data) (h : Grows s t) :
    Answers t id data := by
  obtain ⟨n, ended, result, hn, hid, hserved, hresult, hdata⟩ := ha
  exact ⟨n, ended, result, hn.trans_le h.requests.length_le, hid, h.served _ hserved, hresult,
    hdata⟩

theorem Synchronous.grow {id : Int32} (hs : Synchronous s id) (h : Grows s t) :
    Synchronous t id := by
  obtain ⟨n, r, hr, hasync, hid⟩ := hs
  exact ⟨n, r, h.getElem? hr, hasync, hid⟩

theorem Network.grow (hn : Network address s) (h : Grows s t) (hsent : t.sent = s.sent)
    (hanswers : t.answers = s.answers) : Network address t where
  sent n pack hmem := by
    rw [hsent] at hmem
    obtain ⟨r, hr, hpack⟩ := hn.sent n pack hmem
    exact ⟨r, h.getElem? hr, hpack⟩
  answers n answer hmem := by
    rw [hanswers] at hmem
    obtain ⟨ended, result, hlt, hserved, hrest⟩ := hn.answers n answer hmem
    exact ⟨ended, result, hlt.trans_le h.requests.length_le, h.served _ hserved, hrest⟩

/-- A section of a semaphore, while no response arrives and no wait begins. -/
theorem Good.follows (h : Good address s) {sem : MultiKeyObjectWaitSemaphore Int32}
    {keyOf : Nat → Int32} (hkeyed : sem.Keyed keyOf) (hf : s.sem.Follows sem) :
    Good address { s with sem } where
  toNetwork := h.toNetwork.grow (.same rfl rfl) rfl rfl
  counter := h.counter
  calls := h.calls
  waits thread c w hc hw := by
    obtain ⟨w', hw', hkey⟩ := hf.waiters thread w hw
    rw [← hkey]
    exact h.waits thread c w' hc hw'
  mapped key ks hk := h.mapped key ks (hf.mapped key ks hk)
  waiters thread w hw := by
    obtain ⟨w', hw', hkey⟩ := hf.waiters thread w hw
    rw [← hkey]
    exact h.waiters thread w' hw'
  polled := h.polled
  offered obj key data ha := by
    rw [hf.arrived] at ha
    exact h.offered obj key data ha
  keyed := ⟨keyOf, hkeyed⟩
  aligned := by
    rw [hf.arrived]
    exact h.aligned
  objects obj key data ha := by
    rw [hf.arrived] at ha
    exact h.objects obj key data ha
  results := h.results
  polls := h.polls
  handler := h.handler

theorem requestID_succ (n : Nat) : Int32.ofNat n + 1 = requestID n := by
  rw [requestID, Int32.ofNat_add]
  rfl

/-- A step that adds requests and answered actions changes nothing that was found out before. -/
theorem Good.grow (h : Good address s) (hgrow : Grows s t)
    (hfound : (t.sem, t.objects, t.results, t.polled, t.handled) =
      (s.sem, s.objects, s.results, s.polled, s.handled))
    (hnetwork : Network address t) (hcalls : Calls t) (hoffered : Offered t) :
    Good address t := by
  simp only [Prod.mk.injEq] at hfound
  obtain ⟨hsem, hobjects, hresults, hpolled, hhandled⟩ := hfound
  refine ⟨hnetwork, hcalls, hoffered, by rw [hsem]; exact h.keyed,
    by rw [hsem, hobjects]; exact h.aligned, ?_, ?_, ?_, ?_⟩
  · rw [hsem, hobjects]
    exact fun obj key data ha ho => (h.objects obj key data ha ho).grow hgrow
  · rw [hresults]
    exact fun n data hr => (h.results n data hr).imp (·.trans_le hgrow.requests.length_le)
      (·.grow hgrow)
  · rw [hpolled]
    exact fun key data hp => (h.polls key data hp).grow hgrow
  · rw [hhandled]
    exact fun key data hp => (h.handler key data hp).grow hgrow

theorem Good.count (h : Good address s) {thread : Nat} {r : Request}
    (hs : s.count thread r = some t) : Good address t := by
  unfold RpcExchange.count at hs
  split_ifs at hs with hfree
  cases hs
  have hgrow : Grows s { s.setCall thread
      (some ⟨s.requests.length, s.channelRequestIDCounter + 1, .counted⟩) with
      channelRequestIDCounter := s.channelRequestIDCounter + 1
      requests := s.requests ++ [r] } := ⟨List.prefix_append _ _, fun _ he => he⟩
  have hid : s.channelRequestIDCounter + 1 = requestID s.requests.length := by
    rw [h.counter, requestID_succ]
  refine h.grow hgrow rfl (h.toNetwork.grow hgrow rfl rfl) ⟨?_, ?_, ?_⟩ ⟨?_, ?_, ?_, ?_⟩
  · simp only [hid, List.length_append, List.length_singleton]
    rfl
  · intro thread' c hc
    simp only [List.length_append, List.length_singleton]
    rcases MultiKeyObjectWaitSemaphore.of_update hc with ⟨-, rfl⟩ | ⟨-, hc⟩
    · exact ⟨Nat.lt_succ_self _, hid⟩
    · obtain ⟨hlt, hrequest⟩ := h.calls thread' c hc
      exact ⟨Nat.lt_succ_of_lt hlt, hrequest⟩
  · intro thread' c w hc hw
    rcases MultiKeyObjectWaitSemaphore.of_update hc with ⟨rfl, -⟩ | ⟨-, hc⟩
    · have hw' : s.sem.waiters thread' = some w := hw
      simp [hw'] at hfree
    · exact h.waits thread' c w hc hw
  · exact fun key ks hk => (h.mapped key ks hk).grow hgrow
  · exact fun thread' w hw => (h.waiters thread' w hw).grow hgrow
  · exact fun key data hp => (h.polled key data hp).grow hgrow
  · exact fun obj key data ha ho => (h.offered obj key data ha ho).imp_left (·.grow hgrow)

/-- A call goes on, or ends. -/
theorem Good.setCall (h : Good address s) {thread : Nat} {call : Option Call}
    (hcall : ∀ c ∈ call, ∃ c', s.calls thread = some c' ∧ c.number = c'.number ∧
      c.currentRequestID = c'.currentRequestID) : Good address (s.setCall thread call) := by
  have hold {thread' : Nat} {c : Call} (hc : (s.setCall thread call).calls thread' = some c) :
      ∃ c', s.calls thread' = some c' ∧ c.number = c'.number ∧
        c.currentRequestID = c'.currentRequestID := by
    simp only [RpcExchange.setCall, Function.update_apply] at hc
    split_ifs at hc with hthread
    · subst hthread
      exact hcall c hc
    · exact ⟨c, hc, rfl, rfl⟩
  refine { h with calls := ?_, waits := ?_, sent := h.sent, answers := h.answers }
  · intro thread' c hc
    obtain ⟨c', hc', hn, hid⟩ := hold hc
    rw [hn, hid]
    exact h.calls thread' c' hc'
  · intro thread' c w hc hw
    obtain ⟨c', hc', -, hid⟩ := hold hc
    rw [hid]
    exact h.waits thread' c' w hc' hw

theorem Good.initKey (h : Good address s) {thread : Nat} (hs : s.initKey thread = some t) :
    Good address t := by
  unfold RpcExchange.initKey at hs
  split at hs
  · rename_i n id hcall
    have hgood : Good address (s.setCall thread (some ⟨n, id, .initialized⟩)) :=
      h.setCall fun c hc => by
        cases hc
        exact ⟨_, hcall, rfl, rfl⟩
    simp only at hs
    split_ifs at hs with hasync
    · cases hs
      exact hgood
    · obtain ⟨sem, hsem, rfl⟩ := Option.map_eq_some_iff.mp hs
      obtain ⟨keyOf, hkeyed⟩ := h.keyed
      obtain ⟨hkeyed', hmap, hwaiters, harrived⟩ := hkeyed.initKey hsem
      obtain ⟨hlt, hid⟩ := h.calls thread _ hcall
      have hsync : Synchronous s id := by
        refine ⟨n, s.requests[n], List.getElem?_eq_getElem hlt, ?_, hid.symm⟩
        simpa [List.getElem?_eq_getElem hlt] using hasync
      refine { hgood with
        waits := ?_, mapped := ?_, waiters := ?_, offered := ?_, keyed := ⟨_, hkeyed'⟩
        aligned := ?_, objects := ?_, sent := hgood.sent, answers := hgood.answers }
      · rw [hwaiters]
        exact hgood.waits
      · intro key ks hk
        rcases hmap key ks hk with hk | rfl
        · exact hgood.mapped key ks hk
        · exact hsync
      · rw [hwaiters]
        exact hgood.waiters
      · rw [harrived]
        exact hgood.offered
      · rw [harrived]
        exact hgood.aligned
      · rw [harrived]
        exact hgood.objects
  · cases hs

theorem Good.submit (h : Good address s) {thread : Nat} (hs : s.submit address thread = some t) :
    Good address t := by
  unfold RpcExchange.submit at hs
  split at hs
  · rename_i n id hcall
    obtain ⟨r, hr, rfl⟩ := Option.map_eq_some_iff.mp hs
    have hgood : Good address
        (s.setCall thread (if r.async then none else some ⟨n, id, .submitted⟩)) :=
      h.setCall fun c hc => by
        split_ifs at hc
        · cases hc
        · cases hc
          exact ⟨_, hcall, rfl, rfl⟩
    refine { hgood with sent := ?_, answers := hgood.answers }
    intro m pack hmem
    rcases List.mem_append.mp hmem with hmem | hmem
    · exact h.sent m pack hmem
    · cases List.mem_singleton.mp hmem
      have hid : id = requestID n := (h.calls thread _ hcall).2
      exact ⟨r, hr, by rw [hid]⟩
  · cases hs

/-- A thread begins to wait on a key, in a call with this id or in none. -/
theorem Good.beginWait (h : Good address s) {thread : Nat} {id : Int32} {timed : Bool}
    {sem : MultiKeyObjectWaitSemaphore Int32} (hsem : s.sem.wait thread id timed = some sem)
    (hcall : ∀ c, s.calls thread = some c → c.currentRequestID = id) :
    Good address { s with sem } := by
  obtain ⟨keyOf, hkeyed⟩ := h.keyed
  obtain ⟨hkeyed', harrived, hmap, hfree, hwaiters⟩ := hkeyed.wait hsem
  have hnew {thread' : Nat} {w : Waiter Int32} (hw : sem.waiters thread' = some w) :
      s.sem.waiters thread' = some w ∨ thread' = thread ∧ w.waitOnKey = id ∧
        ∃ ks, s.sem.keySemaphoreMap id = some (some ks) := by
    rcases hwaiters with hsame | ⟨w', ks, hupdate, hkey, hks⟩
    · rw [hsame] at hw
      exact .inl hw
    · rw [hupdate] at hw
      rcases MultiKeyObjectWaitSemaphore.of_update hw with ⟨rfl, rfl⟩ | ⟨-, hw⟩
      · exact .inr ⟨rfl, hkey, ks, hks⟩
      · exact .inl hw
  refine { h with
    waits := ?_, mapped := fun k ks hk => h.mapped k ks (hmap k ks hk), waiters := ?_
    offered := harrived ▸ h.offered, keyed := ⟨_, hkeyed'⟩, aligned := harrived ▸ h.aligned
    objects := harrived ▸ h.objects, sent := h.sent, answers := h.answers }
  · intro thread' c w hc hw
    rcases hnew hw with hw | ⟨rfl, hkey, -⟩
    · exact h.waits thread' c w hc hw
    · rw [hkey, hcall c hc]
  · intro thread' w hw
    rcases hnew hw with hw | ⟨-, hkey, ks, hks⟩
    · exact h.waiters thread' w hw
    · rw [hkey]
      exact h.mapped id ks hks

theorem Good.addResult (h : Good address s) {n : Nat} {object : Option CDataWrapper}
    (hobject : ∀ data ∈ object, n < s.requests.length ∧ Answers s (requestID n) data) :
    Good address { s with results := s.results ++ [(n, object)] } := by
  refine { h with results := ?_, sent := h.sent, answers := h.answers }
  intro m data hmem
  rcases List.mem_append.mp hmem with hmem | hmem
  · exact h.results m data hmem
  · cases List.mem_singleton.mp hmem
    exact hobject data rfl

theorem Good.addPolled (h : Good address s) {id : Int32} {object : Option CDataWrapper}
    (hobject : ∀ data ∈ object, Answers s id data ∧ Synchronous s id) :
    Good address { s with polled := s.polled ++ [(id, object)] } := by
  have hnew {key : Int32} {data : CDataWrapper}
      (hmem : (key, some data) ∈ s.polled ++ [(id, object)]) :
      (key, some data) ∈ s.polled ∨ key = id ∧ data ∈ object := by
    rcases List.mem_append.mp hmem with hmem | hmem
    · exact .inl hmem
    · cases List.mem_singleton.mp hmem
      exact .inr ⟨rfl, rfl⟩
  refine { h with polled := ?_, polls := ?_, sent := h.sent, answers := h.answers }
  · intro key data hmem
    rcases hnew hmem with hmem | ⟨rfl, hdata⟩
    · exact h.polled key data hmem
    · exact (hobject data hdata).2
  · intro key data hmem
    rcases hnew hmem with hmem | ⟨rfl, hdata⟩
    · exact h.polls key data hmem
    · exact (hobject data hdata).1

theorem Good.wait (h : Good address s) {thread : Nat} {timed : Bool}
    (hs : s.wait thread timed = some t) : Good address t := by
  unfold RpcExchange.wait at hs
  split at hs
  · rename_i n id hcall
    obtain ⟨sem, hsem, rfl⟩ := Option.map_eq_some_iff.mp hs
    have hwaiting : Good address { s with sem } := h.beginWait hsem fun c hc => by
      rw [hcall] at hc
      cases hc
      rfl
    split_ifs with hblocked
    · exact hwaiting.setCall fun c hc => by
        cases hc
        exact ⟨_, hcall, rfl, rfl⟩
    · have hended : Good address (RpcExchange.setCall { s with sem } thread none) :=
        hwaiting.setCall fun c hc => by cases hc
      exact hended.addResult fun data hdata => by cases hdata
  · cases hs

theorem Good.pollAnswer (h : Good address s) {thread : Nat} {request_id : Int32}
    (hs : s.pollAnswer thread request_id = some t) : Good address t := by
  unfold RpcExchange.pollAnswer at hs
  split_ifs at hs with hcall
  obtain ⟨sem, hsem, rfl⟩ := Option.map_eq_some_iff.mp hs
  have hwaiting : Good address { s with sem } := h.beginWait hsem fun c hc => by
    simp [hc] at hcall
  split_ifs with hblocked
  · exact hwaiting
  · exact hwaiting.addPolled fun data hdata => by cases hdata

/-- What a wait has taken is an answer to a request with the id that it waits on. -/
theorem Good.taken (h : Good address s) {thread : Nat} {w : Waiter Int32} {result : Option Nat}
    (hw : s.sem.waiters thread = some w) (hphase : w.phase = .returning result) :
    ∀ data ∈ result.bind fun obj => s.objects[obj]?,
      Answers s w.waitOnKey data ∧ Synchronous s w.waitOnKey := by
  intro data hdata
  obtain ⟨obj, hresult, hobject⟩ := Option.bind_eq_some_iff.mp hdata
  obtain ⟨keyOf, hkeyed⟩ := h.keyed
  rw [hresult] at hphase
  have harrived := hkeyed.taken thread w obj hw hphase
  exact ⟨h.objects obj _ data harrived hobject, h.waiters thread w hw⟩

theorem Good.leave (h : Good address s) {thread : Nat} (hs : s.leave thread = some t) :
    Good address t := by
  unfold RpcExchange.leave at hs
  split at hs
  · rename_i w hw
    split at hs
    · rename_i result hphase
      obtain ⟨sem, hsem, rfl⟩ := Option.map_eq_some_iff.mp hs
      obtain ⟨keyOf, hkeyed⟩ := h.keyed
      obtain ⟨hkeyed', hfollows, -⟩ := hkeyed.leave hsem
      have hgood : Good address { s with sem } := h.follows hkeyed' hfollows
      have htaken := h.taken hw hphase
      simp only
      split
      · rename_i call hcall
        have hended : Good address (RpcExchange.setCall { s with sem } thread none) :=
          hgood.setCall fun c hc => by cases hc
        refine hended.addResult fun data hdata => ?_
        obtain ⟨hlt, hid⟩ := h.calls thread call hcall
        refine ⟨hlt, ?_⟩
        rw [← hid, ← h.waits thread call w hcall hw]
        exact (htaken data hdata).1
      · exact hgood.addPolled htaken
    · cases hs
  · cases hs

theorem Good.serve (h : Good address s) {i : Nat} {world : World} {actions : action.DomainActions}
    {descriptors : action.Descriptors} (hs : s.serve i world actions descriptors = some t) :
    Good address t := by
  obtain ⟨⟨n, pack⟩, hi, rfl⟩ := Option.map_eq_some_iff.mp hs
  obtain ⟨r, hr, hpack⟩ := h.sent n pack (List.mem_of_getElem? hi)
  have hlt : n < s.requests.length := (List.getElem?_eq_some_iff.mp hr).1
  have hgrow : Grows s { s with
      answers := s.answers ++ (processBufferElement world actions descriptors pack).sent.map (n, ·)
      served := s.served ++
        ((processBufferElement world actions descriptors pack).called.map (n, ·)).toList } :=
    ⟨List.prefix_refl _, fun _ he => List.mem_append_left _ he⟩
  refine h.grow hgrow rfl ⟨h.sent, ?_⟩ ⟨h.counter, h.calls, h.waits⟩
    ⟨h.mapped, h.waiters, h.polled, h.offered⟩
  · intro m answer hmem
    rcases List.mem_append.mp hmem with hmem | hmem
    · obtain ⟨ended, result, hm, hserved, hrest⟩ := h.answers m answer hmem
      exact ⟨ended, result, hm, List.mem_append_left _ hserved, hrest⟩
    · obtain ⟨answer', hanswer, heq⟩ := List.mem_map.mp hmem
      cases heq
      obtain ⟨ended, result, info, hcalled, hresult, hinfo, hmessage⟩ := of_mem_sent hanswer
      rw [hpack, answerInfo_pack, Option.some.injEq, Option.some.injEq] at hinfo
      refine ⟨ended, result, hlt, ?_, hresult, by rw [hmessage, hinfo]⟩
      refine List.mem_append_right _ ?_
      simp [hcalled]

theorem Good.deliver (h : Good address s) {j : Nat} (hs : s.deliver address j = some t) :
    Good address t := by
  unfold RpcExchange.deliver at hs
  split at hs
  · cases hs
  · rename_i n answer hj
    split_ifs at hs with haddressed
    obtain ⟨data, hdata, hs⟩ := Option.bind_eq_some_iff.mp hs
    obtain ⟨ended, result, hlt, hserved, hresult, hmessage⟩ :=
      h.answers n answer (List.mem_of_getElem? hj)
    rw [hmessage, findCSDataValue_responsePack, Option.some.injEq] at hdata
    obtain ⟨hkey, hid⟩ := requestID_of_result (requestID n) hresult
    rw [hdata] at hkey hid
    have hanswers : Answers s (requestID n) data :=
      ⟨n, ended, result, hlt, rfl, hserved, hresult, hdata.symm⟩
    unfold response at hs
    rw [if_neg (not_not.mpr hkey)] at hs
    simp only [hid] at hs
    obtain ⟨sem, hsem, rfl⟩ := Option.map_eq_some_iff.mp hs
    obtain ⟨keyOf, hkeyed⟩ := h.keyed
    obtain ⟨hkeyed', harrived, hmap, hwaiters, hfound⟩ := hkeyed.setWaithedObjectForKey hsem
    -- the response that comes last, or one that came before
    have hnew {obj : Nat} {key : Int32} {object : CDataWrapper}
        (ha : sem.arrived[obj]? = some key) (ho : (s.objects ++ [data])[obj]? = some object) :
        s.sem.arrived[obj]? = some key ∧ s.objects[obj]? = some object ∨
          key = requestID n ∧ object = data := by
      rw [harrived] at ha
      rcases numbered_list.of_getElem?_concat ha with ha | ⟨hobj, hkey⟩
      · have hlt := (List.getElem?_eq_some_iff.mp ha).1
        rw [List.getElem?_append_left (h.aligned ▸ hlt)] at ho
        exact .inl ⟨ha, ho⟩
      · rw [hobj, ← h.aligned, List.getElem?_concat_length, Option.some.injEq] at ho
        exact .inr ⟨hkey, ho.symm⟩
    have hhandled {p : Int32 × CDataWrapper} (hp : p ∈ s.handled) : p ∈ if sem.setter.isSome then
        s.handled else s.handled ++ [(requestID n, data)] := by
      split_ifs
      · exact hp
      · exact List.mem_append_left _ hp
    refine { h with
      waits := hwaiters ▸ h.waits, mapped := hmap ▸ h.mapped, waiters := hwaiters ▸ h.waiters
      offered := ?_, keyed := ⟨_, hkeyed'⟩, aligned := ?_, objects := ?_, handler := ?_
      sent := h.sent, answers := h.answers }
    · intro obj key object ha ho
      rcases hnew ha ho with ⟨ha, ho⟩ | ⟨rfl, rfl⟩
      · exact (h.offered obj key object ha ho).imp_right hhandled
      · by_cases hsome : sem.setter.isSome
        · obtain ⟨ks, hks⟩ := hfound hsome
          exact .inl (h.mapped _ ks hks)
        · refine .inr ?_
          simp [hsome]
    · simp [harrived, h.aligned]
    · intro obj key object ha ho
      rcases hnew ha ho with ⟨ha, ho⟩ | ⟨rfl, rfl⟩
      · exact h.objects obj key object ha ho
      · exact hanswers
    · intro key object hmem
      simp only at hmem
      split_ifs at hmem
      · exact h.handler key object hmem
      · rcases List.mem_append.mp hmem with hmem | hmem
        · exact h.handler key object hmem
        · cases List.mem_singleton.mp hmem
          exact hanswers

theorem Good.step (h : Good address s) {l : Label} (hs : s.step address l = some t) :
    Good address t := by
  obtain ⟨keyOf, hkeyed⟩ := h.keyed
  cases l with
  | count thread r => exact h.count hs
  | initKey thread => exact h.initKey hs
  | submit thread => exact h.submit hs
  | wait thread timed => exact h.wait hs
  | pollAnswer thread request_id => exact h.pollAnswer hs
  | enter thread =>
    obtain ⟨sem, hsem, rfl⟩ := Option.map_eq_some_iff.mp hs
    exact h.follows (hkeyed.enter hsem).1 (hkeyed.enter hsem).2
  | wake thread =>
    obtain ⟨sem, hsem, rfl⟩ := Option.map_eq_some_iff.mp hs
    exact h.follows (hkeyed.wake hsem).1 (hkeyed.wake hsem).2
  | timeout thread =>
    obtain ⟨sem, hsem, rfl⟩ := Option.map_eq_some_iff.mp hs
    exact h.follows (hkeyed.timeout hsem).1 (hkeyed.timeout hsem).2
  | leave thread => exact h.leave hs
  | serve i world actions descriptors => exact h.serve hs
  | deliver j => exact h.deliver hs
  | setObject =>
    obtain ⟨sem, hsem, rfl⟩ := Option.map_eq_some_iff.mp hs
    exact h.follows (hkeyed.setObject hsem).1 (hkeyed.setObject hsem).2
  | unlock =>
    obtain ⟨sem, hsem, rfl⟩ := Option.map_eq_some_iff.mp hs
    exact h.follows (hkeyed.unlock hsem).1 (hkeyed.unlock hsem).2

theorem good_start (address : ChannelAddress) : Good address {} := by
  refine ⟨⟨?_, ?_⟩, ⟨rfl, ?_, ?_⟩, ⟨?_, ?_, ?_, ?_⟩, ⟨fun _ => 0, .start _⟩, rfl, ?_, ?_, ?_, ?_⟩
  all_goals simp

theorem good_of_run {labels : List Label} (hr : run (step address) {} labels = some t) :
    Good address t :=
  run_keeps (Good address) (fun _ _ _ h hs => h.step hs) (good_start address) hr

/-! ## What is promised -/

theorem requestID_inj {m n : Nat} (hm : m < 2 ^ 32) (hn : n < 2 ^ 32)
    (h : requestID m = requestID n) : m = n := by
  have hbits := congrArg Int32.toBitVec h
  simp only [requestID, Int32.toBitVec_ofNat'] at hbits
  have hnat := congrArg BitVec.toNat hbits
  simp only [BitVec.toNat_ofNat] at hnat
  omega

/-- The data says how the action of this very request ended. -/
def AnswersCall (s : RpcExchange) (n : Nat) (data : CDataWrapper) : Prop :=
  ∃ ended result, (n, ended) ∈ s.served ∧ remoteActionResult ended = some result ∧
    data = result ++ [(CS_CMDM_MESSAGE_ID, .numberInt (requestID n))]

/-- In every run of a channel with fewer requests than it has ids, whatever the network loses,
repeats and reorders, a call that gets an answer gets one that the server computed for it. -/
theorem calls_get_their_own_answers (address : ChannelAddress) (labels : List Label)
    (t : RpcExchange) (hr : run (step address) {} labels = some t)
    (hfew : t.requests.length < 2 ^ 32) (n : Nat) (data : CDataWrapper)
    (h : (n, some data) ∈ t.results) : AnswersCall t n data := by
  obtain ⟨hn, m, ended, result, hm, hid, hserved, hresult, hdata⟩ :=
    (good_of_run hr).results n data h
  have hsame : m = n := requestID_inj (by omega) (by omega) hid
  subst hsame
  exact ⟨ended, result, hserved, hresult, hdata⟩

/-- A server with one action, which returns nothing. -/
def pingServer : Label :=
  .serve 0 ⟨fun _ _ => .returned none, fun _ => none, fun _ => .ok true⟩
    ⟨"unit", AList.insert "ping" 0 ∅⟩ fun _ => { actionDomain := "unit", actionName := "ping" }

def oneExchange : List Label :=
  [.count 0 ⟨false, "unit", "ping", none⟩, .initKey 0, .submit 0, pingServer, .wait 0 false,
    .enter 0, .deliver 0, .setObject, .unlock, .wake 0, .leave 0]

def someAddress : ChannelAddress := ⟨"0a1b2c3d", "10.0.0.1:8888"⟩

def afterExchange : RpcExchange :=
  (run (step someAddress) {} oneExchange).get (by decide +kernel)

def pingAnswer : CDataWrapper :=
  [(CS_CMDM_ACTION_SUBMISSION_ERROR_CODE, .numberInt 0), (CS_CMDM_MESSAGE_ID, .numberInt 1)]

theorem ping_is_answered : AnswersCall afterExchange 0 pingAnswer :=
  calls_get_their_own_answers someAddress oneExchange afterExchange (Option.some_get _).symm
    (by decide +kernel) 0 _ (by
      have h : afterExchange.results = [(0, some pingAnswer)] := by rfl
      rw [h]
      exact List.mem_singleton_self _)

def asyncExchange : List Label :=
  [.count 0 ⟨true, "unit", "ping", none⟩, .initKey 0, .submit 0, pingServer, .deliver 0,
    .pollAnswer 1 1]

def afterAsyncExchange : RpcExchange :=
  (run (step someAddress) {} asyncExchange).get (by decide +kernel)

end

end RpcExchange

end chaos.common.message
