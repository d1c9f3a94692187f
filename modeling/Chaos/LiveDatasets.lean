-- The datasets that a user gets of a unit while it runs: the unit pushes them, a data server keeps
-- the last one of each key in its cache, and a device controller asks for them. An answer that comes
-- too late is taken for the answer to the next request.
import Chaos.Pipelining
import Chaos.PutAccounting
import Chaos.QueryMessages
import Chaos.Runs
import Chaos.SocketWrites

open runs pipelining little_endian
open chaos.common.direct_io
open chaos.common.direct_io.channel
open chaos.common.direct_io.ZMQDirectIOServer
open chaos.common.direct_io.ZMQDirectIOClientConnection (DirectIOSynchronousAnswer Outcomes
  receiveAnswer)
open chaos.data_service.worker (PutWorld PutRequest)
open chaos.data_service.worker.Put hiding dispatch

namespace chaos.ui

/-! ## The keys -/

inductive DatasetDomain where
  | Output | Input | Custom | System
  deriving DecidableEq, Repr

/-- The prefixes of `DataPackPrefixID`, which are put behind the identifier. -/
def DatasetDomain.prefixID : DatasetDomain → List UInt8
  | .Output => [0x5f, 0x6f]
  | .Input => [0x5f, 0x69]
  | .Custom => [0x5f, 0x63]
  | .System => [0x5f, 0x73]

/-- The key of the constructors of `KeyDataStorage` and `DeviceController`. -/
def datasetKey (device_id : List UInt8) (domain : DatasetDomain) : List UInt8 :=
  device_id ++ domain.prefixID

/-! ## The request of a dataset -/

def DeviceChannelOpcodeGetLastOutput : UInt8 := 2

/-- `sizeof(DirectIODeviceChannelHeaderGetOpcode)`. -/
def getOpcodeHeaderSize : UInt32 := 16

/-- The fields in memory, with two bytes between the ports and the address. An answer that is not
synchronous would go there. -/
def getOpcodeHeader (info : AnswerServerInfo) : List UInt8 :=
  toBytes 2 info.endpoint.toNat ++ toBytes 2 info.p_server_port.toNat ++
    toBytes 2 info.s_server_port.toNat ++ [0, 0] ++ toBytes 8 info.ip.toNat

/-- `requestLastOutputData`, up to the pack that the connection writes to its socket. -/
def requestLastOutputData (endpoint : UInt16) (answer_server_info : AnswerServerInfo)
    (key : List UInt8) : DirectIODataPack :=
  completeDataPack endpoint DIODataset_Channel_Index true
    ((packWithHeader DeviceChannelOpcodeGetLastOutput (getOpcodeHeader answer_server_info)
      getOpcodeHeaderSize).setChannelData key (UInt32.ofNat key.length))

/-- What the calls of ZMQ give to a client that gets a message. -/
def received (bytes : List UInt8) : Outcomes where
  delimiter_sent := true
  header_sent := true
  msg_header_data_init := true
  msg_header_data_sent := true
  msg_data_init := true
  msg_data_sent := true
  delimiter_received := some []
  msg_init := true
  msg_received := some bytes

/-- The result of `retriveRawData` where the message was received. -/
def answerData (bytes : List UInt8) : Option (List UInt8) :=
  (receiveAnswer (received bytes) []).2.findSome? fun
    | .answered answer => answer.answer_data
    | _ => none

/-! ## The data server -/

/-- The values of the cache servers, by their keys. -/
def Cache := List UInt8 → Option (List UInt8)

namespace Cache

variable (cache : Cache)

/-- `putData` where it returns 0. -/
def set (key value : List UInt8) : Cache :=
  fun key' => if key' = key then some value else cache key'

/-- A cache server forgets a value when it has no more room. -/
def evict (key : List UInt8) : Cache := fun key' => if key' = key then none else cache key'

/-- `getData`, which gives no value for a key that the cache does not have or does not answer for.
The length of the key is a byte. -/
def getData (answers : Bool) (element_key : List UInt8) (element_key_len : UInt8) :
    Option (List UInt8) :=
  if answers then cache (element_key.take element_key_len.toNat) else none

/-- `consumeGetEvent`. The key is in the data of the channel. -/
def consumeGetEvent (answers : Bool) (channel_data : Option (List UInt8))
    (channel_data_len : UInt32) : DirectIOSynchronousAnswer :=
  match cache.getData answers (channel_data.getD []) channel_data_len.toUInt8 with
  | some value => ⟨some value, UInt32.ofNat value.length⟩
  | none => ⟨none, 0⟩

/-- The branch of `consumeDataPack` for a get, and the message of the answer. -/
def consumeDataPack (answers : Bool) (pack : DirectIODataPack) : Handled :=
  if pack.dispatcher_header.channel_opcode = DeviceChannelOpcodeGetLastOutput then
    let answer := cache.consumeGetEvent answers pack.channel_data pack.channel_data_size
    .returned ((answer.answer_data.getD []).take answer.answer_size.toNat)
  else .returned []

/-- The answer that the loop of the server sends for a message, if it sends one. -/
def serve (answers : Bool) (message : List (List UInt8)) : Option (List UInt8) :=
  (worker (cache.consumeDataPack answers) (message.map Recv.part)).events.findSome? fun
    | .answered _ answer => some answer
    | .dispatched _ _ => none

/-- The puts that a request makes, as far as the cache takes them. -/
def store (puts : List (List UInt8 × List UInt8 × Int)) : Cache :=
  puts.foldl (fun cache put => if put.2.2 = 0 then cache.set put.1 put.2.1 else cache) cache

/-- The put of one message. Reading the header past its end, or a job that is gone, is undefined. -/
def put (w : PutWorld) (message : List (List UInt8)) : Option Cache :=
  (putEvents (worker (cache.consumeDataPack true) (message.map Recv.part))).foldlM
    (fun cache e => do
      let e ← e
      let tag ← e.tag
      let key ← e.key
      let s ← data_service.worker.Put.consumePutEvent w ⟨tag, key, e.payload⟩
      some (store cache s.cache_puts)) cache

end Cache

/-! ## The system -/

/-- A dataset that a unit has pushed. -/
structure PushedDataset where
  device_id : List UInt8
  domain : DatasetDomain
  dataset : Payload

/-- A socket of the controller to a data server, with the identity of the socket. -/
structure Connection where
  identity : List UInt8
  endpoint : UInt16
  answer_server_info : AnswerServerInfo

/-- One controller with a line to each data server, and all units. The puts that were sent may be
lost, or come in any order. What was pushed is for the laws. -/
structure LiveData where
  cache : Cache := fun _ => none
  puts : List (List (List UInt8)) := []
  lines : Nat → Line DatasetDomain (List UInt8) := fun _ => {}
  waiting : Option (Nat × DatasetDomain) := none
  datasets : DatasetDomain → Option (List UInt8) := fun _ => none
  pushed : List PushedDataset := []

namespace LiveData

/-- Steps of a unit, of a data server, of the controller and of the network. -/
inductive Label where
  | pushDataSet (unit : Connection) (p : PushedDataset)
  | consumePutEvent (k : Nat) (w : PutWorld)
  | evict (key : List UInt8)
  | fetch (domain : DatasetDomain) (server : Nat)
  | consumeGetEvent (server : Nat) (answers : Bool)
  | receive
  | timeout
  | loseRequest (server k : Nat)
  | loseAnswer (server k : Nat)

variable (connection : Nat → Connection) (device_id : List UInt8) (s : LiveData)

/-- A message of the controller: the identity of the socket, and the parts that it writes. -/
def request (server : Nat) (domain : DatasetDomain) : List (List UInt8) :=
  (connection server).identity ::
    (requestLastOutputData (connection server).endpoint (connection server).answer_server_info
      (datasetKey device_id domain)).writeToSocket

/-- A message of a unit. The datasets are stored and live. -/
def putMessage (unit : Connection) (p : PushedDataset) : List (List UInt8) :=
  unit.identity ::
    (storeAndCacheDataOutputChannel unit.endpoint (datasetKey p.device_id p.domain) p.dataset
      2).writeToSocket

/-- A step of one line. -/
def stepLine (server : Nat) (l : pipelining.Label DatasetDomain (List UInt8)) : Option LiveData :=
  ((s.lines server).step l).map fun line =>
    { s with lines := Function.update s.lines server line }

/-- `fetchCurrentDatatasetFromDomain` with the result of `retriveRawData`. -/
def setDataset (domain : DatasetDomain) : Option (List UInt8) → LiveData
  | some value => { s with datasets := Function.update s.datasets domain (some value) }
  | none => s

def step : Label → Option LiveData
  | .pushDataSet unit p =>
    some { s with puts := s.puts ++ [putMessage unit p], pushed := s.pushed ++ [p] }
  | .consumePutEvent k w => do
    let message ← s.puts[k]?
    let cache ← s.cache.put w message
    some { s with cache := cache }
  | .evict key => some { s with cache := s.cache.evict key }
  | .fetch domain server =>
    if s.waiting = none then
      (s.stepLine server (.send domain)).map fun t => { t with waiting := some (server, domain) }
    else none
  | .consumeGetEvent server answers =>
    s.stepLine server (.serve fun domain =>
      (s.cache.serve answers (request connection device_id server domain)).getD [])
  | .receive => do
    let (server, domain) ← s.waiting
    let t ← s.stepLine server .receive
    let r ← (t.lines server).returned.getLast?
    some { t.setDataset domain (answerData r.answer) with waiting := none }
  | .timeout => do
    let (server, _) ← s.waiting
    (s.stepLine server .timeout).map fun t => { t with waiting := none }
  | .loseRequest server k => s.stepLine server (.loseRequest k)
  | .loseAnswer server k => s.stepLine server (.loseAnswer k)

/-! ## What the parts do -/

variable {device_id : List UInt8} {domain : DatasetDomain} {cache cache' : Cache} {w : PutWorld}

/-- A key is no other key, as the two last bytes tell the domain. -/
theorem datasetKey_injective {device_id' : List UInt8} {domain' : DatasetDomain}
    (h : datasetKey device_id domain = datasetKey device_id' domain') :
    device_id = device_id' ∧ domain = domain' := by
  have hlength : domain.prefixID.length = domain'.prefixID.length := by
    cases domain <;> cases domain' <;> rfl
  obtain ⟨hid, hprefix⟩ := List.append_inj' h hlength
  refine ⟨hid, ?_⟩
  cases domain <;> cases domain' <;> first | rfl | exact absurd hprefix (by decide)

theorem length_datasetKey (device_id : List UInt8) (domain : DatasetDomain) :
    (datasetKey device_id domain).length = device_id.length + 2 := by
  unfold datasetKey
  cases domain <;> simp [DatasetDomain.prefixID]

/-- An empty message is an answer with no data. -/
theorem answerData_eq (bytes : List UInt8) :
    answerData bytes = if bytes = [] then none else some bytes := by
  simp [answerData, receiveAnswer, received]

theorem complete_request (endpoint : UInt16) (answer_server_info : AnswerServerInfo)
    (key : List UInt8) : Complete (requestLastOutputData endpoint answer_server_info key) :=
  ⟨rfl, nofun, nofun⟩

/-- The get of a short key, with the value that the cache has for it. -/
theorem consumeGet_of_short {key : List UInt8} (answers : Bool) (endpoint : UInt16)
    (answer_server_info : AnswerServerInfo) (hshort : key.length < 256)
    (hfits : ∀ value, cache key = some value → value.length < 2 ^ 32) :
    cache.consumeDataPack answers
        (cutToSize (requestLastOutputData endpoint answer_server_info key)) =
      .returned ((if answers then cache key else none).getD []) := by
  have hlength : (UInt32.ofNat key.length).toNat = key.length := by
    rw [UInt32.toNat_ofNat']
    omega
  have hbyte : (UInt32.ofNat key.length).toUInt8.toNat = key.length := by
    rw [UInt32.toNat_toUInt8, hlength]
    omega
  have hget : cache.getData answers (key.take (UInt32.ofNat key.length).toNat)
      (UInt32.ofNat key.length).toUInt8 = if answers then cache key else none := by
    unfold Cache.getData
    rw [hlength, hbyte, List.take_length, List.take_length]
  unfold Cache.consumeDataPack Cache.consumeGetEvent
  simp only [cutToSize, requestLastOutputData, completeDataPack, DirectIODataPack.setChannelData,
    packWithHeader, DirectIODataPack.setChannelHeader, Option.map_some, Option.getD_some, hget, if_true]
  cases hvalue : (if answers then cache key else none) with
  | none => rfl
  | some value =>
    have hcached : cache key = some value := by
      split at hvalue
      · exact hvalue
      · cases hvalue
    have hsize : (UInt32.ofNat value.length).toNat = value.length := by
      rw [UInt32.toNat_ofNat']
      exact Nat.mod_eq_of_lt (hfits value hcached)
    simp [hsize]

/-- The answer to the get of the controller. -/
theorem serve_request (answers : Bool) (server : Nat) (hshort : device_id.length + 2 < 256)
    (hfits : ∀ value, cache (datasetKey device_id domain) = some value → value.length < 2 ^ 32) :
    cache.serve answers (request connection device_id server domain) =
      some ((if answers then cache (datasetKey device_id domain) else none).getD []) := by
  have hkey : (datasetKey device_id domain).length < 256 := by
    rw [length_datasetKey]
    exact hshort
  unfold Cache.serve request
  rw [(complete_request _ _ _).worker, dispatch, consumeGet_of_short answers _ _ hkey hfits]
  rfl

/-- Whatever becomes of a live request, the cache was asked once to take it. -/
theorem cache_puts_of_live {r : PutRequest} {s : data_service.worker.Put} (htag : r.tag = 2)
    (h : consumePutEvent w r = some s) : s.cache_puts = [(r.key, r.data_pack, w.putData)] := by
  have hcached : (cached w r).cache_puts = [(r.key, r.data_pack, w.putData)] := by
    rw [cached_cache_puts, if_pos (.inr htag)]
  by_cases hvfs : w.vfs_manager_instance = true
  · by_cases hpush : w.push = true
    · cases hexec : w.execution with
      | duringSubmission =>
        rw [consumePutEvent_of_overtaken (.inr htag) hvfs hpush hexec] at h
        cases h
      | afterSubmission =>
        rw [consumePutEvent_of_queued (.inr htag) hvfs hpush (by simp [hexec]), leaveQueue,
          if_pos hexec, executeJob_of_new (cached_freed w r) (.inr htag)] at h
        cases h
        exact (writeStage_logs w r (cached w r)).1.trans hcached
      | never =>
        rw [consumePutEvent_of_queued (.inr htag) hvfs hpush (by simp [hexec]), leaveQueue,
          if_neg (by simp [hexec])] at h
        simp only [free, cached_freed, List.not_mem_nil, if_false, Option.some.injEq] at h
        subst h
        exact hcached
    · rw [consumePutEvent_of_refused (.inr htag) hvfs (Bool.eq_false_iff.mpr hpush)] at h
      cases h
      exact hcached
  · rw [consumePutEvent_of_freed (.inl (Bool.eq_false_iff.mpr hvfs))] at h
    cases h
    exact hcached

/-- The put of a dataset changes the value of its key, or nothing. -/
theorem put_message {unit : Connection} {p : PushedDataset}
    (hshort : p.device_id.length + 2 < 256) (h : cache.put w (putMessage unit p) = some cache') :
    cache' = cache ∨ cache' = cache.set (datasetKey p.device_id p.domain) p.dataset.bytes := by
  have hkey : (datasetKey p.device_id p.domain).length < 256 := by
    rw [length_datasetKey]
    exact hshort
  obtain ⟨e, he, htag, hekey, hpayload⟩ : ∃ e, consumePutOutput (cutToSize
      (storeAndCacheDataOutputChannel unit.endpoint (datasetKey p.device_id p.domain) p.dataset
        2)) = some e ∧ _ := consume_put hkey
  unfold Cache.put putMessage at h
  rw [complete_put.worker, putEvents_dispatch, he] at h
  simp only [List.foldlM_cons, List.foldlM_nil, htag, hekey, hpayload, Option.bind_eq_bind,
    Option.bind_some, Option.pure_def, Option.bind_fun_some] at h
  obtain ⟨s, hs, hstore⟩ := Option.bind_eq_some_iff.mp h
  obtain rfl := Option.some.inj hstore
  rw [cache_puts_of_live rfl hs, Cache.store]
  by_cases hput : w.putData = 0
  · right
    simp [hput]
  · left
    simp [hput]

/-! ## What holds in every state -/

/-- What the controller may get for a domain of its unit. -/
def MayGet (device_id : List UInt8) (pushed : List PushedDataset) (domain : DatasetDomain)
    (answer : List UInt8) : Prop :=
  answer = [] ∨ ∃ p ∈ pushed, p.device_id = device_id ∧ p.domain = domain ∧
    p.dataset.bytes = answer

/-- The cache has what was pushed, each under its own key, and each line is in order. -/
structure Good (device_id : List UInt8) (s : LiveData) : Prop where
  short : ∀ p ∈ s.pushed, p.device_id.length + 2 < 256
  cached : ∀ key value, s.cache key = some value →
    ∃ p ∈ s.pushed, datasetKey p.device_id p.domain = key ∧ p.dataset.bytes = value
  puts : ∀ message ∈ s.puts, ∃ unit, ∃ p ∈ s.pushed, message = putMessage unit p
  lines : ∀ server, (s.lines server).Good
  answers : ∀ server, (s.lines server).Right (MayGet device_id s.pushed)
  waiting : ∀ server domain, s.waiting = some (server, domain) →
    (s.lines server).sent.getLast? = some domain
  datasets : ∀ domain value, s.datasets domain = some value →
    ∃ p ∈ s.pushed, p.device_id = device_id ∧ p.dataset.bytes = value

variable {s} {t : LiveData}

theorem good_init (device_id : List UInt8) : Good device_id {} where
  short := nofun
  cached := nofun
  puts := nofun
  lines := fun _ => Line.good_init
  answers := fun _ => Line.right_init
  waiting := nofun
  datasets := nofun

theorem MayGet.mono {pushed pushed' : List PushedDataset} {answer : List UInt8}
    (hsub : pushed ⊆ pushed') (h : MayGet device_id pushed domain answer) :
    MayGet device_id pushed' domain answer :=
  h.imp_right fun ⟨p, hp, hfields⟩ => ⟨p, hsub hp, hfields⟩

/-- One line is changed, by a step of its own. -/
theorem stepLine_some {server : Nat} {l : pipelining.Label DatasetDomain (List UInt8)}
    (h : s.stepLine server l = some t) : ∃ line, (s.lines server).step l = some line ∧
      t = { s with lines := Function.update s.lines server line } := by
  unfold stepLine at h
  obtain ⟨line, hline, rfl⟩ := Option.map_eq_some_iff.mp h
  exact ⟨line, hline, rfl⟩

theorem Good.stepLine {server : Nat} {l : pipelining.Label DatasetDomain (List UInt8)}
    (h : s.Good device_id) (hs : s.stepLine server l = some t)
    (hserve : ∀ compute, l = .serve compute → ∀ domain,
      MayGet device_id s.pushed domain (compute domain))
    (hsend : s.waiting = none ∨ l.sends = []) : t.Good device_id := by
  obtain ⟨line, hline, rfl⟩ := stepLine_some hs
  refine ⟨h.short, h.cached, h.puts, ?_, ?_, ?_, h.datasets⟩
  · apply (Function.forall_update_iff s.lines fun _ line => line.Good).mpr
    exact ⟨(h.lines server).step hline, fun other _ => h.lines other⟩
  · apply (Function.forall_update_iff s.lines fun _ line =>
      line.Right (MayGet device_id s.pushed)).mpr
    exact ⟨(h.answers server).step hline hserve, fun other _ => h.answers other⟩
  · intro other domain hwaiting
    rcases hsend with hnone | hnil
    · simp [hnone] at hwaiting
    · have hsent := Line.sent_of_step hline
      rw [hnil, List.append_nil] at hsent
      by_cases hother : other = server
      · subst hother
        simpa [hsent] using h.waiting other domain hwaiting
      · simpa [Function.update_of_ne hother] using h.waiting other domain hwaiting

theorem Good.pushDataSet {unit : Connection} {p : PushedDataset} (h : s.Good device_id)
    (hshort : p.device_id.length + 2 < 256)
    (hs : s.step connection device_id (.pushDataSet unit p) = some t) : t.Good device_id := by
  obtain rfl := Option.some.inj hs
  have hsub : s.pushed ⊆ s.pushed ++ [p] := List.subset_append_left _ _
  refine ⟨?_, ?_, ?_, h.lines, ?_, h.waiting, ?_⟩
  · intro q hq
    rcases List.mem_append.mp hq with hq | hq
    · exact h.short q hq
    · rw [List.mem_singleton.mp hq]
      exact hshort
  · intro key value hvalue
    obtain ⟨q, hq, hfields⟩ := h.cached key value hvalue
    exact ⟨q, hsub hq, hfields⟩
  · intro message hmessage
    rcases List.mem_append.mp hmessage with hold | hnew
    · obtain ⟨unit', q, hq, hwritten⟩ := h.puts message hold
      exact ⟨unit', q, hsub hq, hwritten⟩
    · exact ⟨unit, p, by simp, List.mem_singleton.mp hnew⟩
  · exact fun server => (h.answers server).mono fun _ _ hget => hget.mono hsub
  · intro domain value hvalue
    obtain ⟨q, hq, hfields⟩ := h.datasets domain value hvalue
    exact ⟨q, hsub hq, hfields⟩

theorem Good.consumePutEvent {k : Nat} (h : s.Good device_id)
    (hs : s.step connection device_id (.consumePutEvent k w) = some t) : t.Good device_id := by
  simp only [LiveData.step, Option.bind_eq_bind] at hs
  obtain ⟨message, hmessage, hs⟩ := Option.bind_eq_some_iff.mp hs
  obtain ⟨cache', hput, hs⟩ := Option.bind_eq_some_iff.mp hs
  obtain rfl := Option.some.inj hs
  obtain ⟨unit, p, hp, rfl⟩ := h.puts message (List.mem_of_getElem? hmessage)
  refine ⟨h.short, ?_, h.puts, h.lines, h.answers, h.waiting, h.datasets⟩
  rcases put_message (h.short p hp) hput with rfl | rfl
  · exact h.cached
  · intro key value hvalue
    simp only [Cache.set] at hvalue
    split at hvalue
    · rename_i hkey
      exact ⟨p, hp, hkey.symm, Option.some.inj hvalue⟩
    · exact h.cached key value hvalue

theorem Good.evict {key : List UInt8} (h : s.Good device_id)
    (hs : s.step connection device_id (.evict key) = some t) : t.Good device_id := by
  obtain rfl := Option.some.inj hs
  refine ⟨h.short, ?_, h.puts, h.lines, h.answers, h.waiting, h.datasets⟩
  intro key' value hvalue
  simp only [Cache.evict] at hvalue
  split at hvalue
  · cases hvalue
  · exact h.cached key' value hvalue

theorem Good.fetch {server : Nat} (h : s.Good device_id)
    (hs : s.step connection device_id (.fetch domain server) = some t) : t.Good device_id := by
  simp only [LiveData.step] at hs
  split_ifs at hs with hnone
  obtain ⟨u, hu, rfl⟩ := Option.map_eq_some_iff.mp hs
  have hgood := h.stepLine hu nofun (.inl hnone)
  refine ⟨hgood.short, hgood.cached, hgood.puts, hgood.lines, hgood.answers, ?_, hgood.datasets⟩
  intro server' domain' hwaiting
  obtain ⟨line, hline, rfl⟩ := stepLine_some hu
  cases hwaiting
  simp [Line.sent_of_step hline, pipelining.Label.sends]

/-- The server computes from its cache what the controller may get. -/
theorem Good.consumeGetEvent {server : Nat} {answers : Bool} (h : s.Good device_id)
    (hshort : device_id.length + 2 < 256)
    (hs : s.step connection device_id (.consumeGetEvent server answers) = some t) :
    t.Good device_id := by
  refine h.stepLine hs ?_ (.inr rfl)
  intro compute hcompute domain
  obtain rfl := pipelining.Label.serve.inj hcompute
  have hfits : ∀ value, s.cache (datasetKey device_id domain) = some value →
      value.length < 2 ^ 32 := by
    intro value hvalue
    obtain ⟨p, -, -, rfl⟩ := h.cached _ value hvalue
    exact p.dataset.fits
  dsimp only
  rw [serve_request connection answers server hshort hfits, Option.getD_some]
  cases hvalue : (if answers then s.cache (datasetKey device_id domain) else none) with
  | none => exact .inl rfl
  | some value =>
    split at hvalue
    · obtain ⟨p, hp, hkey, hbytes⟩ := h.cached _ value hvalue
      obtain ⟨hid, hdomain⟩ := datasetKey_injective hkey
      exact .inr ⟨p, hp, hid, hdomain, hbytes⟩
    · cases hvalue

/-- The step of a fetch that gets an answer. -/
theorem receive_some (hs : s.step connection device_id .receive = some t) :
    ∃ server domain r line, s.waiting = some (server, domain) ∧
      (s.lines server).step .receive = some line ∧
      line.returned = (s.lines server).returned ++ [r] ∧
      (r.answered, r.answer) ∈ (s.lines server).answers ∧
      t = { ({ s with lines := Function.update s.lines server line }).setDataset domain
        (answerData r.answer) with waiting := none } := by
  simp only [LiveData.step, Option.bind_eq_bind] at hs
  obtain ⟨⟨server, domain⟩, hwaiting, hs⟩ := Option.bind_eq_some_iff.mp hs
  obtain ⟨u, hu, hs⟩ := Option.bind_eq_some_iff.mp hs
  obtain ⟨r, hr, hs⟩ := Option.bind_eq_some_iff.mp hs
  obtain ⟨line, hline, rfl⟩ := stepLine_some hu
  obtain ⟨m, answer, rest, -, hanswers, hreceived⟩ := Line.receive_some hline
  simp only [Function.update_self] at hr
  have hreturned := congrArg Line.returned hreceived
  rw [hreturned, List.getLast?_concat] at hr
  obtain rfl := Option.some.inj hr
  exact ⟨server, domain, _, line, hwaiting, hline, hreturned, by simp [hanswers],
    (Option.some.inj hs).symm⟩

theorem Good.receive (h : s.Good device_id)
    (hs : s.step connection device_id .receive = some t) : t.Good device_id := by
  obtain ⟨server, domain, r, line, -, hline, -, hanswer, rfl⟩ := receive_some connection hs
  have hu : s.stepLine server .receive =
      some { s with lines := Function.update s.lines server line } := by
    simp [LiveData.stepLine, hline]
  have hgood := h.stepLine hu nofun (.inr rfl)
  obtain ⟨answered, -, hget⟩ := h.answers server _ hanswer
  rw [answerData_eq]
  split
  · exact ⟨hgood.short, hgood.cached, hgood.puts, hgood.lines, hgood.answers, nofun,
      hgood.datasets⟩
  · rename_i hdata
    refine ⟨hgood.short, hgood.cached, hgood.puts, hgood.lines, hgood.answers, nofun, ?_⟩
    intro domain' value hvalue
    by_cases hdomain : domain' = domain
    · subst hdomain
      obtain ⟨p, hp, hid, -, hbytes⟩ := hget.resolve_left hdata
      simp only [setDataset, Function.update_self, Option.some.injEq] at hvalue
      exact ⟨p, hp, hid, hbytes.trans hvalue⟩
    · simp only [setDataset, Function.update_of_ne hdomain] at hvalue
      exact h.datasets domain' value hvalue

theorem Good.timeout (h : s.Good device_id)
    (hs : s.step connection device_id .timeout = some t) : t.Good device_id := by
  simp only [LiveData.step, Option.bind_eq_bind] at hs
  obtain ⟨⟨server, domain⟩, -, hs⟩ := Option.bind_eq_some_iff.mp hs
  obtain ⟨u, hu, rfl⟩ := Option.map_eq_some_iff.mp hs
  have hgood := h.stepLine hu nofun (.inr rfl)
  exact ⟨hgood.short, hgood.cached, hgood.puts, hgood.lines, hgood.answers, nofun, hgood.datasets⟩

/-- A dataset is pushed by a unit whose identifier is short. -/
def Label.Short : Label → Prop
  | .pushDataSet _ p => p.device_id.length + 2 < 256
  | _ => True

theorem Good.step {l : Label} (h : s.Good device_id) (hshort : device_id.length + 2 < 256)
    (hl : l.Short) (hs : s.step connection device_id l = some t) : t.Good device_id := by
  cases l with
  | pushDataSet unit p => exact h.pushDataSet connection hl hs
  | consumePutEvent k w => exact h.consumePutEvent connection hs
  | evict key => exact h.evict connection hs
  | fetch domain server => exact h.fetch connection hs
  | consumeGetEvent server answers => exact h.consumeGetEvent connection hshort hs
  | receive => exact h.receive connection hs
  | timeout => exact h.timeout connection hs
  | loseRequest server k => exact h.stepLine hs nofun (.inr rfl)
  | loseAnswer server k => exact h.stepLine hs nofun (.inr rfl)

/-! ## What a fetch gets -/

/-- A fetch of a domain took an answer from the line to a server. The answer is for the domain of
the request that was answered, and it is kept as the dataset of the domain that was asked for. -/
structure Delivered (device_id : List UInt8) (s t : LiveData) (server : Nat)
    (domain : DatasetDomain) (r : Return (List UInt8)) : Prop where
  returned : (t.lines server).returned = (s.lines server).returned ++ [r]
  asked : (s.lines server).sent[r.asked]? = some domain ∧
    r.asked + 1 = (s.lines server).sent.length
  answered : ∃ answered, (s.lines server).sent[r.answered]? = some answered ∧
    MayGet device_id s.pushed answered r.answer
  datasets : t.datasets = if r.answer = [] then s.datasets
    else Function.update s.datasets domain (some r.answer)
  prompt : (s.lines server).timeouts = 0 → r.answered = r.asked
  own : r.answered = r.asked ↔
    (s.lines server).lost.countP (· < r.asked) = (s.lines server).timeouts
  shifted : (s.lines server).lost = [] → r.answered + (s.lines server).timeouts = r.asked

theorem Good.delivered (h : s.Good device_id)
    (hs : s.step connection device_id .receive = some t) :
    ∃ server domain r, s.waiting = some (server, domain) ∧
      Delivered device_id s t server domain r := by
  obtain ⟨server, domain, r, line, hwaiting, hline, hreturned, -, rfl⟩ := receive_some connection hs
  obtain ⟨r', hreturned', hasked, hanswer, hown⟩ := (h.lines server).receive_own hline
  obtain rfl : r' = r := by
    rw [hreturned] at hreturned'
    exact (List.singleton_inj.mp (List.append_cancel_left hreturned')).symm
  have hlast := h.waiting server domain hwaiting
  rw [List.getLast?_eq_getElem?, ← hasked, Nat.add_sub_cancel] at hlast
  refine ⟨server, domain, r', hwaiting, ?_, ⟨hlast, hasked⟩, h.answers server _ hanswer, ?_, ?_,
    hown, ?_⟩
  · rw [answerData_eq]
    split <;> simpa [setDataset] using hreturned
  · rw [answerData_eq]
    split <;> rfl
  · intro hnone
    obtain ⟨r'', hreturned'', -, hsame⟩ := (h.lines server).own_of_no_timeout hline hnone
    rw [hreturned] at hreturned''
    obtain rfl := List.singleton_inj.mp (List.append_cancel_left hreturned'')
    omega
  · intro hlost
    obtain ⟨r'', hreturned'', hshift⟩ := (h.lines server).shifted hline hlost
    rw [hreturned] at hreturned''
    obtain rfl := List.singleton_inj.mp (List.append_cancel_left hreturned'')
    exact hshift

theorem reached_good (hid : device_id.length + 2 < 256) {labels : List Label}
    (hshort : ∀ l ∈ labels, l.Short)
    (hr : run (LiveData.step connection device_id) {} labels = some s) : s.Good device_id := by
  have hkeep : ∀ s l t, Good device_id s → Label.Short l →
      LiveData.step connection device_id s l = some t → Good device_id t :=
    fun _ _ _ h hl hstep => h.step connection hid hl hstep
  exact run_keeps_of_ok _ hkeep (good_init device_id) (RunOk.of_forall hshort) hr

/-- Whatever the order of the steps was, a fetch keeps a dataset that the unit pushed in the domain
of the request that was answered. That is the domain that was asked for just when of the requests
before it as many were lost as were given up. -/
theorem fetch_is_delivered (hid : device_id.length + 2 < 256) {labels : List Label}
    (hshort : ∀ l ∈ labels, l.Short)
    (hr : run (LiveData.step connection device_id) {} labels = some s)
    (hs : s.step connection device_id .receive = some t) :
    ∃ server domain r, s.waiting = some (server, domain) ∧
      Delivered device_id s t server domain r :=
  (reached_good connection hid hshort hr).delivered connection hs

/-- A unit pushes its output and its input, and a fetch of the output is given up before the answer
of the server comes. The next fetch is one of the input. -/
def lateLabels : List Label :=
  let unit : Connection := ⟨[66], 1, ⟨0, 0, 0, 0⟩⟩
  let w : PutWorld := ⟨true, true, .afterSubmission, 0, 0, 0, 0⟩
  [.pushDataSet unit ⟨[117], .Output, ⟨[1], by decide⟩⟩,
    .pushDataSet unit ⟨[117], .Input, ⟨[2], by decide⟩⟩, .consumePutEvent 0 w,
    .consumePutEvent 1 w, .fetch .Output 0, .timeout, .consumeGetEvent 0 true, .fetch .Input 0,
    .consumeGetEvent 0 true]

def lateConnection (_ : Nat) : Connection := ⟨[67], 1, ⟨0, 0, 0, 0⟩⟩

def lateFetch : LiveData :=
  (run (LiveData.step lateConnection [117]) {} lateLabels).get (by decide +kernel)

def afterLateFetch : LiveData :=
  (lateFetch.step lateConnection [117] .receive).get (by decide +kernel)

theorem lateLabels_short : ∀ l ∈ lateLabels, l.Short := by
  simp [lateLabels, Label.Short]

/-- The output is kept as the input. -/
theorem lateFetch_is_delivered : afterLateFetch.datasets .Input = some [1] ∧
    ∃ server domain r, lateFetch.waiting = some (server, domain) ∧
      Delivered [117] lateFetch afterLateFetch server domain r :=
  ⟨by decide +kernel, fetch_is_delivered lateConnection (by decide) lateLabels_short
    (Option.some_get _).symm (Option.some_get _).symm⟩

/-- Whatever the order of the steps was, and whatever was lost, given up or taken for another
answer, each dataset that the controller has is one that its own unit pushed. -/
theorem datasets_were_pushed (hid : device_id.length + 2 < 256) {labels : List Label}
    (hshort : ∀ l ∈ labels, l.Short)
    (hr : run (LiveData.step connection device_id) {} labels = some s) {domain : DatasetDomain}
    {value : List UInt8} (hvalue : s.datasets domain = some value) :
    ∃ p ∈ s.pushed, p.device_id = device_id ∧ p.dataset.bytes = value :=
  (reached_good connection hid hshort hr).datasets domain value hvalue

theorem lateFetch_was_pushed : ∃ p ∈ afterLateFetch.pushed, p.device_id = [117] ∧
    p.dataset.bytes = [1] := by
  have hrun : run (LiveData.step lateConnection [117]) {} (lateLabels ++ [.receive]) =
      some afterLateFetch := by
    rw [run_append, show run _ _ lateLabels = some lateFetch from (Option.some_get _).symm]
    exact run_cons_some.mpr ⟨afterLateFetch, (Option.some_get _).symm, rfl⟩
  have hshort : ∀ l ∈ lateLabels ++ [.receive], l.Short := by
    simp [lateLabels, Label.Short]
  have hinput : afterLateFetch.datasets .Input = some [1] := by decide +kernel
  exact datasets_were_pushed lateConnection (by decide) hshort hrun hinput

end LiveData

end chaos.ui
