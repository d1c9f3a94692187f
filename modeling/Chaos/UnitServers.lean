-- The registration of unit servers at the metadata server: the servers with their timers, the
-- transaction of the metadata server with the failures of its database, and a network that loses,
-- repeats, delays and reorders what is sent.
import Chaos.Runs
import Chaos.UnitRegistration

open runs

namespace chaos.cu.control_manager

/-! ## A unit server -/

namespace unit_server_state_machine

inductive State where
  | Unpublished | Publishing | Published | PublishingFailure
  deriving DecidableEq, Repr

inductive Event where
  | Unpublished | Publishing | Published | Failure
  deriving DecidableEq, Repr

/-- `transition_table`. An event without a row is not handled. -/
def process_event : State → Event → Option State
  | .Unpublished, .Publishing => some .Publishing
  | .Publishing, .Published => some .Published
  | .Publishing, .Failure => some .PublishingFailure
  | .Published, .Unpublished => some .Unpublished
  | _, _ => none

end unit_server_state_machine

def EC_MDS_UNIT_SERV_REGISTRATION_FAILURE_INVALID_ALIAS : Int := 6

def EC_MDS_UNIT_SERV_REGISTRATION_FAILURE_DUPLICATE_ALIAS : Int := 7

/-- The options of the process of a unit server, with the keys of its map of instancers and the
address of its broker. -/
structure UnitServerOptions where
  unit_server_enable : Bool
  unit_server_alias : String
  unit_server_key : String
  unit_server_retry_ms : Nat
  control_unit_alias : List String
  nodup : control_unit_alias.Nodup
  currentBrokerIpPort : String

structure RegistrationPack where
  mds_unit_server_alias : String
  mds_unit_server_key : Option String
  mds_control_unit_alias : List String
  cu_instance_net_addr : String
  deriving DecidableEq, Repr

structure RegistrationAck where
  mds_unit_server_alias : Option String
  mds_register_unit_server_result : Option Int
  deriving DecidableEq, Repr

/-- The pack of `sendUnitServerRegistration`, with the address that the channel adds. -/
def UnitServerOptions.pack (o : UnitServerOptions) : RegistrationPack where
  mds_unit_server_alias := o.unit_server_alias
  mds_unit_server_key := if o.unit_server_key = "" then none else some o.unit_server_key
  mds_control_unit_alias := o.control_unit_alias
  cu_instance_net_addr := o.currentBrokerIpPort

/-- The timer is in the loop (`armed`), or the loop has taken it and waits for the lock of the state
machine (`taken`). `threads` counts the starts of the thread for the control units. -/
structure UnitServer where
  use_unit_server : Bool
  unit_server_sm : unit_server_state_machine.State := .Unpublished
  started : Bool := false
  armed : Bool := false
  taken : Bool := false
  threads : Nat := 0
  deriving DecidableEq, Repr

namespace UnitServer

variable (s : UnitServer) (o : UnitServerOptions)

def addTimer : UnitServer := { s with armed := true }

def removeTimer : UnitServer := { s with armed := false }

def startControlUnitSMThread : UnitServer := { s with threads := s.threads + 1 }

def start : UnitServer :=
  if s.use_unit_server then { s.addTimer with started := true }
  else { s.startControlUnitSMThread with started := true }

/-- `timeout`, with the registration pack that it sends. -/
def timeout : UnitServer × Option RegistrationPack :=
  match s.unit_server_sm with
  | .Unpublished =>
    if s.use_unit_server then ({ s with unit_server_sm := .Publishing }, some o.pack)
    else (s.removeTimer, none)
  | .Publishing => (s, some o.pack)
  | .Published => (s.removeTimer.startControlUnitSMThread, none)
  | .PublishingFailure => ({ s.removeTimer with use_unit_server := false }, none)

def mustProcess (event : unit_server_state_machine.Event) (name : String) :
    Except CException UnitServer :=
  match unit_server_state_machine.process_event s.unit_server_sm event with
  | some state => .ok { s with unit_server_sm := state }
  | none => .error ⟨EC_MDS_UNIT_SERV_BAD_US_SM_STATE, "Bad state of the sm for " ++ name ++ " event",
      "ControlManager::unitServerRegistrationACK"⟩

/-- The switch over the result of the registration. Another number leaves the state machine. -/
def registrationResult (result : Int) : Except CException UnitServer :=
  if result = EC_MDS_UNIT_SERV_REGISTRATION_OK then s.mustProcess .Published "published"
  else if result = EC_MDS_UNIT_SERV_REGISTRATION_FAILURE_DUPLICATE_ALIAS then
    s.mustProcess .Failure "unpublishing"
  else if result = EC_MDS_UNIT_SERV_REGISTRATION_FAILURE_INVALID_ALIAS then
    s.mustProcess .Failure "unpublished"
  else .ok s

def unitServerRegistrationACK (message : RegistrationAck) : Except CException UnitServer :=
  match message.mds_unit_server_alias with
  | none => .error ⟨-1, "No alias forwarder", "ControlManager::unitServerRegistrationACK"⟩
  | some server_alias =>
    if server_alias ≠ o.unit_server_alias then
      .error ⟨-2, "Server alias not found", "ControlManager::unitServerRegistrationACK"⟩
    else match message.mds_register_unit_server_result with
    | none => .error ⟨-3, "No result received", "ControlManager::unitServerRegistrationACK"⟩
    | some result =>
      -- the timer is repeated as fast as possible
      (s.registrationResult result).map fun t => t.removeTimer.addTimer

end UnitServer

/-! ## The metadata server -/

structure UnitServerRow where
  unit_server_ip_port : String
  private_key : Option String
  reg_state : Option Int
  deriving DecidableEq, Repr

/-- Two tables, by the alias of the server. -/
structure Database where
  unit_server : String → Option UnitServerRow
  unit_server_published_cu : String → List String

namespace Database

variable (db : Database)

/-- Whether what the private key writes is read with the public one is for the cryptography. -/
def checkPublicKey (rsa : String → String → String → Bool) (unitServerAlias : String)
    (publicKey : Option String) : Bool :=
  match db.unit_server unitServerAlias with
  | none => true
  | some row =>
    match row.private_key with
    | none => true
    | some privateKey =>
      if privateKey = "" then true
      else match publicKey with
      | none => false
      | some publicKey => publicKey ≠ "" && rsa privateKey publicKey unitServerAlias

/-- An update of the row, if there is one, and the types that are not in the table yet. -/
def updateUnitServerTSAndIP (unitServerAlias ip_port : String) (state : Option Int)
    (publischedCU : List String) : Database where
  unit_server := Function.update db.unit_server unitServerAlias
    ((db.unit_server unitServerAlias).map fun row =>
      { row with unit_server_ip_port := ip_port, reg_state := state })
  unit_server_published_cu := Function.update db.unit_server_published_cu unitServerAlias
    (db.unit_server_published_cu unitServerAlias ++
      publischedCU.filter (· ∉ db.unit_server_published_cu unitServerAlias))

def insertNewUnitServer (unitServerAlias ip_port : String) (state : Option Int)
    (publischedCU : List String) : Database where
  unit_server := Function.update db.unit_server unitServerAlias (some ⟨ip_port, none, state⟩)
  unit_server_published_cu := Function.update db.unit_server_published_cu unitServerAlias
    (db.unit_server_published_cu unitServerAlias ++ publischedCU)

/-- What a registration writes: the row, and then its state. -/
def registered (us : RegistrationPack) : Database :=
  let write := if (db.unit_server us.mds_unit_server_alias).isSome then db.updateUnitServerTSAndIP
    else db.insertNewUnitServer
  (write us.mds_unit_server_alias us.cu_instance_net_addr (some (-1))
    us.mds_control_unit_alias).updateUnitServerTSAndIP us.mds_unit_server_alias
      us.cu_instance_net_addr (some 5) us.mds_control_unit_alias

end Database

/-- The calls of the database in a registration that can fail. -/
inductive DataCall where
  | getDataAccessInstance | checkPublicKey | unitServerAlreadyRegistered | insertOrUpdate
  | loadAllAssociations | getUnitServerByAlias | updateState | commit | close
  deriving DecidableEq, Repr

/-- What `registerUnitServer` gives to the job that sends the ack, if there is one, and whether its
transaction is committed. Without an instance of the data access, closing it ends the call before the
job; an exception of the data access leaves the ack without a result; a failure of the connection is
reported as an invalid alias. -/
def registerUnitServer (rsa : String → String → String → Bool) (db : Database)
    (actionData : RegistrationPack) : Option DataCall → Option (Option Int) × Bool
  | some .getDataAccessInstance => (none, false)
  | some .checkPublicKey => (some none, false)
  | failing =>
    if db.checkPublicKey rsa actionData.mds_unit_server_alias actionData.mds_unit_server_key then
      match failing with
      | some .commit => (some (some 6), false)
      | some .close => (some (some 6), true)
      | some _ => (some none, false)
      | none => (some (some 5), true)
    else (some (some 6), false)

/-! ## The system -/

/-- The packs and acks that were ever sent: each may be lost, delayed, or arrive many times. -/
structure UnitServers where
  server : Nat → UnitServer
  packs : List RegistrationPack := []
  states : List (String × String) := []
  acks : List (String × RegistrationAck) := []
  db : Database
  /-- the packs whose registration was committed -/
  committed : List RegistrationPack := []

namespace UnitServers

def init (options : Nat → UnitServerOptions) (db : Database) : UnitServers where
  server i := { use_unit_server := (options i).unit_server_enable }
  db := db

/-- Steps of the servers, and of the metadata server for a pack that was sent. -/
inductive Label where
  | start (i : Nat)
  | takeTimer (i : Nat)
  | timeout (i : Nat)
  | unitServerStatus (i : Nat)
  | registerUnitServer (pack : Nat) (failing : Option DataCall)
  | unit_server_states (states : Nat)
  | unitServerRegistrationACK (i ack : Nat)

variable (rsa : String → String → String → Bool) (options : Nat → UnitServerOptions)
  (s : UnitServers)

def set (i : Nat) (u : UnitServer) : UnitServers :=
  { s with server := Function.update s.server i u }

def step : Label → Option UnitServers
  | .start i =>
    if (s.server i).started then none else some (s.set i (s.server i).start)
  | .takeTimer i =>
    -- a timer that repeats is set again before its handler is called
    if (s.server i).armed ∧ ¬ (s.server i).taken then
      some (s.set i { s.server i with
        taken := true, armed := decide (0 < (options i).unit_server_retry_ms) })
    else none
  | .timeout i =>
    if (s.server i).taken then
      let (u, pack) := { s.server i with taken := false }.timeout (options i)
      some { s.set i u with packs := s.packs ++ pack.toList }
    else none
  | .unitServerStatus i =>
    let name := (options i).unit_server_alias
    some { s with states := s.states ++
      [(if name = "" then "No Server Defined" else name, (options i).currentBrokerIpPort)] }
  | .registerUnitServer k failing => do
    let pack ← s.packs[k]?
    let (ack, committed) := registerUnitServer rsa s.db pack failing
    some { s with
      acks := s.acks ++ ack.toList.map fun result =>
        (pack.cu_instance_net_addr, ⟨some pack.mds_unit_server_alias, result⟩)
      db := if committed then s.db.registered pack else s.db
      committed := if committed then s.committed ++ [pack] else s.committed }
  | .unit_server_states k => do
    let (name, ip_port) ← s.states[k]?
    some { s with db := s.db.updateUnitServerTSAndIP name ip_port none [] }
  | .unitServerRegistrationACK i m => do
    let (address, ack) ← s.acks[m]?
    if address = (options i).currentBrokerIpPort ∧ (options i).unit_server_enable then
      match (s.server i).unitServerRegistrationACK (options i) ack with
      | .ok u => some (s.set i u)
      | .error _ => some s
    else none

end UnitServers

/-! ## What a server keeps -/

namespace UnitServer

/-- The registration is over: the thread of the control units runs, or the server has given up. -/
def Finished (s : UnitServer) : Prop :=
  s.unit_server_sm = .Published ∧ s.threads = 1 ∨
    s.unit_server_sm = .PublishingFailure ∧ s.use_unit_server = false

/-- The thread is started once, when the server is published, and no timer is left then. Until the
registration is over the timer is not lost. -/
structure Kept (o : UnitServerOptions) (s : UnitServer) : Prop where
  idle : s.started = false →
    s.unit_server_sm = .Unpublished ∧ s.threads = 0 ∧ s.armed = false ∧ s.taken = false
  flag : s.use_unit_server = o.unit_server_enable ∨ s.unit_server_sm = .PublishingFailure
  off : o.unit_server_enable = false →
    s.unit_server_sm = .Unpublished ∧ s.threads ≤ 1 ∧ s.armed = false ∧ s.taken = false
  once : o.unit_server_enable = true →
    s.threads = 0 ∨ s.threads = 1 ∧ s.unit_server_sm = .Published ∧ s.armed = false ∧
      s.taken = false
  timer : o.unit_server_enable = true → 0 < o.unit_server_retry_ms → s.started = true →
    s.Finished ∨ s.armed = true

variable {o : UnitServerOptions} {s u : UnitServer} {message : RegistrationAck}

theorem kept_init (o : UnitServerOptions) : Kept o { use_unit_server := o.unit_server_enable } where
  idle _ := ⟨rfl, rfl, rfl, rfl⟩
  flag := .inl rfl
  off _ := ⟨rfl, by simp, rfl, rfl⟩
  once _ := .inl rfl
  timer _ _ hstarted := by cases hstarted

theorem Kept.start (h : s.Kept o) (hs : s.started = false) : s.start.Kept o := by
  obtain ⟨hsm, hthreads, harmed, htaken⟩ := h.idle hs
  have hflag : s.use_unit_server = o.unit_server_enable := by
    rcases h.flag with hflag | hfailure
    · exact hflag
    · rw [hsm] at hfailure
      cases hfailure
  unfold UnitServer.start addTimer startControlUnitSMThread
  cases henable : o.unit_server_enable with
  | true =>
    rw [henable] at hflag
    rw [if_pos hflag]
    refine ⟨by simp, .inl (by simp [hflag, henable]), by simp [henable], fun _ => .inl hthreads,
      fun _ _ _ => .inr rfl⟩
  | false =>
    rw [henable] at hflag
    rw [if_neg (by simp [hflag])]
    refine ⟨by simp, .inl (by simp [hflag, henable]), fun _ => ?_, by simp [henable],
      by simp [henable]⟩
    exact ⟨hsm, by simp [hthreads], harmed, htaken⟩

theorem Kept.takeTimer (h : s.Kept o) (harmed : s.armed = true) :
    Kept o { s with taken := true, armed := decide (0 < o.unit_server_retry_ms) } where
  idle hs := by
    have := (h.idle hs).2.2.1
    rw [harmed] at this
    cases this
  flag := h.flag
  off henable := by
    have := (h.off henable).2.2.1
    rw [harmed] at this
    cases this
  once henable := by
    rcases h.once henable with hthreads | ⟨-, -, hnot, -⟩
    · exact .inl hthreads
    · rw [harmed] at hnot
      cases hnot
  timer _ hretry _ := .inr (decide_eq_true hretry)

/-- The handler finds a server that is on and has not started its thread. -/
theorem Kept.of_taken (h : s.Kept o) (htaken : s.taken = true) :
    s.started = true ∧ o.unit_server_enable = true ∧ s.threads = 0 := by
  refine ⟨?_, ?_, ?_⟩
  · by_contra hs
    have := (h.idle (by simpa using hs)).2.2.2
    rw [htaken] at this
    cases this
  · by_contra henable
    have := (h.off (by simpa using henable)).2.2.2
    rw [htaken] at this
    cases this
  · by_cases henable : o.unit_server_enable = true
    · rcases h.once henable with hthreads | ⟨-, -, -, hnot⟩
      · exact hthreads
      · rw [htaken] at hnot
        cases hnot
    · have := (h.off (by simpa using henable)).2.2.2
      rw [htaken] at this
      cases this

theorem Kept.timeout (h : s.Kept o) (htaken : s.taken = true) :
    ({ s with taken := false }.timeout o).1.Kept o := by
  obtain ⟨hstarted, henable, hthreads⟩ := h.of_taken htaken
  have harmed : 0 < o.unit_server_retry_ms → s.Finished ∨ s.armed = true :=
    fun hretry => h.timer henable hretry hstarted
  have huse := h.flag
  unfold Finished at harmed
  cases hsm : s.unit_server_sm with
  | Unpublished =>
    rw [hsm] at huse harmed
    have hon : s.use_unit_server = true := by simpa [henable] using huse
    simp only [UnitServer.timeout, hon, if_true]
    refine ⟨by simp [hstarted], .inl (by simp [henable]), by simp [henable],
      fun _ => .inl hthreads, fun _ hretry _ => .inr ?_⟩
    simpa using harmed hretry
  | Publishing =>
    rw [hsm] at huse harmed
    simp only [UnitServer.timeout]
    refine ⟨by simp [hstarted], huse, by simp [henable], fun _ => .inl hthreads,
      fun _ hretry _ => .inr ?_⟩
    simpa using harmed hretry
  | Published =>
    rw [hsm] at huse
    simp only [UnitServer.timeout, removeTimer, startControlUnitSMThread]
    refine ⟨by simp [hstarted], huse, by simp [henable], fun _ => .inr ?_,
      fun _ _ _ => .inl (.inl ?_)⟩
    · exact ⟨by simp [hthreads], rfl, rfl, rfl⟩
    · exact ⟨rfl, by simp [hthreads]⟩
  | PublishingFailure =>
    simp only [UnitServer.timeout, removeTimer]
    exact ⟨by simp [hstarted], .inr rfl, by simp [henable], fun _ => .inl hthreads,
      fun _ _ _ => .inl (.inr ⟨rfl, rfl⟩)⟩

/-- The handler publishes no server, and sends no other pack than the one of the server. -/
theorem timeout_published (s : UnitServer) (o : UnitServerOptions) :
    ((s.timeout o).1.unit_server_sm = .Published → s.unit_server_sm = .Published) ∧
      ∀ p ∈ (s.timeout o).2, p = o.pack := by
  unfold UnitServer.timeout removeTimer startControlUnitSMThread
  cases hsm : s.unit_server_sm with
  | Unpublished =>
    dsimp only
    split_ifs <;> simp [eq_comm]
  | Publishing => simp [hsm, eq_comm]
  | Published => simp
  | PublishingFailure => simp

theorem mustProcess_ok {event : unit_server_state_machine.Event} {name : String}
    (h : s.mustProcess event name = .ok u) :
    ∃ state, unit_server_state_machine.process_event s.unit_server_sm event = some state ∧
      u = { s with unit_server_sm := state } := by
  unfold mustProcess at h
  split at h
  · rename_i state hstate
    exact ⟨state, hstate, (Except.ok.inj h).symm⟩
  · cases h

theorem published_ok {name : String} (h : s.mustProcess .Published name = .ok u) :
    s.unit_server_sm = .Publishing ∧ u = { s with unit_server_sm := .Published } := by
  obtain ⟨state, hstate, rfl⟩ := mustProcess_ok h
  cases hsm : s.unit_server_sm <;> rw [hsm] at hstate <;> cases hstate
  exact ⟨rfl, rfl⟩

theorem failure_ok {name : String} (h : s.mustProcess .Failure name = .ok u) :
    s.unit_server_sm = .Publishing ∧ u = { s with unit_server_sm := .PublishingFailure } := by
  obtain ⟨state, hstate, rfl⟩ := mustProcess_ok h
  cases hsm : s.unit_server_sm <;> rw [hsm] at hstate <;> cases hstate
  exact ⟨rfl, rfl⟩

/-- What an ack that is taken says, and what it does. -/
theorem ack_ok (h : s.unitServerRegistrationACK o message = .ok u) :
    message.mds_unit_server_alias = some o.unit_server_alias ∧
      ∃ result, message.mds_register_unit_server_result = some result ∧
        (result = 5 ∧ s.unit_server_sm = .Publishing ∧
            u = { s with unit_server_sm := .Published, armed := true } ∨
          (result = 6 ∨ result = 7) ∧ s.unit_server_sm = .Publishing ∧
            u = { s with unit_server_sm := .PublishingFailure, armed := true } ∨
          result ≠ 5 ∧ result ≠ 6 ∧ result ≠ 7 ∧ u = s.addTimer) := by
  unfold unitServerRegistrationACK at h
  cases hname : message.mds_unit_server_alias with
  | none => simp [hname] at h
  | some server_alias =>
    simp only [hname] at h
    split_ifs at h with hother
    have hown : server_alias = o.unit_server_alias := by simpa using hother
    cases hresult : message.mds_register_unit_server_result with
    | none => simp [hresult] at h
    | some result =>
      refine ⟨congrArg some hown, result, rfl, ?_⟩
      simp only [hresult] at h
      cases ht : s.registrationResult result with
      | error e =>
        rw [ht] at h
        cases h
      | ok t =>
        rw [ht] at h
        obtain rfl := Except.ok.inj h
        unfold registrationResult at ht
        split_ifs at ht with h5 h7 h6
        · obtain ⟨hsm, rfl⟩ := published_ok ht
          exact .inl ⟨h5, hsm, rfl⟩
        · obtain ⟨hsm, rfl⟩ := failure_ok ht
          exact .inr (.inl ⟨.inr h7, hsm, rfl⟩)
        · obtain ⟨hsm, rfl⟩ := failure_ok ht
          exact .inr (.inl ⟨.inl h6, hsm, rfl⟩)
        · obtain rfl := Except.ok.inj ht
          exact .inr (.inr ⟨h5, h6, h7, rfl⟩)

/-- A message that is taken keeps the timer, if its result is one that the metadata server gives. -/
theorem Kept.ack (h : s.Kept o) (hu : s.unitServerRegistrationACK o message = .ok u)
    (henable : o.unit_server_enable = true)
    (hresult : message.mds_register_unit_server_result ∈ [none, some 5, some 6]) : u.Kept o := by
  obtain ⟨-, result, hsome, hu⟩ := ack_ok hu
  have hpublishing : s.unit_server_sm = .Publishing → s.started = true ∧ s.threads = 0 ∧
      s.use_unit_server = o.unit_server_enable := by
    intro hsm
    refine ⟨?_, ?_, ?_⟩
    · by_contra hs
      have := (h.idle (by simpa using hs)).1
      rw [hsm] at this
      cases this
    · rcases h.once henable with hthreads | ⟨-, hpub, -⟩
      · exact hthreads
      · rw [hsm] at hpub
        cases hpub
    · simpa [hsm] using h.flag
  rcases hu with ⟨-, hsm, rfl⟩ | ⟨-, hsm, rfl⟩ | ⟨h5, h6, -, -⟩
  · obtain ⟨hstarted, hthreads, huse⟩ := hpublishing hsm
    exact ⟨by simp [hstarted], .inl huse, by simp [henable], fun _ => .inl hthreads,
      fun _ _ _ => .inr rfl⟩
  · obtain ⟨hstarted, hthreads, -⟩ := hpublishing hsm
    exact ⟨by simp [hstarted], .inr rfl, by simp [henable], fun _ => .inl hthreads,
      fun _ _ _ => .inr rfl⟩
  · rw [hsome] at hresult
    simp [h5, h6] at hresult

end UnitServer

/-! ## What the database keeps -/

namespace Database

variable {db db' db'' : Database} {us : RegistrationPack} {name ip_port : String}
  {state : Option Int} {types : List String}

def privateKey (db : Database) (name : String) : Option String :=
  (db.unit_server name).bind (·.private_key)

/-- The server has a row, and its types are there. -/
def Listed (db : Database) (us : RegistrationPack) : Prop :=
  (db.unit_server us.mds_unit_server_alias).isSome = true ∧
    ∀ c ∈ us.mds_control_unit_alias, c ∈ db.unit_server_published_cu us.mds_unit_server_alias

/-- Rows and types stay, and no key is changed. -/
structure Keeps (db db' : Database) : Prop where
  rows : ∀ name, (db.unit_server name).isSome = true → (db'.unit_server name).isSome = true
  types : ∀ name, ∀ c ∈ db.unit_server_published_cu name, c ∈ db'.unit_server_published_cu name
  keys : ∀ name, db'.privateKey name = db.privateKey name

theorem Keeps.refl (db : Database) : db.Keeps db := ⟨fun _ h => h, fun _ _ h => h, fun _ => rfl⟩

theorem Keeps.trans (h : db.Keeps db') (h' : db'.Keeps db'') : db.Keeps db'' where
  rows name hrow := h'.rows name (h.rows name hrow)
  types name c hc := h'.types name c (h.types name c hc)
  keys name := (h'.keys name).trans (h.keys name)

theorem Listed.kept (h : db.Listed us) (hkeeps : db.Keeps db') : db'.Listed us :=
  ⟨hkeeps.rows _ h.1, fun c hc => hkeeps.types _ c (h.2 c hc)⟩

theorem checkPublicKey_congr (rsa : String → String → String → Bool) (publicKey : Option String)
    (h : db'.privateKey name = db.privateKey name) :
    db'.checkPublicKey rsa name publicKey = db.checkPublicKey rsa name publicKey := by
  have hkey (db : Database) : db.checkPublicKey rsa name publicKey =
      match db.privateKey name with
      | none => true
      | some privateKey =>
        if privateKey = "" then true
        else match publicKey with
        | none => false
        | some publicKey => publicKey ≠ "" && rsa privateKey publicKey name := by
    unfold checkPublicKey privateKey
    rcases db.unit_server name with _ | ⟨ip, key, state⟩
    · rfl
    · cases key <;> rfl
  rw [hkey, hkey, h]

theorem keeps_update (db : Database) : db.Keeps (db.updateUnitServerTSAndIP name ip_port state types) where
  rows other hrow := by
    unfold updateUnitServerTSAndIP
    by_cases hname : other = name
    · subst hname
      simpa using hrow
    · simpa [hname] using hrow
  types other c hc := by
    unfold updateUnitServerTSAndIP
    by_cases hname : other = name
    · subst hname
      simp [hc]
    · simpa [hname] using hc
  keys other := by
    unfold updateUnitServerTSAndIP privateKey
    by_cases hname : other = name
    · subst hname
      cases db.unit_server other <;> simp
    · simp [hname]

theorem keeps_insert (h : (db.unit_server name).isSome ≠ true) :
    db.Keeps (db.insertNewUnitServer name ip_port state types) where
  rows other hrow := by
    unfold insertNewUnitServer
    by_cases hname : other = name
    · subst hname
      simp
    · simpa [hname] using hrow
  types other c hc := by
    unfold insertNewUnitServer
    by_cases hname : other = name
    · subst hname
      simp [hc]
    · simpa [hname] using hc
  keys other := by
    unfold insertNewUnitServer privateKey
    by_cases hname : other = name
    · subst hname
      have hnone : db.unit_server other = none := by simpa using h
      simp [hnone]
    · simp [hname]

theorem keeps_registered (db : Database) (us : RegistrationPack) : db.Keeps (db.registered us) := by
  unfold registered
  dsimp only
  split_ifs with hrow
  · exact (keeps_update db).trans (keeps_update _)
  · exact (keeps_insert hrow).trans (keeps_update _)

theorem listed_registered (db : Database) (us : RegistrationPack) : (db.registered us).Listed us := by
  unfold registered
  dsimp only
  split_ifs with hrow
  · refine Listed.kept ⟨?_, ?_⟩ (keeps_update _)
    · simpa [updateUnitServerTSAndIP] using hrow
    · intro c hc
      by_cases hmem : c ∈ db.unit_server_published_cu us.mds_unit_server_alias
      · simp [updateUnitServerTSAndIP, hmem]
      · simp [updateUnitServerTSAndIP, hmem, hc]
  · refine Listed.kept ⟨?_, ?_⟩ (keeps_update _)
    · simp [insertNewUnitServer]
    · intro c hc
      simp [insertNewUnitServer, hc]

end Database

/-! ## Over all runs -/

variable {rsa : String → String → String → Bool} {options : Nat → UnitServerOptions}
  {db₀ : Database} {s t : UnitServers}

/-- What the metadata server answers to a pack. -/
theorem registerUnitServer_cases (rsa : String → String → String → Bool) (db : Database)
    (us : RegistrationPack) (failing : Option DataCall) :
    ((registerUnitServer rsa db us failing).2 = true →
      db.checkPublicKey rsa us.mds_unit_server_alias us.mds_unit_server_key = true) ∧
    ((registerUnitServer rsa db us failing).1 = some (some 5) →
      (registerUnitServer rsa db us failing).2 = true) ∧
    ∀ result ∈ (registerUnitServer rsa db us failing).1, result ∈ [none, some 5, some 6] := by
  rcases failing with _ | call
  · by_cases hkey : db.checkPublicKey rsa us.mds_unit_server_alias us.mds_unit_server_key <;>
      simp [registerUnitServer, hkey]
  · by_cases hkey : db.checkPublicKey rsa us.mds_unit_server_alias us.mds_unit_server_key <;>
      cases call <;> simp [registerUnitServer, hkey]

namespace UnitServers

/-- Every pack is the one of a server. A registration that was committed is in the database, of a
server that had the right to it, and an ack that says so follows one. -/
structure Good (rsa : String → String → String → Bool) (options : Nat → UnitServerOptions)
    (db₀ : Database) (s : UnitServers) : Prop where
  servers : ∀ i, (s.server i).Kept (options i)
  packs : ∀ p ∈ s.packs, ∃ i, p = (options i).pack
  keeps : db₀.Keeps s.db
  committed : ∀ p ∈ s.committed, (∃ i, p = (options i).pack) ∧ s.db.Listed p ∧
    db₀.checkPublicKey rsa p.mds_unit_server_alias p.mds_unit_server_key = true
  results : ∀ a ∈ s.acks, a.2.mds_register_unit_server_result ∈ [none, some 5, some 6]
  acks : ∀ a ∈ s.acks, a.2.mds_register_unit_server_result = some 5 →
    ∃ p ∈ s.committed, p.cu_instance_net_addr = a.1 ∧
      a.2.mds_unit_server_alias = some p.mds_unit_server_alias
  published : ∀ i, (s.server i).unit_server_sm = .Published →
    ∃ p ∈ s.committed, p.cu_instance_net_addr = (options i).currentBrokerIpPort ∧
      p.mds_unit_server_alias = (options i).unit_server_alias

theorem good_init (db₀ : Database) : Good rsa options db₀ (init options db₀) where
  servers i := UnitServer.kept_init (options i)
  packs := by simp [init]
  keeps := Database.Keeps.refl db₀
  committed := by simp [init]
  results := by simp [init]
  acks := by simp [init]
  published := by simp [init]

/-- A server that changes, and is published only where it was or the database says so. -/
theorem Good.set (h : Good rsa options db₀ s) {i : Nat} {u : UnitServer}
    (hu : u.Kept (options i)) (hpub : u.unit_server_sm = .Published →
      ∃ p ∈ s.committed, p.cu_instance_net_addr = (options i).currentBrokerIpPort ∧
        p.mds_unit_server_alias = (options i).unit_server_alias) :
    Good rsa options db₀ (s.set i u) where
  servers j := by
    by_cases hj : j = i
    · subst hj
      simpa [UnitServers.set] using hu
    · simpa [UnitServers.set, hj] using h.servers j
  packs := h.packs
  keeps := h.keeps
  committed := h.committed
  results := h.results
  acks := h.acks
  published j hj := by
    by_cases hji : j = i
    · subst hji
      exact hpub (by simpa [UnitServers.set] using hj)
    · exact h.published j (by simpa [UnitServers.set, hji] using hj)

theorem Good.registerUnitServer (h : Good rsa options db₀ s) {k : Nat} {failing : Option DataCall}
    (hs : s.step rsa options (.registerUnitServer k failing) = some t) :
    Good rsa options db₀ t := by
  obtain ⟨pack, hpack, ht⟩ := Option.bind_eq_some_iff.mp hs
  obtain ⟨hkey, hok, hresults⟩ := registerUnitServer_cases rsa s.db pack failing
  rcases hanswer : control_manager.registerUnitServer rsa s.db pack failing with ⟨ack, committed⟩
  rw [hanswer] at hkey hok hresults ht
  dsimp only at hkey hok hresults ht
  obtain rfl := Option.some.inj ht
  have hkeeps : s.db.Keeps (if committed then s.db.registered pack else s.db) := by
    split_ifs
    · exact Database.keeps_registered s.db pack
    · exact Database.Keeps.refl s.db
  have hold : ∀ p ∈ s.committed, p ∈ if committed then s.committed ++ [pack] else s.committed := by
    intro p hp
    split_ifs
    · exact List.mem_append_left _ hp
    · exact hp
  refine ⟨h.servers, h.packs, h.keeps.trans hkeeps, ?_, ?_, ?_, ?_⟩
  · intro p hp
    by_cases hnew : p ∈ s.committed
    · obtain ⟨hfrom, hlisted, hright⟩ := h.committed p hnew
      exact ⟨hfrom, hlisted.kept hkeeps, hright⟩
    · cases committed with
      | false => simp [hnew] at hp
      | true =>
        obtain rfl : p = pack := by simpa [hnew] using hp
        refine ⟨h.packs p (List.mem_of_getElem? hpack), Database.listed_registered s.db p, ?_⟩
        rw [← Database.checkPublicKey_congr rsa _ (h.keeps.keys _)]
        exact hkey rfl
  · intro a ha
    rcases List.mem_append.mp ha with ha | ha
    · exact h.results a ha
    · obtain ⟨result, hresult, rfl⟩ := List.mem_map.mp ha
      exact hresults result (by simpa using hresult)
  · intro a ha h5
    rcases List.mem_append.mp ha with ha | ha
    · obtain ⟨p, hp, hrest⟩ := h.acks a ha h5
      exact ⟨p, hold p hp, hrest⟩
    · obtain ⟨result, hresult, rfl⟩ := List.mem_map.mp ha
      dsimp only at h5
      subst h5
      obtain rfl := hok (by simpa using hresult)
      exact ⟨pack, by simp, rfl, rfl⟩
  · intro i hi
    obtain ⟨p, hp, hrest⟩ := h.published i hi
    exact ⟨p, hold p hp, hrest⟩

theorem Good.step (h : Good rsa options db₀ s) {l : Label} (hs : s.step rsa options l = some t) :
    Good rsa options db₀ t := by
  cases l with
  | registerUnitServer k failing => exact h.registerUnitServer hs
  | start i =>
    simp only [UnitServers.step] at hs
    split_ifs at hs with hstarted
    cases hs
    have hidle := ((h.servers i).idle (by simpa using hstarted)).1
    refine h.set ((h.servers i).start (by simpa using hstarted)) ?_
    intro hpub
    unfold UnitServer.start UnitServer.addTimer UnitServer.startControlUnitSMThread at hpub
    split_ifs at hpub <;> simp [hidle] at hpub
  | takeTimer i =>
    simp only [UnitServers.step] at hs
    split_ifs at hs with htimer
    cases hs
    exact h.set ((h.servers i).takeTimer htimer.1) (h.published i)
  | timeout i =>
    simp only [UnitServers.step] at hs
    split_ifs at hs with htaken
    cases hs
    obtain ⟨hpub, hpack⟩ := UnitServer.timeout_published { s.server i with taken := false }
      (options i)
    have hset := h.set ((h.servers i).timeout htaken) fun hp => h.published i (hpub hp)
    refine ⟨hset.servers, ?_, hset.keeps, hset.committed, hset.results, hset.acks, hset.published⟩
    intro p hp
    rcases List.mem_append.mp hp with hp | hp
    · exact h.packs p hp
    · exact ⟨i, hpack p (by simpa using hp)⟩
  | unitServerStatus i =>
    cases hs
    exact ⟨h.servers, h.packs, h.keeps, h.committed, h.results, h.acks, h.published⟩
  | unit_server_states k =>
    obtain ⟨⟨name, ip_port⟩, -, ht⟩ := Option.bind_eq_some_iff.mp hs
    obtain rfl := Option.some.inj ht
    have hkeeps : s.db.Keeps (s.db.updateUnitServerTSAndIP name ip_port none []) :=
      Database.keeps_update s.db
    refine ⟨h.servers, h.packs, h.keeps.trans hkeeps, ?_, h.results, h.acks, h.published⟩
    intro p hp
    obtain ⟨hfrom, hlisted, hright⟩ := h.committed p hp
    exact ⟨hfrom, hlisted.kept hkeeps, hright⟩
  | unitServerRegistrationACK i m =>
    obtain ⟨⟨address, ack⟩, hm, ht⟩ := Option.bind_eq_some_iff.mp hs
    have hack := List.mem_of_getElem? hm
    dsimp only at ht
    split_ifs at ht with hown
    cases hu : (s.server i).unitServerRegistrationACK (options i) ack with
    | error e =>
      rw [hu] at ht
      cases ht
      exact h
    | ok u =>
      rw [hu] at ht
      cases ht
      refine h.set ((h.servers i).ack hu hown.2 (h.results _ hack)) ?_
      intro hpub
      obtain ⟨hname, result, hresult, hcases⟩ := UnitServer.ack_ok hu
      rcases hcases with ⟨rfl, -, -⟩ | ⟨-, -, rfl⟩ | ⟨-, -, -, rfl⟩
      · obtain ⟨p, hp, haddress, hpname⟩ := h.acks _ hack hresult
        refine ⟨p, hp, haddress.trans hown.1, ?_⟩
        rw [hname] at hpname
        exact (Option.some.inj hpname).symm
      · cases hpub
      · exact h.published i hpub

theorem good_of_run {labels : List Label}
    (hr : run (UnitServers.step rsa options) (init options db₀) labels = some t) :
    Good rsa options db₀ t :=
  run_keeps (Good rsa options db₀) (fun _ _ _ h hs => h.step hs) (good_init db₀) hr

/-- Servers without a key that share an alias and not an address. -/
def fleet (i : Nat) : UnitServerOptions where
  unit_server_enable := true
  unit_server_alias := "us"
  unit_server_key := ""
  unit_server_retry_ms := 500
  control_unit_alias := ["motor", "pump"]
  nodup := by simp
  currentBrokerIpPort := String.ofList (List.replicate i '1')

theorem fleet_injective : Function.Injective fun i => (fleet i).currentBrokerIpPort := by
  intro i j h
  have hlength := congrArg String.length h
  simpa [fleet] using hlength

def emptyDatabase : Database := ⟨fun _ => none, fun _ => []⟩

/-- The ack of the first server arrives twice. -/
def registeredFleet : UnitServers :=
  (run (UnitServers.step (fun _ _ _ => false) fleet) (init fleet emptyDatabase)
    [.start 0, .takeTimer 0, .timeout 0, .registerUnitServer 0 none,
      .unitServerRegistrationACK 0 0, .unitServerRegistrationACK 0 0]).get (by decide +kernel)

/-- A server is published only after the metadata server has committed its registration: the server
has a row there, with every type that it can make, and it had the key of its alias from the start. -/
theorem published_servers_are_registered {labels : List Label}
    (haddress : Function.Injective fun i => (options i).currentBrokerIpPort)
    (hr : run (UnitServers.step rsa options) (init options db₀) labels = some t) (i : Nat)
    (hpub : (t.server i).unit_server_sm = .Published) :
    (options i).pack ∈ t.committed ∧ t.db.Listed (options i).pack ∧
      db₀.checkPublicKey rsa (options i).unit_server_alias (options i).pack.mds_unit_server_key =
        true := by
  have hgood := good_of_run hr
  obtain ⟨p, hp, hown, -⟩ := hgood.published i hpub
  obtain ⟨⟨j, rfl⟩, hlisted, hright⟩ := hgood.committed p hp
  obtain rfl := haddress hown
  exact ⟨hp, hlisted, hright⟩

theorem registeredFleet_is_registered : (fleet 0).pack ∈ registeredFleet.committed ∧
    registeredFleet.db.Listed (fleet 0).pack ∧
      emptyDatabase.checkPublicKey (fun _ _ _ => false) "us" none = true :=
  published_servers_are_registered fleet_injective (Option.some_get _).symm 0 (by decide +kernel)

/-- The thread of the control units is started at most once, for an enabled server when it is
published, and until the registration is over the timer is not lost. -/
theorem registration_goes_on_until_its_end {labels : List Label}
    (hr : run (UnitServers.step rsa options) (init options db₀) labels = some t) (i : Nat) :
    (t.server i).threads ≤ 1 ∧
      ((options i).unit_server_enable = true → (t.server i).threads = 1 →
        (t.server i).unit_server_sm = .Published) ∧
      ((options i).unit_server_enable = true → 0 < (options i).unit_server_retry_ms →
        (t.server i).started = true → (t.server i).Finished ∨ (t.server i).armed = true) := by
  have hkept := (good_of_run hr).servers i
  refine ⟨?_, ?_, hkept.timer⟩
  · cases henable : (options i).unit_server_enable with
    | false => exact (hkept.off henable).2.1
    | true =>
      rcases hkept.once henable with hthreads | ⟨hthreads, -⟩
      · omega
      · omega
  · intro henable hthreads
    rcases hkept.once henable with hnone | ⟨-, hpub, -⟩
    · omega
    · exact hpub

theorem registeredFleet_goes_on : (registeredFleet.server 0).threads ≤ 1 ∧
    ((fleet 0).unit_server_enable = true → (registeredFleet.server 0).threads = 1 →
      (registeredFleet.server 0).unit_server_sm = .Published) ∧
    ((fleet 0).unit_server_enable = true → 0 < (fleet 0).unit_server_retry_ms →
      (registeredFleet.server 0).started = true →
        (registeredFleet.server 0).Finished ∨ (registeredFleet.server 0).armed = true) :=
  registration_goes_on_until_its_end (Option.some_get _).symm 0

/-! ## A way to the end -/

/-- The state after the handler of the timer has run, and the timer is set again. -/
def fired (options : Nat → UnitServerOptions) (s : UnitServers) (i : Nat) : UnitServers :=
  { s.set i ({ s.server i with taken := false, armed := true }.timeout (options i)).1 with
    packs := s.packs ++
      ({ s.server i with taken := false, armed := true }.timeout (options i)).2.toList }

theorem run_fired {i : Nat} (harmed : (s.server i).armed = true)
    (hretry : 0 < (options i).unit_server_retry_ms) :
    ∃ labels, run (UnitServers.step rsa options) s labels = some (s.fired options i) := by
  have hfire {u : UnitServers} (htaken : (u.server i).taken = true)
      (hu : (u.server i).armed = true) :
      u.step rsa options (.timeout i) = some (u.fired options i) := by
    have hsame : { u.server i with taken := false } =
        { u.server i with taken := false, armed := true } := by
      simp [hu]
    simp only [UnitServers.step, if_pos htaken, hsame]
    rfl
  by_cases htaken : (s.server i).taken = true
  · exact ⟨[.timeout i], run_cons_some.mpr ⟨_, hfire htaken harmed, rfl⟩⟩
  · refine ⟨[.takeTimer i, .timeout i], run_cons_some.mpr ⟨_, if_pos ⟨harmed, htaken⟩, ?_⟩⟩
    refine run_cons_some.mpr ⟨_, hfire (by simp [UnitServers.set]) ?_, ?_⟩
    · simp [UnitServers.set, hretry]
    · simp [fired, UnitServers.set]

/-- A published server whose timer is there starts its thread. -/
theorem run_published {i : Nat} (hpub : (s.server i).unit_server_sm = .Published)
    (hthreads : (s.server i).threads = 0) (harmed : (s.server i).armed = true)
    (hretry : 0 < (options i).unit_server_retry_ms) :
    ∃ labels t, run (UnitServers.step rsa options) s labels = some t ∧
      (t.server i).unit_server_sm = .Published ∧ (t.server i).threads = 1 := by
  obtain ⟨labels, hrun⟩ : ∃ labels, run (UnitServers.step rsa options) s labels = _ :=
    run_fired harmed hretry
  refine ⟨labels, _, hrun, ?_⟩
  simp [fired, UnitServers.set, UnitServer.timeout, hpub, UnitServer.removeTimer,
    UnitServer.startControlUnitSMThread, hthreads]

/-- Where nothing fails and the key is right, a pack is answered with an ack that says so. -/
theorem step_registers {k : Nat} {pack : RegistrationPack} (hpack : s.packs[k]? = some pack)
    (hkey : s.db.checkPublicKey rsa pack.mds_unit_server_alias pack.mds_unit_server_key = true) :
    ∃ t, s.step rsa options (.registerUnitServer k none) = some t ∧ t.server = s.server ∧
      t.acks = s.acks ++
        [(pack.cu_instance_net_addr, ⟨some pack.mds_unit_server_alias, some 5⟩)] := by
  have hanswer : control_manager.registerUnitServer rsa s.db pack none = (some (some 5), true) := by
    simp only [control_manager.registerUnitServer]
    exact if_pos hkey
  refine ⟨{ s with
    acks := s.acks ++ [(pack.cu_instance_net_addr, ⟨some pack.mds_unit_server_alias, some 5⟩)]
    db := s.db.registered pack
    committed := s.committed ++ [pack] },
    Option.bind_eq_some_iff.mpr ⟨pack, hpack, ?_⟩, rfl, rfl⟩
  simp [hanswer]

/-- Such an ack publishes a server that waits for it. -/
theorem step_publishes {i m : Nat} (hm : s.acks[m]? =
      some ((options i).currentBrokerIpPort, ⟨some (options i).unit_server_alias, some 5⟩))
    (henable : (options i).unit_server_enable = true)
    (hsm : (s.server i).unit_server_sm = .Publishing) :
    s.step rsa options (.unitServerRegistrationACK i m) =
      some (s.set i { s.server i with unit_server_sm := .Published, armed := true }) := by
  have hack : (s.server i).unitServerRegistrationACK (options i)
      ⟨some (options i).unit_server_alias, some 5⟩ =
        .ok { s.server i with unit_server_sm := .Published, armed := true } := by
    simp [UnitServer.unitServerRegistrationACK, UnitServer.registrationResult,
      EC_MDS_UNIT_SERV_REGISTRATION_OK, UnitServer.mustProcess, hsm,
      unit_server_state_machine.process_event, UnitServer.removeTimer, UnitServer.addTimer,
      Except.map]
  refine Option.bind_eq_some_iff.mpr ⟨_, hm, ?_⟩
  simp [henable, hack]

/-- A server that has just sent its pack is published and starts its thread. -/
theorem run_publishing {i : Nat} (hsm : (s.server i).unit_server_sm = .Publishing)
    (hpack : (options i).pack ∈ s.packs) (hthreads : (s.server i).threads = 0)
    (henable : (options i).unit_server_enable = true)
    (hretry : 0 < (options i).unit_server_retry_ms)
    (hkey : s.db.checkPublicKey rsa (options i).unit_server_alias
      (options i).pack.mds_unit_server_key = true) :
    ∃ labels t, run (UnitServers.step rsa options) s labels = some t ∧
      (t.server i).unit_server_sm = .Published ∧ (t.server i).threads = 1 := by
  obtain ⟨k, hk⟩ := List.mem_iff_getElem?.mp hpack
  obtain ⟨u, hu, hserver, hacks⟩ :
      ∃ u, s.step rsa options (.registerUnitServer k none) = some u ∧ _ := step_registers hk hkey
  have hm : u.acks[s.acks.length]? =
      some ((options i).currentBrokerIpPort, ⟨some (options i).unit_server_alias, some 5⟩) := by
    simp [hacks, UnitServerOptions.pack]
  have hpublishes : u.step rsa options _ = _ :=
    step_publishes hm henable (by rw [hserver, hsm])
  obtain ⟨labels, t, hrun, hend⟩ : ∃ labels t, run (UnitServers.step rsa options)
      (u.set i { u.server i with unit_server_sm := .Published, armed := true }) labels = some t ∧
        (t.server i).unit_server_sm = .Published ∧ (t.server i).threads = 1 :=
    run_published (by simp [UnitServers.set]) (by simp [UnitServers.set, hserver, hthreads])
      (by simp [UnitServers.set]) hretry
  exact ⟨_, t, run_cons_some.mpr ⟨u, hu, run_cons_some.mpr ⟨_, hpublishes, hrun⟩⟩, hend⟩

end UnitServers

end chaos.cu.control_manager
