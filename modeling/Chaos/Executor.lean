-- The executor of batch commands: its life cycle, the ids that it gives to the commands, and
-- the history of command states that it keeps from the events of its sandboxes.
import Mathlib.Logic.Function.Basic
import Chaos.BatchCommand
import Chaos.Service

namespace chaos.batch_command

open chaos.utility

/-! ## The state -/

/-- An error that a call throws. -/
structure CException where
  errorCode : Int
  errorMessage : String
  errorDomain : String
  deriving DecidableEq

structure CommandState where
  command_id : UInt64
  last_event : BatchCommandEventType
  fault_description : FaultDescription
  deriving DecidableEq

/-- A `CommandState` object. The states are numbered in the order of their creation. -/
abbrev StateRef := Nat

/-- The state of an executor. The keys of `sandbox_map` are the numbers from 1 on, so that
their count is enough. `state` holds the command states, of which the first `allocated` exist.
`reported` keeps, for each id, the state object made for the last command that was queued
with this id and the last event that was reported for the id since then; a state that is
capped or flushed is taken out. -/
structure BatchCommandExecutor where
  command_sequence_id : UInt64
  default_command_alias : String
  default_command_sandbox_instance : UInt32
  sandbox_map : Nat
  serviceState : ServiceState
  command_state_queue_max_size : UInt16
  state : StateRef → CommandState
  allocated : Nat
  command_state_queue : List StateRef
  command_state_fast_access_map : UInt64 → Option StateRef
  reported : UInt64 → Option (StateRef × BatchCommandEventType)

namespace BatchCommandExecutor

/-- The pointer that the map of the states has for an id. -/
def getCommandState (e : BatchCommandExecutor) (command_sequence : UInt64) : Option StateRef :=
  e.command_state_fast_access_map command_sequence

/-- `addComamndState`: the insertion in the map does not replace an element. -/
def addComamndState (e : BatchCommandExecutor) (command_id : UInt64) : BatchCommandExecutor :=
  { e with
    state := Function.update e.state e.allocated ⟨command_id, .EVT_QUEUED, ⟨"", 0, "", ""⟩⟩
    allocated := e.allocated + 1
    command_state_queue := e.command_state_queue ++ [e.allocated]
    command_state_fast_access_map :=
      if (e.getCommandState command_id).isSome then e.command_state_fast_access_map
      else Function.update e.command_state_fast_access_map command_id (some e.allocated)
    reported := Function.update e.reported command_id (some (e.allocated, .EVT_QUEUED)) }

/-- Write an event, and its fault when it has one, in the state of a command. -/
def setLastEvent (e : BatchCommandExecutor) (command_id : UInt64) (type : BatchCommandEventType)
    (fault : Option FaultDescription) : BatchCommandExecutor :=
  { e with
    state :=
      match e.getCommandState command_id with
      | none => e.state
      | some r => Function.update e.state r
          { e.state r with
            last_event := type
            fault_description := fault.getD (e.state r).fault_description }
    reported :=
      Function.update e.reported command_id
        ((e.reported command_id).map fun x => (x.1, type)) }

/-- `handleCommandEvent`. The fault is read for `EVT_FAULT` only. -/
def handleCommandEvent (e : BatchCommandExecutor) (command_id : UInt64)
    (type : BatchCommandEventType) (fault : FaultDescription) : BatchCommandExecutor :=
  match type with
  | .EVT_QUEUED => e.addComamndState command_id
  | .EVT_FAULT => e.setLastEvent command_id .EVT_FAULT (some fault)
  | type => e.setLastEvent command_id type none

/-- A command state that has ended leaves the history. -/
def eraseState (e : BatchCommandExecutor) (r : StateRef) : BatchCommandExecutor :=
  let command_id := (e.state r).command_id
  { e with
    command_state_fast_access_map := Function.update e.command_state_fast_access_map command_id none
    reported :=
      if (e.reported command_id).map Prod.fst = some r then
        Function.update e.reported command_id none
      else e.reported }

/-- Is the command of this state still to end? -/
def isPending (e : BatchCommandExecutor) (r : StateRef) : Bool :=
  decide ((e.state r).last_event.code < BatchCommandEventType.EVT_COMPLETED.code)

/-- The loop of `capCommanaQueue`, on the queue from its front. The states that are still to
end are pushed to the front again after the loop. -/
def capLoop (e : BatchCommandExecutor) : List StateRef → UInt64 → List StateRef →
    BatchCommandExecutor
  | [], _, cmd_state_to_reinsert =>
    { e with command_state_queue := cmd_state_to_reinsert.foldl (fun q r => r :: q) [] }
  | r :: rest, idx, cmd_state_to_reinsert =>
    if idx < e.command_state_queue_max_size.toUInt64 then
      { e with command_state_queue := cmd_state_to_reinsert.foldl (fun q r => r :: q) (r :: rest) }
    else if e.isPending r then capLoop e rest idx (cmd_state_to_reinsert ++ [r])
    else capLoop (e.eraseState r) rest (idx - 1) cmd_state_to_reinsert

def capCommanaQueue (e : BatchCommandExecutor) : BatchCommandExecutor :=
  if e.command_state_queue.length ≤ e.command_state_queue_max_size.toNat then e
  else e.capLoop e.command_state_queue (.ofNat (e.command_state_queue.length - 1)) []

/-- The loop of `flushCommandStates`, on the queue from its back. -/
def flushLoop (e : BatchCommandExecutor) : List StateRef → BatchCommandExecutor
  | [] => { e with command_state_queue := [] }
  | r :: rest =>
    if e.isPending r then { e with command_state_queue := (r :: rest).reverse }
    else flushLoop (e.eraseState r) rest

def flushCommandStates (e : BatchCommandExecutor) : BatchCommandExecutor :=
  e.flushLoop e.command_state_queue.reverse

/-! ## The calls -/

def COMMAND_BASE_SANDOXX_ID : UInt32 := 1

def hasSandbox (e : BatchCommandExecutor) (channel : UInt32) : Bool :=
  decide (COMMAND_BASE_SANDOXX_ID.toNat ≤ channel.toNat ∧ channel.toNat ≤ e.sandbox_map)

/-- What a submission gets from outside: the channel that the description names, if any,
whether the command is instantiated and its sandbox takes it, and the id that the description
already has, if any. -/
structure Submission where
  execution_channel : Option UInt32
  instanced : Bool
  accepted : Bool
  described_id : Option UInt64
  deriving DecidableEq

/-- `submitCommand`. The id is used up even when the instantiation fails. The command has the id
that its description gives first, which is the new one only where it had none. -/
def submitCommand (e : BatchCommandExecutor) (commandDescription : Option Submission) :
    BatchCommandExecutor × Except CException UInt64 :=
  match commandDescription with
  | none => (e, .error ⟨-1, "Invalid parameter", "BatchCommandExecutor::setCommandFeatures"⟩)
  | some d =>
    if e.serviceState ≠ .SS_STARTED then
      (e, .error
        ⟨-2, "Slow command executor is not started", "BatchCommandExecutor::submitCommand"⟩)
    else if !e.hasSandbox (d.execution_channel.getD COMMAND_BASE_SANDOXX_ID) then
      (e, .error ⟨-3, "Execution channel not found", "BatchCommandExecutor::submitCommand"⟩)
    else
      let command_id := e.command_sequence_id + 1
      let e := { e with command_sequence_id := command_id }
      if d.instanced then
        (if d.accepted then
            e.handleCommandEvent (d.described_id.getD command_id) .EVT_QUEUED ⟨"", 0, "", ""⟩
          else e,
          .ok command_id)
      else
        (e, .error ⟨-4, "Command instantiation failed", "BatchCommandExecutor::submitCommand"⟩)

/-- `init`. The sequence of the ids starts again, and the history stays. `instanced` says
whether the default command is instantiated; the code goes through the pointers to it and to
its sandbox with no test. -/
def init (e : BatchCommandExecutor) (instanced : Bool) : Option BatchCommandExecutor :=
  let e := { e with
    command_sequence_id := 0
    sandbox_map := if e.sandbox_map = 0 then 1 else e.sandbox_map }
  if e.default_command_alias = "" then some e
  else if instanced && e.hasSandbox e.default_command_sandbox_instance then
    some ({ e with command_sequence_id := 1 }.handleCommandEvent 1 .EVT_QUEUED ⟨"", 0, "", ""⟩)
  else none

/-- `setDefaultCommand`, which throws on an executor that is started. -/
def setDefaultCommand (e : BatchCommandExecutor) (command_alias : String)
    (sandbox_instance : UInt32) : BatchCommandExecutor × Except CException Unit :=
  if e.serviceState = .SS_STARTED then
    (e, .error ⟨1, "The command infrastructure is in running state",
      "BatchCommandExecutor::setDefaultCommand"⟩)
  else
    ({ e with
        default_command_alias := command_alias
        default_command_sandbox_instance := if sandbox_instance < 1 then 1 else sandbox_instance },
      .ok ())

/-- The answer to the rpc call `getCommandState`: the last event, with the fault after a fault. -/
def getCommandStateRpc (e : BatchCommandExecutor) (command_id : UInt64) :
    Except CException (Nat × Option FaultDescription) :=
  match e.getCommandState command_id with
  | none => .error ⟨1, "The command requested is not present",
      "BatchCommandExecutor::getCommandSandboxStatistics"⟩
  | some r =>
    .ok ((e.state r).last_event.code,
      if (e.state r).last_event = .EVT_FAULT then some (e.state r).fault_description else none)

/-- An executor after its constructor. -/
def create (state : StateRef → CommandState) : BatchCommandExecutor where
  command_sequence_id := 0
  default_command_alias := ""
  default_command_sandbox_instance := 1
  sandbox_map := 0
  serviceState := .IS_DEINTIATED
  command_state_queue_max_size := 50
  state := state
  allocated := 0
  command_state_queue := []
  command_state_fast_access_map := fun _ => none
  reported := fun _ => none

end BatchCommandExecutor

/-! ## Runs -/

/-- What can happen to an executor, in any order. -/
inductive ExecutorCall
  | init (instanced : Bool)
  | start
  | stop
  | deinit
  | setDefaultCommand (command_alias : String) (sandbox_instance : UInt32)
  | addSandboxInstance (sandbox_number : Nat)
  | submitCommand (commandDescription : Option BatchCommandExecutor.Submission)
  | handleCommandEvent (command_id : UInt64) (type : BatchCommandEventType)
      (fault : FaultDescription)
  | capCommanaQueue
  | flushCommandStates

/-- A change of the service state. It throws, and changes nothing, where the state machine
does not handle the event. -/
def onService (e : BatchCommandExecutor) (event : ServiceEvent)
    (f : BatchCommandExecutor → Option BatchCommandExecutor) : Option BatchCommandExecutor :=
  match process_event e.serviceState event with
  | none => some e
  | some next => (f e).map fun e => { e with serviceState := next }

def executorStep (e : BatchCommandExecutor) : ExecutorCall → Option BatchCommandExecutor
  | .init instanced => onService e .init (·.init instanced)
  | .start => onService e .start some
  | .stop => onService e .stop some
  | .deinit => onService e .deinit some
  | .setDefaultCommand command_alias sandbox_instance =>
    some (e.setDefaultCommand command_alias sandbox_instance).1
  | .addSandboxInstance n => some { e with sandbox_map := e.sandbox_map + n }
  | .submitCommand commandDescription => some (e.submitCommand commandDescription).1
  | .handleCommandEvent command_id type fault => some (e.handleCommandEvent command_id type fault)
  | .capCommanaQueue => some e.capCommanaQueue
  | .flushCommandStates => some e.flushCommandStates

end chaos.batch_command
