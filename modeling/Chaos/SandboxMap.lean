-- The sandboxes of an executor. The map of the sandboxes is read through its index operator,
-- which inserts NULL for a key that is not there, in four calls; one call asks for the key first.
import Mathlib.Logic.Function.Iterate
import Chaos.Executor
import Chaos.PointerMap
import Chaos.ServiceLifecycle

namespace chaos.batch_command

open chaos.utility pointer_map runs

/-! ## The state -/

/-- What an executor keeps beside the history of its commands. A sandbox is given by its
`identification`, and a NULL pointer in the map is `none`. -/
structure SandboxExecutor where
  executorID : String
  command_sequence_id : UInt64
  default_command_alias : String
  default_command_sandbox_instance : UInt32
  sandbox_map : PointerMap UInt32 String
  service : StartableService

/-- What the hooks of an executor get from outside: whether the shared cache and the sandboxes
throw, and whether the default command is instantiated. -/
structure HookAnswers where
  cache : Except chaos.CException Unit
  sandboxes : UInt32 → Except chaos.CException Unit
  instanced : Bool

namespace SandboxExecutor

open BatchCommandExecutor (COMMAND_BASE_SANDOXX_ID Submission)

def create (executorID : String) : SandboxExecutor where
  executorID := executorID
  command_sequence_id := 0
  default_command_alias := ""
  default_command_sandbox_instance := 1
  sandbox_map := ∅
  service := .create

/-! ## The calls -/

/-- The number is that of the entries and one more, in 32 bits. -/
def addNewSandboxInstance (e : SandboxExecutor) : SandboxExecutor :=
  let new_size := UInt32.ofNat e.sandbox_map.size + COMMAND_BASE_SANDOXX_ID
  { e with
    sandbox_map := e.sandbox_map.insertIfNew new_size
      (some (e.executorID ++ "-sandbox-" ++ toString new_size)) }

def addSandboxInstance (e : SandboxExecutor) (sandbox_number : UInt32) : SandboxExecutor :=
  addNewSandboxInstance^[sandbox_number.toNat] e

/-- `sandbox_map[channel]` inserts NULL for a key that is not there. -/
def index (e : SandboxExecutor) (channel : UInt32) :
    SandboxExecutor × Option String :=
  ({ e with sandbox_map := touched e.sandbox_map channel }, pointer e.sandbox_map channel)

/-- The loop over all the sandboxes, which goes through each pointer. -/
def callSandboxes (answer : UInt32 → Except chaos.CException Unit) :
    List (UInt32 × Option String) → Except Failure Unit
  | [] => .ok ()
  | (_, none) :: _ => .error .undefined
  | (key, some _) :: rest =>
    match answer key with
    | .error ex => .error (.thrown ex)
    | .ok () => callSandboxes answer rest

/-- The executor when `init` goes over the sandboxes. -/
def initMap (e : SandboxExecutor) : SandboxExecutor :=
  let e := { e with command_sequence_id := 0 }
  if e.sandbox_map.size = 0 then e.addNewSandboxInstance else e

/-- The end of `init`: the default command, if one is set, goes to its sandbox. -/
def initDefault (e : SandboxExecutor) (instanced : Bool) : SandboxExecutor × Except Failure Unit :=
  if e.default_command_alias = "" then (e, .ok ())
  else if instanced then
    let (e, sandbox) :=
      { e with command_sequence_id := 1 }.index e.default_command_sandbox_instance
    (e, if sandbox.isSome then .ok () else .error .undefined)
  else (e, .error .undefined)

def init (e : SandboxExecutor) (w : HookAnswers) : SandboxExecutor × Except Failure Unit :=
  match w.cache with
  | .error ex => ({ e with command_sequence_id := 0 }, .error (.thrown ex))
  | .ok () =>
    match callSandboxes w.sandboxes e.initMap.sandbox_map.toList with
    | .error failure => (e.initMap, .error failure)
    | .ok () => e.initMap.initDefault w.instanced

/-- What a sandbox throws is replaced. -/
def start (e : SandboxExecutor) (w : HookAnswers) : Except Failure Unit :=
  match callSandboxes w.sandboxes e.sandbox_map.toList with
  | .error (.thrown _) => .error (.thrown ⟨1000, "Generic Error", "BatchCommandExecutor::start"⟩)
  | r => r

def stop (e : SandboxExecutor) (w : HookAnswers) : Except Failure Unit :=
  callSandboxes w.sandboxes e.sandbox_map.toList

def deinit (e : SandboxExecutor) (w : HookAnswers) : Except Failure Unit :=
  match callSandboxes w.sandboxes e.sandbox_map.toList with
  | .error failure => .error failure
  | .ok () => w.cache.mapError .thrown

def hook (e : SandboxExecutor) (w : HookAnswers) :
    ServiceEvent → SandboxExecutor × Except Failure Unit
  | .init => e.init w
  | .start => (e, e.start w)
  | .stop => (e, e.stop w)
  | .deinit => (e, e.deinit w)

/-- A driver of the service around a hook of the executor. -/
def drive (e : SandboxExecutor) (event : ServiceEvent) (domainString : String) (w : HookAnswers) :
    SandboxExecutor × Except Failure Unit :=
  if (process_event e.service.state_machine event).isSome then
    let (e', r) := e.hook w event
    match r with
    | .ok () => ({ e' with service := (e.service.call ⟨event, .ok (), domainString⟩).1 }, .ok ())
    | .error (.thrown ex) =>
      ({ e' with service := (e.service.call ⟨event, .error ex, domainString⟩).1 },
        .error (.thrown ex))
    | .error .undefined => (e', .error .undefined)
  else
    let r := e.service.call ⟨event, .ok (), domainString⟩
    (e, (r.2.mapError .thrown).map fun _ => ())

/-- `setDefaultCommand`. Any number but 0 is taken as it is. -/
def setDefaultCommand (e : SandboxExecutor) (command_alias : String) (sandbox_instance : UInt32) :
    SandboxExecutor × Except Failure Unit :=
  if e.service.serviceState = ServiceState.SS_STARTED.number then
    (e, .error (.thrown ⟨1, "The command infrastructure is in running state",
      "BatchCommandExecutor::setDefaultCommand"⟩))
  else
    ({ e with
        default_command_alias := command_alias
        default_command_sandbox_instance := if sandbox_instance < 1 then 1 else sandbox_instance },
      .ok ())

/-- `submitCommand`, the one call that looks for the key of its channel. -/
def submitCommand (e : SandboxExecutor) (commandDescription : Option Submission) :
    SandboxExecutor × Except Failure Unit :=
  match commandDescription with
  | none =>
    (e, .error (.thrown ⟨-1, "Invalid parameter", "BatchCommandExecutor::setCommandFeatures"⟩))
  | some d =>
    if e.service.serviceState ≠ ServiceState.SS_STARTED.number then
      (e, .error (.thrown
        ⟨-2, "Slow command executor is not started", "BatchCommandExecutor::submitCommand"⟩))
    else if d.execution_channel.getD COMMAND_BASE_SANDOXX_ID ∈ e.sandbox_map then
      let (e, sandbox) := { e with command_sequence_id := e.command_sequence_id + 1 }.index
        (d.execution_channel.getD COMMAND_BASE_SANDOXX_ID)
      if d.instanced then (e, if sandbox.isSome then .ok () else .error .undefined)
      else
        (e, .error (.thrown
          ⟨-4, "Command instantiation failed", "BatchCommandExecutor::submitCommand"⟩))
    else
      (e, .error (.thrown
        ⟨-3, "Execution channel not found", "BatchCommandExecutor::submitCommand"⟩))

/-- The rpc action `setCommandFeatures`, with the channel that the parameters name, if any.
`running` says whether the sandbox has a current command. -/
def setCommandFeatures (e : SandboxExecutor) (params : Option (Option UInt32)) (running : Bool) :
    SandboxExecutor × Except Failure Unit :=
  match params with
  | none =>
    (e, .error (.thrown ⟨-1, "Invalid parameter", "BatchCommandExecutor::setCommandFeatures"⟩))
  | some execution_channel =>
    if e.sandbox_map.size = 0 then
      (e, .error (.thrown ⟨-1, "Invalid parameter", "BatchCommandExecutor::setCommandFeatures"⟩))
    else
      let (e, tmp_ptr) := e.index (execution_channel.getD COMMAND_BASE_SANDOXX_ID)
      match tmp_ptr with
      | none => (e, .error .undefined)
      | some _ =>
        (e, if running then .ok ()
          else .error (.thrown
            ⟨2, "No Current running command", "BatchCommandExecutor::setCommandFeatures"⟩))

/-- The calls that go through `sandbox_map[1]`. -/
def onBaseSandbox (e : SandboxExecutor) : SandboxExecutor × Except Failure Unit :=
  let (e, tmp_ptr) := e.index COMMAND_BASE_SANDOXX_ID
  (e, if tmp_ptr.isSome then .ok () else .error .undefined)

/-- `setCommandFeatures` with the features themselves. -/
def setCommandFeaturesLocal := onBaseSandbox

def killCurrentCommand := onBaseSandbox

end SandboxExecutor

inductive SandboxMapCall
  | addSandboxInstance (sandbox_number : UInt32)
  | drive (event : ServiceEvent) (domainString : String) (w : HookAnswers)
  | setDefaultCommand (command_alias : String) (sandbox_instance : UInt32)
  | submitCommand (commandDescription : Option BatchCommandExecutor.Submission)
  | setCommandFeatures (params : Option (Option UInt32)) (running : Bool)
  | setCommandFeaturesLocal
  | killCurrentCommand

namespace SandboxExecutor

open BatchCommandExecutor (COMMAND_BASE_SANDOXX_ID)

def call (e : SandboxExecutor) : SandboxMapCall → SandboxExecutor × Except Failure Unit
  | .addSandboxInstance sandbox_number => (e.addSandboxInstance sandbox_number, .ok ())
  | .drive event domainString w => e.drive event domainString w
  | .setDefaultCommand command_alias sandbox_instance =>
    e.setDefaultCommand command_alias sandbox_instance
  | .submitCommand commandDescription => e.submitCommand commandDescription
  | .setCommandFeatures params running => e.setCommandFeatures params running
  | .setCommandFeaturesLocal => e.setCommandFeaturesLocal
  | .killCurrentCommand => e.killCurrentCommand

/-- The process does not go on after it went through a NULL pointer. -/
def step (e : SandboxExecutor) (c : SandboxMapCall) : Option SandboxExecutor :=
  match e.call c with
  | (_, .error .undefined) => none
  | (e', _) => some e'

end SandboxExecutor

end chaos.batch_command
