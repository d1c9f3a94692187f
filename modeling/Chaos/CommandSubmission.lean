-- The submission of a command to an executor, with the document that describes it. The executor
-- appends the id of the command to the caller's document, and reads the id back by its name.
import Chaos.Executor
import Chaos.Runs
import Chaos.Sandbox

namespace chaos.batch_command

open chaos.utility

/-! ## Descriptions -/

/-- A value of a description. A double is given by its conversions to an `int` and to a
`long long`. -/
inductive FieldValue
  | string (s : String)
  | numberInt (n : Int32)
  | numberLong (n : Int64)
  | numberDouble (asInt : Int32) (asLong : Int64)
  | other
  deriving DecidableEq

/-- What is not a number is 0. -/
def FieldValue.toInt32 : FieldValue → Int32
  | .numberInt n => n
  | .numberLong n => n.toInt32
  | .numberDouble asInt _ => asInt
  | _ => 0

def FieldValue.toInt64 : FieldValue → Int64
  | .numberInt n => n.toInt64
  | .numberLong n => n
  | .numberDouble _ asLong => asLong
  | _ => 0

/-- A `CDataWrapper`: its fields in order. A key may be there more than once. -/
abbrev CommandDescription := List (String × FieldValue)

namespace CommandDescription

/-- The first field with the key. -/
def getField (d : CommandDescription) (key : String) : Option FieldValue :=
  (d.find? fun e => e.1 = key).map Prod.snd

def hasKey (d : CommandDescription) (key : String) : Bool := (d.getField key).isSome

/-- What is not a string throws. -/
def getStringValue (d : CommandDescription) (key : String) : Option String :=
  match d.getField key with
  | some (.string s) => some s
  | _ => none

def getInt32Value (d : CommandDescription) (key : String) : Int32 :=
  ((d.getField key).map FieldValue.toInt32).getD 0

def getUInt32Value (d : CommandDescription) (key : String) : UInt32 := (d.getInt32Value key).toUInt32

def getUInt64Value (d : CommandDescription) (key : String) : UInt64 :=
  ((d.getField key).map fun v => v.toInt64.toUInt64).getD 0

/-- The builder appends the field, also when the key is there already. -/
def addInt64Value (d : CommandDescription) (key : String) (value : UInt64) : CommandDescription :=
  d ++ [(key, .numberLong value.toInt64)]

end CommandDescription

def COMMAND_ALIAS_STR : String := "cmd_alias"
def COMMAND_EXECUTION_CHANNEL : String := "cmd_exec_channel"
def SUBMISSION_RULE_UI32 : String := "cmd_submssn_rule"
def SUBMISSION_PRIORITY_UI32 : String := "cmd_submssn_priority"
def SCHEDULER_STEP_TIME_INTERVALL_UI64 : String := "cmd_sched_step_time_int"
def SUBMISSION_RETRY_DELAY_UI32 : String := "cmd_submssn_ret_dly"
def RPC_GET_COMMAND_STATE_CMD_ID_UI64 : String := "command_id"

/-! ## Instances -/

/-- The features that a description sets. -/
def describedFeatures (submissionInfo : CommandDescription) (f : Features) : Features :=
  let f := if submissionInfo.hasKey SCHEDULER_STEP_TIME_INTERVALL_UI64 then
      { f with
        featuresFlag := f.featuresFlag ||| FeatureFlag.FF_SET_SCHEDULER_DELAY.bit
        featureSchedulerStepsDelay :=
          submissionInfo.getUInt64Value SCHEDULER_STEP_TIME_INTERVALL_UI64 }
    else f
  if submissionInfo.hasKey SUBMISSION_RETRY_DELAY_UI32 then
    { f with
      featuresFlag := f.featuresFlag ||| FeatureFlag.FF_SET_SUBMISSION_RETRY.bit
      featureSubmissionRetryDelay := submissionInfo.getUInt32Value SUBMISSION_RETRY_DELAY_UI32 }
  else f

/-- The submission rule of a description: the low byte of a 32 bit number. -/
def describedRule (submissionInfo : CommandDescription) : UInt8 :=
  if submissionInfo.hasKey SUBMISSION_RULE_UI32 then
    (submissionInfo.getInt32Value SUBMISSION_RULE_UI32).toUInt32.toUInt8
  else SUBMIT_NORMAL

/-- `instanceCommandInfo`, on the instance that the instancer of the alias gives. -/
def instanceCommandInfo (submissionInfo : CommandDescription) (command_alias : String)
    (new : NewCommand) : NewCommand :=
  { new with
    command_alias := command_alias
    fault_description := { new.fault_description with source := command_alias }
    submissionRule := describedRule submissionInfo
    commandFeatures := describedFeatures submissionInfo new.commandFeatures
    unique_id := submissionInfo.getUInt64Value RPC_GET_COMMAND_STATE_CMD_ID_UI64 }

/-! ## The executor -/

/-- A command that a sandbox took: the id that the caller got, and the id of the instance. -/
structure SubmittedCommand where
  command_id : UInt64
  unique_id : UInt64
  deriving DecidableEq

/-- The part of an executor that submissions use. The list `submitted` is not in the code. -/
structure CommandExecutor where
  command_sequence_id : UInt64
  serviceState : ServiceState
  sandbox_map : UInt32 → Option BatchCommandSandbox
  submitted : List SubmittedCommand

/-- What `submitCommand` throws: an exception of the framework, or the one of a document whose
alias is not a string. -/
inductive SubmissionError
  | cException (ex : CException)
  | noAlias
  deriving DecidableEq

namespace CommandExecutor

/-- The last part of `submitCommand`. A sandbox that is not initialised refuses the command, and
the answer of the sandbox is not read. -/
def enqueue (e : CommandExecutor) (execution_channel : UInt32) (sandbox : BatchCommandSandbox)
    (cmd_instance : NewCommand) (priority : UInt32) (command_id : UInt64) : CommandExecutor :=
  let r := sandbox.enqueueCommand cmd_instance priority
  { e with
    sandbox_map := Function.update e.sandbox_map execution_channel (some r.1)
    submitted :=
      if r.2 then e.submitted ++ [⟨command_id, cmd_instance.unique_id⟩] else e.submitted }

/-- `submitCommand`. `instanced` is what the instancer of the alias gives, `none` where there is
no instancer or no instance. -/
def submitCommand (e : CommandExecutor) (commandDescription : Option CommandDescription)
    (instanced : Option NewCommand) : CommandExecutor × Except SubmissionError UInt64 :=
  match commandDescription with
  | none =>
    (e, .error (.cException ⟨-1, "Invalid parameter", "BatchCommandExecutor::setCommandFeatures"⟩))
  | some d =>
    if e.serviceState ≠ .SS_STARTED then
      (e, .error (.cException
        ⟨-2, "Slow command executor is not started", "BatchCommandExecutor::submitCommand"⟩))
    else
      let execution_channel := if d.hasKey COMMAND_EXECUTION_CHANNEL then
          d.getUInt32Value COMMAND_EXECUTION_CHANNEL
        else BatchCommandExecutor.COMMAND_BASE_SANDOXX_ID
      match e.sandbox_map execution_channel with
      | none =>
        (e, .error (.cException
          ⟨-3, "Execution channel not found", "BatchCommandExecutor::submitCommand"⟩))
      | some sandbox =>
        let priority := if d.hasKey SUBMISSION_PRIORITY_UI32 then
            d.getUInt32Value SUBMISSION_PRIORITY_UI32
          else 50
        let command_id := e.command_sequence_id + 1
        let e := { e with command_sequence_id := command_id }
        let d := d.addInt64Value RPC_GET_COMMAND_STATE_CMD_ID_UI64 command_id
        match d.getStringValue COMMAND_ALIAS_STR, instanced with
        | none, _ => (e, .error .noAlias)
        | some _, none =>
          (e, .error (.cException
            ⟨-4, "Command instantiation failed", "BatchCommandExecutor::submitCommand"⟩))
        | some command_alias, some new =>
          (e.enqueue execution_channel sandbox (instanceCommandInfo d command_alias new) priority
            command_id, .ok command_id)

/-- A started executor, before its first submission. -/
def started (command_sequence_id : UInt64)
    (sandbox_map : UInt32 → Option BatchCommandSandbox) : CommandExecutor :=
  ⟨command_sequence_id, .SS_STARTED, sandbox_map, []⟩

end CommandExecutor

/-! ## Runs -/

/-- A submission, or anything else that happens to one of the sandboxes. -/
inductive SubmissionCall
  | submitCommand (commandDescription : Option CommandDescription) (instanced : Option NewCommand)
  | sandbox (execution_channel : UInt32) (call : SandboxCall)

/-- One call. Commands come to the sandboxes by submissions only. -/
def submissionStep (e : CommandExecutor) : SubmissionCall → Option CommandExecutor
  | .submitCommand commandDescription instanced =>
    some (e.submitCommand commandDescription instanced).1
  | .sandbox _ (.enqueueCommand _ _) => none
  | .sandbox execution_channel call =>
    (e.sandbox_map execution_channel).bind fun s => (sandboxStep s call).map fun t =>
      { e with sandbox_map := Function.update e.sandbox_map execution_channel (some t) }

end chaos.batch_command
