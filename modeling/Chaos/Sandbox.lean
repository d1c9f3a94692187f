-- The sandbox that runs batch commands. A checker thread takes submitted commands from a
-- priority queue and decides what happens to the current command, and a scheduler thread
-- steps the current command. One iteration of each thread is one function here.
import Mathlib.Logic.Function.Basic
import Chaos.BatchCommand
import Chaos.PriorityQueue
import Chaos.Service

namespace chaos.batch_command

open chaos.utility

/-! ## The state -/

/-- A command object. The commands of a sandbox are numbered in the order in which
`enqueueCommand` took them. -/
abbrev CommandRef := Nat

/-- An element of `command_submitted_queue`. The priority of `enqueueCommand` is unsigned,
and `PriorityQueuedElement` keeps it as an `int`. -/
structure QueuedCommand where
  priority : Int
  element : CommandRef
  deriving DecidableEq

/-- What comes with an event: the alias of a queued command, or the fault of a faulted one. -/
inductive EventValue
  | none
  | commandAlias (name : String)
  | fault (description : FaultDescription)
  deriving DecidableEq

/-- A call of `handleCommandEvent`. The handler sees the id of the command only; `command`
says which object the event is about. -/
structure CommandEvent where
  command : CommandRef
  command_id : UInt64
  type : BatchCommandEventType
  value : EventValue
  deriving DecidableEq

inductive BatchSandboxEventType
  | EVT_RUN
  | EVT_HEART_BEAT
  deriving DecidableEq

/-- A call of `handleSandboxEvent`, with the time that it carries. -/
structure SandboxEvent where
  type : BatchSandboxEventType
  time : UInt64
  deriving DecidableEq

/-- The state of a sandbox. `cmd` holds the command objects, of which the first `enqueued`
exist, `commandStack` has its top first, and a functor holds the command that it is bound to.
`disposed`, `events` and `sandboxEvents` keep what the code did: the commands that it deleted,
and the events that it gave to the event handler. -/
structure BatchCommandSandbox where
  stat : SandboxStat
  event_handler : Bool
  scheduleWorkFlag : Bool
  serviceState : ServiceState
  cmd : CommandRef → BatchCommand
  enqueued : Nat
  command_submitted_queue : List QueuedCommand
  currentExecutingCommand : Option CommandRef
  commandStack : List CommandRef
  acquireHandlerFunctor : Option CommandRef
  correlationHandlerFunctor : Option CommandRef
  disposed : List CommandRef
  events : List CommandEvent
  sandboxEvents : List SandboxEvent

namespace BatchCommandSandbox

def modify (s : BatchCommandSandbox) (c : CommandRef) (f : BatchCommand → BatchCommand) :
    BatchCommandSandbox :=
  { s with cmd := Function.update s.cmd c (f (s.cmd c)) }

/-- Give an event of command `c` to the event handler, when there is one. -/
def emit (s : BatchCommandSandbox) (c : CommandRef) (type : BatchCommandEventType)
    (value : EventValue) : BatchCommandSandbox :=
  { s with
    events :=
      if s.event_handler then s.events ++ [⟨c, (s.cmd c).unique_id, type, value⟩] else s.events }

/-- An event of command `c` with no value, or with its fault when the event is a fault. -/
def report (s : BatchCommandSandbox) (c : CommandRef) (type : BatchCommandEventType) :
    BatchCommandSandbox :=
  s.emit c type (if type = .EVT_FAULT then .fault (s.cmd c).fault_description else .none)

def emitSandbox (s : BatchCommandSandbox) (type : BatchSandboxEventType) (time : UInt64) :
    BatchCommandSandbox :=
  { s with
    sandboxEvents :=
      if s.event_handler then s.sandboxEvents ++ [⟨type, time⟩] else s.sandboxEvents }

/-- `DELETE_OBJ_POINTER` on a command. -/
def dispose (s : BatchCommandSandbox) (c : CommandRef) : BatchCommandSandbox :=
  { s with disposed := s.disposed ++ [c] }

/-- The element on top of `command_submitted_queue`. -/
def top (s : BatchCommandSandbox) (tie : Nat) : Option QueuedCommand :=
  pqueue.top QueuedCommand.priority s.command_submitted_queue tie

/-- There is no top just when `command_submitted_queue.empty()` holds, whatever the tie. -/
theorem top_eq_none_iff_empty (s : BatchCommandSandbox) (tie : Nat) :
    s.top tie = none ↔ s.command_submitted_queue = [] :=
  pqueue.top_eq_none

def pop (s : BatchCommandSandbox) (e : QueuedCommand) : BatchCommandSandbox :=
  { s with command_submitted_queue := s.command_submitted_queue.erase e }

/-! ## The handlers of the current command -/

/-- Does `installHandler` call the set handler of the command? -/
def callsSet (b : BatchCommand) : Bool :=
  !b.already_setupped && decide (b.implementedHandler &&& HT_Set ≠ 0)

/-- The command after `commandPre` and the set handler of `installHandler`. -/
def setUp (b : BatchCommand) (now : UInt64) (set : HandlerOutcome) : BatchCommand :=
  let b := b.commandPre now
  if callsSet b then
    match set.thrown with
    | none => { set.after b with already_setupped := true }
    | some t => (set.after b).caught (-1) (-2) "Acquisition Handler" t
  else b

/-- Is the command installed? It needs another handler than the set handler, and a set
handler that does not throw. -/
def installs (b : BatchCommand) (set : HandlerOutcome) : Bool :=
  decide (1 < b.implementedHandler) && !(callsSet b && set.thrown.isSome)

/-- `installHandler`, at time `now` and with the outcome of the set handler. The result says
whether the command is installed. -/
def installHandler (s : BatchCommandSandbox) (cmd_to_install : Option CommandRef) (now : UInt64)
    (set : HandlerOutcome) : BatchCommandSandbox × Bool :=
  match cmd_to_install with
  | none =>
    ({ s with
        currentExecutingCommand := none
        acquireHandlerFunctor := none
        correlationHandlerFunctor := none }, true)
  | some c =>
    let handlerMask := (s.cmd c).implementedHandler
    let installed := !(callsSet (s.cmd c) && set.thrown.isSome)
    let s := s.modify c (setUp · now set)
    if handlerMask ≤ 1 || !installed then (s, false)
    else
      let s := { s with
        acquireHandlerFunctor :=
          if handlerMask &&& HT_Acquisition ≠ 0 then some c else s.acquireHandlerFunctor
        correlationHandlerFunctor :=
          if handlerMask &&& HT_Correlation ≠ 0 then some c else s.correlationHandlerFunctor
        currentExecutingCommand := some c }
      (s.report c .EVT_RUNNING, installed)

def removeHandler (s : BatchCommandSandbox) (c : CommandRef) : BatchCommandSandbox :=
  let handlerMask := (s.cmd c).implementedHandler
  if handlerMask ≤ 1 then s
  else
    { s with
      acquireHandlerFunctor :=
        if handlerMask &&& HT_Acquisition ≠ 0 ∧ s.acquireHandlerFunctor = some c then none
        else s.acquireHandlerFunctor
      correlationHandlerFunctor :=
        if handlerMask &&& HT_Correlation ≠ 0 ∧ s.correlationHandlerFunctor = some c then none
        else s.correlationHandlerFunctor }

/-! ## The checker -/

inductive RunningVSSubmissioneResult
  | RSR_NO_CHANGE
  | RSR_TIMED_RETRY
  | RSR_STACK_CURENT_COMMAND
  | RSR_KILL_KURRENT_COMMAND
  | RSR_CURRENT_CMD_HAS_ENDED
  | RSR_CURRENT_CMD_HAS_FAULTED
  deriving DecidableEq

open RunningVSSubmissioneResult

/-- The table `running_vs_submition`: a row for each running property, and a column for each
submission rule. -/
def running_vs_submition : List (List RunningVSSubmissioneResult) :=
  [[RSR_TIMED_RETRY, RSR_TIMED_RETRY, RSR_NO_CHANGE],
   [RSR_STACK_CURENT_COMMAND, RSR_KILL_KURRENT_COMMAND, RSR_NO_CHANGE],
   [RSR_CURRENT_CMD_HAS_ENDED, RSR_CURRENT_CMD_HAS_ENDED, RSR_CURRENT_CMD_HAS_ENDED],
   [RSR_CURRENT_CMD_HAS_FAULTED, RSR_CURRENT_CMD_HAS_FAULTED, RSR_CURRENT_CMD_HAS_FAULTED]]

/-- The entry of the table, or `none` outside its four rows and three columns. -/
def tableEntry (r s : UInt8) : Option RunningVSSubmissioneResult :=
  running_vs_submition[r.toNat]?.bind (·[s.toNat]?)

/-- What one iteration of the checker gets from outside: which of the commands with the
largest priority is on top, the value that a read outside the table gives (`none` when it is
no enumerator), and the time and the outcome of each set handler call. -/
structure CheckerEnv where
  tie : Nat
  outOfTable : Option RunningVSSubmissioneResult
  now : UInt64
  set : HandlerOutcome
  nowAgain : UInt64
  setAgain : HandlerOutcome
  deriving DecidableEq

def CHECK_RUNNING_VS_SUBMISSION (env : CheckerEnv) (r s : UInt8) :
    Option RunningVSSubmissioneResult :=
  (tableEntry r s).or env.outOfTable

/-- How an iteration of the checker ends: `again` and `waitThenContinue` reach a `continue`,
the others reach the test of `scheduleWorkFlag`. -/
inductive CheckerPause
  | again
  | waitThenContinue (timeout : Option UInt32)
  | checkFlag
  | waitThenCheckFlag
  deriving DecidableEq

/-- The next command has a set handler only: run it, report it and delete it. -/
def runOnlySet (s : BatchCommandSandbox) (env : CheckerEnv) (next : QueuedCommand) :
    BatchCommandSandbox :=
  let s := (s.installHandler (some next.element) env.now env.set).1
  let s := s.pop next
  let type := if (s.cmd next.element).runningProperty = RP_Fault then
      BatchCommandEventType.EVT_FAULT else .EVT_COMPLETED
  (s.report next.element type).dispose next.element

/-- The next command was not installed. With no event handler, it is not deleted. -/
def failedInstall (s : BatchCommandSandbox) (c : CommandRef) : BatchCommandSandbox :=
  if s.event_handler then
    if (s.cmd c).runningProperty &&& RP_Fault ≠ 0 then (s.report c .EVT_FAULT).dispose c
    else s.dispose c
  else s

/-- The case `RSR_STACK_CURENT_COMMAND`. -/
def stackCurrent (s : BatchCommandSandbox) (env : CheckerEnv) (current : CommandRef)
    (next : QueuedCommand) : BatchCommandSandbox :=
  let s := s.pop next
  let r := s.installHandler (some next.element) env.now env.set
  if r.2 then
    { r.1 with commandStack := current :: r.1.commandStack }.report current .EVT_PAUSED
  else r.1.failedInstall next.element

/-- The cases that end the current command, with the event that reports its end. When the
next command is not installed, the current one is installed again. -/
def replaceCurrent (s : BatchCommandSandbox) (env : CheckerEnv) (current : CommandRef)
    (next : QueuedCommand) (ended : BatchCommandEventType) : BatchCommandSandbox :=
  let s := s.pop next
  let s := s.removeHandler current
  let r := s.installHandler (some next.element) env.now env.set
  if r.2 then (r.1.report current ended).dispose current
  else ((r.1.failedInstall next.element).installHandler (some current) env.nowAgain
    env.setAgain).1

/-- Report the end of a command from its running property. The switch has no default. -/
def reportEnd (s : BatchCommandSandbox) (c : CommandRef) : BatchCommandSandbox :=
  if (s.cmd c).runningProperty = RP_End then s.report c .EVT_COMPLETED
  else if (s.cmd c).runningProperty = RP_Fault then s.report c .EVT_FAULT
  else s

/-- The queue is empty. A current command that has ended makes room for the top of the stack. -/
def checkEnded (s : BatchCommandSandbox) (env : CheckerEnv) : BatchCommandSandbox :=
  match s.currentExecutingCommand with
  | none => s
  | some current =>
    if (s.cmd current).runningProperty < RP_End then s
    else
      let s := s.removeHandler current
      let s := match s.commandStack with
        | next :: _ =>
          let s := (s.installHandler (some next) env.now env.set).1
          { s with commandStack := s.commandStack.tail }
        | [] => (s.installHandler none env.now env.set).1
      (s.reportEnd current).dispose current

/-- The queue has `next` on top, and `current` is the current command. -/
def checkAgainstCurrent (s : BatchCommandSandbox) (env : CheckerEnv) (current : CommandRef)
    (next : QueuedCommand) : BatchCommandSandbox × CheckerPause :=
  if (s.cmd next.element).implementedHandler ≤ 1 then (s.runOnlySet env next, .again)
  else
    match CHECK_RUNNING_VS_SUBMISSION env (s.cmd current).runningProperty
        (s.cmd next.element).submissionRule with
    | some RSR_NO_CHANGE => (s, .waitThenContinue none)
    | some RSR_TIMED_RETRY =>
      (s, .waitThenContinue
        (some (s.cmd next.element).commandFeatures.featureSubmissionRetryDelay))
    | some RSR_STACK_CURENT_COMMAND => (s.stackCurrent env current next, .checkFlag)
    | some RSR_KILL_KURRENT_COMMAND =>
      (s.replaceCurrent env current next .EVT_KILLED, .checkFlag)
    | some RSR_CURRENT_CMD_HAS_ENDED =>
      (s.replaceCurrent env current next .EVT_COMPLETED, .checkFlag)
    | some RSR_CURRENT_CMD_HAS_FAULTED =>
      (s.replaceCurrent env current next .EVT_FAULT, .checkFlag)
    | none => (s, .checkFlag)

/-- One iteration of the loop of `checkNextCommand`. -/
def checkNextCommand (s : BatchCommandSandbox) (env : CheckerEnv) :
    BatchCommandSandbox × CheckerPause :=
  match s.top env.tie with
  | none => (s.checkEnded env, .waitThenCheckFlag)
  | some next =>
    match s.currentExecutingCommand with
    | some current => s.checkAgainstCurrent env current next
    | none => (((s.installHandler (some next.element) env.now env.set).1).pop next, .checkFlag)

/-! ## The scheduler -/

/-- What one iteration of the scheduler gets from outside: the time at the start and at the
end of the step, and the outcome of each handler. -/
structure RunEnv where
  start : UInt64
  stop : UInt64
  acquire : HandlerOutcome
  cc : HandlerOutcome
  timeout : HandlerOutcome
  expired : Bool
  deriving DecidableEq

/-- How an iteration of the scheduler ends. `notifyAndWait` wakes the checker first. -/
inductive SchedulerPause
  | leave
  | again
  | waitUSec (microseconds : Int)
  | notifyAndWait
  deriving DecidableEq

/-- The call of a functor: the handler of the command that it is bound to. -/
def callFunctor (s : BatchCommandSandbox) (cmdInstance : Option CommandRef) (o : HandlerOutcome)
    (domain : String) : BatchCommandSandbox :=
  match cmdInstance with
  | none => s
  | some c =>
    if (s.cmd c).runningProperty < RP_End then s.modify c (o.guarded (-1) (-2) domain) else s

/-- The pause after a step: `timeToWaith` is an `int64_t` computed from unsigned operands. -/
def stepPause (s : BatchCommandSandbox) (current : CommandRef) : SchedulerPause :=
  let b := s.cmd current
  if !s.scheduleWorkFlag && b.runningProperty ≠ 0 then .leave
  else if b.runningProperty = RP_Exsc ∨ b.runningProperty = RP_Normal then
    if 0 < b.commandFeatures.featureSchedulerStepsDelay then
      let timeToWaith :=
        (b.commandFeatures.featureSchedulerStepsDelay - s.stat.lastCmdStepTime * 1000).toInt64.toInt
      .waitUSec (if 0 < timeToWaith then timeToWaith else 0)
    else .again
  else if b.runningProperty = RP_Fault ∨ b.runningProperty = RP_End then .notifyAndWait
  else .again

/-- One iteration of the loop of `runCommand`. -/
def runCommand (s : BatchCommandSandbox) (env : RunEnv) : BatchCommandSandbox × SchedulerPause :=
  match s.currentExecutingCommand with
  | none =>
    if s.scheduleWorkFlag then ({ s with stat := ⟨0, 0, 0⟩ }, .notifyAndWait) else (s, .leave)
  | some current =>
    let s := { s with stat := { s.stat with lastCmdStepStart := env.start } }
    let s := s.callFunctor s.acquireHandlerFunctor env.acquire "Acquisition Handler"
    let s := s.callFunctor s.correlationHandlerFunctor env.cc "Correlation Handler"
    let s := s.emitSandbox .EVT_RUN env.start
    let s := { s with stat := { s.stat with lastCmdStepTime := env.start - env.stop } }
    let s := if s.stat.lastHBTime + 1000 < env.start then
        { s with stat := { s.stat with lastHBTime := env.start } }.emitSandbox .EVT_HEART_BEAT
          env.start
      else s
    let s := s.modify current (·.commandPost s.stat env.timeout env.expired)
    (s, s.stepPause current)

/-! ## The calls from outside -/

/-- `killCurrentCommand` goes through the pointer to the current command with no test. -/
def killCurrentCommand (s : BatchCommandSandbox) : Option BatchCommandSandbox :=
  s.currentExecutingCommand.map fun c => s.modify c (·.setRunningProperty RP_End)

/-- `enqueueCommand`, which refuses the command when the service is not initialised. -/
def enqueueCommand (s : BatchCommandSandbox) (new : NewCommand) (priority : UInt32) :
    BatchCommandSandbox × Bool :=
  if s.serviceState = .IS_DEINTIATED then (s, false)
  else
    let c := s.enqueued
    let s := { s with cmd := Function.update s.cmd c new.toBatchCommand, enqueued := c + 1 }
    let s := { s with
      command_submitted_queue := ⟨priority.toInt32.toInt, c⟩ :: s.command_submitted_queue }
    (s.emit c .EVT_QUEUED (.commandAlias new.command_alias), true)

/-- One turn of the loops of `deinit`. `currentExecutingCommand` is NULL by then, so the
condition of the event is false. -/
def deinitOne (s : BatchCommandSandbox) (c : CommandRef) : BatchCommandSandbox :=
  let s := if s.currentExecutingCommand.isSome then s.report c .EVT_KILLED else s
  s.dispose c

/-- Delete the current command of `deinit`, with its event. -/
def deinitCurrent (s : BatchCommandSandbox) : BatchCommandSandbox :=
  match s.currentExecutingCommand with
  | none => s
  | some c => { (s.report c .EVT_KILLED).dispose c with currentExecutingCommand := none }

/-- `deinit`. The order in which the queue gives its elements does not matter here. -/
def deinit (s : BatchCommandSandbox) : BatchCommandSandbox :=
  let s := s.deinitCurrent
  let s := { s.commandStack.foldl deinitOne s with commandStack := [] }
  let queue := s.command_submitted_queue.map QueuedCommand.element
  let s := { queue.foldl deinitOne s with command_submitted_queue := [] }
  { s with acquireHandlerFunctor := none, correlationHandlerFunctor := none }

/-- A sandbox after `init`, with or with no event handler. -/
def create (event_handler : Bool) (cmd : CommandRef → BatchCommand) : BatchCommandSandbox where
  stat := ⟨0, 0, 0⟩
  event_handler := event_handler
  scheduleWorkFlag := false
  serviceState := .IS_INITIATED
  cmd := cmd
  enqueued := 0
  command_submitted_queue := []
  currentExecutingCommand := none
  commandStack := []
  acquireHandlerFunctor := none
  correlationHandlerFunctor := none
  disposed := []
  events := []
  sandboxEvents := []

end BatchCommandSandbox

/-! ## Runs -/

open BatchCommandSandbox

/-- What can happen to a sandbox, in any order. -/
inductive SandboxCall
  | enqueueCommand (new : NewCommand) (priority : UInt32)
  | checkNextCommand (env : CheckerEnv)
  | runCommand (env : RunEnv)
  | killCurrentCommand
  | start
  | stop
  | deinit

/-- One call. `start` and `stop` set the flag that the threads read, and the service is not
initialised after `deinit`. -/
def sandboxStep (s : BatchCommandSandbox) : SandboxCall → Option BatchCommandSandbox
  | .enqueueCommand new priority => some (s.enqueueCommand new priority).1
  | .checkNextCommand env => some (s.checkNextCommand env).1
  | .runCommand env => some (s.runCommand env).1
  | .killCurrentCommand => s.killCurrentCommand
  | .start => some { s with scheduleWorkFlag := true, stat := ⟨0, 0, 0⟩ }
  | .stop => some { s with scheduleWorkFlag := false }
  | .deinit => some { s.deinit with serviceState := .IS_DEINTIATED }

end chaos.batch_command
