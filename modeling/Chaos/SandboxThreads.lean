-- The threads of a sandbox between `start` and `stop`: the checker, the scheduler, the thread that
-- starts and stops them, and the ones that submit commands. Each critical section of the mutex of
-- the checker, each operation of a semaphore, and each wait and notification of the condition
-- variable is one step.
import Chaos.FutureWaiting
import Chaos.SandboxFrames

namespace chaos.batch_command

open BatchCommandSandbox RunningVSSubmissioneResult
open chaos.common.io (WaitSemaphore)

/-! ## Where the threads are -/

/-- A wait of the checker on `waithForNextCheck`: the one before its loop, with its copy of the
flag, or one in the loop, with a timeout or none, and whether the flag is tested after it. -/
inductive CheckerSleep
  | first (canWork : Bool)
  | next (timeout : Option UInt32) (tests : Bool)
  deriving DecidableEq

/-- The checker has no thread, or it is before one of its steps: the copy of the flag, a wait
(and asleep in it), the test and the notification before the loop, the lock of the mutex, the
head of the loop, the end of an iteration (before it wakes the scheduler, and after), the test
of the flag in the loop, the notification after the loop, and the end of the function. -/
inductive CheckerPhase
  | ended
  | created
  | entering (wait : CheckerSleep)
  | asleep (wait : CheckerSleep)
  | firstTest (canWork : Bool)
  | firstNotify
  | locking (canWork tests : Bool)
  | atHead (canWork : Bool)
  | unlockingScheduler (pause : CheckerPause)
  | paused (pause : CheckerPause)
  | testing
  | lastNotify
  | leaving
  deriving DecidableEq

/-- The scheduler has no thread, or it is before the copy of the flag, before an iteration, before
it wakes the checker, or in a wait on `threadSchedulerPauseCondition`. -/
inductive SchedulerPhase
  | ended
  | created
  | iterating (canWork : Bool)
  | notifying (canWork : Bool)
  | entering (canWork timed : Bool)
  | asleep (canWork timed : Bool)
  deriving DecidableEq

/-- Where the thread is that calls `start` and `stop`. -/
inductive ControlPhase
  | stopped
  | started
  | locked
  | cleared
  | schedulerUnlocked
  | checkerUnlocked
  | waiting
  | awakened
  | joiningScheduler
  | joiningChecker
  deriving DecidableEq

inductive MutexOwner
  | checker
  | stop
  deriving DecidableEq

/-- The wait has a timeout. -/
def CheckerSleep.timed : CheckerSleep → Bool
  | .first _ => false
  | .next timeout _ => timeout.isSome

/-- Where the checker is after the wait. -/
def CheckerSleep.after : CheckerSleep → CheckerPhase
  | .first canWork => .firstTest canWork
  | .next _ tests => .locking true tests

/-- The end of an iteration of the scheduler, which tests its copy of the flag. -/
def SchedulerPhase.whileHead (canWork : Bool) : SchedulerPhase :=
  if canWork then .iterating canWork else .ended

/-- Does an iteration of the checker unlock `threadSchedulerPauseCondition`? -/
def BatchCommandSandbox.wakesScheduler (s : BatchCommandSandbox) (env : CheckerEnv) : Bool :=
  match s.top env.tie, s.currentExecutingCommand with
  | none, none => false
  | none, some current =>
    decide (RP_End ≤ (s.cmd current).runningProperty) && !s.commandStack.isEmpty
  | some _, none => true
  | some next, some current =>
    if (s.cmd next.element).implementedHandler ≤ 1 then false
    else
      match CHECK_RUNNING_VS_SUBMISSION env (s.cmd current).runningProperty
          (s.cmd next.element).submissionRule with
      | none | some RSR_NO_CHANGE | some RSR_TIMED_RETRY => false
      | some RSR_STACK_CURENT_COMMAND | some RSR_KILL_KURRENT_COMMAND
      | some RSR_CURRENT_CMD_HAS_ENDED | some RSR_CURRENT_CMD_HAS_FAULTED => true

/-- A sandbox and its threads. `submitters` counts the calls of `enqueueCommand` that have not
unlocked the checker yet. -/
structure SandboxThreads where
  sandbox : BatchCommandSandbox
  mutexNextCommandChecker : Option MutexOwner := none
  waithForNextCheck : WaitSemaphore := {}
  threadSchedulerPauseCondition : WaitSemaphore := {}
  checker : CheckerPhase := .ended
  scheduler : SchedulerPhase := .ended
  control : ControlPhase := .stopped
  submitters : Nat := 0

namespace SandboxThreads

/-! ## The steps -/

/-- `conditionWaithSchedulerEnd.notify_one`, which is lost where nobody waits. -/
def notify_one (s : SandboxThreads) : SandboxThreads :=
  if s.control = .waiting then { s with control := .awakened } else s

/-- What a wait makes of its semaphore, and whether it is over at once. -/
def enter (semaphore : WaitSemaphore) (timed : Bool) : WaitSemaphore × Bool :=
  if timed then semaphore.timedWait else semaphore.wait

/-- A thread that sleeps goes on when it is answered, or when its time is over. -/
def awakes (semaphore : WaitSemaphore) (timed timedOut : Bool) : Bool :=
  semaphore.answered || (timed && timedOut)

/-- One step of `checkNextCommand`. -/
def checkerStep (s : SandboxThreads) (env : CheckerEnv) (timedOut : Bool) :
    Option SandboxThreads :=
  match s.checker with
  | .ended => none
  | .created => some { s with checker := .entering (.first s.sandbox.scheduleWorkFlag) }
  | .entering wait =>
    let r := enter s.waithForNextCheck wait.timed
    some { s with
      waithForNextCheck := r.1
      checker := if r.2 then wait.after else .asleep wait }
  | .asleep wait =>
    if awakes s.waithForNextCheck wait.timed timedOut then
      some { s with waithForNextCheck := s.waithForNextCheck.leave, checker := wait.after }
    else none
  | .firstTest canWork =>
    some { s with
      checker := if s.sandbox.scheduleWorkFlag then .locking canWork false else .firstNotify }
  | .firstNotify => some { s.notify_one with checker := .ended }
  | .locking canWork tests =>
    if s.mutexNextCommandChecker = none then
      some { s with
        mutexNextCommandChecker := some .checker
        checker := if tests then .testing else .atHead canWork }
    else none
  | .atHead false => some { s with checker := .lastNotify }
  | .atHead true =>
    let r := s.sandbox.checkNextCommand env
    some { s with
      sandbox := r.1
      checker := if s.sandbox.wakesScheduler env then .unlockingScheduler r.2 else .paused r.2 }
  | .unlockingScheduler pause =>
    some { s with
      threadSchedulerPauseCondition := s.threadSchedulerPauseCondition.unlock
      checker := .paused pause }
  | .paused .again => some { s with checker := .atHead true }
  | .paused .checkFlag => some { s with checker := .testing }
  | .paused (.waitThenContinue timeout) =>
    some { s with mutexNextCommandChecker := none, checker := .entering (.next timeout false) }
  | .paused .waitThenCheckFlag =>
    some { s with mutexNextCommandChecker := none, checker := .entering (.next none true) }
  | .testing => some { s with checker := .atHead s.sandbox.scheduleWorkFlag }
  | .lastNotify => some { s.notify_one with checker := .leaving }
  | .leaving => some { s with mutexNextCommandChecker := none, checker := .ended }

/-- One step of `runCommand`. The mutex of the current command makes an iteration one step. -/
def schedulerStep (s : SandboxThreads) (env : RunEnv) (timedOut : Bool) :
    Option SandboxThreads :=
  match s.scheduler with
  | .ended => none
  | .created => some { s with scheduler := .iterating s.sandbox.scheduleWorkFlag }
  | .iterating canWork =>
    let r := s.sandbox.runCommand env
    some { s with
      sandbox := r.1
      scheduler :=
        match r.2 with
        | .leave => .ended
        | .again => .whileHead canWork
        | .waitUSec _ => .entering canWork true
        | .notifyAndWait => .notifying canWork }
  | .notifying canWork =>
    some { s with
      waithForNextCheck := s.waithForNextCheck.unlock
      scheduler := .entering canWork false }
  | .entering canWork timed =>
    let r := enter s.threadSchedulerPauseCondition timed
    some { s with
      threadSchedulerPauseCondition := r.1
      scheduler := if r.2 then .whileHead canWork else .asleep canWork timed }
  | .asleep canWork timed =>
    if awakes s.threadSchedulerPauseCondition timed timedOut then
      some { s with
        threadSchedulerPauseCondition := s.threadSchedulerPauseCondition.leave
        scheduler := .whileHead canWork }
    else none

/-- One step of the thread that calls `start` and, some time later, `stop`. -/
def controlStep (s : SandboxThreads) : Option SandboxThreads :=
  match s.control with
  | .stopped =>
    some { s with
      sandbox := { s.sandbox with scheduleWorkFlag := true, stat := ⟨0, 0, 0⟩ }
      scheduler := .created
      checker := .created
      control := .started }
  | .started =>
    if s.mutexNextCommandChecker = none then
      some { s with mutexNextCommandChecker := some .stop, control := .locked }
    else none
  | .locked =>
    some { s with
      sandbox := { s.sandbox with scheduleWorkFlag := false }
      control := .cleared }
  | .cleared =>
    some { s with
      threadSchedulerPauseCondition := s.threadSchedulerPauseCondition.unlock
      control := .schedulerUnlocked }
  | .schedulerUnlocked =>
    some { s with
      waithForNextCheck := s.waithForNextCheck.unlock
      control := .checkerUnlocked }
  | .checkerUnlocked => some { s with mutexNextCommandChecker := none, control := .waiting }
  | .waiting => none
  | .awakened =>
    if s.mutexNextCommandChecker = none then
      some { s with mutexNextCommandChecker := some .stop, control := .joiningScheduler }
    else none
  | .joiningScheduler =>
    if s.scheduler = .ended then some { s with control := .joiningChecker } else none
  | .joiningChecker =>
    if s.checker = .ended then
      some { s with mutexNextCommandChecker := none, control := .stopped }
    else none

/-- The part of `enqueueCommand` that holds the mutex of the checker. -/
def enqueueStep (s : SandboxThreads) (new : NewCommand) (priority : UInt32) :
    Option SandboxThreads :=
  if s.mutexNextCommandChecker = none then
    let r := s.sandbox.enqueueCommand new priority
    some { s with sandbox := r.1, submitters := if r.2 then s.submitters + 1 else s.submitters }
  else none

end SandboxThreads

open SandboxThreads

/-- What can happen next. The condition variable may wake `stop` with no notification. -/
inductive ThreadStep
  | control
  | spuriousWakeUp
  | checker (env : CheckerEnv) (timedOut : Bool)
  | scheduler (env : RunEnv) (timedOut : Bool)
  | enqueueCommand (new : NewCommand) (priority : UInt32)
  | unlockChecker
  | killCurrentCommand

def threadStep (s : SandboxThreads) : ThreadStep → Option SandboxThreads
  | .control => s.controlStep
  | .spuriousWakeUp =>
    if s.control = .waiting then some { s with control := .awakened } else none
  | .checker env timedOut => s.checkerStep env timedOut
  | .scheduler env timedOut => s.schedulerStep env timedOut
  | .enqueueCommand new priority => s.enqueueStep new priority
  | .unlockChecker =>
    if s.submitters = 0 then none
    else some { s with
      waithForNextCheck := s.waithForNextCheck.unlock
      submitters := s.submitters - 1 }
  | .killCurrentCommand => s.sandbox.killCurrentCommand.map fun t => { s with sandbox := t }

/-- A sandbox with no threads, before its first `start`. -/
def SandboxThreads.atRest (sandbox : BatchCommandSandbox) : SandboxThreads where
  sandbox := sandbox

/-- `stop` waits for the end of a checker that has returned. -/
def LeftWaiting (s : SandboxThreads) : Prop :=
  s.control = .waiting ∧ s.checker = .ended

instance (s : SandboxThreads) : Decidable (LeftWaiting s) :=
  inferInstanceAs (Decidable (_ ∧ _))

end chaos.batch_command
