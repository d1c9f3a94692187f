-- One batch command: its fields, the calls that its handlers can make on it, and what the
-- framework writes into it when a handler throws or a timeout ends it.
import Mathlib.Tactic.Common

namespace chaos.batch_command

/-! ## The types -/

/-- The events that a sandbox reports about a command. -/
inductive BatchCommandEventType
  | EVT_QUEUED
  | EVT_WAITING
  | EVT_RUNNING
  | EVT_PAUSED
  | EVT_COMPLETED
  | EVT_FAULT
  | EVT_KILLED
  deriving DecidableEq

/-- The number of an event in the C++ enumeration, which the history code compares. -/
def BatchCommandEventType.code : BatchCommandEventType → Nat
  | .EVT_QUEUED => 0
  | .EVT_WAITING => 1
  | .EVT_RUNNING => 2
  | .EVT_PAUSED => 3
  | .EVT_COMPLETED => 4
  | .EVT_FAULT => 5
  | .EVT_KILLED => 6

/-- A command is completed, faulted or killed: `EVT_COMPLETED` and the events after it. -/
def BatchCommandEventType.isTerminal (t : BatchCommandEventType) : Bool :=
  decide (BatchCommandEventType.EVT_COMPLETED.code ≤ t.code)

structure FaultDescription where
  source : String
  code : Int
  description : String
  domain : String
  deriving DecidableEq

def HT_Set : UInt8 := 1
def HT_Acquisition : UInt8 := 2
def HT_Correlation : UInt8 := 4

/-- The command cannot be killed or removed. -/
def RP_Exsc : UInt8 := 0
/-- The command can be stacked or killed. -/
def RP_Normal : UInt8 := 1
/-- The command has ended its work. -/
def RP_End : UInt8 := 2
/-- The command has had a fault. -/
def RP_Fault : UInt8 := 3

def SUBMIT_AND_Stack : UInt8 := 0
def SUBMIT_AND_Kill : UInt8 := 1
def SUBMIT_NORMAL : UInt8 := 2

inductive FeatureFlag
  | FF_SET_SCHEDULER_DELAY
  | FF_SET_SUBMISSION_RETRY
  | FF_SET_COMMAND_TIMEOUT
  | FF_LOCK_USER_MOD
  deriving DecidableEq

def FeatureFlag.bit : FeatureFlag → UInt8
  | .FF_SET_SCHEDULER_DELAY => 1
  | .FF_SET_SUBMISSION_RETRY => 2
  | .FF_SET_COMMAND_TIMEOUT => 4
  | .FF_LOCK_USER_MOD => 8

structure Features where
  featuresFlag : UInt8
  featureSchedulerStepsDelay : UInt64
  featureSubmissionRetryDelay : UInt32
  featureCommandTimeout : UInt64
  deriving DecidableEq

/-- The times of the last step of a sandbox. -/
structure SandboxStat where
  lastCmdStepStart : UInt64
  lastCmdStepTime : UInt64
  lastHBTime : UInt64
  deriving DecidableEq

/-- The fields of a command. `implementedHandler` is the answer of the virtual method of
that name, and `lockFeaturePropertyFlag` holds the three lock bits. -/
structure BatchCommand where
  unique_id : UInt64
  command_alias : String
  already_setupped : Bool
  command_set_time_usec : UInt64
  lockFeaturePropertyFlag : BitVec 3
  commandFeatures : Features
  runningProperty : UInt8
  submissionRule : UInt8
  fault_description : FaultDescription
  implementedHandler : UInt8
  deriving DecidableEq

/-- A command as its constructors leave it. Only a sandbox sets `already_setupped`, and only
the executor sets a lock bit, on a command that runs. -/
structure NewCommand extends BatchCommand where
  not_setupped : already_setupped = false
  unlocked : lockFeaturePropertyFlag = 0

/-! ## The calls on a command -/

def BatchCommand.setCommandAlias (b : BatchCommand) (name : String) : BatchCommand :=
  { b with
    command_alias := name
    fault_description := { b.fault_description with source := name } }

/-- Bit 0 or bit 2 of the lock denies a change of the features. -/
def BatchCommand.featuresLocked (b : BatchCommand) : Bool :=
  b.lockFeaturePropertyFlag[0] || b.lockFeaturePropertyFlag[2]

/-- The overload of `setFeatures` for a 32 bit value: it knows the submission retry only. -/
def BatchCommand.setFeatures32 (b : BatchCommand) (f : FeatureFlag) (value : UInt32) :
    BatchCommand :=
  if b.featuresLocked then b else
  match f with
  | .FF_SET_SUBMISSION_RETRY =>
    { b with
      commandFeatures :=
        { b.commandFeatures with
          featuresFlag := b.commandFeatures.featuresFlag ||| f.bit
          featureSubmissionRetryDelay := value } }
  | _ => b

/-- The overload of `setFeatures` for a 64 bit value. -/
def BatchCommand.setFeatures64 (b : BatchCommand) (f : FeatureFlag) (value : UInt64) :
    BatchCommand :=
  if b.featuresLocked then b else
  match f with
  | .FF_SET_SCHEDULER_DELAY =>
    { b with
      commandFeatures :=
        { b.commandFeatures with
          featuresFlag := b.commandFeatures.featuresFlag ||| f.bit
          featureSchedulerStepsDelay := value } }
  | .FF_SET_COMMAND_TIMEOUT =>
    { b with
      commandFeatures :=
        { b.commandFeatures with
          featuresFlag := b.commandFeatures.featuresFlag ||| f.bit
          featureCommandTimeout := value } }
  | _ => b

/-- `clearFeatures` flips the bit of the feature, and zeroes its value. -/
def BatchCommand.clearFeatures (b : BatchCommand) (f : FeatureFlag) : BatchCommand :=
  if b.featuresLocked then b else
  let flags := b.commandFeatures.featuresFlag ^^^ f.bit
  match f with
  | .FF_SET_SCHEDULER_DELAY =>
    { b with
      commandFeatures :=
        { b.commandFeatures with featuresFlag := flags, featureSchedulerStepsDelay := 0 } }
  | .FF_SET_SUBMISSION_RETRY =>
    { b with
      commandFeatures :=
        { b.commandFeatures with featuresFlag := flags, featureSubmissionRetryDelay := 0 } }
  | .FF_SET_COMMAND_TIMEOUT =>
    { b with
      commandFeatures :=
        { b.commandFeatures with featuresFlag := flags, featureCommandTimeout := 0 } }
  | .FF_LOCK_USER_MOD =>
    { b with commandFeatures := { b.commandFeatures with featuresFlag := flags } }

/-- Bit 1 of the lock denies a change of the running property. -/
def BatchCommand.propertyLocked (b : BatchCommand) : Bool := b.lockFeaturePropertyFlag[1]

def BatchCommand.setRunningProperty (b : BatchCommand) (property : UInt8) : BatchCommand :=
  if b.propertyLocked then b else { b with runningProperty := property }

/-! ## The handlers -/

/-- A call that the code of a handler can make on its own command. -/
inductive HandlerCall
  | setCommandAlias (name : String)
  | setFeatures32 (f : FeatureFlag) (value : UInt32)
  | setFeatures64 (f : FeatureFlag) (value : UInt64)
  | clearFeatures (f : FeatureFlag)
  | setRunningProperty (property : UInt8)
  deriving DecidableEq

def HandlerCall.apply (b : BatchCommand) : HandlerCall → BatchCommand
  | .setCommandAlias name => b.setCommandAlias name
  | .setFeatures32 f value => b.setFeatures32 f value
  | .setFeatures64 f value => b.setFeatures64 f value
  | .clearFeatures f => b.clearFeatures f
  | .setRunningProperty property => b.setRunningProperty property

/-- What a handler throws, as the three catch clauses tell it apart. -/
inductive Thrown
  | cException (errorCode : Int) (errorMessage errorDomain : String)
  | stdException (what : String)
  | unmanaged
  deriving DecidableEq

/-- The outcome of one call of a handler: the calls it made on its command, and what it threw. -/
structure HandlerOutcome where
  calls : List HandlerCall
  thrown : Option Thrown
  deriving DecidableEq

/-- The macro `SET_NAMED_FAULT`. -/
def BatchCommand.setFault (b : BatchCommand) (code : Int) (message domain : String) :
    BatchCommand :=
  let b := b.setRunningProperty RP_Fault
  { b with
    fault_description :=
      { b.fault_description with code := code, description := message, domain := domain } }

/-- The catch clauses around a handler, with the codes for a standard exception and for an
unmanaged one, and the domain that the clause names. -/
def BatchCommand.caught (b : BatchCommand) (stdCode otherCode : Int) (domain : String) :
    Thrown → BatchCommand
  | .cException code message dom => b.setFault code message dom
  | .stdException what => b.setFault stdCode what domain
  | .unmanaged => b.setFault otherCode "Unmanaged exception" domain

/-- The command after the calls of a handler. -/
def HandlerOutcome.after (o : HandlerOutcome) (b : BatchCommand) : BatchCommand :=
  o.calls.foldl HandlerCall.apply b

/-- The command after a handler, with its exception caught. -/
def HandlerOutcome.guarded (o : HandlerOutcome) (stdCode otherCode : Int) (domain : String)
    (b : BatchCommand) : BatchCommand :=
  match o.thrown with
  | none => o.after b
  | some t => (o.after b).caught stdCode otherCode domain t

def BatchCommand.commandPre (b : BatchCommand) (now : UInt64) : BatchCommand :=
  { b with command_set_time_usec := now }

/-- The check of the timeout after a step. `timeout` and `expired` are what the timeout
handler does and gives back, when it is called. -/
def BatchCommand.commandPost (b : BatchCommand) (stat : SandboxStat) (timeout : HandlerOutcome)
    (expired : Bool) : BatchCommand :=
  if b.commandFeatures.featuresFlag &&& FeatureFlag.FF_SET_COMMAND_TIMEOUT.bit = 0 then b
  else if stat.lastCmdStepStart - b.command_set_time_usec < b.commandFeatures.featureCommandTimeout
  then b
  else
    match timeout.thrown with
    | some t => (timeout.after b).caught (-2) (-3) "Acquisition Handler" t
    | none =>
      if expired then (timeout.after b).setFault (-1) "Command timeout" "commandPost"
      else timeout.after b

/-! ## What the calls leave alone -/

/-- A property of a command that the allowed calls of its handlers keep, and a fault too: it is
kept by the changes that they are made of. -/
structure HandlersKeep (allowed : HandlerCall → Prop) (P : BatchCommand → Prop) : Prop where
  names : ∀ (b : BatchCommand) name fault, P b →
    P { b with command_alias := name, fault_description := fault }
  features : ∀ (b : BatchCommand) features, P b → P { b with commandFeatures := features }
  property : ∀ (b : BatchCommand) property,
    allowed (.setRunningProperty property) ∨ property = RP_Fault → P b →
      P { b with runningProperty := property }

namespace HandlersKeep

variable {allowed : HandlerCall → Prop} {P : BatchCommand → Prop} {b : BatchCommand}

theorem setRunningProperty (h : HandlersKeep allowed P) {property : UInt8}
    (hp : allowed (.setRunningProperty property) ∨ property = RP_Fault) (hb : P b) :
    P (b.setRunningProperty property) := by
  unfold BatchCommand.setRunningProperty
  split
  · exact hb
  · exact h.property b property hp hb

theorem apply (h : HandlersKeep allowed P) {call : HandlerCall} (hcall : allowed call)
    (hb : P b) : P (call.apply b) := by
  cases call with
  | setCommandAlias name => exact h.names b _ _ hb
  | setRunningProperty property => exact h.setRunningProperty (.inl hcall) hb
  | setFeatures32 f value =>
    simp only [HandlerCall.apply, BatchCommand.setFeatures32]
    split
    · exact hb
    · cases f <;> first | exact hb | exact h.features b _ hb
  | setFeatures64 f value =>
    simp only [HandlerCall.apply, BatchCommand.setFeatures64]
    split
    · exact hb
    · cases f <;> first | exact hb | exact h.features b _ hb
  | clearFeatures f =>
    simp only [HandlerCall.apply, BatchCommand.clearFeatures]
    split
    · exact hb
    · cases f <;> exact h.features b _ hb

theorem setFault (h : HandlersKeep allowed P) (code : Int) (message domain : String) (hb : P b) :
    P (b.setFault code message domain) :=
  h.names _ _ _ (h.setRunningProperty (.inr rfl) hb)

theorem after (h : HandlersKeep allowed P) {o : HandlerOutcome}
    (ho : ∀ call ∈ o.calls, allowed call) (hb : P b) : P (o.after b) := by
  obtain ⟨calls, thrown⟩ := o
  simp only [HandlerOutcome.after] at ho ⊢
  induction calls generalizing b with
  | nil => exact hb
  | cons call calls ih =>
    exact ih (h.apply (ho call List.mem_cons_self) hb) fun call' hc =>
      ho call' (List.mem_cons_of_mem _ hc)

theorem caught (h : HandlersKeep allowed P) (stdCode otherCode : Int) (domain : String)
    (t : Thrown) (hb : P b) : P (b.caught stdCode otherCode domain t) := by
  cases t <;> exact h.setFault _ _ _ hb

theorem guarded (h : HandlersKeep allowed P) {o : HandlerOutcome}
    (ho : ∀ call ∈ o.calls, allowed call) (stdCode otherCode : Int) (domain : String) (hb : P b) :
    P (o.guarded stdCode otherCode domain b) := by
  unfold HandlerOutcome.guarded
  split
  · exact h.after ho hb
  · exact h.caught _ _ _ _ (h.after ho hb)

theorem commandPost (h : HandlersKeep allowed P) {timeout : HandlerOutcome}
    (ho : ∀ call ∈ timeout.calls, allowed call) (stat : SandboxStat) (expired : Bool) (hb : P b) :
    P (b.commandPost stat timeout expired) := by
  unfold BatchCommand.commandPost
  split
  · exact hb
  · split
    · exact hb
    · split
      · exact h.caught _ _ _ _ (h.after ho hb)
      · split
        · exact h.setFault _ _ _ (h.after ho hb)
        · exact h.after ho hb

end HandlersKeep

/-- The fields that decide how the sandbox installs a command. No handler changes them. -/
structure SameSetup (b b' : BatchCommand) : Prop where
  handlers : b'.implementedHandler = b.implementedHandler
  setupped : b'.already_setupped = b.already_setupped
  lock : b'.lockFeaturePropertyFlag = b.lockFeaturePropertyFlag

theorem SameSetup.refl (b : BatchCommand) : SameSetup b b := ⟨rfl, rfl, rfl⟩

theorem SameSetup.trans {a b c : BatchCommand} (h : SameSetup a b) (h' : SameSetup b c) :
    SameSetup a c :=
  ⟨h'.handlers.trans h.handlers, h'.setupped.trans h.setupped, h'.lock.trans h.lock⟩

/-- No call of a handler changes the setup. -/
theorem handlersKeep_sameSetup (b : BatchCommand) :
    HandlersKeep (fun _ => True) (SameSetup b) where
  names _ _ _ h := ⟨h.handlers, h.setupped, h.lock⟩
  features _ _ h := ⟨h.handlers, h.setupped, h.lock⟩
  property _ _ _ h := ⟨h.handlers, h.setupped, h.lock⟩

theorem sameSetup_setRunningProperty (b : BatchCommand) (p : UInt8) :
    SameSetup b (b.setRunningProperty p) :=
  (handlersKeep_sameSetup b).setRunningProperty (.inl trivial) (.refl b)

theorem sameSetup_after (o : HandlerOutcome) (b : BatchCommand) : SameSetup b (o.after b) :=
  (handlersKeep_sameSetup b).after (fun _ _ => trivial) (.refl b)

theorem sameSetup_caught (b : BatchCommand) (stdCode otherCode : Int) (domain : String)
    (t : Thrown) : SameSetup b (b.caught stdCode otherCode domain t) :=
  (handlersKeep_sameSetup b).caught stdCode otherCode domain t (.refl b)

theorem sameSetup_guarded (o : HandlerOutcome) (stdCode otherCode : Int) (domain : String)
    (b : BatchCommand) : SameSetup b (o.guarded stdCode otherCode domain b) :=
  (handlersKeep_sameSetup b).guarded (fun _ _ => trivial) stdCode otherCode domain (.refl b)

theorem sameSetup_commandPost (b : BatchCommand) (stat : SandboxStat) (timeout : HandlerOutcome)
    (expired : Bool) : SameSetup b (b.commandPost stat timeout expired) :=
  (handlersKeep_sameSetup b).commandPost (fun _ _ => trivial) stat expired (.refl b)

theorem propertyLocked_congr {b b' : BatchCommand}
    (h : b'.lockFeaturePropertyFlag = b.lockFeaturePropertyFlag) :
    b'.propertyLocked = b.propertyLocked := by
  unfold BatchCommand.propertyLocked
  rw [h]

/-- A command whose running property is not locked is in fault after a caught exception. -/
theorem caught_runningProperty (b : BatchCommand) (stdCode otherCode : Int) (domain : String)
    (t : Thrown) (h : b.propertyLocked = false) :
    (b.caught stdCode otherCode domain t).runningProperty = RP_Fault := by
  cases t <;> simp [BatchCommand.caught, BatchCommand.setFault, BatchCommand.setRunningProperty, h]

end chaos.batch_command
