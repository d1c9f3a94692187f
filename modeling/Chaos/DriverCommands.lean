-- A driver and its accessors. The calls of an accessor push messages in the command queue of the
-- driver, the thread of the driver pops them, executes them and pushes their ids in the response
-- queue that each message names. The memory of a message belongs to the caller.
import Chaos.PriorityQueue
import Chaos.Runs
import Mathlib.Data.List.Count
import Mathlib.Data.List.Nodup

namespace chaos.cu.driver_manager.driver

open runs

def OP_DEINIT : UInt16 := 65535

inductive MsgManagmentResult where
  | MMR_EXECUTED
  | MMR_THREAD_DISPATCHED
  | MMR_ERROR
  deriving DecidableEq, Repr

/-- The response queues of an accessor: `send` waits on the one, `sendAsync` names the other. -/
inductive AccessorQueue where
  | accessor_sync_mq
  | accessor_async_mq
  deriving DecidableEq, Repr

/-- `drvResponseMQ` is the accessor and which of its queues. -/
structure DrvMsg where
  id : UInt64 := 0
  opcode : UInt16 := 0
  drvResponseMQ : Option (Nat × AccessorQueue) := none
  deriving DecidableEq, Repr, Inhabited

/-- An element of a response queue, and the number of the call that it answers, which is not in
the code. -/
structure Response where
  id : UInt64
  call : Option Nat
  deriving DecidableEq, Repr

structure DriverAccessor where
  messages_count : UInt64 := 0
  base_opcode_priority : UInt32 := 50
  sync_mq : List Response := []
  async_mq : List Response := []
  deriving DecidableEq, Repr

/-- An element of the command queue: the pointer to the message, the priority, and the number of
the call that pushed it, which is not in the code. The message of `deinit` is of no call. -/
structure Command where
  cmd : Nat
  priority : Int
  call : Option Nat
  deriving DecidableEq, Repr

/-- Where the driver thread is in `scanForMessage`: at the wait for the next command, at
`execOpcode`, at the test of its loop, or out of it. -/
inductive ScanPhase where
  | waiting
  | executing (c : Command)
  | testing (cmd : Nat)
  | terminated
  deriving DecidableEq, Repr

def ScanPhase.commands : ScanPhase → List Command
  | .executing c => [c]
  | _ => []

/-- A call of `send` or `sendAsync`, with the id that it gave to its message. -/
structure Call where
  accessor : Nat
  mq : AccessorQueue
  id : UInt64
  deriving DecidableEq, Repr

/-- A response that was pushed, and the queue that it was pushed in. -/
structure Answer where
  call : Option Nat
  accessor : Nat
  mq : AccessorQueue
  id : UInt64
  deriving DecidableEq, Repr

/-- A call of `getLastAsyncMsg`: the answers that it has to choose from, and what it gave. -/
structure Poll where
  completed : List Answer
  result : Option Response
  deriving DecidableEq, Repr

/-- `dispatched` are the messages that a thread of the driver's own has still to answer. The
fields from `calls` on are not in the code: the calls so far, the responses pushed, the calls of
`send` that wait, what each of the others has popped, and the polls. -/
structure Driver where
  accessors : Nat → DriverAccessor
  messages : Nat → DrvMsg
  command_queue : List Command := []
  phase : ScanPhase := .waiting
  driverNeedtoDeinitialize : Bool := false
  dispatched : List Command := []
  calls : List Call := []
  answers : List Answer := []
  sending : List Nat := []
  sent : List (Nat × Response) := []
  polls : List Poll := []

namespace Driver

/-- The driver after `init`, with the priorities that its accessors start from. -/
def new (base_opcode_priority : Nat → UInt32) : Driver :=
  { accessors := fun a => { base_opcode_priority := base_opcode_priority a }
    messages := fun _ => {} }

/-! ## The queues -/

/-- The queue takes the sum of unsigned numbers as a signed priority. -/
def priority (base inc : UInt32) : Int := (base + inc).toInt32.toInt

/-- All responses are pushed with the default priority. -/
def responseTop (q : List Response) (tie : Nat) : Option Response :=
  pqueue.top (fun _ => 50) q tie

def pushResponse (a : DriverAccessor) (r : Response) : AccessorQueue → DriverAccessor
  | .accessor_sync_mq => { a with sync_mq := a.sync_mq ++ [r] }
  | .accessor_async_mq => { a with async_mq := a.async_mq ++ [r] }

/-! ## The accessor -/

/-- What `send` and `sendAsync` do up to the push: the message gets the next id and the queue of
its answer. -/
def submit (s : Driver) (accessor cmd : Nat) (mq : AccessorQueue) (inc_priority : UInt32) :
    Driver :=
  let a := s.accessors accessor
  let id := a.messages_count
  { s with
    accessors := Function.update s.accessors accessor { a with messages_count := id + 1 }
    messages := Function.update s.messages cmd
      { s.messages cmd with id := id, drvResponseMQ := some (accessor, mq) }
    command_queue := s.command_queue ++
      [⟨cmd, priority a.base_opcode_priority inc_priority, some s.calls.length⟩]
    calls := s.calls ++ [⟨accessor, mq, id⟩] }

/-- `send` up to its wait. -/
def send (s : Driver) (accessor cmd : Nat) (inc_priority : UInt32) : Driver :=
  { s.submit accessor cmd .accessor_sync_mq inc_priority with
    sending := s.sending ++ [s.calls.length] }

/-- `wait_and_pop` of `send`, which waits while the queue is empty. The id is not looked at. -/
def sendReturns (s : Driver) (call tie : Nat) : Option Driver :=
  if call ∈ s.sending then
    s.calls[call]?.bind fun c =>
      let a := s.accessors c.accessor
      (responseTop a.sync_mq tie).map fun r =>
        { s with
          accessors := Function.update s.accessors c.accessor
            { a with sync_mq := a.sync_mq.erase r }
          sending := s.sending.erase call
          sent := s.sent ++ [(call, r)] }
  else none

def sendAsync (s : Driver) (accessor cmd : Nat) (inc_priority : UInt32) : Driver :=
  s.submit accessor cmd .accessor_async_mq inc_priority

/-- The asynchronous calls of the accessor that are answered and that no poll has returned. -/
def completed (s : Driver) (accessor : Nat) : List Answer :=
  s.answers.filter fun r => r.accessor = accessor ∧ r.mq = .accessor_async_mq ∧
    ∀ p ∈ s.polls, ∀ x, p.result = some x → x.call ≠ r.call

/-- `try_pop` on the queue that `send` waits on. -/
def getLastAsyncMsg (s : Driver) (accessor tie : Nat) : Driver :=
  let a := s.accessors accessor
  match responseTop a.sync_mq tie with
  | none => { s with polls := s.polls ++ [⟨s.completed accessor, none⟩] }
  | some r =>
    { s with
      accessors := Function.update s.accessors accessor { a with sync_mq := a.sync_mq.erase r }
      polls := s.polls ++ [⟨s.completed accessor, some r⟩] }

/-- The caller writes to the memory of a message. -/
def write (s : Driver) (cmd : Nat) (msg : DrvMsg) : Driver :=
  { s with messages := Function.update s.messages cmd msg }

/-! ## The driver -/

def deinit (s : Driver) : Driver := { s with driverNeedtoDeinitialize := true }

/-- The commands that are still to be answered. -/
def onTheirWay (s : Driver) : List Command :=
  s.command_queue ++ s.phase.commands ++ s.dispatched

/-- `deinit` pushes a message of its own with the default priority. Its memory is in no use. -/
def deinitMessage (s : Driver) (cmd : Nat) : Option Driver :=
  if s.driverNeedtoDeinitialize ∧ cmd ∉ s.onTheirWay.map (·.cmd) then
    some { s with
      messages := Function.update s.messages cmd { opcode := OP_DEINIT }
      command_queue := s.command_queue ++ [⟨cmd, 50, none⟩] }
  else none

/-- `wait_and_pop` of `scanForMessage`. -/
def pop (s : Driver) (tie : Nat) : Option Driver :=
  if s.phase = .waiting then
    (pqueue.top (·.priority) s.command_queue tie).map fun c =>
      { s with command_queue := s.command_queue.erase c, phase := .executing c }
  else none

/-- The id that the message now has is pushed in the queue that it now names, if it names one. -/
def answer (s : Driver) (c : Command) : Driver :=
  let msg := s.messages c.cmd
  match msg.drvResponseMQ with
  | some (accessor, mq) =>
    { s with
      accessors := Function.update s.accessors accessor
        (pushResponse (s.accessors accessor) ⟨msg.id, c.call⟩ mq)
      answers := s.answers ++ [⟨c.call, accessor, mq, msg.id⟩] }
  | none => s

/-- `execOpcode` and the notification of the caller. -/
def execOpcode (s : Driver) (result : MsgManagmentResult) : Option Driver :=
  match s.phase with
  | .executing c =>
    match result with
    | .MMR_ERROR | .MMR_EXECUTED => some { s.answer c with phase := .testing c.cmd }
    | .MMR_THREAD_DISPATCHED =>
      some { s with dispatched := s.dispatched ++ [c], phase := .testing c.cmd }
  | _ => none

/-- The test of the loop reads the message again, after the answer. -/
def test (s : Driver) : Option Driver :=
  match s.phase with
  | .testing cmd =>
    some { s with
      phase :=
        if (s.messages cmd).opcode ≠ OP_DEINIT ∧ s.driverNeedtoDeinitialize = false then .waiting
        else .terminated }
  | _ => none

/-- A thread of the driver's own has executed a message that was dispatched to it. -/
def driverAnswers (s : Driver) (i : Nat) : Option Driver :=
  s.dispatched[i]?.map fun c => { s.answer c with dispatched := s.dispatched.eraseIdx i }

/-! ## The steps -/

inductive Label where
  | send (accessor cmd : Nat) (inc_priority : UInt32)
  | sendReturns (call tie : Nat)
  | sendAsync (accessor cmd : Nat) (inc_priority : UInt32)
  | getLastAsyncMsg (accessor tie : Nat)
  | write (cmd : Nat) (msg : DrvMsg)
  | deinit
  | deinitMessage (cmd : Nat)
  | pop (tie : Nat)
  | execOpcode (result : MsgManagmentResult)
  | test
  | driverAnswers (i : Nat)
  deriving DecidableEq, Repr

def step (s : Driver) : Label → Option Driver
  | .send accessor cmd inc_priority => some (s.send accessor cmd inc_priority)
  | .sendReturns call tie => s.sendReturns call tie
  | .sendAsync accessor cmd inc_priority => some (s.sendAsync accessor cmd inc_priority)
  | .getLastAsyncMsg accessor tie => some (s.getLastAsyncMsg accessor tie)
  | .write cmd msg => some (s.write cmd msg)
  | .deinit => some s.deinit
  | .deinitMessage cmd => s.deinitMessage cmd
  | .pop tie => s.pop tie
  | .execOpcode result => s.execOpcode result
  | .test => s.test
  | .driverAnswers i => s.driverAnswers i

end Driver

end chaos.cu.driver_manager.driver
