-- The state of a command on its way from the executor to a user of its device: the answer that
-- the executor builds, and what the device controller reads back from it by the names of the
-- fields.
import Chaos.Executor

namespace chaos.batch_command

/-! ## The answer -/

/-- A number is given by its bits. -/
inductive AnswerValue
  | string (bytes : List UInt8)
  | numberInt (n : UInt32)
  deriving DecidableEq, Repr

/-- The elements of a data wrapper, in the order in which they were added. -/
abbrev AnswerWrapper := List (String × AnswerValue)

namespace AnswerWrapper

def BSONObjMaxInternalSize : Nat := 16 * 1024 * 1024 + 16 * 1024

def valueSize : AnswerValue → Nat
  | .string bytes => 4 + bytes.length + 1
  | .numberInt _ => 4

/-- An element has a type, its name with a zero behind it, and the value. -/
def elementSize (element : String × AnswerValue) : Nat :=
  1 + (element.1.utf8ByteSize + 1) + valueSize element.2

/-- The size of the document, with its own four bytes and the zero at the end. -/
def objsize (w : AnswerWrapper) : Nat := 4 + (w.map elementSize).sum + 1

def addInt32Value (w : AnswerWrapper) (key : String) (value : UInt32) : AnswerWrapper :=
  w ++ [(key, .numberInt value)]

def addStringValue (w : AnswerWrapper) (key : String) (value : List UInt8) : AnswerWrapper :=
  w ++ [(key, .string value)]

/-- `asTempObj` and `getField`. A document that is too large is an exception, which is `none`. -/
def getField (w : AnswerWrapper) (key : String) : Option (Option AnswerValue) :=
  if w.objsize ≤ BSONObjMaxInternalSize then some (w.lookup key) else none

/-- What is no number is read as zero. -/
def getUInt32Value (w : AnswerWrapper) (key : String) : Option UInt32 :=
  (w.getField key).map fun
    | some (.numberInt n) => n
    | some (.string _) | none => 0

/-- What is no string is an exception. -/
def getStringValue (w : AnswerWrapper) (key : String) : Option (List UInt8) :=
  (w.getField key).bind fun
    | some (.string bytes) => some bytes
    | some (.numberInt _) | none => none

end AnswerWrapper

def RPC_GET_COMMAND_STATE_LAST_EVENT_UI32 : String := "gcs_last_event"
def RPC_GET_COMMAND_STATE_ERROR_CODE_UI32 : String := "gcs_error_code"
def RPC_GET_COMMAND_STATE_ERROR_DESC_STR : String := "gcs_error_desc"
def RPC_GET_COMMAND_STATE_ERROR_DOMAIN_STR : String := "gcs_error_domain"

/-- The number of `EVT_FAULT`. -/
def EVT_FAULT : UInt32 := 5

/-- A command state in the types of the machine: the event is its number, and the code of the
fault its bits. The source of the fault is not sent. -/
structure MachineCommandState where
  command_id : UInt64
  last_event : UInt32
  code : UInt32
  description : List UInt8
  domain : List UInt8
  deriving DecidableEq, Repr

def CommandState.machine (s : CommandState) : MachineCommandState where
  command_id := s.command_id
  last_event := UInt32.ofNat s.last_event.code
  code := (Int32.ofInt s.fault_description.code).toUInt32
  description := s.fault_description.description.toUTF8.toList
  domain := s.fault_description.domain.toUTF8.toList

namespace MachineCommandState

/-- The answer of the action `getCommandState` of the executor. -/
def answer (cmd_state : MachineCommandState) : AnswerWrapper :=
  let result := AnswerWrapper.addInt32Value [] RPC_GET_COMMAND_STATE_LAST_EVENT_UI32
    cmd_state.last_event
  if cmd_state.last_event = EVT_FAULT then
    ((result.addInt32Value RPC_GET_COMMAND_STATE_ERROR_CODE_UI32 cmd_state.code).addStringValue
      RPC_GET_COMMAND_STATE_ERROR_DESC_STR cmd_state.description).addStringValue
        RPC_GET_COMMAND_STATE_ERROR_DOMAIN_STR cmd_state.domain
  else result

/-- The bytes of a name of the code. -/
def nameBytes (name : String) : List UInt8 := name.toList.map fun c => UInt8.ofNat c.toNat

/-- `DeviceController::getCommandState`, from the answer on. The domain is set to the name of
the field. -/
def getCommandState (command_state : MachineCommandState) (resultData : AnswerWrapper) :
    Option MachineCommandState := do
  let last_event ← resultData.getUInt32Value RPC_GET_COMMAND_STATE_LAST_EVENT_UI32
  if last_event = EVT_FAULT then
    let code ← resultData.getUInt32Value RPC_GET_COMMAND_STATE_ERROR_CODE_UI32
    let description ← resultData.getStringValue RPC_GET_COMMAND_STATE_ERROR_DESC_STR
    let domain := nameBytes RPC_GET_COMMAND_STATE_ERROR_DOMAIN_STR
    some { command_state with last_event, code, description, domain }
  else some { command_state with last_event, code := 0, description := [], domain := [] }

end MachineCommandState

/-- The action `getCommandState` of the executor. -/
def BatchCommandExecutor.getCommandStateAnswer (e : BatchCommandExecutor) (command_id : UInt64) :
    Except CException AnswerWrapper :=
  match e.getCommandState command_id with
  | none => .error ⟨1, "The command requested is not present",
      "BatchCommandExecutor::getCommandSandboxStatistics"⟩
  | some r => .ok (e.state r).machine.answer

namespace MachineCommandState

/-! ## What is claimed -/

/-- The user who asks for the state of the command, with anything in the other fields, gets the
state back: the fault where there is one. -/
def RoundTrips (cmd_state command_state : MachineCommandState) : Prop :=
  ∃ r, getCommandState { command_state with command_id := cmd_state.command_id } cmd_state.answer =
      some r ∧
    r.command_id = cmd_state.command_id ∧ r.last_event = cmd_state.last_event ∧
    (cmd_state.last_event = EVT_FAULT → r.code = cmd_state.code ∧
      r.description = cmd_state.description ∧ r.domain = cmd_state.domain)

/-! ## The laws -/

variable {cmd_state : MachineCommandState}

theorem answer_of_fault (h : cmd_state.last_event = EVT_FAULT) :
    cmd_state.answer =
      [(RPC_GET_COMMAND_STATE_LAST_EVENT_UI32, .numberInt cmd_state.last_event),
        (RPC_GET_COMMAND_STATE_ERROR_CODE_UI32, .numberInt cmd_state.code),
        (RPC_GET_COMMAND_STATE_ERROR_DESC_STR, .string cmd_state.description),
        (RPC_GET_COMMAND_STATE_ERROR_DOMAIN_STR, .string cmd_state.domain)] := by
  unfold answer
  rw [if_pos h]
  rfl

theorem answer_of_no_fault (h : cmd_state.last_event ≠ EVT_FAULT) :
    cmd_state.answer =
      [(RPC_GET_COMMAND_STATE_LAST_EVENT_UI32, .numberInt cmd_state.last_event)] := by
  unfold answer
  rw [if_neg h]
  rfl

/-- The document of a fault has 89 bytes beside the description and the domain. -/
theorem objsize_of_fault (h : cmd_state.last_event = EVT_FAULT) :
    cmd_state.answer.objsize = 89 + cmd_state.description.length + cmd_state.domain.length := by
  have hevent : RPC_GET_COMMAND_STATE_LAST_EVENT_UI32.utf8ByteSize = 14 := by decide
  have hcode : RPC_GET_COMMAND_STATE_ERROR_CODE_UI32.utf8ByteSize = 14 := by decide
  have hdesc : RPC_GET_COMMAND_STATE_ERROR_DESC_STR.utf8ByteSize = 14 := by decide
  have hdomain : RPC_GET_COMMAND_STATE_ERROR_DOMAIN_STR.utf8ByteSize = 16 := by decide
  rw [answer_of_fault h]
  simp only [AnswerWrapper.objsize, AnswerWrapper.elementSize, AnswerWrapper.valueSize,
    List.map_cons, List.map_nil, List.sum_cons, List.sum_nil, hevent, hcode, hdesc, hdomain]
  omega

theorem objsize_of_no_fault (h : cmd_state.last_event ≠ EVT_FAULT) :
    cmd_state.answer.objsize = 25 := by
  rw [answer_of_no_fault h]
  rfl

/-- What the controller makes of a fault. -/
theorem getCommandState_of_fault (command_state : MachineCommandState)
    (h : cmd_state.last_event = EVT_FAULT) :
    getCommandState command_state cmd_state.answer =
      if cmd_state.answer.objsize ≤ AnswerWrapper.BSONObjMaxInternalSize then
        some { cmd_state with
          command_id := command_state.command_id
          domain := nameBytes RPC_GET_COMMAND_STATE_ERROR_DOMAIN_STR }
      else none := by
  unfold getCommandState AnswerWrapper.getUInt32Value AnswerWrapper.getStringValue
    AnswerWrapper.getField
  split
  · rw [answer_of_fault h, h]
    rfl
  · rfl

theorem getCommandState_of_no_fault (command_state : MachineCommandState)
    (h : cmd_state.last_event ≠ EVT_FAULT) :
    getCommandState command_state cmd_state.answer =
      some ⟨command_state.command_id, cmd_state.last_event, 0, [], []⟩ := by
  have hsize : cmd_state.answer.objsize ≤ AnswerWrapper.BSONObjMaxInternalSize := by
    rw [objsize_of_no_fault h]
    decide
  unfold getCommandState AnswerWrapper.getUInt32Value AnswerWrapper.getField
  rw [if_pos hsize, answer_of_no_fault h]
  exact if_neg h

/-- The state round trips just when there is no fault, or a fault with the domain that the
controller writes and a description that fits into a document. -/
theorem command_state_round_trips_iff (cmd_state command_state : MachineCommandState) :
    cmd_state.RoundTrips command_state ↔
      cmd_state.last_event ≠ EVT_FAULT ∨
        (cmd_state.domain = nameBytes RPC_GET_COMMAND_STATE_ERROR_DOMAIN_STR ∧
          cmd_state.description.length + 105 ≤ AnswerWrapper.BSONObjMaxInternalSize) := by
  by_cases h : cmd_state.last_event = EVT_FAULT
  · rw [RoundTrips, getCommandState_of_fault _ h, objsize_of_fault h]
    constructor
    · rintro ⟨r, hr, -, -, hfault⟩
      obtain ⟨-, -, hdomain⟩ := hfault h
      split at hr
      · rename_i hsize
        cases hr
        replace hdomain : cmd_state.domain = nameBytes RPC_GET_COMMAND_STATE_ERROR_DOMAIN_STR :=
          hdomain.symm
        have hlength := congrArg List.length hdomain
        have hname : (nameBytes RPC_GET_COMMAND_STATE_ERROR_DOMAIN_STR).length = 16 := by decide
        exact .inr ⟨hdomain, by omega⟩
      · cases hr
    · rintro (hne | ⟨hdomain, hsize⟩)
      · exact absurd h hne
      · have hname : (nameBytes RPC_GET_COMMAND_STATE_ERROR_DOMAIN_STR).length = 16 := by decide
        have hlength := congrArg List.length hdomain
        rw [if_pos (by omega)]
        exact ⟨_, rfl, rfl, rfl, fun _ => ⟨rfl, rfl, hdomain.symm⟩⟩
  · refine iff_of_true ?_ (.inl h)
    exact ⟨_, getCommandState_of_no_fault _ h, rfl, rfl, fun heq => absurd heq h⟩

/-- A fault of the domain "d" comes back with the name of the field for its domain. -/
theorem fault_domain_does_not_round_trip :
    ¬ RoundTrips ⟨1, EVT_FAULT, 2, nameBytes "failed", nameBytes "d"⟩ ⟨1, 0, 0, [], []⟩ := by
  rintro ⟨r, hr, -, -, hfault⟩
  have hdomain := (hfault rfl).2.2
  cases hr
  exact absurd hdomain (by decide)

end MachineCommandState

end chaos.batch_command
