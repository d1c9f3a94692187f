-- The execution of a command pack by the scheduler of a domain. The action is found by its name and
-- fired, its end is noted in the answer if the pack asks for one, and the answer is submitted.
import Chaos.DomainActions
import Chaos.Exception

namespace chaos.common.dispatcher

open chaos.common.action

/-! ## Packs -/

/-- A double is given by its conversion to an integer. -/
inductive BSONElement where
  | string (s : String)
  | numberInt (n : Int32)
  | numberLong (n : Int64)
  | numberDouble (asInt : Int32)
  | object (fields : List (String × BSONElement))
  | other

abbrev CDataWrapper := List (String × BSONElement)

namespace CDataWrapper

def getField (pack : CDataWrapper) (key : String) : Option BSONElement :=
  (pack.find? fun e => e.1 = key).map Prod.snd

def hasKey (pack : CDataWrapper) (key : String) : Bool := (pack.getField key).isSome

/-- What is not a string throws, and not an exception of the framework. -/
def getStringValue (pack : CDataWrapper) (key : String) : Option String :=
  match pack.getField key with
  | some (.string s) => some s
  | _ => none

/-- What is not a number is 0. -/
def getInt32Value (pack : CDataWrapper) (key : String) : Int32 :=
  match pack.getField key with
  | some (.numberInt n) => n
  | some (.numberLong n) => n.toInt32
  | some (.numberDouble asInt) => asInt
  | _ => 0

/-- What is not an object is empty. -/
def getCSDataValue (pack : CDataWrapper) (key : String) : CDataWrapper :=
  match pack.getField key with
  | some (.object fields) => fields
  | _ => []

def findCSDataValue (pack : CDataWrapper) (key : String) : Option CDataWrapper :=
  if pack.hasKey key then some (pack.getCSDataValue key) else none

end CDataWrapper

def CS_CMDM_ACTION_DOMAIN : String := "cs|cmdm|act_domain"
def CS_CMDM_ACTION_NAME : String := "cs|cmdm|act_name"
def CS_CMDM_ACTION_MESSAGE : String := "cs|cmdm|act_msg"
def CS_CMDM_MESSAGE_ID : String := "cs|cmdm|act_msg_id"
def CS_CMDM_ACTION_SUBMISSION_ERROR_MESSAGE : String := "cs|cmdm|act_sub_emsg"
def CS_CMDM_ACTION_SUBMISSION_ERROR_DOMAIN : String := "cs|cmdm|act_sub_edom"
def CS_CMDM_ACTION_SUBMISSION_ERROR_CODE : String := "cs|cmdm|act_sub_ecode"
def CS_CMDM_SUB_CMD : String := "cs|cmdm|sub_cmd"
def CS_CMDM_ANSWER_HOST_IP : String := "cs|cmdm|rh_ans_ip"
def CS_CMDM_ANSWER_DOMAIN : String := "cs|cmdm|rh_ans_domain"
def CS_CMDM_ANSWER_ACTION : String := "cs|cmdm|rh_ans_action"
def CS_CMDM_ANSWER_ID : String := "cs|cmdm|rh_ans_msg_id"
def CS_CMDM_REMOTE_HOST_IP : String := "cs|cmdm|rh_ip"

/-! ## The world around -/

/-- How an action ends. It may throw the exceptions of the framework only: with another one the
language ends the program. -/
inductive ActionEnd where
  | returned (result : Option CDataWrapper)
  | thrown (ex : CException)
  | unexpected

structure NetworkForwardInfo where
  destinationAddr : String
  message : CDataWrapper

/-- The code of the actions, the schedulers of the domains with their queues, and what the forwarder
says to a message for an address. -/
structure World where
  call : Nat → Option CDataWrapper → ActionEnd
  das_map : String → Option (CDataWrapper → Except CException Bool)
  submitMessage : String → Except CException Bool

/-! ## A sub command -/

/-- Where a command pack is pushed. Every exception is caught and noted in the result. -/
def dispatchCommand (world : World) (commandPack : CDataWrapper) : CDataWrapper :=
  let failed := fun ex : CException =>
    [(CS_CMDM_ACTION_SUBMISSION_ERROR_MESSAGE, BSONElement.string ex.errorMessage),
      (CS_CMDM_ACTION_SUBMISSION_ERROR_DOMAIN, .string ex.errorDomain),
      (CS_CMDM_ACTION_SUBMISSION_ERROR_CODE, .numberInt (Int32.ofInt ex.errorCode))]
  let function := "DefaultCommandDispatcher::dispatchCommand"
  if ¬ commandPack.hasKey CS_CMDM_ACTION_DOMAIN then
    failed ⟨0, "Action Call with no action domain", function⟩
  else if ¬ commandPack.hasKey CS_CMDM_ACTION_NAME then
    failed ⟨1, "Action Call with no action name", function⟩
  else
    match commandPack.getStringValue CS_CMDM_ACTION_DOMAIN with
    | none =>
      [(CS_CMDM_ACTION_SUBMISSION_ERROR_CODE, .numberInt 1),
        (CS_CMDM_ACTION_SUBMISSION_ERROR_MESSAGE, .string "Unmanaged error")]
    | some actionDomain =>
      match world.das_map actionDomain with
      | none => failed ⟨3, "Action Domain not registered", function⟩
      | some push =>
        match push commandPack with
        | .error ex => failed ex
        | .ok false => failed ⟨1, "No more space in queue", function⟩
        | .ok true => [(CS_CMDM_ACTION_SUBMISSION_ERROR_CODE, .numberInt 0)]

/-! ## The answer -/

structure AnswerInfo where
  answerID : Int32
  answerIP : String
  answerDomain : String := ""
  answerAction : String := ""

/-- The keys of the request that concern its answer, or what a text of another type throws. -/
def answerInfo (pack : CDataWrapper) : Option (Option AnswerInfo) :=
  if pack.hasKey CS_CMDM_ANSWER_ID && pack.hasKey CS_CMDM_ANSWER_HOST_IP then
    (pack.getStringValue CS_CMDM_ANSWER_HOST_IP).bind fun answerIP =>
      let info : AnswerInfo :=
        { answerID := pack.getInt32Value CS_CMDM_ANSWER_ID, answerIP := answerIP }
      if pack.hasKey CS_CMDM_ANSWER_DOMAIN && pack.hasKey CS_CMDM_ANSWER_ACTION then
        (pack.getStringValue CS_CMDM_ANSWER_DOMAIN).bind fun answerDomain =>
          (pack.getStringValue CS_CMDM_ANSWER_ACTION).map fun answerAction =>
            some { info with answerDomain := answerDomain, answerAction := answerAction }
      else some (some info)
  else some none

/-- The exception as the answer holds it. -/
def exceptionFields (ex : CException) : CDataWrapper :=
  [(CS_CMDM_ACTION_SUBMISSION_ERROR_CODE, .numberInt (Int32.ofInt ex.errorCode)),
    (CS_CMDM_ACTION_SUBMISSION_ERROR_DOMAIN, .string ex.errorDomain),
    (CS_CMDM_ACTION_SUBMISSION_ERROR_MESSAGE, .string ex.errorMessage)]

/-- What the answer says about the end of the action, if it has one that may be answered. -/
def remoteActionResult : ActionEnd → Option CDataWrapper
  | .unexpected => none
  | .thrown ex => some (exceptionFields ex)
  | .returned none => some [(CS_CMDM_ACTION_SUBMISSION_ERROR_CODE, .numberInt 0)]
  | .returned (some result) =>
    some [(CS_CMDM_ACTION_MESSAGE, .object result),
      (CS_CMDM_ACTION_SUBMISSION_ERROR_CODE, .numberInt 0)]

def responsePack (info : AnswerInfo) (result : CDataWrapper) : CDataWrapper :=
  [(CS_CMDM_REMOTE_HOST_IP, .string info.answerIP)] ++
    (if info.answerDomain ≠ "" ∧ info.answerAction ≠ "" then
      [(CS_CMDM_ACTION_DOMAIN, .string info.answerDomain),
        (CS_CMDM_ACTION_NAME, .string info.answerAction)]
    else []) ++
    [(CS_CMDM_ACTION_MESSAGE,
      .object (result ++ [(CS_CMDM_MESSAGE_ID, .numberInt info.answerID)]))]

/-- The response that the forwarder takes. One that it refuses, or throws at, is deleted. -/
def submitResponse (world : World) (info : AnswerInfo) (result : CDataWrapper) :
    List NetworkForwardInfo :=
  match world.submitMessage info.answerIP with
  | .ok true => [⟨info.answerIP, responsePack info result⟩]
  | .ok false | .error _ => []

/-! ## The processing -/

/-- The descriptors after the call, the responses that were sent, how the action ended if it was
called, and what became of its sub command. -/
structure Processed where
  descriptors : Descriptors
  sent : List NetworkForwardInfo := []
  called : Option ActionEnd := none
  subCommandResult : Option CDataWrapper := none

/-- An exception that is not of the framework leaves the call where it is thrown. -/
def processBufferElement (world : World) (domainActionsContainer : DomainActions)
    (descriptors : Descriptors) (actionDescription : CDataWrapper) : Processed :=
  match actionDescription.getStringValue CS_CMDM_ACTION_NAME with
  | none => { descriptors := descriptors }
  | some actionName =>
    match domainActionsContainer.getActionDescriptor actionName with
    | none => { descriptors := descriptors }
    | some action =>
      let canFire := (descriptors action).setFired true
      let armed := Function.update descriptors action canFire.2
      if ¬ canFire.1 then { descriptors := armed }
      else
        match answerInfo actionDescription with
        | none => { descriptors := armed }
        | some answer =>
          let called := world.call action (actionDescription.findCSDataValue CS_CMDM_ACTION_MESSAGE)
          match remoteActionResult called with
          | none => { descriptors := armed, called := some called }
          | some result =>
            { descriptors := Function.update armed action ((armed action).setFired false).2
              sent := match answer with
                | none => []
                | some info => submitResponse world info result
              called := some called
              -- only an action that returns is followed by its sub command
              subCommandResult := match called with
                | .returned _ =>
                  (actionDescription.findCSDataValue CS_CMDM_SUB_CMD).map (dispatchCommand world)
                | _ => none }

end chaos.common.dispatcher
