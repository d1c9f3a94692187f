-- When a command pack gets its answer. An action that is absent or disabled is passed over without
-- one, an exception that is not of the framework leaves the action fired, and an exception of the
-- framework may have the code of success.
import Chaos.ActionProcessing

namespace chaos.common.dispatcher

open chaos.common.action

/-! ## What is claimed -/

/-- The pack asks for an answer to this host, with this id. -/
def Carries (pack : CDataWrapper) (host : String) (id : Int32) : Prop :=
  pack.hasKey CS_CMDM_ANSWER_ID = true ∧ pack.getStringValue CS_CMDM_ANSWER_HOST_IP = some host ∧
    pack.getInt32Value CS_CMDM_ANSWER_ID = id

def NetworkForwardInfo.id (m : NetworkForwardInfo) : Int32 :=
  (m.message.getCSDataValue CS_CMDM_ACTION_MESSAGE).getInt32Value CS_CMDM_MESSAGE_ID

def NetworkForwardInfo.errorCode (m : NetworkForwardInfo) : Int32 :=
  (m.message.getCSDataValue CS_CMDM_ACTION_MESSAGE).getInt32Value
    CS_CMDM_ACTION_SUBMISSION_ERROR_CODE

/-- The action was called, and it returned. -/
def Processed.Completed (r : Processed) : Prop := ∃ result, r.called = some (.returned result)

def AbleToFire (a : AbstractActionDescriptor) : Prop := a.fired = false ∧ a.enabled = true

structure Answered (d : DomainActions) (pack : CDataWrapper) (r : Processed) : Prop where
  answered : ∀ host id, Carries pack host id → ∃ m, r.sent = [m] ∧ m.destinationAddr = host ∧
    m.id = id ∧ (m.errorCode = 0 ↔ r.Completed)
  ready : ∀ name action, pack.getStringValue CS_CMDM_ACTION_NAME = some name →
    d.getActionDescriptor name = some action → AbleToFire (r.descriptors action)

/-! ## The condition -/

/-- The texts of the request that concern its answer are texts. -/
def AnswerTyped (pack : CDataWrapper) : Prop :=
  pack.hasKey CS_CMDM_ANSWER_ID = true → pack.hasKey CS_CMDM_ANSWER_HOST_IP = true →
    (∃ host, pack.getStringValue CS_CMDM_ANSWER_HOST_IP = some host) ∧
    (pack.hasKey CS_CMDM_ANSWER_DOMAIN = true → pack.hasKey CS_CMDM_ANSWER_ACTION = true →
      (∃ domain, pack.getStringValue CS_CMDM_ANSWER_DOMAIN = some domain) ∧
      ∃ action, pack.getStringValue CS_CMDM_ANSWER_ACTION = some action)

/-- The action may fire and throws no exception but those of the framework; and if an answer is
asked for, such an exception has a code other than 0 and the forwarder takes the answer. -/
def Fires (world : World) (descriptors : Descriptors) (pack : CDataWrapper) (action : Nat) : Prop :=
  let called := world.call action (pack.findCSDataValue CS_CMDM_ACTION_MESSAGE)
  (descriptors action).enabled = true ∧ AnswerTyped pack ∧ called ≠ .unexpected ∧
    ∀ host id, Carries pack host id → world.submitMessage host = .ok true ∧
      ∀ ex, called = .thrown ex → Int32.ofInt ex.errorCode ≠ 0

def Answerable (world : World) (d : DomainActions) (descriptors : Descriptors)
    (pack : CDataWrapper) : Prop :=
  match (pack.getStringValue CS_CMDM_ACTION_NAME).bind d.getActionDescriptor with
  | none => ∀ host id, ¬ Carries pack host id
  | some action => Fires world descriptors pack action

/-! ## The answer -/

variable {world : World} {d : DomainActions} {descriptors : Descriptors} {pack : CDataWrapper}

theorem hasKey_of_getStringValue {key s : String} (h : pack.getStringValue key = some s) :
    pack.hasKey key = true := by
  unfold CDataWrapper.getStringValue at h
  unfold CDataWrapper.hasKey
  split at h
  · rename_i hf
    simp [hf]
  · cases h

/-- The request is read to its end just when its texts are texts. -/
theorem answerInfo_isSome : (answerInfo pack).isSome = true ↔ AnswerTyped pack := by
  unfold answerInfo AnswerTyped
  by_cases hid : pack.hasKey CS_CMDM_ANSWER_ID = true
  · by_cases hip : pack.hasKey CS_CMDM_ANSWER_HOST_IP = true
    · rcases hhost : pack.getStringValue CS_CMDM_ANSWER_HOST_IP with _ | host
      · simp [hid, hip]
      · by_cases hd : pack.hasKey CS_CMDM_ANSWER_DOMAIN = true
        · by_cases ha : pack.hasKey CS_CMDM_ANSWER_ACTION = true
          · rcases pack.getStringValue CS_CMDM_ANSWER_DOMAIN with _ | domain <;>
              rcases pack.getStringValue CS_CMDM_ANSWER_ACTION with _ | action <;>
              simp [hid, hip, hd, ha]
          · simp [hid, hip, hd, ha]
        · simp [hid, hip, hd]
    · simp [hid, hip]
  · simp [hid]

/-- A request that asks for an answer gets one with its host and its id. -/
theorem answerInfo_of_carries {host : String} {id : Int32} (h : Carries pack host id)
    {answer : Option AnswerInfo} (ha : answerInfo pack = some answer) :
    ∃ info, answer = some info ∧ info.answerIP = host ∧ info.answerID = id := by
  obtain ⟨hid, hhost, hval⟩ := h
  have hip := hasKey_of_getStringValue hhost
  unfold answerInfo at ha
  simp only [hid, hip, Bool.and_self, if_true, hhost, Option.bind_some] at ha
  split at ha
  · obtain ⟨domain, -, ha⟩ := Option.bind_eq_some_iff.mp ha
    obtain ⟨action, -, rfl⟩ := Option.map_eq_some_iff.mp ha
    exact ⟨_, rfl, rfl, hval⟩
  · cases ha
    exact ⟨_, rfl, rfl, hval⟩

theorem getCSDataValue_responsePack (info : AnswerInfo) (result : CDataWrapper) :
    (responsePack info result).getCSDataValue CS_CMDM_ACTION_MESSAGE =
      result ++ [(CS_CMDM_MESSAGE_ID, .numberInt info.answerID)] := by
  unfold responsePack
  split <;> simp [CDataWrapper.getCSDataValue, CDataWrapper.getField, CS_CMDM_REMOTE_HOST_IP,
    CS_CMDM_ACTION_DOMAIN, CS_CMDM_ACTION_NAME, CS_CMDM_ACTION_MESSAGE]

/-- The code that the answer has. -/
def endCode : ActionEnd → Int32
  | .thrown ex => Int32.ofInt ex.errorCode
  | _ => 0

/-- The id and the code that a response has. -/
theorem remoteActionResult_read {called : ActionEnd} {result : CDataWrapper}
    (h : remoteActionResult called = some result) (info : AnswerInfo) (address : String) :
    (NetworkForwardInfo.mk address (responsePack info result)).id = info.answerID ∧
      (NetworkForwardInfo.mk address (responsePack info result)).errorCode = endCode called := by
  unfold NetworkForwardInfo.id NetworkForwardInfo.errorCode
  rw [getCSDataValue_responsePack]
  rcases called with (_ | data) | ex | _ <;> simp only [remoteActionResult, exceptionFields,
    Option.some.injEq, reduceCtorEq] at h
  all_goals
    subst h
    simp [endCode, CDataWrapper.getInt32Value, CDataWrapper.getField, CS_CMDM_MESSAGE_ID,
      CS_CMDM_ACTION_SUBMISSION_ERROR_CODE, CS_CMDM_ACTION_MESSAGE,
      CS_CMDM_ACTION_SUBMISSION_ERROR_DOMAIN, CS_CMDM_ACTION_SUBMISSION_ERROR_MESSAGE]

theorem remoteActionResult_eq_none {called : ActionEnd} :
    remoteActionResult called = none ↔ called = .unexpected := by
  rcases called with (_ | data) | ex | _ <;> simp [remoteActionResult]

/-! ## The processing -/

/-- A pack whose action is not found is right only when it asks for nothing. -/
theorem answered_absent_iff
    (h : (pack.getStringValue CS_CMDM_ACTION_NAME).bind d.getActionDescriptor = none) :
    Answered d pack { descriptors := descriptors } ↔ ∀ host id, ¬ Carries pack host id := by
  constructor
  · intro hans host id hc
    obtain ⟨m, hm, -⟩ := hans.answered host id hc
    cases hm
  · intro hnone
    refine ⟨fun host id hc => absurd hc (hnone host id), ?_⟩
    intro name action hname haction
    rw [hname, Option.bind_some, haction] at h
    cases h

/-- An action that is left as it was armed cannot fire again. -/
theorem not_answered_of_armed {name : String} {action : Nat}
    (hname : pack.getStringValue CS_CMDM_ACTION_NAME = some name)
    (haction : d.getActionDescriptor name = some action) {r : Processed}
    (hr : r.descriptors = Function.update descriptors action ((descriptors action).setFired true).2) :
    ¬ Answered d pack r := by
  intro h
  have := h.ready name action hname haction
  rw [hr, Function.update_self] at this
  obtain ⟨hfired, henabled⟩ := this
  simp only [AbstractActionDescriptor.setFired, Bool.true_and] at hfired henabled
  rw [hfired] at henabled
  cases henabled

/-- The end of a call that comes to its answer. -/
theorem answered_end_iff {name : String} {action : Nat}
    (hname : pack.getStringValue CS_CMDM_ACTION_NAME = some name)
    (haction : d.getActionDescriptor name = some action)
    {answer : Option AnswerInfo} (ha : answerInfo pack = some answer) {called : ActionEnd}
    {result : CDataWrapper} (hres : remoteActionResult called = some result) {r : Processed}
    (hdesc : AbleToFire (r.descriptors action))
    (hsent : ∀ info, answer = some info → r.sent = submitResponse world info result)
    (hcalled : r.called = some called) :
    Answered d pack r ↔ ∀ host id, Carries pack host id → world.submitMessage host = .ok true ∧
      ∀ ex, called = .thrown ex → Int32.ofInt ex.errorCode ≠ 0 := by
  have hready : ∀ name' action', pack.getStringValue CS_CMDM_ACTION_NAME = some name' →
      d.getActionDescriptor name' = some action' → AbleToFire (r.descriptors action') := by
    intro name' action' hname' haction'
    rw [hname, Option.some.injEq] at hname'
    subst hname'
    rw [haction, Option.some.injEq] at haction'
    exact haction' ▸ hdesc
  have hcode : (endCode called = 0 ↔ r.Completed) ↔
      ∀ ex, called = .thrown ex → Int32.ofInt ex.errorCode ≠ 0 := by
    unfold Processed.Completed
    rw [hcalled]
    cases called with
    | returned result => simp [endCode]
    | thrown ex => simp [endCode]
    | unexpected => simp [remoteActionResult] at hres
  constructor
  · intro h host id hc
    obtain ⟨m, hm, -, -, hiff⟩ := h.answered host id hc
    obtain ⟨info, rfl, rfl, hid⟩ := answerInfo_of_carries hc ha
    rw [hsent info rfl] at hm
    unfold submitResponse at hm
    split at hm
    · rename_i hsub
      rw [List.cons.injEq] at hm
      obtain ⟨rfl, -⟩ := hm
      rw [(remoteActionResult_read hres info _).2] at hiff
      exact ⟨hsub, hcode.mp hiff⟩
    · cases hm
    · cases hm
  · intro h
    refine ⟨?_, hready⟩
    intro host id hc
    obtain ⟨hsub, hex⟩ := h host id hc
    obtain ⟨info, rfl, rfl, hid⟩ := answerInfo_of_carries hc ha
    have hread := remoteActionResult_read hres info info.answerIP
    refine ⟨⟨info.answerIP, responsePack info result⟩, ?_, rfl, hread.1.trans hid, ?_⟩
    · rw [hsent info rfl]
      simp [submitResponse, hsub]
    · rw [hread.2]
      exact hcode.mpr hex

/-- A command pack is answered as claimed just when it meets the condition. -/
theorem command_packs_are_answered_iff (world : World) (d : DomainActions)
    (descriptors : Descriptors) (pack : CDataWrapper) :
    Answered d pack (processBufferElement world d descriptors pack) ↔
      Answerable world d descriptors pack := by
  unfold processBufferElement Answerable
  rcases hname : pack.getStringValue CS_CMDM_ACTION_NAME with _ | name
  · exact answered_absent_iff (by rw [hname]; rfl)
  · rcases haction : d.getActionDescriptor name with _ | action
    · simp only [Option.bind_some, haction]
      exact answered_absent_iff (by rw [hname, Option.bind_some, haction])
    · simp only [Option.bind_some, haction, Fires]
      by_cases henabled : (descriptors action).enabled = true
      · have hfire : ((descriptors action).setFired true).1 = true := by
          simp [AbstractActionDescriptor.setFired, henabled]
        simp only [hfire, not_true_eq_false, if_false]
        rcases ha : answerInfo pack with _ | answer
        · refine iff_of_false (not_answered_of_armed hname haction rfl) ?_
          rintro ⟨-, htyped, -⟩
          have := answerInfo_isSome.mpr htyped
          rw [ha] at this
          cases this
        · have htyped : AnswerTyped pack := answerInfo_isSome.mp (by rw [ha]; rfl)
          simp only
          rcases hres : remoteActionResult
            (world.call action (pack.findCSDataValue CS_CMDM_ACTION_MESSAGE)) with _ | result
          · refine iff_of_false (not_answered_of_armed hname haction rfl) ?_
            rintro ⟨-, -, hcall, -⟩
            exact hcall (remoteActionResult_eq_none.mp hres)
          · have hcall : world.call action (pack.findCSDataValue CS_CMDM_ACTION_MESSAGE) ≠
                .unexpected := by
              intro he
              rw [remoteActionResult_eq_none.mpr he] at hres
              cases hres
            simp only
            rw [answered_end_iff hname haction ha hres
              (by simp [AbleToFire, AbstractActionDescriptor.setFired, henabled])
              (by rintro info rfl; rfl) rfl]
            simp [henabled, htyped, hcall]
      · have hfire : ((descriptors action).setFired true).1 = false := by
          simpa [AbstractActionDescriptor.setFired] using henabled
        simp only [hfire, Bool.false_eq_true, not_false_eq_true, if_true]
        refine iff_of_false (not_answered_of_armed hname haction rfl) ?_
        rintro ⟨he, -⟩
        exact henabled he

/-- A request for the action `a`, with an id and a host for its answer. -/
def requestPack : CDataWrapper :=
  [(CS_CMDM_ACTION_NAME, .string "a"), (CS_CMDM_ANSWER_ID, .numberInt 7),
    (CS_CMDM_ANSWER_HOST_IP, .string "host:5000")]

/-- A domain with the action `a`, and a world in which it ends in the given way. -/
def domainOfA : DomainActions :=
  { domainName := "d", actionDescriptionsMap := AList.singleton "a" 0 }

def worldOfA (called : ActionEnd) : World :=
  { call := fun _ _ => called, das_map := fun _ => none, submitMessage := fun _ => .ok true }

/-- An absent action, a disabled one, one that throws an exception with the code 0, and one that
throws another exception. -/
theorem command_packs_are_not_answered :
    ¬ Answered { domainName := "d" } requestPack (processBufferElement (worldOfA (.returned none))
      { domainName := "d" } (fun _ => ⟨"d", "a", false, true⟩) requestPack) ∧
    ¬ Answered domainOfA requestPack (processBufferElement (worldOfA (.returned none))
      domainOfA (fun _ => ⟨"d", "a", false, false⟩) requestPack) ∧
    ¬ Answered domainOfA requestPack (processBufferElement (worldOfA (.thrown ⟨0, "", ""⟩))
      domainOfA (fun _ => ⟨"d", "a", false, true⟩) requestPack) ∧
    ¬ Answered domainOfA requestPack (processBufferElement (worldOfA .unexpected)
      domainOfA (fun _ => ⟨"d", "a", false, true⟩) requestPack) := by
  have hcarries : Carries requestPack "host:5000" 7 := ⟨rfl, rfl, rfl⟩
  refine ⟨fun h => ?_, fun h => ?_, fun h => ?_, fun h => ?_⟩
  · obtain ⟨m, hm, -⟩ := h.answered _ _ hcarries
    cases hm
  · obtain ⟨m, hm, -⟩ := h.answered _ _ hcarries
    cases hm
  · obtain ⟨m, hm, -, -, hiff⟩ := h.answered _ _ hcarries
    obtain ⟨rfl, -⟩ := List.cons.inj hm
    obtain ⟨result, hres⟩ := hiff.mp rfl
    cases hres
  · obtain ⟨m, hm, -⟩ := h.answered _ _ hcarries
    cases hm

end chaos.common.dispatcher
