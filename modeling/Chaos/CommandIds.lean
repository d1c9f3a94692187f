-- The ids of submitted commands. A command has the id that its caller gets, and no earlier
-- command has it, as long as its description had no other id before.
import Chaos.CommandSubmission
import Chaos.NumberedList
import Chaos.SandboxPlaces

namespace chaos.batch_command

open CommandDescription CommandExecutor chaos.utility

/-! ## The id in the description -/

/-- The id that a description has before it is submitted. -/
def describedId (d : CommandDescription) : Option UInt64 :=
  (d.getField RPC_GET_COMMAND_STATE_CMD_ID_UI64).map fun v => v.toInt64.toUInt64

/-- A field that is appended is found only where there was none with its key. -/
theorem getField_addInt64Value (d : CommandDescription) (key : String) (value : UInt64) :
    (d.addInt64Value key value).getField key =
      some ((d.getField key).getD (.numberLong value.toInt64)) := by
  unfold CommandDescription.getField CommandDescription.addInt64Value
  rw [List.find?_append]
  cases d.find? fun e => decide (e.1 = key) with
  | none => simp
  | some p => rfl

/-- The id that is read back is the first one of the document. -/
theorem unique_id_instanceCommandInfo (d : CommandDescription) (id : UInt64)
    (command_alias : String) (new : NewCommand) :
    (instanceCommandInfo (d.addInt64Value RPC_GET_COMMAND_STATE_CMD_ID_UI64 id) command_alias
      new).unique_id = (describedId d).getD id := by
  simp only [instanceCommandInfo, getUInt64Value, getField_addInt64Value, describedId]
  cases d.getField RPC_GET_COMMAND_STATE_CMD_ID_UI64 with
  | none => simp [FieldValue.toInt64]
  | some v => rfl

/-! ## One call -/

variable {e e' : CommandExecutor}

theorem submitted_enqueue (e : CommandExecutor) (execution_channel : UInt32)
    (sandbox : BatchCommandSandbox) (cmd_instance : NewCommand) (priority : UInt32)
    (command_id : UInt64) :
    (e.enqueue execution_channel sandbox cmd_instance priority command_id).submitted =
        e.submitted ∨
      (e.enqueue execution_channel sandbox cmd_instance priority command_id).submitted =
        e.submitted ++ [⟨command_id, cmd_instance.unique_id⟩] := by
  simp only [enqueue]
  split
  · exact .inr rfl
  · exact .inl rfl

/-- What a call does to the ids: nothing, or it takes the next id, for no command or for one that
has the first id of its document. -/
theorem submissionStep_ids {a : SubmissionCall} (h : submissionStep e a = some e') :
    e'.command_sequence_id = e.command_sequence_id ∧ e'.submitted = e.submitted ∨
    ∃ d instanced, a = .submitCommand (some d) instanced ∧
      e'.command_sequence_id = e.command_sequence_id + 1 ∧
      (e'.submitted = e.submitted ∨ e'.submitted = e.submitted ++
        [⟨e.command_sequence_id + 1, (describedId d).getD (e.command_sequence_id + 1)⟩]) := by
  cases a with
  | sandbox execution_channel call =>
    left
    cases call with
    | enqueueCommand new priority => cases h
    | checkNextCommand _ | runCommand _ | killCurrentCommand | start | stop | deinit =>
      obtain ⟨s, _, hs⟩ := Option.bind_eq_some_iff.mp h
      obtain ⟨t, _, rfl⟩ := Option.map_eq_some_iff.mp hs
      exact ⟨rfl, rfl⟩
  | submitCommand commandDescription instanced =>
    cases h
    cases commandDescription with
    | none => exact .inl ⟨rfl, rfl⟩
    | some d =>
      simp only [submitCommand]
      split
      · exact .inl ⟨rfl, rfl⟩
      · split
        · exact .inl ⟨rfl, rfl⟩
        · right
          refine ⟨d, instanced, rfl, ?_⟩
          split
          · exact ⟨rfl, .inl rfl⟩
          · exact ⟨rfl, .inl rfl⟩
          · rename_i command_alias new _
            rw [← unique_id_instanceCommandInfo d _ command_alias new]
            exact ⟨rfl, submitted_enqueue _ _ _ _ _ _⟩

/-! ## Every run -/

/-- Each command has the id that its caller got, and no two commands have the same. -/
def Identified (e : CommandExecutor) : Prop :=
  (∀ x ∈ e.submitted, x.unique_id = x.command_id) ∧
    (e.submitted.map SubmittedCommand.unique_id).Nodup

/-- A submission whose description has no id, or already the next one, while the ids last. -/
def FreshDescription (e : CommandExecutor) : SubmissionCall → Prop
  | .submitCommand (some d) _ =>
    (∀ id ∈ describedId d, id = e.command_sequence_id + 1) ∧
      e.command_sequence_id.toNat + 1 < 2 ^ 64
  | _ => True

instance FreshDescription.decidable (e : CommandExecutor) (a : SubmissionCall) :
    Decidable (FreshDescription e a) :=
  match a with
  | .submitCommand (some d) _ =>
    decidable_of_iff ((describedId d).all (fun id => decide (id = e.command_sequence_id + 1)) =
        true ∧ e.command_sequence_id.toNat + 1 < 2 ^ 64)
      (by simp only [FreshDescription, Option.all_eq_true, Option.mem_def, decide_eq_true_eq])
  | .submitCommand none _ | .sandbox _ _ => isTrue trivial

/-- No command has an id that is still to come. -/
def Past (e : CommandExecutor) : Prop :=
  ∀ x ∈ e.submitted, x.command_id.toNat ≤ e.command_sequence_id.toNat

theorem identified_step (h : Identified e) (hp : Past e) {a : SubmissionCall}
    (hfresh : FreshDescription e a) (hstep : submissionStep e a = some e') :
    Identified e' ∧ Past e' := by
  rcases submissionStep_ids hstep with ⟨hseq, hsub⟩ | ⟨d, instanced, rfl, hseq, hsub⟩
  · unfold Identified Past
    rw [hseq, hsub]
    exact ⟨h, hp⟩
  · obtain ⟨hid, hlast⟩ := hfresh
    have hnext : (e.command_sequence_id + 1).toNat = e.command_sequence_id.toNat + 1 := by
      rw [UInt64.toNat_add]
      exact Nat.mod_eq_of_lt hlast
    have hown : (describedId d).getD (e.command_sequence_id + 1) = e.command_sequence_id + 1 := by
      cases hd : describedId d with
      | none => rfl
      | some id => exact hid id hd
    have hpast : ∀ x ∈ e.submitted, x.command_id.toNat ≤ e'.command_sequence_id.toNat := by
      intro x hx
      rw [hseq, hnext]
      exact Nat.le_succ_of_le (hp x hx)
    rw [hown] at hsub
    rcases hsub with hsub | hsub
    · unfold Identified Past
      rw [hsub]
      exact ⟨h, hpast⟩
    · unfold Identified Past
      rw [hsub]
      refine ⟨⟨?_, ?_⟩, ?_⟩
      · intro x hx
        rcases List.mem_append.mp hx with hx | hx
        · exact h.1 x hx
        · cases List.mem_singleton.mp hx
          rfl
      · rw [List.map_append]
        refine numbered_list.nodup_snoc h.2 ?_
        intro hid
        obtain ⟨x, hx, hx'⟩ := List.mem_map.mp hid
        have hle := hp x hx
        rw [← h.1 x hx, hx', hnext] at hle
        omega
      · intro x hx
        rcases List.mem_append.mp hx with hx | hx
        · exact hpast x hx
        · cases List.mem_singleton.mp hx
          rw [hseq]

/-- In every run of a started executor whose descriptions have no other id, each command has the
id that its caller got, and no two commands have the same. -/
theorem command_ids_are_unique (command_sequence_id : UInt64)
    (sandbox_map : UInt32 → Option BatchCommandSandbox) (calls : List SubmissionCall)
    (e : CommandExecutor)
    (hok : runs.RunOk submissionStep FreshDescription (started command_sequence_id sandbox_map)
      calls)
    (hrun : runs.run submissionStep (started command_sequence_id sandbox_map) calls = some e) :
    Identified e := by
  have hstart : Identified (started command_sequence_id sandbox_map) ∧
      Past (started command_sequence_id sandbox_map) := by
    refine ⟨⟨?_, List.nodup_nil⟩, ?_⟩
    · intro x hx
      cases hx
    · intro x hx
      cases hx
  have hstep : ∀ e a e', Identified e ∧ Past e → FreshDescription e a →
      submissionStep e a = some e' → Identified e' ∧ Past e' :=
    fun _ _ _ h hfresh hs => identified_step h.1 h.2 hfresh hs
  exact (runs.run_keeps_of_ok (fun e => Identified e ∧ Past e) hstep hstart hok hrun).1

/-- An executor with one sandbox, after its start. -/
def oneSandbox : CommandExecutor :=
  started 0 fun channel =>
    if channel = 1 then
      some (BatchCommandSandbox.create true fun _ => (aCommand 0 0).toBatchCommand)
    else none

/-- A description with nothing but the alias of its command. -/
def moveCommand : CommandDescription := [(COMMAND_ALIAS_STR, .string "move")]

/-- A submission of each of the descriptions. -/
def submissionsOf (ds : List CommandDescription) : List SubmissionCall :=
  ds.map fun d => .submitCommand (some d) (some (aCommand 7 SUBMIT_NORMAL))

theorem ids_of_two_submissions : ∃ e,
    runs.run submissionStep oneSandbox (submissionsOf [moveCommand, moveCommand]) = some e ∧
      e.submitted = [⟨1, 1⟩, ⟨2, 2⟩] ∧ Identified e :=
  ⟨_, rfl, by decide, command_ids_are_unique 0 oneSandbox.sandbox_map
    (submissionsOf [moveCommand, moveCommand]) _ (by decide) rfl⟩

/-- The document of the first submission is submitted again: the second command has the id of the
first one. -/
theorem second_submission_keeps_id : ∃ e,
    runs.run submissionStep oneSandbox (submissionsOf [moveCommand,
        moveCommand.addInt64Value RPC_GET_COMMAND_STATE_CMD_ID_UI64 1]) = some e ∧
      e.submitted = [⟨1, 1⟩, ⟨2, 1⟩] ∧ ¬ Identified e := by
  refine ⟨_, rfl, by decide, ?_⟩
  intro h
  have hids := h.2
  revert hids
  decide

/-! ## The executor with a history -/

theorem getField_addInt64Value_ne (d : CommandDescription) {key key' : String} (hne : key ≠ key')
    (value : UInt64) : (d.addInt64Value key value).getField key' = d.getField key' := by
  unfold CommandDescription.getField CommandDescription.addInt64Value
  rw [List.find?_append]
  cases d.find? fun e => decide (e.1 = key') with
  | none => simp [hne]
  | some p => rfl

/-- What the executor with a history is told of a submission. -/
def CommandExecutor.submission (e : CommandExecutor) (d : CommandDescription)
    (instanced : Option NewCommand) : BatchCommandExecutor.Submission :=
  let execution_channel := if d.hasKey COMMAND_EXECUTION_CHANNEL then
      some (d.getUInt32Value COMMAND_EXECUTION_CHANNEL)
    else none
  { execution_channel := execution_channel
    instanced := (d.getStringValue COMMAND_ALIAS_STR).isSome && instanced.isSome
    accepted := (e.sandbox_map
      (execution_channel.getD BatchCommandExecutor.COMMAND_BASE_SANDOXX_ID)).any
        fun s => decide (s.serviceState ≠ .IS_DEINTIATED)
    described_id := describedId d }

/-- The two executors give the same ids and know the same channels. -/
structure SameExecutor (e : CommandExecutor) (b : BatchCommandExecutor) : Prop where
  sequence : b.command_sequence_id = e.command_sequence_id
  service : b.serviceState = e.serviceState
  channels : ∀ channel, b.hasSandbox channel = (e.sandbox_map channel).isSome

theorem handleCommandEvent_ids (b : BatchCommandExecutor) (id : UInt64)
    (type : BatchCommandEventType) (fault : FaultDescription) :
    (b.handleCommandEvent id type fault).command_sequence_id = b.command_sequence_id ∧
      (b.handleCommandEvent id type fault).serviceState = b.serviceState ∧
      (b.handleCommandEvent id type fault).sandbox_map = b.sandbox_map := by
  cases type <;> exact ⟨rfl, rfl, rfl⟩

theorem channels_enqueue (e : CommandExecutor) {execution_channel : UInt32}
    {sandbox : BatchCommandSandbox} (h : e.sandbox_map execution_channel = some sandbox)
    (new : NewCommand) (priority : UInt32) (id : UInt64) (channel : UInt32) :
    ((e.enqueue execution_channel sandbox new priority id).sandbox_map channel).isSome =
      (e.sandbox_map channel).isSome := by
  simp only [enqueue]
  by_cases hc : channel = execution_channel
  · subst hc
    rw [Function.update_self, h]
    rfl
  · rw [Function.update_of_ne hc]

theorem SameExecutor.queued {e : CommandExecutor} {b : BatchCommandExecutor}
    (h : SameExecutor e b) {execution_channel : UInt32} {sandbox : BatchCommandSandbox}
    (hsandbox : e.sandbox_map execution_channel = some sandbox) (new : NewCommand)
    (priority : UInt32) (command_id id : UInt64) (accepted : Bool) (fault : FaultDescription) :
    SameExecutor (e.enqueue execution_channel sandbox new priority command_id)
      (if accepted then b.handleCommandEvent id .EVT_QUEUED fault else b) := by
  have hmap := channels_enqueue e hsandbox new priority command_id
  cases accepted with
  | false => exact ⟨h.sequence, h.service, fun c => (h.channels c).trans (hmap c).symm⟩
  | true =>
    obtain ⟨hseq, hservice, hchannels⟩ := handleCommandEvent_ids b id .EVT_QUEUED fault
    refine ⟨hseq.trans h.sequence, hservice.trans h.service, fun c => ?_⟩
    rw [hmap, ← h.channels c]
    simp only [if_true, BatchCommandExecutor.hasSandbox, hchannels]

/-- The executor with a history does with its part of a submission what the code does with the
whole document, and gives the same id. -/
theorem submitCommand_agrees {e : CommandExecutor} {b : BatchCommandExecutor}
    (h : SameExecutor e b) (d : CommandDescription) (instanced : Option NewCommand) :
    SameExecutor (e.submitCommand (some d) instanced).1
        (b.submitCommand (some (e.submission d instanced))).1 ∧
      ∀ id, (e.submitCommand (some d) instanced).2 = .ok id →
        (b.submitCommand (some (e.submission d instanced))).2 = .ok id := by
  have hchannel : ((e.submission d instanced).execution_channel.getD
      BatchCommandExecutor.COMMAND_BASE_SANDOXX_ID) =
      if d.hasKey COMMAND_EXECUTION_CHANNEL then d.getUInt32Value COMMAND_EXECUTION_CHANNEL
      else BatchCommandExecutor.COMMAND_BASE_SANDOXX_ID := by
    simp only [CommandExecutor.submission]
    split <;> rfl
  have halias : (d.addInt64Value RPC_GET_COMMAND_STATE_CMD_ID_UI64
      (e.command_sequence_id + 1)).getStringValue COMMAND_ALIAS_STR =
      d.getStringValue COMMAND_ALIAS_STR := by
    unfold getStringValue
    rw [getField_addInt64Value_ne d (by decide)]
  have hservice : (b.serviceState ≠ .SS_STARTED) = (e.serviceState ≠ .SS_STARTED) := by
    rw [h.service]
  have hnext : SameExecutor { e with command_sequence_id := e.command_sequence_id + 1 }
      { b with command_sequence_id := e.command_sequence_id + 1 } :=
    ⟨rfl, h.service, h.channels⟩
  simp only [submitCommand, BatchCommandExecutor.submitCommand, hchannel, hservice, h.sequence,
    h.channels, halias]
  split
  · exact ⟨h, fun id hid => by cases hid⟩
  · cases hsandbox : e.sandbox_map (if d.hasKey COMMAND_EXECUTION_CHANNEL then
      d.getUInt32Value COMMAND_EXECUTION_CHANNEL
      else BatchCommandExecutor.COMMAND_BASE_SANDOXX_ID) with
    | none => exact ⟨h, fun id hid => by cases hid⟩
    | some sandbox =>
      cases ha : d.getStringValue COMMAND_ALIAS_STR with
      | none => simpa [CommandExecutor.submission, ha] using hnext
      | some command_alias =>
        cases instanced with
        | none => simpa [CommandExecutor.submission, ha] using hnext
        | some new =>
          have hinstanced : (e.submission d (some new)).instanced = true := by
            simp [CommandExecutor.submission, ha]
          simp only [hinstanced, Option.isSome_some, Bool.not_true, Bool.false_eq_true, if_false,
            if_true]
          refine ⟨hnext.queued hsandbox _ _ _ _ _ _, fun id hid => ?_⟩
          rw [Except.ok.inj hid]

end chaos.batch_command
