-- The lookups of the checker in the table of running properties and submission rules. A lookup is
-- in the table as long as the commands keep a running property of its rows and come with a rule
-- of its columns: nothing in the code tests either of them.
import Chaos.CommandIds
import Chaos.SandboxFrames

namespace chaos.batch_command

open BatchCommandSandbox CommandDescription CommandExecutor

/-! ## The lookup -/

/-- The row and the column that an iteration of the checker reads, when it reads the table. -/
def BatchCommandSandbox.lookup (s : BatchCommandSandbox) (env : CheckerEnv) :
    Option (UInt8 × UInt8) :=
  match s.top env.tie, s.currentExecutingCommand with
  | some next, some current =>
    if (s.cmd next.element).implementedHandler ≤ 1 then none
    else some ((s.cmd current).runningProperty, (s.cmd next.element).submissionRule)
  | _, _ => none

/-- The row and the column are in the table, which has four rows and three columns. -/
def InTable (p : UInt8 × UInt8) : Prop := p.1 < 4 ∧ p.2 < 3

instance (p : UInt8 × UInt8) : Decidable (InTable p) :=
  inferInstanceAs (Decidable (_ ∧ _))

variable {s t : BatchCommandSandbox} {c d : CommandRef}

/-! ## Commands in the range of the table -/

/-- The command has a running property of the rows and a rule of the columns. -/
structure Ranged (b : BatchCommand) : Prop where
  property : b.runningProperty < 4
  rule : b.submissionRule < 3

/-- A call of a handler that gives its command no other running property. -/
def HandlerCall.Ranged : HandlerCall → Prop
  | .setRunningProperty property => property < 4
  | _ => True

instance (call : HandlerCall) : Decidable call.Ranged :=
  match call with
  | .setRunningProperty property => inferInstanceAs (Decidable (property < 4))
  | .setCommandAlias _ | .setFeatures32 _ _ | .setFeatures64 _ _ | .clearFeatures _ =>
    isTrue trivial

def HandlerOutcome.Ranged (o : HandlerOutcome) : Prop := ∀ call ∈ o.calls, call.Ranged

instance (o : HandlerOutcome) : Decidable o.Ranged :=
  inferInstanceAs (Decidable (∀ call ∈ o.calls, call.Ranged))

variable {b : BatchCommand} {o : HandlerOutcome}

theorem handlersKeep_ranged : HandlersKeep HandlerCall.Ranged Ranged where
  names _ _ _ h := ⟨h.property, h.rule⟩
  features _ _ h := ⟨h.property, h.rule⟩
  property _ property hp h := by
    have hfault : RP_Fault < 4 := by decide
    exact ⟨hp.elim id fun he => he ▸ hfault, h.rule⟩

theorem Ranged.setUp (h : Ranged b) {set : HandlerOutcome} (ho : set.Ranged) (now : UInt64) :
    Ranged (setUp b now set) := by
  have hpre : Ranged (b.commandPre now) := ⟨h.property, h.rule⟩
  have hafter := handlersKeep_ranged.after ho hpre
  simp only [BatchCommandSandbox.setUp]
  split
  · split
    · exact ⟨hafter.property, hafter.rule⟩
    · exact handlersKeep_ranged.caught _ _ _ _ hafter
  · exact hpre

/-! ## The iterations -/

/-- The same commands exist, and those that were in the range still are. -/
structure KeepsRange (s t : BatchCommandSandbox) : Prop where
  enqueued : t.enqueued = s.enqueued
  ranged : ∀ c, Ranged (s.cmd c) → Ranged (t.cmd c)

theorem frame_keepsRange : Frame KeepsRange where
  trans h h' := ⟨h'.enqueued.trans h.enqueued, fun c hc => h'.ranged c (h.ranged c hc)⟩
  same h := ⟨h.enqueued, fun _ hc => h.cmd ▸ hc⟩

theorem keepsRange_modify (s : BatchCommandSandbox) (d : CommandRef)
    {f : BatchCommand → BatchCommand} (hf : ∀ b, Ranged b → Ranged (f b)) :
    KeepsRange s (s.modify d f) := by
  refine ⟨rfl, fun c hc => ?_⟩
  unfold BatchCommandSandbox.modify
  by_cases h : c = d
  · subst h
    simpa using hf _ hc
  · simpa [h] using hc

/-- The outcomes of the set handlers of an iteration are in the range. -/
def BatchCommandSandbox.CheckerEnv.Ranged (env : CheckerEnv) : Prop :=
  env.set.Ranged ∧ env.setAgain.Ranged

instance (env : CheckerEnv) : Decidable env.Ranged :=
  inferInstanceAs (Decidable (_ ∧ _))

theorem keepsRange_checkNextCommand {env : CheckerEnv} (henv : env.Ranged)
    (s : BatchCommandSandbox) : KeepsRange s (s.checkNextCommand env).1 :=
  frame_keepsRange.checkNextCommand
    ⟨fun s c => keepsRange_modify s c fun _ hb => hb.setUp henv.1 env.now,
      fun s c => keepsRange_modify s c fun _ hb => hb.setUp henv.2 env.nowAgain⟩ s

/-- The outcomes of the handlers of a step are in the range. -/
def BatchCommandSandbox.RunEnv.Ranged (env : RunEnv) : Prop :=
  env.acquire.Ranged ∧ env.cc.Ranged ∧ env.timeout.Ranged

instance (env : RunEnv) : Decidable env.Ranged :=
  inferInstanceAs (Decidable (_ ∧ _ ∧ _))

theorem keepsRange_runCommand {env : RunEnv} (henv : env.Ranged) (s : BatchCommandSandbox) :
    KeepsRange s (s.runCommand env).1 := by
  obtain ⟨hacquire, hcc, htimeout⟩ := henv
  refine frame_keepsRange.runCommand ⟨?_, ?_, ?_⟩ s
  · intro s c domain
    exact keepsRange_modify s c fun b hb => handlersKeep_ranged.guarded hacquire _ _ _ hb
  · intro s c domain
    exact keepsRange_modify s c fun b hb => handlersKeep_ranged.guarded hcc _ _ _ hb
  · intro s c stat
    exact keepsRange_modify s c fun b hb => handlersKeep_ranged.commandPost htimeout _ _ hb

/-! ## The sandboxes of an executor -/

/-- Each command of the sandbox is in the range. -/
structure RangedSandbox (s : BatchCommandSandbox) : Prop where
  placed : ∃ lost, Placed s [] lost
  ranged : ∀ c < s.enqueued, Ranged (s.cmd c)

theorem RangedSandbox.keeps (h : RangedSandbox s) (hplaced : ∃ lost, Placed t [] lost)
    (hkeeps : KeepsRange s t) : RangedSandbox t :=
  ⟨hplaced, fun c hc => hkeeps.ranged c (h.ranged c (hkeeps.enqueued ▸ hc))⟩

/-- In a sandbox whose commands are in the range, every lookup is in the table. -/
theorem RangedSandbox.lookup (h : RangedSandbox s) (env : CheckerEnv) :
    ∀ p ∈ s.lookup env, InTable p := by
  obtain ⟨lost, hplaced⟩ := h.placed
  intro p hp
  unfold BatchCommandSandbox.lookup at hp
  split at hp
  · rename_i next current htop hc
    split at hp
    · cases hp
    · cases hp
      have hcurrent := hplaced.active_lt (mem_active_current hc)
      have hnext := hplaced.queued_lt (pqueue.top_mem htop)
      exact ⟨(h.ranged _ hcurrent).property, (h.ranged _ hnext).rule⟩
  · cases hp

theorem RangedSandbox.enqueueCommand (h : RangedSandbox s) {new : NewCommand}
    (hnew : Ranged new.toBatchCommand) (priority : UInt32) :
    RangedSandbox (s.enqueueCommand new priority).1 := by
  obtain ⟨lost, hplaced⟩ := h.placed
  refine ⟨⟨lost, hplaced.enqueueCommand new priority⟩, fun c hc => ?_⟩
  unfold BatchCommandSandbox.enqueueCommand at hc ⊢
  split
  · rename_i hserv
    exact h.ranged c (by simpa [hserv] using hc)
  · rename_i hserv
    have hlt : c < s.enqueued + 1 := by simpa [hserv, BatchCommandSandbox.emit] using hc
    by_cases hce : c = s.enqueued
    · subst hce
      simpa [BatchCommandSandbox.emit] using hnew
    · simpa [BatchCommandSandbox.emit, hce] using h.ranged c (by omega)

/-- A call whose handlers give no running property outside the rows, and whose description, for a
submission, has a rule of the columns. -/
def InRange : SubmissionCall → Prop
  | .submitCommand (some d) (some new) => describedRule d < 3 ∧ new.runningProperty < 4
  | .sandbox _ (.checkNextCommand env) => env.Ranged
  | .sandbox _ (.runCommand env) => env.Ranged
  | _ => True

instance InRange.decidable : ∀ a, Decidable (InRange a)
  | .submitCommand (some d) (some new) =>
    inferInstanceAs (Decidable (describedRule d < 3 ∧ new.runningProperty < 4))
  | .sandbox _ (.checkNextCommand env) => inferInstanceAs (Decidable env.Ranged)
  | .sandbox _ (.runCommand env) => inferInstanceAs (Decidable env.Ranged)
  | .submitCommand none _ | .submitCommand (some _) none | .sandbox _ (.enqueueCommand _ _)
  | .sandbox _ .killCurrentCommand | .sandbox _ .start | .sandbox _ .stop
  | .sandbox _ .deinit => isTrue trivial

theorem RangedSandbox.step (h : RangedSandbox s) {execution_channel : UInt32} {a : SandboxCall}
    (hin : InRange (.sandbox execution_channel a)) (hqueue : ∀ new p, a ≠ .enqueueCommand new p)
    (hstep : sandboxStep s a = some t) : RangedSandbox t := by
  have hplaced : ∃ lost, Placed t [] lost := by
    obtain ⟨lost, hplaced⟩ := h.placed
    obtain ⟨lost', ht, _⟩ := placed_step hplaced hstep
    exact ⟨lost', ht⟩
  refine h.keeps hplaced ?_
  cases a with
  | enqueueCommand new p => exact absurd rfl (hqueue new p)
  | checkNextCommand env =>
    cases hstep
    exact keepsRange_checkNextCommand hin s
  | runCommand env =>
    cases hstep
    exact keepsRange_runCommand hin s
  | killCurrentCommand =>
    obtain ⟨c, _, rfl⟩ := Option.map_eq_some_iff.mp hstep
    have hend : HandlerCall.Ranged (.setRunningProperty RP_End) := by decide
    exact keepsRange_modify s c fun b hb => handlersKeep_ranged.setRunningProperty (.inl hend) hb
  | start | stop =>
    cases hstep
    exact ⟨rfl, fun _ hc => hc⟩
  | deinit =>
    cases hstep
    have hd := frame_keepsRange.same (sameCommands_deinit s)
    exact ⟨hd.enqueued, hd.ranged⟩

/-- The id that is appended to a description does not change its rule. -/
theorem describedRule_addInt64Value (d : CommandDescription) (id : UInt64) :
    describedRule (d.addInt64Value RPC_GET_COMMAND_STATE_CMD_ID_UI64 id) = describedRule d := by
  unfold describedRule CommandDescription.hasKey CommandDescription.getInt32Value
  rw [getField_addInt64Value_ne d (by decide)]

theorem ranged_instanceCommandInfo {d : CommandDescription} {new : NewCommand}
    (h : InRange (.submitCommand (some d) (some new))) (id : UInt64) (command_alias : String) :
    Ranged (instanceCommandInfo (d.addInt64Value RPC_GET_COMMAND_STATE_CMD_ID_UI64 id)
      command_alias new).toBatchCommand := by
  refine ⟨h.2, ?_⟩
  simpa only [instanceCommandInfo, describedRule_addInt64Value] using h.1

/-- Each sandbox of the executor has commands of the range only. -/
def RangedExecutor (e : CommandExecutor) : Prop :=
  ∀ channel s, e.sandbox_map channel = some s → RangedSandbox s

theorem RangedExecutor.update {e : CommandExecutor} (h : RangedExecutor e) (channel : UInt32)
    (hs : RangedSandbox s) : ∀ channel' s',
    Function.update e.sandbox_map channel (some s) channel' = some s' → RangedSandbox s' := by
  intro channel' s' hs'
  by_cases hc : channel' = channel
  · subst hc
    rw [Function.update_self, Option.some.injEq] at hs'
    exact hs' ▸ hs
  · rw [Function.update_of_ne hc] at hs'
    exact h channel' s' hs'

theorem rangedExecutor_step {e e' : CommandExecutor} (h : RangedExecutor e) {a : SubmissionCall}
    (hin : InRange a) (hstep : submissionStep e a = some e') : RangedExecutor e' := by
  cases a with
  | sandbox execution_channel call =>
    have hcall : (∀ new p, call ≠ .enqueueCommand new p) ∧
        ((e.sandbox_map execution_channel).bind fun s => (sandboxStep s call).map fun t => { e with
          sandbox_map := Function.update e.sandbox_map execution_channel (some t) }) = some e' := by
      cases call with
      | enqueueCommand new p => cases hstep
      | checkNextCommand _ | runCommand _ | killCurrentCommand | start | stop | deinit =>
        refine ⟨?_, hstep⟩
        intro new p hne
        cases hne
    obtain ⟨s, hs, hmap⟩ := Option.bind_eq_some_iff.mp hcall.2
    obtain ⟨t, ht, rfl⟩ := Option.map_eq_some_iff.mp hmap
    exact h.update execution_channel ((h _ s hs).step hin hcall.1 ht)
  | submitCommand commandDescription instanced =>
    cases hstep
    cases commandDescription with
    | none => exact h
    | some d =>
      simp only [submitCommand]
      split
      · exact h
      · split
        · exact h
        · rename_i sandbox hsandbox
          split
          · exact h
          · exact h
          · have hnew := ranged_instanceCommandInfo hin (e.command_sequence_id + 1)
            exact h.update _ ((h _ sandbox hsandbox).enqueueCommand (hnew _) _)

/-! ## Every run -/

/-- A sandbox after the `init` of its executor: with no command, or with the default command, which
has the rule of its constructor. -/
inductive AfterInit : BatchCommandSandbox → Prop
  | empty (event_handler : Bool) (cmd : CommandRef → BatchCommand) :
    AfterInit (create event_handler cmd)
  | default_command (event_handler : Bool) (cmd : CommandRef → BatchCommand) (new : NewCommand) :
    new.submissionRule = SUBMIT_NORMAL → new.runningProperty < 4 →
      AfterInit ((create event_handler cmd).enqueueCommand new 50).1

theorem AfterInit.ranged (h : AfterInit s) : RangedSandbox s := by
  have hcreate : ∀ event_handler cmd, RangedSandbox (create event_handler cmd) :=
    fun event_handler cmd =>
      ⟨⟨[], placed_create event_handler cmd⟩, fun c hc => absurd hc (Nat.not_lt_zero c)⟩
  cases h with
  | empty event_handler cmd => exact hcreate event_handler cmd
  | default_command event_handler cmd new hrule hproperty =>
    have hlt : new.submissionRule < 3 := by
      rw [hrule]
      decide
    exact (hcreate event_handler cmd).enqueueCommand ⟨hproperty, hlt⟩ 50

/-- In every run of a started executor whose rules and running properties are in the range, each
lookup that an iteration of a checker makes is in the table. -/
theorem lookups_are_in_table (command_sequence_id : UInt64)
    (sandbox_map : UInt32 → Option BatchCommandSandbox)
    (hinit : ∀ channel s, sandbox_map channel = some s → AfterInit s)
    (calls : List SubmissionCall) (e : CommandExecutor) (hok : ∀ a ∈ calls, InRange a)
    (hrun : runs.run submissionStep (started command_sequence_id sandbox_map) calls = some e)
    (channel : UInt32) (s : BatchCommandSandbox) (hs : e.sandbox_map channel = some s)
    (env : CheckerEnv) : ∀ p ∈ s.lookup env, InTable p := by
  have hstart : RangedExecutor (started command_sequence_id sandbox_map) :=
    fun channel s hs => (hinit channel s hs).ranged
  have hstep : ∀ e a e', RangedExecutor e → InRange a → submissionStep e a = some e' →
      RangedExecutor e' := fun _ _ _ h hin hstep => rangedExecutor_step h hin hstep
  have hokrun : runs.RunOk submissionStep (fun _ a => InRange a)
      (started command_sequence_id sandbox_map) calls := runs.RunOk.of_forall hok
  have hend := runs.run_keeps_of_ok RangedExecutor hstep hstart hokrun hrun
  exact (hend channel s hs).lookup env

/-- An iteration of the checker whose set handlers do nothing. -/
def quietCheck : CheckerEnv := ⟨0, none, 0, ⟨[], none⟩, 0, ⟨[], none⟩⟩

/-- A command is submitted and installed, and then another one is submitted. -/
def submissionsAround (d d' : CommandDescription) : List SubmissionCall :=
  submissionsOf [d] ++ .sandbox 1 (.checkNextCommand quietCheck) :: submissionsOf [d']

theorem afterInit_oneSandbox (channel : UInt32) (s : BatchCommandSandbox)
    (h : oneSandbox.sandbox_map channel = some s) : AfterInit s := by
  simp only [oneSandbox, started] at h
  split at h
  · cases h
    exact .empty _ _
  · cases h

theorem lookup_of_two_submissions : ∃ e s,
    runs.run submissionStep oneSandbox (submissionsAround moveCommand moveCommand) = some e ∧
      e.sandbox_map 1 = some s ∧ s.lookup quietCheck = some (RP_Normal, SUBMIT_NORMAL) ∧
      ∀ p ∈ s.lookup quietCheck, InTable p :=
  ⟨_, _, rfl, rfl, by decide, lookups_are_in_table 0 oneSandbox.sandbox_map afterInit_oneSandbox
    (submissionsAround moveCommand moveCommand) _ (by decide) rfl 1 _ rfl quietCheck⟩

/-- The submission rule 7 is looked up in a row of three columns. -/
theorem lookup_of_unknown_rule : ∃ e s,
    runs.run submissionStep oneSandbox (submissionsAround moveCommand
        [(COMMAND_ALIAS_STR, .string "move"), (SUBMISSION_RULE_UI32, .numberInt 7)]) = some e ∧
      e.sandbox_map 1 = some s ∧ s.lookup quietCheck = some (RP_Normal, 7) ∧
      ¬ InTable (RP_Normal, 7) :=
  ⟨_, _, rfl, rfl, by decide, by decide⟩

end chaos.batch_command
