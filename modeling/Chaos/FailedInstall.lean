-- A next command whose set handler throws. The checker leaves the current command, the stack and
-- the functors as they were: in every run, the functors of the handlers that the current command
-- implements are bound to it, so that its second installation binds what was bound before.
import Chaos.StepTimes

namespace chaos.batch_command

open BatchCommandSandbox

/-! ## The handlers of the current command -/

/-- The functors of the handlers that the current command implements are bound to it. -/
structure CurrentBound (s : BatchCommandSandbox) : Prop where
  acquire : ∀ c, s.currentExecutingCommand = some c →
    (s.cmd c).implementedHandler &&& HT_Acquisition ≠ 0 → s.acquireHandlerFunctor = some c
  correlation : ∀ c, s.currentExecutingCommand = some c →
    (s.cmd c).implementedHandler &&& HT_Correlation ≠ 0 → s.correlationHandlerFunctor = some c

variable {s t : BatchCommandSandbox} {c : CommandRef} {lost : List CommandRef}

theorem CurrentBound.of_same (h : CurrentBound s) (hsame : SameBinding s t)
    (hmask : ∀ c, s.currentExecutingCommand = some c →
      (t.cmd c).implementedHandler = (s.cmd c).implementedHandler) : CurrentBound t := by
  constructor
  · intro c hc hbit
    rw [hsame.current] at hc
    rw [hmask c hc] at hbit
    exact hsame.acquire.trans (h.acquire c hc hbit)
  · intro c hc hbit
    rw [hsame.current] at hc
    rw [hmask c hc] at hbit
    exact hsame.correlation.trans (h.correlation c hc hbit)

theorem CurrentBound.of_none (h : s.currentExecutingCommand = none) : CurrentBound s := by
  constructor
  · intro c hc
    simp [h] at hc
  · intro c hc
    simp [h] at hc

theorem handlers_setUp (now : UInt64) (set : HandlerOutcome) (d c : CommandRef) :
    ((s.modify d (setUp · now set)).cmd c).implementedHandler = (s.cmd c).implementedHandler :=
  modify_untouched (fun b => (keeps_setUp b now set).handlers) s d c

/-- An installation binds the functors, whatever they were bound to before. -/
theorem currentBound_installed (s : BatchCommandSandbox) (c : CommandRef) (now : UInt64)
    (set : HandlerOutcome) : CurrentBound (s.installed c now set) := by
  have hmask := handlers_setUp (s := s) now set c c
  constructor
  · intro d hd hbit
    cases Option.some.inj hd
    have hbit : (s.cmd c).implementedHandler &&& HT_Acquisition ≠ 0 := hmask ▸ hbit
    exact if_pos hbit
  · intro d hd hbit
    cases Option.some.inj hd
    have hbit : (s.cmd c).implementedHandler &&& HT_Correlation ≠ 0 := hmask ▸ hbit
    exact if_pos hbit

/-- The installation of a command installs it, or it leaves the current command alone. -/
theorem CurrentBound.installHandler (h : CurrentBound s) (now : UInt64) (set : HandlerOutcome) :
    CurrentBound (s.installHandler (some c) now set).1 := by
  by_cases hinst : installs (s.cmd c) set = true
  · rw [installHandler_of_installs hinst]
    exact currentBound_installed s c now set
  · rw [installHandler_of_not (Bool.eq_false_iff.mpr hinst)]
    exact h.of_same ⟨rfl, rfl, rfl, rfl⟩ fun d _ => handlers_setUp now set c d

/-! ## The checker keeps them -/

theorem sameBinding_failedInstall (s : BatchCommandSandbox) (c : CommandRef) :
    SameBinding s (s.failedInstall c) := by
  unfold BatchCommandSandbox.failedInstall
  split
  · split <;> exact ⟨rfl, rfl, rfl, rfl⟩
  · exact ⟨rfl, rfl, rfl, rfl⟩

theorem cmd_failedInstall (s : BatchCommandSandbox) (c : CommandRef) :
    (s.failedInstall c).cmd = s.cmd := by
  unfold BatchCommandSandbox.failedInstall
  split
  · split <;> rfl
  · rfl

/-- The current command after the set handler of the next one threw: it is installed again with
no call of its own set handler. -/
theorem ready_refused {current : CommandRef} {next : QueuedCommand}
    (hr : Ready (s.cmd current)) (now : UInt64) (set : HandlerOutcome) :
    Ready (((((s.pop next).unbind current).modify next.element (setUp · now set)).failedInstall
      next.element).cmd current) := by
  rw [cmd_failedInstall]
  have hk := keeps_setUp (((s.pop next).unbind current).cmd next.element) now set
  exact (modify_keeps (f := (setUp · now set)) hk current).ready hr

/-- A replacement that fails, with the second installation of the current command. -/
theorem replaceCurrent_of_not (env : CheckerEnv) {current : CommandRef} {next : QueuedCommand}
    (ended : BatchCommandEventType) (hr : Ready (s.cmd current))
    (hinst : installs (s.cmd next.element) env.set = false) :
    s.replaceCurrent env current next ended =
      ((((s.pop next).unbind current).modify next.element (setUp · env.now env.set)).failedInstall
        next.element).installed current env.nowAgain env.setAgain := by
  have hremove := removeHandler_of_ready (s := s.pop next) hr
  simp only [replaceCurrent, hremove,
    installHandler_of_not (s := (s.pop next).unbind current) hinst, Bool.false_eq_true, if_false]
  rw [installHandler_of_installs ((ready_refused hr env.now env.set).installs env.setAgain)]

theorem CurrentBound.stackCurrent (h : CurrentBound s) (env : CheckerEnv) (current : CommandRef)
    (next : QueuedCommand) : CurrentBound (s.stackCurrent env current next) := by
  have hpop : CurrentBound (s.pop next) := ⟨h.acquire, h.correlation⟩
  have hinstall := hpop.installHandler (c := next.element) env.now env.set
  simp only [BatchCommandSandbox.stackCurrent]
  split
  · exact ⟨hinstall.acquire, hinstall.correlation⟩
  · exact hinstall.of_same (sameBinding_failedInstall _ _) fun c _ => by rw [cmd_failedInstall]

theorem CurrentBound.replaceCurrent (env : CheckerEnv) {current : CommandRef}
    {next : QueuedCommand} (ended : BatchCommandEventType) (hr : Ready (s.cmd current)) :
    CurrentBound (s.replaceCurrent env current next ended) := by
  by_cases hinst : installs (s.cmd next.element) env.set = true
  · have hremove := removeHandler_of_ready (s := s.pop next) hr
    have h := currentBound_installed ((s.pop next).unbind current) next.element env.now env.set
    simp only [BatchCommandSandbox.replaceCurrent, hremove,
      installHandler_of_installs (s := (s.pop next).unbind current) hinst, if_true]
    exact ⟨h.acquire, h.correlation⟩
  · rw [replaceCurrent_of_not env ended hr (Bool.eq_false_iff.mpr hinst)]
    exact currentBound_installed _ current env.nowAgain env.setAgain

theorem CurrentBound.runOnlySet (h : CurrentBound s) (env : CheckerEnv) (next : QueuedCommand) :
    CurrentBound (s.runOnlySet env next) := by
  have hinstall := h.installHandler (c := next.element) env.now env.set
  unfold BatchCommandSandbox.runOnlySet
  generalize (s.installHandler (some next.element) env.now env.set).1 = u at *
  exact ⟨hinstall.acquire, hinstall.correlation⟩

theorem CurrentBound.checkAgainstCurrent (h : CurrentBound s) (env : CheckerEnv)
    {current : CommandRef} (next : QueuedCommand) (hr : Ready (s.cmd current)) :
    CurrentBound (s.checkAgainstCurrent env current next).1 := by
  unfold BatchCommandSandbox.checkAgainstCurrent
  split
  · exact h.runOnlySet env next
  · split
    · exact h
    · exact h
    · exact h.stackCurrent env current next
    · exact .replaceCurrent env _ hr
    · exact .replaceCurrent env _ hr
    · exact .replaceCurrent env _ hr
    · exact h

/-- A current command that has ended leaves the place to a command that is bound, or to none. -/
theorem CurrentBound.checkEnded (h : CurrentBound s) (hp : Placed s [] lost) (env : CheckerEnv) :
    CurrentBound (s.checkEnded env) := by
  have hreport : ∀ {r : BatchCommandSandbox} (c : CommandRef), CurrentBound r →
      CurrentBound ((r.reportEnd c).dispose c) := by
    intro r c hr
    unfold reportEnd
    split
    · exact ⟨hr.acquire, hr.correlation⟩
    · split <;> exact ⟨hr.acquire, hr.correlation⟩
  simp only [BatchCommandSandbox.checkEnded]
  cases hc : s.currentExecutingCommand with
  | none => exact h
  | some current =>
    have hr := hp.ready current (mem_active_current hc)
    simp only
    split
    · exact h
    · rw [removeHandler_of_ready hr]
      have hstack : (s.unbind current).commandStack = s.commandStack := rfl
      rw [hstack]
      cases hs : s.commandStack with
      | nil => exact hreport current (.of_none rfl)
      | cons top rest =>
        have htop : Ready ((s.unbind current).cmd top) :=
          hp.ready top (List.mem_append_right _ (hs ▸ List.mem_cons_self))
        have hb := currentBound_installed (s.unbind current) top env.now env.set
        simp only [installHandler_of_installs (htop.installs env.set)]
        exact hreport current ⟨hb.acquire, hb.correlation⟩

theorem CurrentBound.checkNextCommand (h : CurrentBound s) (hp : Placed s [] lost)
    (env : CheckerEnv) : CurrentBound (s.checkNextCommand env).1 := by
  unfold BatchCommandSandbox.checkNextCommand
  split
  · exact h.checkEnded hp env
  · rename_i next _
    split
    · rename_i current hc
      exact h.checkAgainstCurrent env next (hp.ready current (mem_active_current hc))
    · have hinstall := h.installHandler (c := next.element) env.now env.set
      exact ⟨hinstall.acquire, hinstall.correlation⟩

/-! ## Every run keeps them -/

theorem untouched_handlers : Untouched BatchCommand.implementedHandler :=
  ⟨fun o _ _ _ b => (sameSetup_guarded o _ _ _ b).handlers,
    fun b stat timeout expired => (sameSetup_commandPost b stat timeout expired).handlers⟩

theorem CurrentBound.enqueueCommand (h : CurrentBound s) (hp : Placed s [] lost)
    (new : NewCommand) (priority : UInt32) :
    CurrentBound (s.enqueueCommand new priority).1 := by
  unfold BatchCommandSandbox.enqueueCommand
  split
  · exact h
  · refine h.of_same ⟨rfl, rfl, rfl, rfl⟩ ?_
    intro c hc
    have hne : c ≠ s.enqueued := Nat.ne_of_lt (hp.active_lt (mem_active_current hc))
    simp [emit, Function.update_of_ne hne]

theorem currentBound_step (h : CurrentBound s) (hp : Placed s [] lost) {a : SandboxCall}
    (hstep : sandboxStep s a = some t) : CurrentBound t := by
  cases a with
  | enqueueCommand new priority =>
    cases hstep
    exact h.enqueueCommand hp new priority
  | checkNextCommand env =>
    cases hstep
    exact h.checkNextCommand hp env
  | runCommand env =>
    cases hstep
    exact h.of_same (sameBinding_runCommand s env) fun c _ => untouched_handlers.runCommand s env c
  | killCurrentCommand =>
    obtain ⟨d, _, rfl⟩ := Option.map_eq_some_iff.mp hstep
    refine h.of_same ⟨rfl, rfl, rfl, rfl⟩ fun c _ => ?_
    exact modify_untouched (fun b => (sameSetup_setRunningProperty b RP_End).handlers) s d c
  | start | stop =>
    cases hstep
    exact ⟨h.acquire, h.correlation⟩
  | deinit =>
    cases hstep
    refine .of_none ?_
    rw [deinit_eq]
    exact deinitCurrent_current

theorem currentBound_run {event_handler : Bool} {cmd : CommandRef → BatchCommand}
    {calls : List SandboxCall}
    (hrun : runs.run sandboxStep (create event_handler cmd) calls = some s) :
    CurrentBound s ∧ ∃ lost, Placed s [] lost := by
  refine runs.run_keeps (fun s => CurrentBound s ∧ ∃ lost, Placed s [] lost) ?_
    ⟨.of_none rfl, [], placed_create event_handler cmd⟩ hrun
  rintro s a t ⟨hb, lost, hp⟩ hstep
  obtain ⟨lost', hp', _⟩ := placed_step hp hstep
  exact ⟨currentBound_step hb hp hstep, lost', hp'⟩

/-! ## A failed installation -/

/-- The second installation binds each functor that the removal unbound. -/
theorem sameBinding_reinstalled (h : CurrentBound s) (hc : s.currentExecutingCommand = some c)
    (ht : SameBinding (s.unbind c) t)
    (hmask : (t.cmd c).implementedHandler = (s.cmd c).implementedHandler) (now : UInt64)
    (set : HandlerOutcome) : SameBinding s (t.installed c now set) := by
  refine ⟨hc.symm, ht.stack, ?_, ?_⟩
  · show (if (t.cmd c).implementedHandler &&& HT_Acquisition ≠ 0 then some c
      else t.acquireHandlerFunctor) = s.acquireHandlerFunctor
    rw [hmask, ht.acquire]
    by_cases hbit : (s.cmd c).implementedHandler &&& HT_Acquisition ≠ 0
    · rw [if_pos hbit, h.acquire c hc hbit]
    · simp [unbind, hbit]
  · show (if (t.cmd c).implementedHandler &&& HT_Correlation ≠ 0 then some c
      else t.correlationHandlerFunctor) = s.correlationHandlerFunctor
    rw [hmask, ht.correlation]
    by_cases hbit : (s.cmd c).implementedHandler &&& HT_Correlation ≠ 0
    · rw [if_pos hbit, h.correlation c hc hbit]
    · simp [unbind, hbit]

/-- The sandbox is as it was, but for the next command, which is not in the queue any more. -/
def LosesOnly (s t : BatchCommandSandbox) (next : QueuedCommand) : Prop :=
  SameBinding s t ∧ t.command_submitted_queue = s.command_submitted_queue.erase next

theorem queue_failedInstall (s : BatchCommandSandbox) (c : CommandRef) :
    (s.failedInstall c).command_submitted_queue = s.command_submitted_queue := by
  unfold BatchCommandSandbox.failedInstall
  split
  · split <;> rfl
  · rfl

theorem stackCurrent_fails (env : CheckerEnv) (current : CommandRef) {next : QueuedCommand}
    (hinst : installs (s.cmd next.element) env.set = false) :
    LosesOnly s (s.stackCurrent env current next) next := by
  simp only [stackCurrent, installHandler_of_not (s := s.pop next) hinst, Bool.false_eq_true,
    if_false]
  have h := sameBinding_failedInstall
    ((s.pop next).modify next.element (setUp · env.now env.set)) next.element
  exact ⟨⟨h.current, h.stack, h.acquire, h.correlation⟩, queue_failedInstall _ _⟩

theorem replaceCurrent_fails (h : CurrentBound s) (env : CheckerEnv) {current : CommandRef}
    {next : QueuedCommand} (ended : BatchCommandEventType)
    (hc : s.currentExecutingCommand = some current) (hr : Ready (s.cmd current))
    (hinst : installs (s.cmd next.element) env.set = false) :
    LosesOnly s (s.replaceCurrent env current next ended) next := by
  rw [replaceCurrent_of_not env ended hr hinst]
  have hfailed := sameBinding_failedInstall
    (((s.pop next).unbind current).modify next.element (setUp · env.now env.set)) next.element
  refine ⟨sameBinding_reinstalled h hc ⟨hfailed.current, hfailed.stack, hfailed.acquire,
    hfailed.correlation⟩ ?_ _ _, queue_failedInstall _ _⟩
  rw [cmd_failedInstall]
  exact handlers_setUp (s := (s.pop next).unbind current) env.now env.set next.element current

theorem runOnlySet_keeps (env : CheckerEnv) {next : QueuedCommand}
    (hinst : installs (s.cmd next.element) env.set = false) :
    LosesOnly s (s.runOnlySet env next) next := by
  simp only [runOnlySet, installHandler_of_not hinst]
  exact ⟨⟨rfl, rfl, rfl, rfl⟩, rfl⟩

/-- When the set handler of the next command throws, in an iteration that takes this command out
of the queue, the sandbox stays as it was and the queue loses that command only. -/
theorem failed_installation_restores (event_handler : Bool) (cmd : CommandRef → BatchCommand)
    (calls : List SandboxCall) (s : BatchCommandSandbox)
    (hrun : runs.run sandboxStep (create event_handler cmd) calls = some s) (env : CheckerEnv)
    (current : CommandRef) (next : QueuedCommand)
    (hc : s.currentExecutingCommand = some current) (htop : s.top env.tie = some next)
    (hrule : 1 < (s.cmd next.element).implementedHandler →
      swaps (CHECK_RUNNING_VS_SUBMISSION env (s.cmd current).runningProperty
        (s.cmd next.element).submissionRule) = true)
    (hset : callsSet (s.cmd next.element) = true) (hthrown : env.set.thrown.isSome = true) :
    LosesOnly s (s.checkNextCommand env).1 next := by
  obtain ⟨hb, lost, hp⟩ := currentBound_run hrun
  have hr := hp.ready current (mem_active_current hc)
  have hinst : installs (s.cmd next.element) env.set = false := by
    simp [installs, hset, hthrown]
  simp only [checkNextCommand, htop, hc, checkAgainstCurrent]
  by_cases hmask : (s.cmd next.element).implementedHandler ≤ 1
  · simp only [if_pos hmask]
    exact runOnlySet_keeps env hinst
  · simp only [if_neg hmask]
    have hswap := hrule (UInt8.not_le.mp hmask)
    revert hswap
    cases CHECK_RUNNING_VS_SUBMISSION env (s.cmd current).runningProperty
        (s.cmd next.element).submissionRule with
    | none => exact fun h => absurd h (by decide)
    | some r =>
      cases r with
      | RSR_NO_CHANGE => exact fun h => absurd h (by decide)
      | RSR_TIMED_RETRY => exact fun h => absurd h (by decide)
      | RSR_STACK_CURENT_COMMAND => exact fun _ => stackCurrent_fails env current hinst
      | RSR_KILL_KURRENT_COMMAND => exact fun _ => replaceCurrent_fails hb env _ hc hr hinst
      | RSR_CURRENT_CMD_HAS_ENDED => exact fun _ => replaceCurrent_fails hb env _ hc hr hinst
      | RSR_CURRENT_CMD_HAS_FAULTED => exact fun _ => replaceCurrent_fails hb env _ hc hr hinst

/-- A command runs over another one, and a third one that kills it waits in the queue. -/
def killingRun : List SandboxCall :=
  stackedRun ++ [.enqueueCommand (aCommand 7 SUBMIT_AND_Kill) 50]

theorem failed_installation_of_killing_run : ∃ s,
    runs.run sandboxStep (create true fun _ => (aCommand 0 0).toBatchCommand) killingRun = some s ∧
      s.currentExecutingCommand = some 1 ∧
      LosesOnly s (s.checkNextCommand ⟨0, none, 9, ⟨[], some .unmanaged⟩, 9, ⟨[], none⟩⟩).1
        ⟨50, 2⟩ :=
  ⟨_, rfl, rfl, failed_installation_restores true _ killingRun _ rfl _ 1 ⟨50, 2⟩ rfl rfl
    (fun _ => by decide) (by decide) (by decide)⟩

end chaos.batch_command
