-- What the iterations of the two threads leave alone. A relation between a sandbox and a later one
-- that sees the commands and the flag only, and that the handlers keep, is kept by an iteration.
import Chaos.StepTimes

namespace chaos.batch_command

open BatchCommandSandbox

/-! ## The relations -/

/-- The sandboxes differ neither in the commands nor in the flag of the threads. -/
structure SameCommands (s t : BatchCommandSandbox) : Prop where
  enqueued : t.enqueued = s.enqueued
  cmd : t.cmd = s.cmd
  flag : t.scheduleWorkFlag = s.scheduleWorkFlag

/-- A relation between a sandbox and a later one that sees nothing else. -/
structure Frame (R : BatchCommandSandbox → BatchCommandSandbox → Prop) : Prop where
  trans : ∀ {r s t}, R r s → R s t → R r t
  same : ∀ {s t}, SameCommands s t → R s t

variable {R : BatchCommandSandbox → BatchCommandSandbox → Prop} {s t : BatchCommandSandbox}

theorem sameCommands_removeHandler (s : BatchCommandSandbox) (c : CommandRef) :
    SameCommands s (s.removeHandler c) := by
  simp only [BatchCommandSandbox.removeHandler]
  split <;> exact ⟨rfl, rfl, rfl⟩

theorem sameCommands_failedInstall (s : BatchCommandSandbox) (c : CommandRef) :
    SameCommands s (s.failedInstall c) := by
  unfold BatchCommandSandbox.failedInstall
  split
  · split <;> exact ⟨rfl, rfl, rfl⟩
  · exact ⟨rfl, rfl, rfl⟩

theorem sameCommands_reportEnd (s : BatchCommandSandbox) (c : CommandRef) :
    SameCommands s (s.reportEnd c) := by
  unfold BatchCommandSandbox.reportEnd
  split
  · exact ⟨rfl, rfl, rfl⟩
  · split <;> exact ⟨rfl, rfl, rfl⟩

theorem sameCommands_finish (s : BatchCommandSandbox) (c : CommandRef)
    (type : BatchCommandEventType) : SameCommands s ((s.report c type).dispose c) :=
  ⟨rfl, rfl, rfl⟩

theorem sameCommands_deinit (s : BatchCommandSandbox) : SameCommands s s.deinit := by
  have hcurrent : SameCommands s s.deinitCurrent := by
    unfold BatchCommandSandbox.deinitCurrent
    split <;> exact ⟨rfl, rfl, rfl⟩
  rw [deinit_eq]
  exact ⟨hcurrent.enqueued, hcurrent.cmd, hcurrent.flag⟩

/-- More changes of what the relation does not see. -/
theorem Frame.then (h : Frame R) {r : BatchCommandSandbox} (hr : R r s) (hs : SameCommands s t) :
    R r t :=
  h.trans hr (h.same hs)

/-! ## The checker -/

theorem Frame.installHandler (h : Frame R) {now : UInt64} {set : HandlerOutcome}
    (hset : ∀ s c, R s (s.modify c (setUp · now set))) (s : BatchCommandSandbox)
    (cmd_to_install : Option CommandRef) : R s (s.installHandler cmd_to_install now set).1 := by
  cases cmd_to_install with
  | none => exact h.same ⟨rfl, rfl, rfl⟩
  | some c =>
    simp only [BatchCommandSandbox.installHandler]
    split
    · exact hset s c
    · exact h.then (hset s c) ⟨rfl, rfl, rfl⟩

/-- The set handlers that an iteration can call keep the relation. -/
structure SetHandlersKeep (R : BatchCommandSandbox → BatchCommandSandbox → Prop)
    (env : CheckerEnv) : Prop where
  set : ∀ s c, R s (s.modify c (setUp · env.now env.set))
  setAgain : ∀ s c, R s (s.modify c (setUp · env.nowAgain env.setAgain))

variable {env : CheckerEnv}

theorem Frame.stackCurrent (h : Frame R) (hset : SetHandlersKeep R env) (s : BatchCommandSandbox)
    (current : CommandRef) (next : QueuedCommand) : R s (s.stackCurrent env current next) := by
  have hpop : R s (s.pop next) := h.same ⟨rfl, rfl, rfl⟩
  have hinstall := h.trans hpop (h.installHandler hset.set (s.pop next) (some next.element))
  simp only [BatchCommandSandbox.stackCurrent]
  split
  · exact h.then hinstall ⟨rfl, rfl, rfl⟩
  · exact h.then hinstall (sameCommands_failedInstall _ _)

theorem Frame.replaceCurrent (h : Frame R) (hset : SetHandlersKeep R env)
    (s : BatchCommandSandbox) (current : CommandRef) (next : QueuedCommand)
    (ended : BatchCommandEventType) : R s (s.replaceCurrent env current next ended) := by
  have hpop : R s (s.pop next) := h.same ⟨rfl, rfl, rfl⟩
  have hremove := h.then hpop (sameCommands_removeHandler (s.pop next) current)
  have hinstall := h.trans hremove (h.installHandler hset.set _ (some next.element))
  simp only [BatchCommandSandbox.replaceCurrent]
  split
  · exact h.then hinstall (sameCommands_finish _ current ended)
  · exact h.trans (h.then hinstall (sameCommands_failedInstall _ _))
      (h.installHandler hset.setAgain _ (some current))

theorem Frame.runOnlySet (h : Frame R) (hset : SetHandlersKeep R env) (s : BatchCommandSandbox)
    (next : QueuedCommand) : R s (s.runOnlySet env next) := by
  have hinstall := h.installHandler hset.set s (some next.element)
  unfold BatchCommandSandbox.runOnlySet
  generalize (s.installHandler (some next.element) env.now env.set).1 = t at hinstall ⊢
  exact h.then hinstall ⟨rfl, rfl, rfl⟩

theorem Frame.checkAgainstCurrent (h : Frame R) (hset : SetHandlersKeep R env)
    (s : BatchCommandSandbox) (current : CommandRef) (next : QueuedCommand) :
    R s (s.checkAgainstCurrent env current next).1 := by
  unfold BatchCommandSandbox.checkAgainstCurrent
  split
  · exact h.runOnlySet hset s next
  · split
    · exact h.same ⟨rfl, rfl, rfl⟩
    · exact h.same ⟨rfl, rfl, rfl⟩
    · exact h.stackCurrent hset s current next
    · exact h.replaceCurrent hset s current next .EVT_KILLED
    · exact h.replaceCurrent hset s current next .EVT_COMPLETED
    · exact h.replaceCurrent hset s current next .EVT_FAULT
    · exact h.same ⟨rfl, rfl, rfl⟩

theorem Frame.checkEnded (h : Frame R) (hset : SetHandlersKeep R env) (s : BatchCommandSandbox) :
    R s (s.checkEnded env) := by
  unfold BatchCommandSandbox.checkEnded
  cases s.currentExecutingCommand with
  | none => exact h.same ⟨rfl, rfl, rfl⟩
  | some current =>
    simp only
    split
    · exact h.same ⟨rfl, rfl, rfl⟩
    · have hfinish : ∀ {r}, R s r → R s ((r.reportEnd current).dispose current) :=
        fun hr => h.then (h.then hr (sameCommands_reportEnd _ _)) ⟨rfl, rfl, rfl⟩
      have hremove := h.same (sameCommands_removeHandler s current)
      refine hfinish ?_
      split
      · rename_i next _ _
        exact h.then (h.trans hremove (h.installHandler hset.set _ (some next))) ⟨rfl, rfl, rfl⟩
      · exact h.trans hremove (h.installHandler hset.set _ none)

theorem Frame.checkNextCommand (h : Frame R) (hset : SetHandlersKeep R env)
    (s : BatchCommandSandbox) : R s (s.checkNextCommand env).1 := by
  unfold BatchCommandSandbox.checkNextCommand
  split
  · exact h.checkEnded hset s
  · rename_i next _
    split
    · exact h.checkAgainstCurrent hset s _ next
    · exact h.then (h.installHandler hset.set s (some next.element)) ⟨rfl, rfl, rfl⟩

/-! ## The scheduler -/

/-- The handlers of a step keep the relation. -/
structure StepHandlersKeep (R : BatchCommandSandbox → BatchCommandSandbox → Prop)
    (env : RunEnv) : Prop where
  acquire : ∀ s c domain, R s (s.modify c (env.acquire.guarded (-1) (-2) domain))
  cc : ∀ s c domain, R s (s.modify c (env.cc.guarded (-1) (-2) domain))
  post : ∀ s c stat, R s (s.modify c (·.commandPost stat env.timeout env.expired))

theorem Frame.callFunctor (h : Frame R) {o : HandlerOutcome}
    (ho : ∀ s c domain, R s (s.modify c (o.guarded (-1) (-2) domain))) (s : BatchCommandSandbox)
    (f : Option CommandRef) (domain : String) : R s (s.callFunctor f o domain) := by
  unfold BatchCommandSandbox.callFunctor
  split
  · exact h.same ⟨rfl, rfl, rfl⟩
  · split
    · exact ho s _ domain
    · exact h.same ⟨rfl, rfl, rfl⟩

theorem Frame.runCommand (h : Frame R) {env : RunEnv} (hstep : StepHandlersKeep R env)
    (s : BatchCommandSandbox) : R s (s.runCommand env).1 := by
  cases hc : s.currentExecutingCommand with
  | none =>
    simp only [BatchCommandSandbox.runCommand, hc]
    split <;> exact h.same ⟨rfl, rfl, rfl⟩
  | some current =>
    have hstart : R s { s with stat := { s.stat with lastCmdStepStart := env.start } } :=
      h.same ⟨rfl, rfl, rfl⟩
    have hacquired : R s (s.acquired env) :=
      h.trans hstart (h.callFunctor hstep.acquire _ _ _)
    have hhandled : R s (s.handled env) := h.trans hacquired (h.callFunctor hstep.cc _ _ _)
    have hbefore : R s (s.beforePost env) := by
      simp only [BatchCommandSandbox.beforePost]
      split <;> exact h.then hhandled ⟨rfl, rfl, rfl⟩
    rw [(runCommand_of_current env hc).1]
    exact h.trans hbefore (hstep.post _ current _)

/-! ## The flag -/

theorem frame_flag : Frame fun s t => t.scheduleWorkFlag = s.scheduleWorkFlag :=
  ⟨fun h h' => h'.trans h, fun h => h.flag⟩

/-- No iteration of the checker writes the flag that ends the threads. -/
theorem flag_checkNextCommand (s : BatchCommandSandbox) (env : CheckerEnv) :
    (s.checkNextCommand env).1.scheduleWorkFlag = s.scheduleWorkFlag :=
  frame_flag.checkNextCommand ⟨fun _ _ => rfl, fun _ _ => rfl⟩ s

/-- No step of the scheduler writes it. -/
theorem flag_runCommand (s : BatchCommandSandbox) (env : RunEnv) :
    (s.runCommand env).1.scheduleWorkFlag = s.scheduleWorkFlag :=
  frame_flag.runCommand ⟨fun _ _ _ => rfl, fun _ _ _ => rfl, fun _ _ _ => rfl⟩ s

end chaos.batch_command
