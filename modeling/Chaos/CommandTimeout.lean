-- The time that the timeout of a command is counted from. `commandPre` writes it at each
-- installation, so that it is the time of the set handler for the commands that are installed
-- once, and for no other one.
import Chaos.StepTimes

namespace chaos.batch_command

open BatchCommandSandbox

def BatchCommand.getSetTime (b : BatchCommand) : UInt64 := b.command_set_time_usec

/-! ## What writes the set time -/

/-- No call of a handler changes the set time. -/
theorem handlersKeep_getSetTime (time : UInt64) :
    HandlersKeep (fun _ => True) fun b => b.getSetTime = time where
  names _ _ _ h := h
  features _ _ h := h
  property _ _ _ h := h

theorem getSetTime_setRunningProperty (b : BatchCommand) (p : UInt8) :
    (b.setRunningProperty p).getSetTime = b.getSetTime :=
  (handlersKeep_getSetTime _).setRunningProperty (.inl trivial) rfl

theorem getSetTime_after (o : HandlerOutcome) (b : BatchCommand) :
    (o.after b).getSetTime = b.getSetTime :=
  (handlersKeep_getSetTime _).after (fun _ _ => trivial) rfl

theorem getSetTime_caught (b : BatchCommand) (stdCode otherCode : Int) (domain : String)
    (t : Thrown) : (b.caught stdCode otherCode domain t).getSetTime = b.getSetTime :=
  (handlersKeep_getSetTime _).caught stdCode otherCode domain t rfl

/-- Does `commandPost` call the timeout handler? -/
def BatchCommand.callsTimeout (b : BatchCommand) (stat : SandboxStat) : Bool :=
  decide (b.commandFeatures.featuresFlag &&& FeatureFlag.FF_SET_COMMAND_TIMEOUT.bit ≠ 0) &&
    decide (b.commandFeatures.featureCommandTimeout ≤ stat.lastCmdStepStart - b.getSetTime)

theorem getSetTime_setUp (b : BatchCommand) (now : UInt64) (set : HandlerOutcome) :
    (setUp b now set).getSetTime = now := by
  have hafter : (set.after (b.commandPre now)).getSetTime = now := getSetTime_after set _
  unfold setUp
  simp only
  split
  · split
    · exact hafter
    · rw [getSetTime_caught, hafter]
  · rfl

/-! ## The set times of a sandbox -/

/-- The set time of a command of the sandbox. -/
def BatchCommandSandbox.setTime (s : BatchCommandSandbox) (c : CommandRef) : UInt64 :=
  (s.cmd c).getSetTime

variable {s : BatchCommandSandbox} {c d : CommandRef}

theorem untouched_getSetTime : Untouched BatchCommand.getSetTime where
  guarded _ _ _ _ _ := (handlersKeep_getSetTime _).guarded (fun _ _ => trivial) _ _ _ rfl
  post _ _ _ _ := (handlersKeep_getSetTime _).commandPost (fun _ _ => trivial) _ _ rfl

/-- `installHandler` writes its time in the command, whether it is installed or not. -/
theorem setTime_installHandler (s : BatchCommandSandbox) (d c : CommandRef) (now : UInt64)
    (set : HandlerOutcome) :
    (s.installHandler (some d) now set).1.setTime c = if c = d then now else s.setTime c := by
  have hcmd : (s.installHandler (some d) now set).1.cmd = (s.modify d (setUp · now set)).cmd := by
    simp only [installHandler]
    split <;> rfl
  unfold BatchCommandSandbox.setTime
  rw [hcmd]
  by_cases h : c = d
  · subst h
    simp [BatchCommandSandbox.modify, getSetTime_setUp]
  · simp [BatchCommandSandbox.modify, h]

theorem setTime_removeHandler (s : BatchCommandSandbox) (d c : CommandRef) :
    (s.removeHandler d).setTime c = s.setTime c := by
  unfold removeHandler
  simp only
  split <;> rfl

theorem setTime_failedInstall (s : BatchCommandSandbox) (d c : CommandRef) :
    (s.failedInstall d).setTime c = s.setTime c := by
  unfold failedInstall
  split
  · split <;> rfl
  · rfl

theorem setTime_reportEnd (s : BatchCommandSandbox) (d c : CommandRef) :
    (s.reportEnd d).setTime c = s.setTime c := by
  unfold reportEnd
  split
  · rfl
  · split <;> rfl

/-! ## The installations of an iteration -/

/-- The calls of `installHandler` for a next command on top of the queue and a current one. -/
def BatchCommandSandbox.installationsAgainst (s : BatchCommandSandbox) (env : CheckerEnv)
    (current : CommandRef) (next : QueuedCommand) : List (CommandRef × UInt64) :=
  if (s.cmd next.element).implementedHandler ≤ 1 then [(next.element, env.now)]
  else
    match CHECK_RUNNING_VS_SUBMISSION env (s.cmd current).runningProperty
        (s.cmd next.element).submissionRule with
    | none | some .RSR_NO_CHANGE | some .RSR_TIMED_RETRY => []
    | some .RSR_STACK_CURENT_COMMAND => [(next.element, env.now)]
    | some .RSR_KILL_KURRENT_COMMAND | some .RSR_CURRENT_CMD_HAS_ENDED
    | some .RSR_CURRENT_CMD_HAS_FAULTED =>
      if installs (s.cmd next.element) env.set then [(next.element, env.now)]
      else [(next.element, env.now), (current, env.nowAgain)]

/-- The calls of `installHandler` on a command in one iteration of the checker, in order, with
the times that they read. -/
def BatchCommandSandbox.installations (s : BatchCommandSandbox) (env : CheckerEnv) :
    List (CommandRef × UInt64) :=
  match s.top env.tie, s.currentExecutingCommand with
  | none, none => []
  | none, some current =>
    if (s.cmd current).runningProperty < RP_End then []
    else (s.commandStack.take 1).map fun next => (next, env.now)
  | some next, none => [(next.element, env.now)]
  | some next, some current => s.installationsAgainst env current next

/-- The time of the last installation of a command in a list of installations. -/
def lastTime (l : List (CommandRef × UInt64)) (c : CommandRef) : Option UInt64 :=
  l.foldl (fun last p => if c = p.1 then some p.2 else last) none

theorem foldl_lastTime (l : List (CommandRef × UInt64)) (c : CommandRef) (last : Option UInt64) :
    l.foldl (fun last p => if c = p.1 then some p.2 else last) last = (lastTime l c).or last := by
  induction l generalizing last with
  | nil => rfl
  | cons p l ih =>
    simp only [lastTime, List.foldl_cons] at ih ⊢
    rw [ih, ih (if c = p.1 then some p.2 else none), Option.or_assoc]
    by_cases h : c = p.1 <;> simp [h]

theorem lastTime_cons (p : CommandRef × UInt64) (l : List (CommandRef × UInt64)) (c : CommandRef) :
    lastTime (p :: l) c = (lastTime l c).or (if c = p.1 then some p.2 else none) :=
  foldl_lastTime l c _

theorem mem_of_lastTime {l : List (CommandRef × UInt64)} {c : CommandRef} {x : UInt64}
    (h : lastTime l c = some x) : (c, x) ∈ l := by
  induction l with
  | nil => cases h
  | cons p l ih =>
    rw [lastTime_cons, Option.or_eq_some_iff] at h
    rcases h with h | ⟨_, h⟩
    · exact List.mem_cons_of_mem _ (ih h)
    · split at h
      · rename_i hc
        cases h
        exact hc ▸ List.mem_cons_self
      · cases h

theorem setTime_stackCurrent (env : CheckerEnv) (current : CommandRef) (next : QueuedCommand) :
    (s.stackCurrent env current next).setTime c =
      if c = next.element then env.now else s.setTime c := by
  unfold stackCurrent
  simp only
  split
  · exact setTime_installHandler (s.pop next) _ _ _ _
  · rw [setTime_failedInstall]
    exact setTime_installHandler (s.pop next) _ _ _ _

/-- The current command is installed again where the next one is not. -/
theorem setTime_replaceCurrent (env : CheckerEnv) (current : CommandRef) (next : QueuedCommand)
    (ended : BatchCommandEventType) :
    (s.replaceCurrent env current next ended).setTime c =
      if installs (s.cmd next.element) env.set = false ∧ c = current then env.nowAgain
      else if c = next.element then env.now else s.setTime c := by
  have hcmd : (((s.pop next).removeHandler current).cmd next.element) = s.cmd next.element := by
    unfold removeHandler
    simp only
    split <;> rfl
  have hnext : (((s.pop next).removeHandler current).installHandler (some next.element) env.now
      env.set).1.setTime c = if c = next.element then env.now else s.setTime c := by
    rw [setTime_installHandler, setTime_removeHandler]
    rfl
  simp only [replaceCurrent]
  by_cases hinst : installs (s.cmd next.element) env.set = true
  · rw [installHandler_of_installs (hcmd ▸ hinst)] at hnext ⊢
    simp only [hinst, if_true, Bool.true_eq_false, false_and, if_false]
    exact hnext
  · have hinst' := Bool.eq_false_iff.mpr hinst
    rw [installHandler_of_not (hcmd ▸ hinst')] at hnext ⊢
    simp only [hinst', Bool.false_eq_true, if_false, true_and]
    rw [setTime_installHandler, setTime_failedInstall]
    exact if_congr Iff.rfl rfl hnext

theorem setTime_runOnlySet (env : CheckerEnv) (next : QueuedCommand) :
    (s.runOnlySet env next).setTime c = if c = next.element then env.now else s.setTime c :=
  setTime_installHandler s next.element c env.now env.set

theorem setTime_checkAgainstCurrent (env : CheckerEnv) (current : CommandRef)
    (next : QueuedCommand) :
    (s.checkAgainstCurrent env current next).1.setTime c =
      (lastTime (s.installationsAgainst env current next) c).getD (s.setTime c) := by
  have hone : (lastTime [(next.element, env.now)] c).getD (s.setTime c) =
      if c = next.element then env.now else s.setTime c := by
    by_cases hd : c = next.element
    · simp [lastTime, hd]
    · simp [lastTime, hd]
  have htwo : ∀ ended, (s.replaceCurrent env current next ended).setTime c =
      (lastTime (if installs (s.cmd next.element) env.set then [(next.element, env.now)]
        else [(next.element, env.now), (current, env.nowAgain)]) c).getD (s.setTime c) := by
    intro ended
    rw [setTime_replaceCurrent]
    cases installs (s.cmd next.element) env.set with
    | true => simpa using hone.symm
    | false =>
      by_cases hcur : c = current
      · simp [lastTime, hcur]
      · by_cases hd : c = next.element
        · subst hd
          simp [lastTime, hcur]
        · simp [lastTime, hcur, hd]
  unfold checkAgainstCurrent installationsAgainst
  by_cases hmask : (s.cmd next.element).implementedHandler ≤ 1
  · simp only [if_pos hmask, hone]
    exact setTime_runOnlySet env next
  · simp only [if_neg hmask]
    cases CHECK_RUNNING_VS_SUBMISSION env (s.cmd current).runningProperty
        (s.cmd next.element).submissionRule with
    | none => rfl
    | some r =>
      cases r with
      | RSR_NO_CHANGE => rfl
      | RSR_TIMED_RETRY => rfl
      | RSR_STACK_CURENT_COMMAND => exact (setTime_stackCurrent env current next).trans hone.symm
      | RSR_KILL_KURRENT_COMMAND => exact htwo _
      | RSR_CURRENT_CMD_HAS_ENDED => exact htwo _
      | RSR_CURRENT_CMD_HAS_FAULTED => exact htwo _

theorem setTime_checkEnded (env : CheckerEnv) {current : CommandRef}
    (hc : s.currentExecutingCommand = some current)
    (hend : ¬ (s.cmd current).runningProperty < RP_End) :
    (s.checkEnded env).setTime c = if s.commandStack.head? = some c then env.now else s.setTime c := by
  have hstack : (s.removeHandler current).commandStack = s.commandStack := by
    unfold removeHandler
    simp only
    split <;> rfl
  simp only [checkEnded, hc, if_neg hend]
  show (BatchCommandSandbox.reportEnd _ current).setTime c = _
  rw [setTime_reportEnd, hstack]
  cases hs : s.commandStack with
  | nil => exact setTime_removeHandler s current c
  | cons top rest =>
    have h := setTime_installHandler (s.removeHandler current) top c env.now env.set
    rw [setTime_removeHandler] at h
    simp only [List.head?_cons, Option.some.injEq, eq_comm (a := top)]
    exact h

/-- Only the installations of an iteration write the set times. -/
theorem setTime_checkNextCommand (s : BatchCommandSandbox) (env : CheckerEnv) (c : CommandRef) :
    (s.checkNextCommand env).1.setTime c =
      (lastTime (s.installations env) c).getD (s.setTime c) := by
  unfold BatchCommandSandbox.checkNextCommand installations
  cases s.top env.tie with
  | none =>
    cases hc : s.currentExecutingCommand with
    | none => simp [checkEnded, hc, lastTime]
    | some current =>
      by_cases hend : (s.cmd current).runningProperty < RP_End
      · simp [checkEnded, hc, hend, lastTime]
      · simp only [setTime_checkEnded env hc hend, if_neg hend]
        cases s.commandStack with
        | nil => rfl
        | cons top rest =>
          by_cases htop : top = c
          · simp [lastTime, htop]
          · simp [lastTime, htop, Ne.symm htop]
  | some next =>
    cases hc : s.currentExecutingCommand with
    | none =>
      refine (setTime_installHandler s next.element c env.now env.set).trans ?_
      by_cases hd : c = next.element
      · simp [lastTime, hd]
      · simp [lastTime, hd]
    | some current => exact setTime_checkAgainstCurrent env current next

/-! ## Runs with a clock -/

/-- A sandbox with the last time that was read, and for each command the time at which its set
handler was called, if it was. -/
structure TimedSandbox where
  sandbox : BatchCommandSandbox
  now : UInt64
  setHandlerTime : CommandRef → Option UInt64

def TimedSandbox.create (event_handler : Bool) (cmd : CommandRef → BatchCommand) : TimedSandbox :=
  ⟨BatchCommandSandbox.create event_handler cmd, 0, fun _ => none⟩

/-- The times at which the set handlers were called, after an iteration of the checker. -/
def TimedSandbox.setHandlerTimes (t : TimedSandbox) (env : CheckerEnv) (c : CommandRef) :
    Option UInt64 :=
  match lastTime (t.sandbox.installations env) c with
  | none => t.setHandlerTime c
  | some now => if callsSet (t.sandbox.cmd c) then some now else t.setHandlerTime c

/-- The times of an iteration of the checker do not go backwards. -/
def TimedSandbox.InTime (t : TimedSandbox) (env : CheckerEnv) : Prop :=
  t.now ≤ env.now ∧ env.now ≤ env.nowAgain

instance (t : TimedSandbox) (env : CheckerEnv) : Decidable (t.InTime env) :=
  inferInstanceAs (Decidable (_ ∧ _))

/-- One call, with a clock that never goes backwards. -/
def timedStep (t : TimedSandbox) : SandboxCall → Option TimedSandbox
  | .checkNextCommand env =>
    if t.InTime env then
      some ⟨(t.sandbox.checkNextCommand env).1, env.nowAgain, t.setHandlerTimes env⟩
    else none
  | .runCommand env =>
    if t.now ≤ env.start ∧ env.start ≤ env.stop then
      some ⟨(t.sandbox.runCommand env).1, env.stop, t.setHandlerTime⟩
    else none
  | .enqueueCommand new priority =>
    some ⟨(t.sandbox.enqueueCommand new priority).1, t.now,
      Function.update t.setHandlerTime t.sandbox.enqueued none⟩
  | .killCurrentCommand => t.sandbox.killCurrentCommand.map fun s => { t with sandbox := s }
  | .start => (sandboxStep t.sandbox .start).map fun s => { t with sandbox := s }
  | .stop => (sandboxStep t.sandbox .stop).map fun s => { t with sandbox := s }
  | .deinit => (sandboxStep t.sandbox .deinit).map fun s => { t with sandbox := s }

/-- A timed step is a step of the sandbox. -/
theorem sandboxStep_of_timedStep {t u : TimedSandbox} {a : SandboxCall}
    (h : timedStep t a = some u) : sandboxStep t.sandbox a = some u.sandbox := by
  cases a with
  | checkNextCommand env =>
    simp only [timedStep] at h
    split at h
    · cases h
      rfl
    · cases h
  | runCommand env =>
    simp only [timedStep] at h
    split at h
    · cases h
      rfl
    · cases h
  | enqueueCommand new priority =>
    cases h
    rfl
  | killCurrentCommand =>
    obtain ⟨s, hs, rfl⟩ := Option.map_eq_some_iff.mp h
    exact hs
  | start | stop | deinit =>
    cases h
    rfl

/-- What a run keeps: the places of the commands, and that no active command was installed in
the future. -/
structure Timely (t : TimedSandbox) : Prop where
  placed : ∃ lost, Placed t.sandbox [] lost
  past : ∀ c ∈ t.sandbox.active, t.sandbox.setTime c ≤ t.now

theorem setTime_runCommand (s : BatchCommandSandbox) (env : RunEnv) (c : CommandRef) :
    (s.runCommand env).1.setTime c = s.setTime c :=
  untouched_getSetTime.runCommand s env c

/-- What the timeout of a command goes by. `base` is the set time itself, `no_wrap` the unsigned
difference, and `timeout` the steps that call the timeout handler. -/
structure TimeoutBase (t : TimedSandbox) : Prop where
  base : ∀ c x, t.setHandlerTime c = some x → (t.sandbox.cmd c).getSetTime = x
  no_wrap : ∀ c, t.sandbox.currentExecutingCommand = some c →
    (t.sandbox.cmd c).getSetTime ≤ t.now
  timeout : ∀ (env : RunEnv) c x, t.now ≤ env.start →
    t.sandbox.currentExecutingCommand = some c → t.setHandlerTime c = some x →
    (((t.sandbox.beforePost env).cmd c).callsTimeout (t.sandbox.beforePost env).stat = true ↔
      ((t.sandbox.beforePost env).cmd c).commandFeatures.featuresFlag &&&
          FeatureFlag.FF_SET_COMMAND_TIMEOUT.bit ≠ 0 ∧
        x.toNat + ((t.sandbox.beforePost env).cmd c).commandFeatures.featureCommandTimeout.toNat ≤
          env.start.toNat)

theorem TimeoutBase.of_base {t : TimedSandbox} (h : Timely t)
    (hbase : ∀ c x, t.setHandlerTime c = some x → t.sandbox.setTime c = x) : TimeoutBase t where
  base := hbase
  no_wrap c hc := h.past c (mem_active_current hc)
  timeout env c x hnow hc hx := by
    have hset : ((t.sandbox.beforePost env).cmd c).getSetTime = x :=
      (untouched_getSetTime.beforePost t.sandbox env c).trans (hbase c x hx)
    have hle : x ≤ env.start := by
      have hpast := h.past c (mem_active_current hc)
      rw [hbase c x hx] at hpast
      exact UInt64.le_trans hpast hnow
    have hdiff : (env.start - x).toNat = env.start.toNat - x.toNat :=
      UInt64.toNat_sub_of_le _ _ hle
    have hlen := UInt64.le_iff_toNat_le.mp hle
    simp only [BatchCommand.callsTimeout, hset, (beforePost_stat env).1, Bool.and_eq_true,
      decide_eq_true_eq, UInt64.le_iff_toNat_le, hdiff]
    refine and_congr_right fun _ => ?_
    omega

/-! ## Active commands were installed -/

theorem mem_active_installHandler {now : UInt64} {set : HandlerOutcome}
    (h : c ∈ (s.installHandler (some d) now set).1.active) : c = d ∨ c ∈ s.active := by
  simp only [installHandler] at h
  split at h
  · exact .inr h
  · have hd : c ∈ [d] ++ s.commandStack := h
    rcases List.mem_append.mp hd with hd | hd
    · exact .inl (List.mem_singleton.mp hd)
    · exact .inr (List.mem_append_right _ hd)

theorem active_removeHandler (s : BatchCommandSandbox) (d : CommandRef) :
    (s.removeHandler d).active = s.active := by
  unfold removeHandler
  simp only
  split <;> rfl

theorem active_failedInstall (s : BatchCommandSandbox) (d : CommandRef) :
    (s.failedInstall d).active = s.active := by
  unfold failedInstall
  split
  · split <;> rfl
  · rfl

theorem active_reportEnd (s : BatchCommandSandbox) (d : CommandRef) :
    (s.reportEnd d).active = s.active := by
  unfold reportEnd
  split
  · rfl
  · split <;> rfl

theorem active_finish (s : BatchCommandSandbox) (d : CommandRef) (type : BatchCommandEventType) :
    ((s.report d type).dispose d).active = s.active := rfl

theorem mem_active_runOnlySet {env : CheckerEnv} {next : QueuedCommand}
    (h : c ∈ (s.runOnlySet env next).active) : c = next.element ∨ c ∈ s.active := by
  rw [runOnlySet, active_finish] at h
  exact mem_active_installHandler h

theorem mem_active_stackCurrent {env : CheckerEnv} {current : CommandRef} {next : QueuedCommand}
    (hc : s.currentExecutingCommand = some current)
    (h : c ∈ (s.stackCurrent env current next).active) : c = next.element ∨ c ∈ s.active := by
  simp only [stackCurrent] at h
  split at h
  · have hpush : c ∈ ((s.pop next).installHandler (some next.element) env.now env.set).1.active ∨
        c = current := by
      simp only [active, report, emit, List.mem_append, List.mem_cons] at h ⊢
      tauto
    rcases hpush with hpush | rfl
    · exact mem_active_installHandler (s := s.pop next) hpush
    · exact .inr (mem_active_current hc)
  · rw [active_failedInstall] at h
    exact mem_active_installHandler (s := s.pop next) h

theorem mem_active_replaceCurrent {env : CheckerEnv} {current : CommandRef} {next : QueuedCommand}
    {ended : BatchCommandEventType} (hc : s.currentExecutingCommand = some current)
    (h : c ∈ (s.replaceCurrent env current next ended).active) :
    c = next.element ∨ c ∈ s.active := by
  have hfirst : ∀ {c}, c ∈ (((s.pop next).removeHandler current).installHandler
      (some next.element) env.now env.set).1.active → c = next.element ∨ c ∈ s.active := by
    intro c h
    have h := mem_active_installHandler h
    rwa [active_removeHandler] at h
  simp only [replaceCurrent] at h
  split at h
  · rw [active_finish] at h
    exact hfirst h
  · rcases mem_active_installHandler h with rfl | h
    · exact .inr (mem_active_current hc)
    · rw [active_failedInstall] at h
      exact hfirst h

theorem mem_active_checkAgainstCurrent {env : CheckerEnv} {current : CommandRef}
    {next : QueuedCommand} (hc : s.currentExecutingCommand = some current)
    (h : c ∈ (s.checkAgainstCurrent env current next).1.active) :
    c ∈ s.active ∨ (lastTime (s.installationsAgainst env current next) c).isSome := by
  have hnext : c = next.element ∨ c ∈ s.active → ∀ l,
      c ∈ s.active ∨ (lastTime ((next.element, env.now) :: l) c).isSome := by
    rintro (rfl | hact) l
    · right
      simp [lastTime_cons]
    · exact .inl hact
  unfold checkAgainstCurrent at h
  unfold installationsAgainst
  by_cases hmask : (s.cmd next.element).implementedHandler ≤ 1
  · simp only [if_pos hmask] at h ⊢
    exact hnext (mem_active_runOnlySet h) []
  · simp only [if_neg hmask] at h ⊢
    revert h
    cases CHECK_RUNNING_VS_SUBMISSION env (s.cmd current).runningProperty
        (s.cmd next.element).submissionRule with
    | none => exact .inl
    | some r =>
      cases r with
      | RSR_NO_CHANGE => exact .inl
      | RSR_TIMED_RETRY => exact .inl
      | RSR_STACK_CURENT_COMMAND => exact fun h => hnext (mem_active_stackCurrent hc h) []
      | RSR_KILL_KURRENT_COMMAND | RSR_CURRENT_CMD_HAS_ENDED | RSR_CURRENT_CMD_HAS_FAULTED =>
        intro h
        simp only
        split
        · exact hnext (mem_active_replaceCurrent hc h) []
        · exact hnext (mem_active_replaceCurrent hc h) _

/-- A command that an iteration leaves active was active, or it is installed by the iteration. -/
theorem mem_active_checkNextCommand {env : CheckerEnv}
    (h : c ∈ (s.checkNextCommand env).1.active) :
    c ∈ s.active ∨ (lastTime (s.installations env) c).isSome := by
  unfold BatchCommandSandbox.checkNextCommand at h
  unfold installations
  cases htop : s.top env.tie with
  | none =>
    left
    rw [htop] at h
    simp only [checkEnded] at h
    cases hc : s.currentExecutingCommand with
    | none => simpa [hc] using h
    | some current =>
      simp only [hc] at h
      split at h
      · exact h
      · have h : c ∈ (BatchCommandSandbox.reportEnd _ current).active := h
        rw [active_reportEnd] at h
        have hstack : (s.removeHandler current).commandStack = s.commandStack := by
          unfold removeHandler
          simp only
          split <;> rfl
        rw [hstack] at h
        cases hs : s.commandStack with
        | nil =>
          rw [hs] at h
          simp [active, installHandler, hstack, hs] at h
        | cons top rest =>
          rw [hs] at h
          have h : c ∈ ((s.removeHandler current).installHandler (some top) env.now
              env.set).1.active := by
            simp only [active, List.mem_append] at h ⊢
            exact h.imp_right List.mem_of_mem_tail
          rcases mem_active_installHandler h with rfl | h
          · exact List.mem_append_right _ (hs ▸ List.mem_cons_self)
          · rwa [active_removeHandler] at h
  | some next =>
    rw [htop] at h
    cases hc : s.currentExecutingCommand with
    | none =>
      simp only [hc] at h
      rcases mem_active_installHandler h with rfl | h
      · exact .inr (by simp [lastTime])
      · exact .inl h
    | some current =>
      simp only [hc] at h
      exact mem_active_checkAgainstCurrent hc h

/-- Every time that an iteration of the checker reads is at most its last one. -/
theorem lastTime_installations_le {env : CheckerEnv} (h : env.now ≤ env.nowAgain) {x : UInt64}
    (hx : lastTime (s.installations env) c = some x) : x ≤ env.nowAgain := by
  have hall : ∀ p ∈ s.installations env, p.2 ≤ env.nowAgain := by
    unfold installations
    split
    · simp
    · split
      · simp
      · simp only [List.mem_map]
        rintro p ⟨d, _, rfl⟩
        exact h
    · simpa using h
    · unfold installationsAgainst
      split
      · simpa using h
      · split
        · simp
        · simp
        · simp
        · simpa using h
        all_goals split
        all_goals simp [h]
  exact hall _ (mem_of_lastTime hx)

/-! ## One step of a run -/

theorem setTime_deinit (s : BatchCommandSandbox) (c : CommandRef) :
    s.deinit.setTime c = s.setTime c := by
  rw [deinit_eq]
  show s.deinitCurrent.setTime c = s.setTime c
  unfold deinitCurrent
  split <;> rfl

theorem active_deinit (s : BatchCommandSandbox) : s.deinit.active = [] := by
  rw [deinit_eq, active]
  simp [deinitCurrent_current]

theorem setTime_enqueueCommand {new : NewCommand} {priority : UInt32} (hc : c ≠ s.enqueued) :
    (s.enqueueCommand new priority).1.setTime c = s.setTime c := by
  unfold enqueueCommand
  split
  · rfl
  · simp [BatchCommandSandbox.setTime, emit, Function.update_of_ne hc]

theorem active_enqueueCommand (new : NewCommand) (priority : UInt32) :
    (s.enqueueCommand new priority).1.active = s.active := by
  unfold enqueueCommand
  split <;> rfl

theorem Timely.step {t u : TimedSandbox} {a : SandboxCall} (h : Timely t)
    (hstep : timedStep t a = some u) : Timely u := by
  obtain ⟨lost, hp⟩ := h.placed
  obtain ⟨lost', hp', _⟩ := placed_step hp (sandboxStep_of_timedStep hstep)
  refine ⟨⟨lost', hp'⟩, ?_⟩
  intro c hc
  cases a with
  | checkNextCommand env =>
    simp only [timedStep] at hstep
    split at hstep
    · rename_i htime
      cases hstep
      rw [setTime_checkNextCommand]
      cases hlast : lastTime (t.sandbox.installations env) c with
      | some x => exact lastTime_installations_le htime.2 hlast
      | none =>
        have hact := (mem_active_checkNextCommand hc).resolve_right (by simp [hlast])
        exact UInt64.le_trans (h.past c hact) (UInt64.le_trans htime.1 htime.2)
    · cases hstep
  | runCommand env =>
    simp only [timedStep] at hstep
    split at hstep
    · rename_i htime
      cases hstep
      have hact : c ∈ t.sandbox.active := (sameBinding_runCommand t.sandbox env).active ▸ hc
      show (t.sandbox.runCommand env).1.setTime c ≤ env.stop
      rw [setTime_runCommand]
      exact UInt64.le_trans (h.past c hact) (UInt64.le_trans htime.1 htime.2)
    · cases hstep
  | enqueueCommand new priority =>
    cases hstep
    have hact : c ∈ t.sandbox.active := (active_enqueueCommand new priority) ▸ hc
    rw [setTime_enqueueCommand (Nat.ne_of_lt (hp.active_lt hact))]
    exact h.past c hact
  | killCurrentCommand =>
    obtain ⟨s, hs, rfl⟩ := Option.map_eq_some_iff.mp hstep
    obtain ⟨d, _, rfl⟩ := Option.map_eq_some_iff.mp hs
    have hkept := modify_untouched (fun b => getSetTime_setRunningProperty b RP_End) t.sandbox d c
    exact UInt64.le_trans (UInt64.le_of_eq hkept) (h.past c hc)
  | start | stop =>
    cases hstep
    exact h.past c hc
  | deinit =>
    cases hstep
    have hnone : c ∈ t.sandbox.deinit.active := hc
    rw [active_deinit] at hnone
    cases hnone

/-- A command whose set handler was called is installed again only at the time of that call. -/
def InstalledAtSetTime (t : TimedSandbox) : SandboxCall → Prop
  | .checkNextCommand env => t.InTime env → ∀ c x y,
    lastTime (t.sandbox.installations env) c = some y → callsSet (t.sandbox.cmd c) = false →
      t.setHandlerTime c = some x → y = x
  | _ => True

/-- One step keeps the set times just when it installs no command again at another time. -/
theorem timeoutBase_step {t : TimedSandbox} (h : Timely t) (hb : TimeoutBase t) (a : SandboxCall) :
    InstalledAtSetTime t a ↔ ∀ u, timedStep t a = some u → TimeoutBase u := by
  cases a with
  | checkNextCommand env =>
    simp only [InstalledAtSetTime, timedStep]
    by_cases htime : t.InTime env
    · simp only [htime, true_imp_iff, if_true, Option.some.injEq]
      constructor
      · rintro hok u rfl
        refine TimeoutBase.of_base (h.step (a := .checkNextCommand env) ?_) ?_
        · simp only [timedStep, if_pos htime]
        · intro c x hx
          rw [setTime_checkNextCommand]
          simp only [TimedSandbox.setHandlerTimes] at hx
          cases hlast : lastTime (t.sandbox.installations env) c with
          | none =>
            rw [hlast] at hx
            exact hb.base c x hx
          | some y =>
            rw [hlast] at hx
            simp only at hx
            split at hx
            · exact Option.some.inj hx
            · rename_i hset
              exact hok c x y hlast (by simpa using hset) hx
      · intro hall c x y hlast hset hx
        have hbase := (hall _ rfl).base c x (by
          simp only [TimedSandbox.setHandlerTimes, hlast, hset, Bool.false_eq_true, if_false, hx])
        have htimes := setTime_checkNextCommand t.sandbox env c
        rw [hlast] at htimes
        exact htimes.symm.trans hbase
    · simp [htime]
  | runCommand env =>
    refine iff_of_true trivial fun u hu => TimeoutBase.of_base (h.step hu) ?_
    simp only [timedStep] at hu
    split at hu
    · cases hu
      intro c x hx
      rw [setTime_runCommand]
      exact hb.base c x hx
    · cases hu
  | enqueueCommand new priority =>
    refine iff_of_true trivial fun u hu => TimeoutBase.of_base (h.step hu) ?_
    cases hu
    intro c x hx
    by_cases hc : c = t.sandbox.enqueued
    · simp [hc] at hx
    · rw [setTime_enqueueCommand hc]
      exact hb.base c x (by simpa [Function.update_of_ne hc] using hx)
  | killCurrentCommand =>
    refine iff_of_true trivial fun u hu => TimeoutBase.of_base (h.step hu) ?_
    obtain ⟨s, hs, rfl⟩ := Option.map_eq_some_iff.mp hu
    obtain ⟨d, _, rfl⟩ := Option.map_eq_some_iff.mp hs
    intro c x hx
    have hkept := modify_untouched (fun b => getSetTime_setRunningProperty b RP_End) t.sandbox d c
    exact hkept.trans (hb.base c x hx)
  | start | stop =>
    refine iff_of_true trivial fun u hu => TimeoutBase.of_base (h.step hu) ?_
    cases hu
    exact hb.base
  | deinit =>
    refine iff_of_true trivial fun u hu => TimeoutBase.of_base (h.step hu) ?_
    cases hu
    intro c x hx
    exact (setTime_deinit t.sandbox c).trans (hb.base c x hx)

/-! ## Every run -/

theorem timely_create (event_handler : Bool) (cmd : CommandRef → BatchCommand) :
    Timely (TimedSandbox.create event_handler cmd) := by
  refine ⟨⟨[], placed_create event_handler cmd⟩, ?_⟩
  intro c hc
  cases hc

theorem timeoutBase_create (event_handler : Bool) (cmd : CommandRef → BatchCommand) :
    TimeoutBase (TimedSandbox.create event_handler cmd) := by
  refine TimeoutBase.of_base (timely_create event_handler cmd) ?_
  intro c x hx
  cases hx

/-- The set time of each command stays the time of its set handler, and the timeouts go by it,
just in the runs that install no command again at another time. -/
theorem command_timeout_base (event_handler : Bool) (cmd : CommandRef → BatchCommand)
    (calls : List SandboxCall) :
    runs.RunOk timedStep InstalledAtSetTime (TimedSandbox.create event_handler cmd) calls ↔
      ∀ n t, runs.run timedStep (TimedSandbox.create event_handler cmd) (calls.take n) = some t →
        TimeoutBase t := by
  have hstep : ∀ t a, Timely t ∧ TimeoutBase t → (InstalledAtSetTime t a ↔
      ∀ u, timedStep t a = some u → Timely u ∧ TimeoutBase u) := by
    rintro t a ⟨htimely, hbase⟩
    rw [timeoutBase_step htimely hbase a]
    exact forall₂_congr fun u hu => (and_iff_right (htimely.step hu)).symm
  rw [runs.runOk_iff_reached (fun t => Timely t ∧ TimeoutBase t) hstep
    ⟨timely_create event_handler cmd, timeoutBase_create event_handler cmd⟩]
  refine forall_congr' fun n => forall₂_congr fun t ht => and_iff_right ?_
  exact runs.run_keeps Timely (fun _ _ _ h hs => h.step hs) (timely_create event_handler cmd) ht

/-- An iteration of the checker at one time, whose set handlers do nothing. -/
def aCheckAt (now : UInt64) : SandboxCall :=
  .checkNextCommand ⟨0, none, now, ⟨[], none⟩, now, ⟨[], none⟩⟩

/-- A command is set at time 10, paused at time 20 by another one, and resumed at time 30. -/
def resumedRun : List SandboxCall :=
  [.enqueueCommand (aCommand 7 SUBMIT_NORMAL) 50, aCheckAt 10,
   .enqueueCommand (aCommand 2 SUBMIT_AND_Stack) 50, aCheckAt 20,
   .runCommand ⟨25, 25, ⟨[.setRunningProperty RP_End], none⟩, ⟨[], none⟩, ⟨[], none⟩, false⟩,
   aCheckAt 30]

/-- The resumed command has the time of its resumption as its set time. -/
theorem resumed_command_loses_set_time : ∃ t,
    runs.run timedStep (TimedSandbox.create false fun _ => (aCommand 0 0).toBatchCommand)
        resumedRun = some t ∧
      t.setHandlerTime 0 = some 10 ∧ (t.sandbox.cmd 0).getSetTime = 30 ∧ ¬ TimeoutBase t := by
  refine ⟨_, rfl, by decide, by decide, ?_⟩
  intro h
  have hbase := h.base 0 10 (by decide)
  revert hbase
  decide

end chaos.batch_command
