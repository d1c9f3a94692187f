-- What a sandbox tells the event handler. A command that is disposed has had one terminal
-- event, as its last event, as long as no branch of the sandbox drops the command or its event.
import Chaos.SandboxPlaces

namespace chaos.batch_command

open BatchCommandSandbox

/-! ## The events of one command -/

/-- The events that the event handler got about command `c`, in order. -/
def BatchCommandSandbox.eventsOf (s : BatchCommandSandbox) (c : CommandRef) :
    List BatchCommandEventType :=
  (s.events.filter fun e => e.command = c).map CommandEvent.type

/-- The last event is terminal, and it is the only terminal one. -/
def EndsOnce (l : List BatchCommandEventType) : Prop :=
  (l.getLast?.map BatchCommandEventType.isTerminal) = some true ∧
    l.countP BatchCommandEventType.isTerminal = 1

instance EndsOnce.decidable (l : List BatchCommandEventType) : Decidable (EndsOnce l) :=
  inferInstanceAs (Decidable (_ ∧ _))

/-- The event handler knows the end of each disposed command, and of no other command. -/
def Told (s : BatchCommandSandbox) : Prop :=
  s.event_handler = true → ∀ c,
    (c ∈ s.disposed → EndsOnce (s.eventsOf c)) ∧
    (c ∉ s.disposed → ∀ t ∈ s.eventsOf c, t.isTerminal = false)

variable {s : BatchCommandSandbox} {lost : List CommandRef} {c : CommandRef}

theorem eventsOf_emit (he : s.event_handler = true) (d : CommandRef)
    (type : BatchCommandEventType) (value : EventValue) :
    (s.emit d type value).eventsOf c = s.eventsOf c ++ if d = c then [type] else [] := by
  simp only [eventsOf, emit, he, if_true, List.filter_append, List.map_append]
  by_cases hd : d = c
  · simp [hd]
  · simp [hd]

theorem endsOnce_append {l : List BatchCommandEventType} {t : BatchCommandEventType}
    (hl : ∀ u ∈ l, u.isTerminal = false) (ht : t.isTerminal = true) : EndsOnce (l ++ [t]) := by
  have hzero : l.countP BatchCommandEventType.isTerminal = 0 := by
    rw [List.countP_eq_zero]
    intro u hu
    simp [hl u hu]
  constructor
  · simp [ht]
  · simp [hzero, ht]

/-- An event that is not terminal, about a command that is alive. -/
theorem Told.emit (h : Told s) (hc : c ∉ s.disposed) {type : BatchCommandEventType}
    (ht : type.isTerminal = false) (value : EventValue) : Told (s.emit c type value) := by
  intro he d
  have he' : s.event_handler = true := he
  rw [eventsOf_emit he']
  by_cases hd : c = d
  · subst hd
    refine ⟨fun hmem => absurd hmem hc, ?_⟩
    intro _ t hmem
    rcases List.mem_append.mp hmem with hold | hnew
    · exact ((h he' c).2 hc) t hold
    · simp only [if_true, List.mem_singleton] at hnew
      exact hnew ▸ ht
  · rw [if_neg hd, List.append_nil]
    exact h he' d

theorem Told.report (h : Told s) (hc : c ∉ s.disposed) {type : BatchCommandEventType}
    (ht : type.isTerminal = false) : Told (s.report c type) :=
  h.emit hc ht _

/-- A command that is alive gets its terminal event and is disposed. -/
theorem Told.finish (h : Told s) (hc : c ∉ s.disposed) {type : BatchCommandEventType}
    (ht : type.isTerminal = true) : Told ((s.report c type).dispose c) := by
  intro he d
  have he' : s.event_handler = true := he
  have hevents : ((s.report c type).dispose c).eventsOf d =
      s.eventsOf d ++ if c = d then [type] else [] := eventsOf_emit he' c type _
  have hdisposed : ((s.report c type).dispose c).disposed = s.disposed ++ [c] := rfl
  rw [hevents, hdisposed]
  by_cases hd : c = d
  · subst hd
    simp only [if_true]
    refine ⟨fun _ => endsOnce_append ((h he' c).2 hc) ht, ?_⟩
    intro hn
    exact absurd (List.mem_append_right _ (List.mem_singleton_self c)) hn
  · have hd' : d ≠ c := fun h => hd h.symm
    simpa [hd, hd'] using h he' d

/-! ## The checker -/

theorem Told.installed (h : Told s) (hc : c ∉ s.disposed) (now : UInt64) (set : HandlerOutcome) :
    Told (s.installed c now set) :=
  Told.report (s := { s.modify c (setUp · now set) with
    acquireHandlerFunctor :=
      if (s.cmd c).implementedHandler &&& HT_Acquisition ≠ 0 then some c
      else s.acquireHandlerFunctor
    correlationHandlerFunctor :=
      if (s.cmd c).implementedHandler &&& HT_Correlation ≠ 0 then some c
      else s.correlationHandlerFunctor
    currentExecutingCommand := some c }) h hc rfl

theorem Told.runOnlySet (h : Told s) (env : CheckerEnv) {next : QueuedCommand}
    (hc : next.element ∉ s.disposed)
    (hmask : (s.cmd next.element).implementedHandler ≤ 1) : Told (s.runOnlySet env next) := by
  have hinst : installs (s.cmd next.element) env.set = false := by
    simp [installs, UInt8.not_lt.mpr hmask]
  simp only [BatchCommandSandbox.runOnlySet, installHandler_of_not hinst]
  refine Told.finish (s := (s.modify next.element (setUp · env.now env.set)).pop next) h hc ?_
  split <;> rfl

/-- A command whose set handler threw is in fault, so that it gets its terminal event. -/
theorem Told.failedInstall (h : Told s) (hc : c ∉ s.disposed) (now : UInt64)
    {set : HandlerOutcome} (hmask : 1 < (s.cmd c).implementedHandler)
    (hinst : installs (s.cmd c) set = false)
    (hlock : (s.cmd c).propertyLocked = false) :
    Told ((s.modify c (setUp · now set)).failedInstall c) := by
  have hcmd : (s.modify c (setUp · now set)).cmd c = setUp (s.cmd c) now set := by
    simp [BatchCommandSandbox.modify]
  have hfault : ((s.modify c (setUp · now set)).cmd c).runningProperty &&& RP_Fault ≠ 0 := by
    rw [hcmd, setUp_fault hmask hinst hlock]
    decide
  unfold BatchCommandSandbox.failedInstall
  rw [if_pos hfault]
  split
  · exact Told.finish (s := s.modify c (setUp · now set)) h hc rfl
  · exact h

theorem Told.reinstall (h : Told s) (hp : Placed s [] lost)
    (hc : s.currentExecutingCommand = some c) (now : UInt64) (set : HandlerOutcome) :
    Told (s.installHandler (some c) now set).1 := by
  have hactive := mem_active_current hc
  rw [installHandler_of_installs ((hp.ready c hactive).installs set)]
  exact h.installed (hp.active_not_disposed hactive) now set

theorem Told.stackCurrent (h : Told s) (hp : Placed s [] lost) (env : CheckerEnv)
    {current : CommandRef} {next : QueuedCommand} (hc : s.currentExecutingCommand = some current)
    (hn : next ∈ s.command_submitted_queue)
    (hmask : 1 < (s.cmd next.element).implementedHandler) :
    Told (s.stackCurrent env current next) := by
  have hnext := hp.queued_not_disposed hn
  have hcurrent := hp.active_not_disposed (mem_active_current hc)
  by_cases hinst : installs (s.cmd next.element) env.set = true
  · have hi : Told ((s.pop next).installed next.element env.now env.set) :=
      Told.installed (s := s.pop next) h hnext _ _
    simp only [BatchCommandSandbox.stackCurrent,
      installHandler_of_installs (s := s.pop next) hinst, if_true]
    exact Told.report (s := { (s.pop next).installed next.element env.now env.set with
      commandStack := current :: s.commandStack }) hi hcurrent rfl
  · have hinst' := Bool.eq_false_iff.mpr hinst
    simp only [BatchCommandSandbox.stackCurrent, installHandler_of_not (s := s.pop next) hinst',
      Bool.false_eq_true, if_false]
    exact Told.failedInstall (s := s.pop next) h hnext env.now hmask hinst'
      (hp.unlocked _ (hp.queued_lt hn))

theorem Told.replaceCurrent (h : Told s) (hp : Placed s [] lost) (env : CheckerEnv)
    {current : CommandRef} {next : QueuedCommand} {ended : BatchCommandEventType}
    (hended : ended.isTerminal = true) (hc : s.currentExecutingCommand = some current)
    (hn : next ∈ s.command_submitted_queue)
    (hmask : 1 < (s.cmd next.element).implementedHandler) :
    Told (s.replaceCurrent env current next ended) := by
  have hnext := hp.queued_not_disposed hn
  have hcurrent := hp.active_not_disposed (mem_active_current hc)
  have hready := hp.ready current (mem_active_current hc)
  have hremove := removeHandler_of_ready (s := s.pop next) hready
  by_cases hinst : installs (s.cmd next.element) env.set = true
  · have hi : Told (((s.pop next).unbind current).installed next.element env.now env.set) :=
      Told.installed (s := (s.pop next).unbind current) h hnext _ _
    simp only [BatchCommandSandbox.replaceCurrent, hremove,
      installHandler_of_installs (s := (s.pop next).unbind current) hinst, if_true]
    exact hi.finish hcurrent hended
  · have hinst' := Bool.eq_false_iff.mpr hinst
    have hf := Told.failedInstall (s := (s.pop next).unbind current) h hnext env.now hmask hinst'
      (hp.unlocked _ (hp.queued_lt hn))
    have hu : Unbound ((s.pop next).unbind current) next.element :=
      Unbound.unbind (s := s.pop next) (hp.unbound_queued hn) current
    obtain ⟨lost', hp', _⟩ :=
      (((hp.pop hn).unbind current).refused next.element env.now env.set).failedInstall hu
    simp only [BatchCommandSandbox.replaceCurrent, hremove,
      installHandler_of_not (s := (s.pop next).unbind current) hinst', Bool.false_eq_true, if_false]
    refine hf.reinstall hp' ?_ _ _
    rw [failedInstall_current]
    exact hc

theorem Told.checkAgainstCurrent (h : Told s) (hp : Placed s [] lost) (env : CheckerEnv)
    {current : CommandRef} {next : QueuedCommand} (hc : s.currentExecutingCommand = some current)
    (hn : next ∈ s.command_submitted_queue) :
    Told (s.checkAgainstCurrent env current next).1 := by
  unfold BatchCommandSandbox.checkAgainstCurrent
  split
  · rename_i hmask
    exact h.runOnlySet env (hp.queued_not_disposed hn) hmask
  · rename_i hmask
    have hmask := UInt8.not_le.mp hmask
    split
    · exact h
    · exact h
    · exact h.stackCurrent hp env hc hn hmask
    · exact h.replaceCurrent hp env rfl hc hn hmask
    · exact h.replaceCurrent hp env rfl hc hn hmask
    · exact h.replaceCurrent hp env rfl hc hn hmask
    · exact h

theorem Told.installIdle (h : Told s) (hp : Placed s [] lost) (env : CheckerEnv)
    {next : QueuedCommand} (hn : next ∈ s.command_submitted_queue) :
    Told (((s.installHandler (some next.element) env.now env.set).1).pop next) := by
  by_cases hinst : installs (s.cmd next.element) env.set = true
  · rw [installHandler_of_installs hinst]
    exact h.installed (hp.queued_not_disposed hn) _ _
  · rw [installHandler_of_not (Bool.eq_false_iff.mpr hinst)]
    exact h

/-- The switch on the end of a command knows the running properties `RP_End` and `RP_Fault`. -/
theorem Told.reportEnd (h : Told s) (hc : c ∉ s.disposed)
    (hlow : RP_End ≤ (s.cmd c).runningProperty)
    (hhigh : s.event_handler = true → (s.cmd c).runningProperty ≤ RP_Fault) :
    Told ((s.reportEnd c).dispose c) := by
  unfold BatchCommandSandbox.reportEnd
  split
  · exact h.finish hc rfl
  · rename_i hend
    split
    · exact h.finish hc rfl
    · rename_i hfault
      intro he
      have hlow' := UInt8.le_iff_toNat_le.mp hlow
      have hhigh' := UInt8.le_iff_toNat_le.mp (hhigh he)
      have hend' : (s.cmd c).runningProperty.toNat ≠ 2 :=
        fun h2 => hend (UInt8.toNat_inj.mp h2)
      have hfault' : (s.cmd c).runningProperty.toNat ≠ 3 :=
        fun h3 => hfault (UInt8.toNat_inj.mp h3)
      have h2 : RP_End.toNat = 2 := rfl
      have h3 : RP_Fault.toNat = 3 := rfl
      omega

/-- A command that has ended with a known running property gets its terminal event. -/
theorem Told.checkEnded (h : Told s) (hp : Placed s [] lost) (env : CheckerEnv)
    (hknown : s.event_handler = true → ∀ c, s.currentExecutingCommand = some c →
      (s.cmd c).runningProperty ≤ RP_Fault) : Told (s.checkEnded env) := by
  unfold BatchCommandSandbox.checkEnded
  cases hc : s.currentExecutingCommand with
  | none => exact h
  | some current =>
    have hready := hp.ready current (mem_active_current hc)
    have hcurrent := hp.active_not_disposed (mem_active_current hc)
    simp only [removeHandler_of_ready hready]
    split
    · exact h
    · rename_i hlow
      have hlow := UInt8.not_lt.mp hlow
      cases hs : s.commandStack with
      | nil =>
        have hsu : (s.unbind current).commandStack = [] := hs
        simp only [hsu, installHandler]
        exact Told.reportEnd (s := { s.unbind current with
          commandStack := []
          currentExecutingCommand := none
          acquireHandlerFunctor := none
          correlationHandlerFunctor := none }) h hcurrent hlow fun he => hknown he current hc
      | cons next rest =>
        -- the installation of `next` leaves the running property of `current` alone
        have hne : current ≠ next := ((hp.takeCurrent hc).takeStack hs).hand_ne.symm
        have hcmd : ((s.unbind current).installed next env.now env.set).cmd current =
            s.cmd current := Function.update_of_ne hne _ _
        have hactive : next ∈ s.active := by simp [active, hs]
        have hinst := (hp.ready next hactive).installs env.set
        have hi : Told ((s.unbind current).installed next env.now env.set) :=
          Told.installed (s := s.unbind current) h (hp.active_not_disposed hactive) _ _
        have hsu : (s.unbind current).commandStack = next :: rest := hs
        simp only [hsu, installHandler_of_installs (s := s.unbind current) hinst]
        refine Told.reportEnd (s := { (s.unbind current).installed next env.now env.set with
          commandStack := s.commandStack.tail }) hi hcurrent ?_ ?_
        · exact hcmd ▸ hlow
        · intro he
          exact hcmd ▸ hknown he current hc

/-! ## The other calls -/

theorem Told.callFunctor (h : Told s) (f : Option CommandRef) (o : HandlerOutcome)
    (domain : String) : Told (s.callFunctor f o domain) := by
  unfold BatchCommandSandbox.callFunctor
  cases f with
  | none => exact h
  | some c =>
    simp only
    split <;> exact h

theorem Told.runCommand (h : Told s) (env : RunEnv) : Told (s.runCommand env).1 := by
  unfold BatchCommandSandbox.runCommand
  split
  · split <;> exact h
  · have hcalled := (Told.callFunctor (s := { s with
      stat := { s.stat with lastCmdStepStart := env.start } }) h s.acquireHandlerFunctor
      env.acquire "Acquisition Handler").callFunctor
    simp only
    split
    · exact hcalled _ env.cc "Correlation Handler"
    · exact hcalled _ env.cc "Correlation Handler"

theorem Told.enqueueCommand (h : Told s) (hp : Placed s [] lost) (new : NewCommand)
    (priority : UInt32) : Told (s.enqueueCommand new priority).1 := by
  have hfresh : s.enqueued ∉ s.disposed := by
    have hc := hp.once s.enqueued
    simp only [placeCount, Nat.lt_irrefl, if_false] at hc
    exact List.count_eq_zero.mp (by omega)
  unfold BatchCommandSandbox.enqueueCommand
  split
  · exact h
  · exact Told.emit (s := { s with
      cmd := Function.update s.cmd s.enqueued new.toBatchCommand
      enqueued := s.enqueued + 1
      command_submitted_queue :=
        ⟨priority.toInt32.toInt, s.enqueued⟩ :: s.command_submitted_queue }) h hfresh rfl _

/-- `deinit` reports the current command only, so that nothing else may wait or be paused. -/
theorem Told.deinit (h : Told s) (hp : Placed s [] lost)
    (hempty : s.event_handler = true → s.commandStack = [] ∧ s.command_submitted_queue = []) :
    Told s.deinit := by
  have hcurrent : Told s.deinitCurrent := by
    unfold deinitCurrent
    split
    · exact h
    · rename_i c hc
      exact h.finish (hp.active_not_disposed (mem_active_current hc)) rfl
  have hsame : s.deinitCurrent.event_handler = s.event_handler ∧
      s.deinitCurrent.commandStack = s.commandStack ∧
      s.deinitCurrent.command_submitted_queue = s.command_submitted_queue := by
    unfold deinitCurrent
    split <;> exact ⟨rfl, rfl, rfl⟩
  rw [deinit_eq]
  intro he
  have he' : s.deinitCurrent.event_handler = true := he
  obtain ⟨hstack, hqueue⟩ := hempty (hsame.1 ▸ he')
  simp only [hsame.2.1, hsame.2.2, hstack, hqueue, List.map_nil, List.append_nil]
  exact hcurrent he'

/-! ## Every run -/

/-- A step that reports the end of each command that it deletes: a current command that ends
on an empty queue has a running property that the switch knows, and `deinit` finds no waiting
and no paused command. -/
def ReportsEnds (s : BatchCommandSandbox) : SandboxCall → Prop
  | .checkNextCommand env =>
    s.event_handler = true → s.top env.tie = none →
      ∀ c ∈ s.currentExecutingCommand, (s.cmd c).runningProperty ≤ RP_Fault
  | .deinit => s.event_handler = true → s.commandStack = [] ∧ s.command_submitted_queue = []
  | _ => True

instance ReportsEnds.decidable : ∀ s a, Decidable (ReportsEnds s a)
  | s, .checkNextCommand env =>
    inferInstanceAs (Decidable (_ → s.top env.tie = none →
      ∀ c ∈ s.currentExecutingCommand, (s.cmd c).runningProperty ≤ RP_Fault))
  | s, .deinit =>
    inferInstanceAs (Decidable (_ → s.commandStack = [] ∧ s.command_submitted_queue = []))
  | _, .enqueueCommand _ _ | _, .runCommand _ | _, .killCurrentCommand | _, .start | _, .stop =>
    isTrue trivial

theorem told_step (h : Told s) (hp : Placed s [] lost) {a : SandboxCall}
    {t : BatchCommandSandbox} (hends : ReportsEnds s a) (hstep : sandboxStep s a = some t) :
    Told t := by
  cases a with
  | enqueueCommand new priority =>
    cases hstep
    exact h.enqueueCommand hp new priority
  | checkNextCommand env =>
    cases hstep
    unfold BatchCommandSandbox.checkNextCommand
    split
    · rename_i htop
      exact h.checkEnded hp env fun he => hends he htop
    · rename_i next htop
      have hn : next ∈ s.command_submitted_queue := pqueue.top_mem htop
      split
      · rename_i current hc
        exact h.checkAgainstCurrent hp env hc hn
      · exact h.installIdle hp env hn
  | runCommand env =>
    cases hstep
    exact h.runCommand env
  | killCurrentCommand =>
    obtain ⟨c, _, rfl⟩ := Option.map_eq_some_iff.mp hstep
    exact h
  | start =>
    cases hstep
    exact h
  | stop =>
    cases hstep
    exact h
  | deinit =>
    cases hstep
    exact h.deinit hp hends

/-- Every enqueued command is in exactly one place, and the event handler got one terminal
event, as the last one, for each command that was disposed. -/
def Conserved (s : BatchCommandSandbox) : Prop :=
  ∀ c < s.enqueued, s.placeCount c = 1 ∧
    (s.event_handler = true → c ∈ s.disposed → EndsOnce (s.eventsOf c))

/-- A step that drops no command and no terminal event. -/
def Hands (s : BatchCommandSandbox) (a : SandboxCall) : Prop :=
  KeepsCommands s a ∧ ReportsEnds s a

instance Hands.decidable (s : BatchCommandSandbox) (a : SandboxCall) : Decidable (Hands s a) :=
  inferInstanceAs (Decidable (_ ∧ _))

theorem told_create (event_handler : Bool) (cmd : CommandRef → BatchCommand) :
    Told (create event_handler cmd) := by
  intro _ c
  refine ⟨fun hc => ?_, fun _ t ht => ?_⟩
  · simp [create] at hc
  · simp [eventsOf, create] at ht

/-- In every run whose steps all hand their commands on, the commands are conserved. -/
theorem commands_are_conserved (event_handler : Bool) (cmd : CommandRef → BatchCommand)
    (calls : List SandboxCall) (s : BatchCommandSandbox)
    (hok : runs.RunOk sandboxStep Hands (create event_handler cmd) calls)
    (hrun : runs.run sandboxStep (create event_handler cmd) calls = some s) : Conserved s := by
  have hinv : Placed s [] [] ∧ Told s := by
    refine runs.run_keeps_of_ok (fun s => Placed s [] [] ∧ Told s) ?_
      ⟨placed_create event_handler cmd, told_create event_handler cmd⟩ hok hrun
    rintro s a t ⟨hp, ht⟩ ⟨hkeeps, hends⟩ hstep
    obtain ⟨lost, hp', hlost⟩ := placed_step hp hstep
    exact ⟨hlost hkeeps ▸ hp', told_step ht hp hends hstep⟩
  intro c hc
  have hplace := hinv.1.once c
  simp only [hc, if_true, List.count_nil, Nat.add_zero] at hplace
  exact ⟨hplace, fun he hd => (hinv.2 he c).1 hd⟩

/-- The current command is killed by the next one, which has a set handler only. -/
def killedRun : List SandboxCall :=
  [.enqueueCommand (aCommand 7 SUBMIT_NORMAL) 50, aCheck none,
   .enqueueCommand (aCommand 7 SUBMIT_AND_Kill) 50, aCheck none,
   .enqueueCommand (aCommand 1 SUBMIT_NORMAL) 50, aCheck (some .unmanaged), .deinit]

theorem commands_of_killed_run : ∃ s,
    runs.run sandboxStep (create true fun _ => (aCommand 0 0).toBatchCommand) killedRun = some s ∧
    s.disposed = [0, 2, 1] ∧ Conserved s :=
  ⟨_, rfl, by decide, commands_are_conserved true _ killedRun _ (by decide) rfl⟩

/-- A sandbox with no current command loses a command whose set handler throws. -/
theorem idle_sandbox_loses_a_command :
    ¬ ∀ (event_handler : Bool) (cmd : CommandRef → BatchCommand) (calls : List SandboxCall)
      (s : BatchCommandSandbox),
      runs.run sandboxStep (create event_handler cmd) calls = some s → Conserved s := by
  intro h
  have hone := (h true (fun _ => (aCommand 0 0).toBatchCommand)
    [.enqueueCommand (aCommand 7 SUBMIT_NORMAL) 50, aCheck (some .unmanaged)] _ rfl 0
    (by decide)).1
  exact absurd hone (by decide)

end chaos.batch_command
