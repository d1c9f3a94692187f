-- The checker thread after the flag that ends it was cleared. It is woken out of a wait, and goes
-- on from there until it leaves its loop or waits again: the waits in the switch over the table
-- lead back to the head of the loop, which does not read the flag.
import Chaos.SandboxFrames

namespace chaos.batch_command

open BatchCommandSandbox RunningVSSubmissioneResult

/-! ## The loop -/

/-- One turn of the loop: the running property that the current command has by then, whatever the
other threads made of it, and what the iteration gets from outside. -/
structure CheckerTurn where
  runningProperty : UInt8
  env : CheckerEnv

/-- The sandbox with another running property of the current command. -/
def BatchCommandSandbox.withProperty (s : BatchCommandSandbox) (property : UInt8) :
    BatchCommandSandbox :=
  match s.currentExecutingCommand with
  | none => s
  | some c => s.modify c fun b => { b with runningProperty := property }

/-- Where the checker comes to: it leaves its loop, or it waits on `waithForNextCheck`. -/
inductive LoopEnd
  | leaves
  | waits
  deriving DecidableEq

/-- The turns from the head of the loop, at most `n` of them. -/
def checkerLoop : (Nat → CheckerTurn) → Nat → BatchCommandSandbox →
    Option (BatchCommandSandbox × LoopEnd)
  | _, 0, _ => none
  | T, n + 1, s =>
    let r := (s.withProperty (T 0).runningProperty).checkNextCommand (T 0).env
    match r.2 with
    | .again => checkerLoop (fun k => T (k + 1)) n r.1
    | .checkFlag =>
      if r.1.scheduleWorkFlag then checkerLoop (fun k => T (k + 1)) n r.1
      else some (r.1, .leaves)
    | .waitThenContinue _ | .waitThenCheckFlag => some (r.1, .waits)

/-- The waits of `checkNextCommand`: before its loop, where the queue is empty, and in the switch
over the table. -/
inductive CheckerWait
  | beforeLoop
  | emptyQueue
  | inSwitch
  deriving DecidableEq

/-- What the checker comes to from a wait that it is woken out of. -/
def resume (T : Nat → CheckerTurn) (n : Nat) (s : BatchCommandSandbox) :
    CheckerWait → Option (BatchCommandSandbox × LoopEnd)
  | .beforeLoop | .emptyQueue =>
    if s.scheduleWorkFlag then checkerLoop T n s else some (s, .leaves)
  | .inSwitch => checkerLoop T n s

/-- Woken out of the wait, the checker leaves after finitely many turns, with no other wait. -/
def Stops (T : Nat → CheckerTurn) (s : BatchCommandSandbox) (w : CheckerWait) : Prop :=
  ∃ n t, resume T n s w = some (t, .leaves)

/-! ## One turn -/

variable {s : BatchCommandSandbox} {c : CommandRef} {T : Nat → CheckerTurn}

/-- The handlers and the rules of the commands, which no turn changes. -/
def SameRules (s t : BatchCommandSandbox) : Prop :=
  ∀ c, (t.cmd c).implementedHandler = (s.cmd c).implementedHandler ∧
    (t.cmd c).submissionRule = (s.cmd c).submissionRule

theorem sameRules_modify (s : BatchCommandSandbox) (d : CommandRef)
    {f : BatchCommand → BatchCommand} (hmask : ∀ b, (f b).implementedHandler = b.implementedHandler)
    (hrule : ∀ b, (f b).submissionRule = b.submissionRule) : SameRules s (s.modify d f) := by
  intro c
  exact ⟨modify_untouched hmask s d c, modify_untouched hrule s d c⟩

/-- No call of a handler changes the rule. -/
theorem handlersKeep_rule (rule : UInt8) :
    HandlersKeep (fun _ => True) fun b => b.submissionRule = rule where
  names _ _ _ h := h
  features _ _ h := h
  property _ _ _ h := h

theorem rule_setUp (b : BatchCommand) (now : UInt64) (set : HandlerOutcome) :
    (setUp b now set).submissionRule = b.submissionRule := by
  have hafter : (set.after (b.commandPre now)).submissionRule = b.submissionRule :=
    (handlersKeep_rule b.submissionRule).after (fun _ _ => trivial) rfl
  simp only [BatchCommandSandbox.setUp]
  split
  · split
    · exact hafter
    · exact (handlersKeep_rule b.submissionRule).caught _ _ _ _ hafter
  · rfl

theorem sameRules_withProperty (s : BatchCommandSandbox) (property : UInt8) :
    SameRules s (s.withProperty property) := by
  unfold BatchCommandSandbox.withProperty
  split
  · exact fun _ => ⟨rfl, rfl⟩
  · exact sameRules_modify s _ (fun _ => rfl) fun _ => rfl

/-- What a turn on a command with a set handler only leaves: the queue without it, the same
current command, the same handlers and the same rules. -/
theorem runOnlySet_leaves (s : BatchCommandSandbox) (env : CheckerEnv) {next : QueuedCommand}
    (hmask : (s.cmd next.element).implementedHandler ≤ 1) :
    (s.runOnlySet env next).currentExecutingCommand = s.currentExecutingCommand ∧
      (s.runOnlySet env next).command_submitted_queue = s.command_submitted_queue.erase next ∧
      SameRules s (s.runOnlySet env next) := by
  have hinst : installs (s.cmd next.element) env.set = false := by
    simp [installs, UInt8.not_lt.mpr hmask]
  simp only [BatchCommandSandbox.runOnlySet, installHandler_of_not hinst]
  refine ⟨rfl, rfl, ?_⟩
  exact sameRules_modify s next.element (fun b => (keeps_setUp b env.now env.set).handlers)
    fun b => rule_setUp b env.now env.set

/-! ## The first command that is not only set -/

/-- The first command of a queue that has more than a set handler, in the order in which the turns
take the commands, with its turn. `mask` gives the handlers of a command. -/
def firstFull (mask : CommandRef → UInt8) : (Nat → CheckerTurn) → Nat → List QueuedCommand →
    Option (CheckerTurn × CommandRef)
  | _, 0, _ => none
  | T, n + 1, queue =>
    match pqueue.top QueuedCommand.priority queue (T 0).env.tie with
    | none => none
    | some next =>
      if mask next.element ≤ 1 then
        firstFull mask (fun k => T (k + 1)) n (queue.erase next)
      else some (T 0, next.element)

/-- More turns than commands find nothing else. -/
theorem firstFull_length {mask : CommandRef → UInt8} {n : Nat} {queue : List QueuedCommand}
    {p : CheckerTurn × CommandRef} (h : firstFull mask T n queue = some p) :
    firstFull mask T queue.length queue = some p := by
  induction n generalizing T queue with
  | zero => cases h
  | succ n ih =>
    unfold firstFull at h
    cases htop : pqueue.top QueuedCommand.priority queue (T 0).env.tie with
    | none => simp [htop] at h
    | some next =>
      have hmem := pqueue.top_mem htop
      have hlength : queue.length = (queue.erase next).length + 1 := by
        have hpos := List.length_pos_of_mem hmem
        rw [List.length_erase_of_mem hmem]
        omega
      rw [hlength, firstFull]
      simp only [htop] at h ⊢
      split at h
      · rename_i hmask
        rw [if_pos hmask]
        exact ih h
      · rename_i hmask
        rw [if_neg hmask]
        exact h

/-- The table sends the checker neither to a wait nor to a wait with a time. -/
def Decides (p : CheckerTurn × CommandRef) (rule : UInt8) : Prop :=
  CHECK_RUNNING_VS_SUBMISSION p.1.env p.1.runningProperty rule ≠ some RSR_NO_CHANGE ∧
    CHECK_RUNNING_VS_SUBMISSION p.1.env p.1.runningProperty rule ≠ some RSR_TIMED_RETRY

instance (p : CheckerTurn × CommandRef) (rule : UInt8) : Decidable (Decides p rule) :=
  inferInstanceAs (Decidable (_ ∧ _))

/-- How a turn against the current command `c` goes on, for a command that is not only set. -/
theorem checkAgainstCurrent_pause (env : CheckerEnv) (current : CommandRef) {next : QueuedCommand}
    (hmask : ¬ (s.cmd next.element).implementedHandler ≤ 1) :
    (s.checkAgainstCurrent env current next).2 = .checkFlag ∧
        Decides (⟨(s.cmd current).runningProperty, env⟩, next.element)
          (s.cmd next.element).submissionRule ∨
      (∃ timeout, (s.checkAgainstCurrent env current next).2 = .waitThenContinue timeout) ∧
        ¬ Decides (⟨(s.cmd current).runningProperty, env⟩, next.element)
          (s.cmd next.element).submissionRule := by
  unfold BatchCommandSandbox.checkAgainstCurrent Decides
  rw [if_neg hmask]
  simp only
  cases hd : CHECK_RUNNING_VS_SUBMISSION env (s.cmd current).runningProperty
    (s.cmd next.element).submissionRule with
  | none => simp
  | some decision => cases decision <;> simp

/-! ## The turns after the flag was cleared -/

theorem withProperty_leaves (s : BatchCommandSandbox) (property : UInt8) :
    (s.withProperty property).currentExecutingCommand = s.currentExecutingCommand ∧
      (s.withProperty property).command_submitted_queue = s.command_submitted_queue ∧
      (s.withProperty property).scheduleWorkFlag = s.scheduleWorkFlag := by
  unfold BatchCommandSandbox.withProperty
  split <;> exact ⟨rfl, rfl, rfl⟩

theorem withProperty_property (hc : s.currentExecutingCommand = some c) (property : UInt8) :
    ((s.withProperty property).cmd c).runningProperty = property := by
  simp [BatchCommandSandbox.withProperty, hc, BatchCommandSandbox.modify]

/-- With a current command, the loop leaves just where the first command that is not only set
exists and the table sends it to no wait. -/
theorem checkerLoop_leaves_iff (n : Nat) (hflag : s.scheduleWorkFlag = false)
    (hc : s.currentExecutingCommand = some c) :
    (∃ t, checkerLoop T n s = some (t, .leaves)) ↔
      ∃ p ∈ firstFull (fun d => (s.cmd d).implementedHandler) T n s.command_submitted_queue,
        Decides p (s.cmd p.2).submissionRule := by
  induction n generalizing T s with
  | zero => simp [checkerLoop, firstFull]
  | succ n ih =>
    obtain ⟨hcurrent, hqueue, hkept⟩ := withProperty_leaves s (T 0).runningProperty
    have hrules := sameRules_withProperty s (T 0).runningProperty
    have hproperty := withProperty_property hc (T 0).runningProperty
    simp only [checkerLoop, firstFull]
    generalize s.withProperty (T 0).runningProperty = u at hcurrent hqueue hkept hrules hproperty ⊢
    have hmasks : (fun d => (s.cmd d).implementedHandler) =
        fun d => (u.cmd d).implementedHandler := funext fun d => (hrules d).1.symm
    have htop : u.top (T 0).env.tie =
        pqueue.top QueuedCommand.priority s.command_submitted_queue (T 0).env.tie := by
      rw [BatchCommandSandbox.top, hqueue]
    simp only [BatchCommandSandbox.checkNextCommand, htop, hcurrent, hc]
    cases pqueue.top QueuedCommand.priority s.command_submitted_queue (T 0).env.tie with
    | none => simp
    | some next =>
      simp only [← (hrules next.element).1]
      by_cases hmask : (u.cmd next.element).implementedHandler ≤ 1
      · -- the turn takes the command away, and the rest is the loop on a shorter queue
        obtain ⟨hcurrent', hqueue', hrules'⟩ := runOnlySet_leaves u (T 0).env hmask
        have hflag' : (u.runOnlySet (T 0).env next).scheduleWorkFlag = false :=
          (frame_flag.runOnlySet ⟨fun _ _ => rfl, fun _ _ => rfl⟩ u next).trans (hkept.trans hflag)
        have hih := ih (T := fun k => T (k + 1)) hflag' (hcurrent'.trans (hcurrent.trans hc))
        simp only [BatchCommandSandbox.checkAgainstCurrent, if_pos hmask]
        rw [hih, hqueue', hqueue, hmasks, funext fun d => (hrules' d).1]
        refine exists_congr fun p => and_congr_right fun _ => ?_
        rw [(hrules' p.2).2, (hrules p.2).2]
      · have hchecked : (u.checkAgainstCurrent (T 0).env c next).1.scheduleWorkFlag = false :=
          (frame_flag.checkAgainstCurrent ⟨fun _ _ => rfl, fun _ _ => rfl⟩ u c next).trans
            (hkept.trans hflag)
        have hpause := checkAgainstCurrent_pause (T 0).env c hmask
        rw [hproperty, (hrules next.element).2] at hpause
        rw [if_neg hmask]
        simp only [Option.mem_some_iff, exists_eq_left']
        rcases hpause with ⟨hpause, hdecides⟩ | ⟨⟨timeout, hpause⟩, hdecides⟩
        · simp only [hpause, hchecked, Bool.false_eq_true, if_false, Option.some.injEq,
            Prod.mk.injEq, and_true, exists_eq', true_iff]
          exact hdecides
        · simp only [hpause, Option.some.injEq, Prod.mk.injEq, reduceCtorEq, and_false,
            exists_false, false_iff]
          exact hdecides

/-- With no current command, one turn decides. -/
theorem checkerLoop_idle_iff (hflag : s.scheduleWorkFlag = false)
    (hc : s.currentExecutingCommand = none) :
    (∃ n t, checkerLoop T n s = some (t, .leaves)) ↔ s.command_submitted_queue ≠ [] := by
  have hsame : s.withProperty (T 0).runningProperty = s := by
    simp [BatchCommandSandbox.withProperty, hc]
  have hturn : ∀ n, checkerLoop T (n + 1) s =
      if s.command_submitted_queue = [] then some ((s.checkNextCommand (T 0).env).1, .waits)
      else some ((s.checkNextCommand (T 0).env).1, .leaves) := by
    intro n
    have hkept := (flag_checkNextCommand s (T 0).env).trans hflag
    have hempty := top_eq_none_iff_empty s (T 0).env.tie
    simp only [checkerLoop, hsame, hkept, Bool.false_eq_true, if_false]
    simp only [BatchCommandSandbox.checkNextCommand, hc]
    cases htop : s.top (T 0).env.tie with
    | none => rw [if_pos (hempty.mp htop)]
    | some next =>
      rw [if_neg fun hq => by rw [hempty.mpr hq] at htop; cases htop]
  constructor
  · rintro ⟨n, t, ht⟩ hempty
    cases n with
    | zero => cases ht
    | succ n =>
      rw [hturn n, if_pos hempty] at ht
      cases ht
  · intro hqueue
    exact ⟨1, _, (hturn 0).trans (if_neg hqueue)⟩

/-! ## When the checker stops -/

/-- The wait is not in the switch; or the turn after it meets a command that is not only set, after
any number of commands that are, and the table sends that one to no wait. -/
def Released (T : Nat → CheckerTurn) (s : BatchCommandSandbox) : CheckerWait → Prop
  | .beforeLoop | .emptyQueue => True
  | .inSwitch =>
    match s.currentExecutingCommand with
    | none => s.command_submitted_queue ≠ []
    | some _ =>
      ∃ p ∈ firstFull (fun c => (s.cmd c).implementedHandler) T s.command_submitted_queue.length
          s.command_submitted_queue,
        Decides p (s.cmd p.2).submissionRule

/-- Once the flag is cleared, the checker that is woken leaves after finitely many turns, with no
other wait, just where it is released. -/
theorem checker_stops_iff (T : Nat → CheckerTurn) (s : BatchCommandSandbox) (w : CheckerWait)
    (hflag : s.scheduleWorkFlag = false) : Stops T s w ↔ Released T s w := by
  cases w with
  | beforeLoop | emptyQueue => simp [Stops, Released, resume, hflag]
  | inSwitch =>
    simp only [Stops, Released, resume]
    cases hc : s.currentExecutingCommand with
    | none => exact checkerLoop_idle_iff hflag hc
    | some c =>
      simp only [checkerLoop_leaves_iff _ hflag hc]
      constructor
      · rintro ⟨n, p, hp, hdecides⟩
        exact ⟨p, firstFull_length hp, hdecides⟩
      · rintro ⟨p, hp, hdecides⟩
        exact ⟨_, p, hp, hdecides⟩

/-- A turn that finds the current command as it was installed. -/
def aTurn : CheckerTurn := ⟨RP_Normal, ⟨0, none, 0, ⟨[], none⟩, 0, ⟨[], none⟩⟩⟩

/-- A command runs, and the checker waits with a second one on top of the queue, which has the rule
that is given. Then the sandbox is stopped. -/
def stoppedRun (submissionRule : UInt8) : List SandboxCall :=
  [.start, .enqueueCommand (aCommand 7 SUBMIT_NORMAL) 50, .checkNextCommand aTurn.env,
   .enqueueCommand (aCommand 7 submissionRule) 50, .checkNextCommand aTurn.env, .stop]

theorem stops_with_empty_queue : Stops (fun _ => aTurn) (create true fun _ =>
    (aCommand 0 0).toBatchCommand) .emptyQueue :=
  (checker_stops_iff (fun _ => aTurn) (create true fun _ => (aCommand 0 0).toBatchCommand)
    .emptyQueue rfl).mpr trivial

/-- Woken out of the wait for a command that may not take the place of the current one, the checker
comes back to that wait. -/
theorem checker_waits_after_stop : ∃ s,
    runs.run sandboxStep (create true fun _ => (aCommand 0 0).toBatchCommand)
        (stoppedRun SUBMIT_NORMAL) = some s ∧
      s.scheduleWorkFlag = false ∧ (s.checkNextCommand aTurn.env).2 = .waitThenContinue none ∧
      ¬ Stops (fun _ => aTurn) s .inSwitch := by
  refine ⟨_, rfl, by decide, by decide, ?_⟩
  rintro ⟨n, hleaves⟩
  obtain ⟨p, hp, hdecides⟩ := (checkerLoop_leaves_iff (c := 0) n rfl rfl).mp hleaves
  cases n with
  | zero => cases hp
  | succ n =>
    cases hp
    revert hdecides
    decide

end chaos.batch_command
