-- Where the commands of a sandbox are. Each command that was enqueued is in the queue, is the
-- current command, is on the stack, is disposed, or is lost. The functors of the sandbox stay
-- bound to the current command or to a command of the stack.
import Chaos.Runs
import Chaos.Sandbox

namespace chaos.batch_command

open BatchCommandSandbox

/-! ## The places -/

/-- How many times the sandbox holds command `c`, over all the places. -/
def BatchCommandSandbox.placeCount (s : BatchCommandSandbox) (c : CommandRef) : Nat :=
  (s.command_submitted_queue.map QueuedCommand.element).count c +
    s.currentExecutingCommand.toList.count c + s.commandStack.count c + s.disposed.count c

/-- The current command and the commands under it. -/
def BatchCommandSandbox.active (s : BatchCommandSandbox) : List CommandRef :=
  s.currentExecutingCommand.toList ++ s.commandStack

/-- A command that was installed once: it is installed again with no call of its set handler. -/
structure Ready (b : BatchCommand) : Prop where
  mask : 1 < b.implementedHandler
  no_set : callsSet b = false

/-- A functor that calls the handler `bit` is bound to an active command that has this
handler, or to a command of `hand`. -/
def Bound (s : BatchCommandSandbox) (hand : List CommandRef) (bit : UInt8) :
    Option CommandRef → Prop
  | none => True
  | some c => c ∈ s.active ++ hand ∧ (s.cmd c).implementedHandler &&& bit ≠ 0

/-- The invariant of a sandbox. `hand` holds the commands that the running function has taken
out of their place, and `lost` the commands that no pointer reaches any more. -/
structure Placed (s : BatchCommandSandbox) (hand lost : List CommandRef) : Prop where
  once : ∀ c, s.placeCount c + hand.count c + lost.count c = if c < s.enqueued then 1 else 0
  ready : ∀ c ∈ s.active, Ready (s.cmd c)
  unlocked : ∀ c < s.enqueued, (s.cmd c).propertyLocked = false
  acquire : Bound s hand HT_Acquisition s.acquireHandlerFunctor
  correlation : Bound s hand HT_Correlation s.correlationHandlerFunctor

/-- No functor is bound to command `c`. -/
def Unbound (s : BatchCommandSandbox) (c : CommandRef) : Prop :=
  s.acquireHandlerFunctor ≠ some c ∧ s.correlationHandlerFunctor ≠ some c

variable {s : BatchCommandSandbox} {hand lost : List CommandRef} {c : CommandRef}

/-- An active command is alive. -/
theorem Placed.active_not_disposed (h : Placed s hand lost) (hc : c ∈ s.active) :
    c ∉ s.disposed := by
  have h1 := h.once c
  have h2 := List.count_pos_iff.mpr hc
  refine List.count_eq_zero.mp ?_
  simp only [placeCount] at h1
  rw [active, List.count_append] at h2
  split at h1 <;> omega

theorem Placed.queued_not_disposed (h : Placed s hand lost) {e : QueuedCommand}
    (he : e ∈ s.command_submitted_queue) : e.element ∉ s.disposed := by
  have h1 := h.once e.element
  have h2 := List.count_pos_iff.mpr (List.mem_map_of_mem (f := QueuedCommand.element) he)
  refine List.count_eq_zero.mp ?_
  simp only [placeCount] at h1
  split at h1 <;> omega

theorem Placed.queued_lt (h : Placed s hand lost) {e : QueuedCommand}
    (he : e ∈ s.command_submitted_queue) : e.element < s.enqueued := by
  have h1 := h.once e.element
  have h2 := List.count_pos_iff.mpr (List.mem_map_of_mem (f := QueuedCommand.element) he)
  simp only [placeCount] at h1
  by_contra hlt
  rw [if_neg hlt] at h1
  omega

theorem Placed.active_lt {lost : List CommandRef} (h : Placed s [] lost) (hc : c ∈ s.active) :
    c < s.enqueued := by
  have h1 := h.once c
  have h2 := List.count_pos_iff.mpr hc
  simp only [placeCount] at h1
  rw [active, List.count_append] at h2
  by_contra hlt
  rw [if_neg hlt] at h1
  omega

/-! ## Changes of one command -/

/-- A change of a command that keeps its mask and its locks, and keeps it ready. -/
structure Keeps (b b' : BatchCommand) : Prop where
  handlers : b'.implementedHandler = b.implementedHandler
  no_set : callsSet b = false → callsSet b' = false
  lock : b'.lockFeaturePropertyFlag = b.lockFeaturePropertyFlag

theorem SameSetup.keeps {b b' : BatchCommand} (h : SameSetup b b') : Keeps b b' := by
  refine ⟨h.handlers, ?_, h.lock⟩
  intro hb
  simpa only [callsSet, h.handlers, h.setupped] using hb

theorem Keeps.ready {b b' : BatchCommand} (h : Keeps b b') (hr : Ready b) : Ready b' :=
  ⟨h.handlers ▸ hr.mask, h.no_set hr.no_set⟩

theorem keeps_setUp (b : BatchCommand) (now : UInt64) (set : HandlerOutcome) :
    Keeps b (setUp b now set) := by
  have hpre : callsSet (b.commandPre now) = callsSet b := rfl
  have ha := sameSetup_after set (b.commandPre now)
  unfold setUp
  simp only [hpre]
  split
  · rename_i hb
    split
    · exact ⟨ha.handlers, fun h => absurd hb (by simp [h]), ha.lock⟩
    · rename_i t _
      have hc := ha.trans (sameSetup_caught _ (-1) (-2) "Acquisition Handler" t)
      exact ⟨hc.handlers, fun h => absurd hb (by simp [h]), hc.lock⟩
  · exact ⟨rfl, fun h => h, rfl⟩

/-- A command that was installed is ready. -/
theorem ready_setUp {b : BatchCommand} {now : UInt64} {set : HandlerOutcome}
    (h : installs b set = true) : Ready (setUp b now set) := by
  have hpre : callsSet (b.commandPre now) = callsSet b := rfl
  simp only [installs, Bool.and_eq_true, decide_eq_true_eq] at h
  refine ⟨(keeps_setUp b now set).handlers ▸ h.1, ?_⟩
  by_cases hb : callsSet b = true
  · have ht : set.thrown = none := by simpa [hb] using h.2
    simp only [setUp, hpre, hb, ht, if_true]
    simp [callsSet]
  · exact (keeps_setUp b now set).no_set (by simpa using hb)

/-- A set handler that threw leaves an unlocked command in fault. -/
theorem setUp_fault {b : BatchCommand} {now : UInt64} {set : HandlerOutcome}
    (hmask : 1 < b.implementedHandler) (h : installs b set = false)
    (hlock : b.propertyLocked = false) :
    (setUp b now set).runningProperty = RP_Fault := by
  have hpre : callsSet (b.commandPre now) = callsSet b := rfl
  have hthrown : callsSet b = true ∧ set.thrown.isSome = true := by
    simpa [installs, hmask] using h
  obtain ⟨t, ht⟩ := Option.isSome_iff_exists.mp hthrown.2
  simp only [setUp, hpre, hthrown.1, ht, if_true]
  refine caught_runningProperty _ _ _ _ _ ?_
  rw [propertyLocked_congr (sameSetup_after set (b.commandPre now)).lock]
  exact hlock

theorem Bound.of_subset {s t : BatchCommandSandbox} {hand hand' : List CommandRef} {bit : UInt8}
    {f : Option CommandRef} (h : Bound s hand bit f)
    (hmem : ∀ c, f = some c → c ∈ s.active ++ hand → c ∈ t.active ++ hand')
    (hmask : ∀ c, (t.cmd c).implementedHandler = (s.cmd c).implementedHandler) :
    Bound t hand' bit f := by
  cases f with
  | none => trivial
  | some c => exact ⟨hmem c rfl h.1, by rw [hmask]; exact h.2⟩

theorem modify_keeps {f : BatchCommand → BatchCommand} (hf : Keeps (s.cmd c) (f (s.cmd c)))
    (d : CommandRef) : Keeps (s.cmd d) ((s.modify c f).cmd d) := by
  by_cases hd : d = c
  · subst hd
    simpa [BatchCommandSandbox.modify] using hf
  · simpa [BatchCommandSandbox.modify, Function.update_of_ne hd] using
      SameSetup.keeps (.refl (s.cmd d))

theorem Placed.modify (h : Placed s hand lost) {f : BatchCommand → BatchCommand}
    (hf : Keeps (s.cmd c) (f (s.cmd c))) : Placed (s.modify c f) hand lost where
  once := h.once
  ready d hd := (modify_keeps hf d).ready (h.ready d hd)
  unlocked d hd := by
    rw [propertyLocked_congr (modify_keeps hf d).lock]
    exact h.unlocked d hd
  acquire := h.acquire.of_subset (fun _ _ hm => hm) fun d => (modify_keeps hf d).handlers
  correlation := h.correlation.of_subset (fun _ _ hm => hm) fun d => (modify_keeps hf d).handlers

theorem Placed.report (h : Placed s hand lost) (type : BatchCommandEventType) :
    Placed (s.report c type) hand lost :=
  ⟨h.once, h.ready, h.unlocked, h.acquire, h.correlation⟩

/-! ## Commands that change place -/

/-- Commands move between the places, the hand and the lost ones, and no functor is left
behind. -/
theorem Placed.move {t : BatchCommandSandbox} {hand' lost' : List CommandRef}
    (h : Placed s hand lost) (hcmd : t.cmd = s.cmd) (henqueued : t.enqueued = s.enqueued)
    (hacquire : t.acquireHandlerFunctor = s.acquireHandlerFunctor)
    (hcorrelation : t.correlationHandlerFunctor = s.correlationHandlerFunctor)
    (hcount : ∀ c, t.placeCount c + hand'.count c + lost'.count c =
      s.placeCount c + hand.count c + lost.count c)
    (hready : ∀ c ∈ t.active, c ∉ s.active → Ready (s.cmd c))
    (hbound : ∀ c, ¬ Unbound s c → c ∈ s.active ++ hand → c ∈ t.active ++ hand') :
    Placed t hand' lost' where
  once c := by rw [hcount, henqueued, h.once]
  ready c hc := by
    rw [hcmd]
    by_cases ha : c ∈ s.active
    · exact h.ready c ha
    · exact hready c hc ha
  unlocked c hc := by
    rw [hcmd]
    exact h.unlocked c (henqueued ▸ hc)
  acquire := by
    rw [hacquire]
    exact h.acquire.of_subset (fun c hf => hbound c fun hu => hu.1 hf) fun c => by rw [hcmd]
  correlation := by
    rw [hcorrelation]
    exact h.correlation.of_subset (fun c hf => hbound c fun hu => hu.2 hf) fun c => by rw [hcmd]

theorem Placed.pop (h : Placed s hand lost) {e : QueuedCommand}
    (he : e ∈ s.command_submitted_queue) : Placed (s.pop e) (e.element :: hand) lost := by
  refine h.move rfl rfl rfl rfl ?_ (fun c hc hn => absurd hc hn) ?_
  · intro c
    have hperm := ((List.perm_cons_erase he).map QueuedCommand.element).count_eq c
    simp only [placeCount, BatchCommandSandbox.pop, List.map_cons, List.count_cons] at hperm ⊢
    omega
  · intro c _ hc
    rcases List.mem_append.mp hc with ha | hh
    · exact List.mem_append_left _ ha
    · exact List.mem_append_right _ (List.mem_cons_of_mem _ hh)

/-- The current command is taken in the hand. -/
theorem Placed.takeCurrent (h : Placed s hand lost) (hc : s.currentExecutingCommand = some c) :
    Placed { s with currentExecutingCommand := none } (c :: hand) lost := by
  refine h.move rfl rfl rfl rfl ?_ ?_ ?_
  · intro d
    simp only [placeCount, hc, Option.toList, List.count_cons, List.count_nil]
    omega
  · intro d hd hn
    exact absurd (List.mem_append_right _ (by simpa [active] using hd)) hn
  · intro d _ hd
    simp only [active, hc, Option.toList, List.cons_append, List.nil_append, List.mem_cons,
      List.mem_append] at hd ⊢
    tauto

/-- The top of the stack is taken in the hand. -/
theorem Placed.takeStack (h : Placed s hand lost) {rest : List CommandRef}
    (hs : s.commandStack = c :: rest) :
    Placed { s with commandStack := rest } (c :: hand) lost := by
  refine h.move rfl rfl rfl rfl ?_ ?_ ?_
  · intro d
    simp only [placeCount, hs, List.count_cons]
    omega
  · intro d hd hn
    simp only [active, hs, List.mem_append, List.mem_cons] at hd hn
    tauto
  · intro d _ hd
    simp only [active, hs, List.mem_append, List.mem_cons] at hd ⊢
    tauto

/-- A command that was installed once goes from the hand to the stack. -/
theorem Placed.pushStack (h : Placed s (c :: hand) lost) (hr : Ready (s.cmd c)) :
    Placed { s with commandStack := c :: s.commandStack } hand lost := by
  refine h.move rfl rfl rfl rfl ?_ ?_ ?_
  · intro d
    simp only [placeCount, List.count_cons]
    omega
  · intro d hd hn
    simp only [active, List.mem_append, List.mem_cons] at hd hn
    have : d = c := by tauto
    exact this ▸ hr
  · intro d _ hd
    simp only [active, List.mem_append, List.mem_cons] at hd ⊢
    tauto

/-- A command that no functor is bound to leaves the hand. -/
theorem Placed.dispose (h : Placed s (c :: hand) lost) (hu : Unbound s c) :
    Placed (s.dispose c) hand lost := by
  refine h.move rfl rfl rfl rfl ?_ (fun d hd hn => absurd hd hn) ?_
  · intro d
    simp only [placeCount, BatchCommandSandbox.dispose, List.count_append, List.count_cons,
      List.count_nil]
    omega
  · intro d hb hd
    have hne : d ≠ c := by
      rintro rfl
      exact hb hu
    have hd' : d ∈ s.active ++ hand := by simpa [hne] using hd
    exact hd'

/-- A command that is dropped from the hand with no `dispose` is lost. -/
theorem Placed.lose (h : Placed s (c :: hand) lost) (hu : Unbound s c) :
    Placed s hand (c :: lost) := by
  refine h.move rfl rfl rfl rfl ?_ (fun d hd hn => absurd hd hn) ?_
  · intro d
    simp only [List.count_cons]
    omega
  · intro d hb hd
    have hne : d ≠ c := by
      rintro rfl
      exact hb hu
    simpa [hne] using hd

/-- No functor is bound to a command that waits in the queue. -/
theorem Placed.unbound_queued (h : Placed s [] lost) {e : QueuedCommand}
    (he : e ∈ s.command_submitted_queue) : Unbound s e.element := by
  have hactive : e.element ∉ s.active := by
    have h1 := h.once e.element
    have h2 := List.count_pos_iff.mpr (List.mem_map_of_mem (f := QueuedCommand.element) he)
    refine List.count_eq_zero.mp ?_
    simp only [placeCount] at h1
    rw [active, List.count_append]
    split at h1 <;> omega
  constructor
  · intro hf
    have hb := h.acquire
    rw [hf] at hb
    exact hactive (by simpa using hb.1)
  · intro hf
    have hb := h.correlation
    rw [hf] at hb
    exact hactive (by simpa using hb.1)

theorem Bound.unbind {bit : UInt8} {f : Option CommandRef} {p : Prop} [Decidable p]
    (h : Bound s hand bit f) : Bound s hand bit (if p then none else f) := by
  split
  · trivial
  · exact h

/-- The state after `removeHandler` of a command that has more than a set handler. -/
def BatchCommandSandbox.unbind (s : BatchCommandSandbox) (c : CommandRef) :
    BatchCommandSandbox :=
  { s with
    acquireHandlerFunctor :=
      if (s.cmd c).implementedHandler &&& HT_Acquisition ≠ 0 ∧ s.acquireHandlerFunctor = some c
      then none else s.acquireHandlerFunctor
    correlationHandlerFunctor :=
      if (s.cmd c).implementedHandler &&& HT_Correlation ≠ 0 ∧
        s.correlationHandlerFunctor = some c then none else s.correlationHandlerFunctor }

theorem removeHandler_of_ready (hr : Ready (s.cmd c)) : s.removeHandler c = s.unbind c :=
  if_neg (UInt8.not_le.mpr hr.mask)

theorem Placed.unbind (h : Placed s hand lost) (c : CommandRef) :
    Placed (s.unbind c) hand lost :=
  ⟨h.once, h.ready, h.unlocked, h.acquire.unbind, h.correlation.unbind⟩

/-- `removeHandler` unbinds its command: a functor is bound only through the mask. -/
theorem Placed.unbound_unbind (h : Placed s hand lost) (c : CommandRef) :
    Unbound (s.unbind c) c := by
  constructor
  · intro hf
    have hb := h.acquire
    simp only [BatchCommandSandbox.unbind] at hf
    split at hf
    · simp at hf
    · rename_i hn
      rw [hf] at hb
      exact hn ⟨hb.2, hf⟩
  · intro hf
    have hb := h.correlation
    simp only [BatchCommandSandbox.unbind] at hf
    split at hf
    · simp at hf
    · rename_i hn
      rw [hf] at hb
      exact hn ⟨hb.2, hf⟩

/-- `removeHandler` binds nothing. -/
theorem Unbound.unbind {d : CommandRef} (h : Unbound s d) (c : CommandRef) :
    Unbound (s.unbind c) d := by
  constructor
  · simp only [BatchCommandSandbox.unbind]
    split
    · simp
    · exact h.1
  · simp only [BatchCommandSandbox.unbind]
    split
    · simp
    · exact h.2

/-! ## The installation of a command -/

/-- The state after a command was installed. -/
def BatchCommandSandbox.installed (s : BatchCommandSandbox) (c : CommandRef) (now : UInt64)
    (set : HandlerOutcome) : BatchCommandSandbox :=
  { s.modify c (setUp · now set) with
    acquireHandlerFunctor :=
      if (s.cmd c).implementedHandler &&& HT_Acquisition ≠ 0 then some c
      else s.acquireHandlerFunctor
    correlationHandlerFunctor :=
      if (s.cmd c).implementedHandler &&& HT_Correlation ≠ 0 then some c
      else s.correlationHandlerFunctor
    currentExecutingCommand := some c }.report c .EVT_RUNNING

theorem installHandler_of_installs {now : UInt64} {set : HandlerOutcome}
    (h : installs (s.cmd c) set = true) :
    s.installHandler (some c) now set = (s.installed c now set, true) := by
  simp only [installs, Bool.and_eq_true, decide_eq_true_eq] at h
  have hmask : ¬ (s.cmd c).implementedHandler ≤ 1 := UInt8.not_le.mpr h.1
  simp only [installHandler, h.2, hmask, decide_false, Bool.not_true, Bool.or_self,
    Bool.false_eq_true, if_false]
  rfl

theorem installHandler_of_not {now : UInt64} {set : HandlerOutcome}
    (h : installs (s.cmd c) set = false) :
    s.installHandler (some c) now set = (s.modify c (setUp · now set), false) := by
  have hcond : (decide ((s.cmd c).implementedHandler ≤ 1) ||
      !(!(callsSet (s.cmd c) && set.thrown.isSome))) = true := by
    rw [installs, Bool.and_eq_false_iff] at h
    rcases h with h | h
    · have hle := UInt8.not_lt.mp (of_decide_eq_false h)
      simp [hle]
    · simp [h]
  simp only [installHandler, hcond, if_true]

/-- A ready command is always installed again. -/
theorem Ready.installs {b : BatchCommand} (h : Ready b) (set : HandlerOutcome) :
    installs b set = true := by
  simp [BatchCommandSandbox.installs, h.mask, h.no_set]

/-- The installation takes the command from the hand, when there is no current command. -/
theorem Placed.installed (h : Placed s (c :: hand) lost) (now : UInt64) {set : HandlerOutcome}
    (hcurrent : s.currentExecutingCommand = none) (hinst : installs (s.cmd c) set = true) :
    Placed (s.installed c now set) hand lost := by
  have hm := h.modify (c := c) (f := (setUp · now set)) (keeps_setUp (s.cmd c) now set)
  have hready : Ready ((s.modify c (setUp · now set)).cmd c) := by
    simpa [BatchCommandSandbox.modify] using ready_setUp hinst
  have hmask : ((s.modify c (setUp · now set)).cmd c).implementedHandler =
      (s.cmd c).implementedHandler :=
    (modify_keeps (f := (setUp · now set)) (keeps_setUp (s.cmd c) now set) c).handlers
  have hbound : ∀ (bit : UInt8) (f : Option CommandRef),
      Bound (s.modify c (setUp · now set)) (c :: hand) bit f →
      Bound (s.installed c now set) hand bit
        (if (s.cmd c).implementedHandler &&& bit ≠ 0 then some c else f) := by
    intro bit f hf
    split
    · rename_i hb
      refine ⟨by simp [active, BatchCommandSandbox.installed, BatchCommandSandbox.report, emit], ?_⟩
      exact hmask ▸ hb
    · refine hf.of_subset ?_ fun _ => rfl
      intro d _ hd
      simp only [active, BatchCommandSandbox.modify, hcurrent, Option.toList_none,
        List.nil_append, List.mem_append, List.mem_cons] at hd
      simp only [active, BatchCommandSandbox.installed, BatchCommandSandbox.report, emit,
        BatchCommandSandbox.modify, Option.toList_some, List.mem_append, List.mem_cons,
        List.not_mem_nil, or_false]
      tauto
  refine ⟨?_, ?_, hm.unlocked, hbound _ _ hm.acquire, hbound _ _ hm.correlation⟩
  · intro d
    refine Eq.trans ?_ (h.once d)
    simp only [placeCount, hcurrent, BatchCommandSandbox.installed, BatchCommandSandbox.report,
      emit, BatchCommandSandbox.modify, Option.toList_none, Option.toList_some, List.count_cons,
      List.count_nil]
    omega
  · intro d hd
    simp only [active, BatchCommandSandbox.installed, BatchCommandSandbox.report, emit,
      BatchCommandSandbox.modify, Option.toList_some, List.mem_append, List.mem_cons,
      List.not_mem_nil, or_false] at hd
    rcases hd with rfl | hd
    · exact hready
    · exact hm.ready d (List.mem_append_right _ hd)

/-! ## The checker -/

/-- The decision of the checker takes the next command out of the queue. -/
def swaps : Option RunningVSSubmissioneResult → Bool
  | some .RSR_STACK_CURENT_COMMAND => true
  | some .RSR_KILL_KURRENT_COMMAND => true
  | some .RSR_CURRENT_CMD_HAS_ENDED => true
  | some .RSR_CURRENT_CMD_HAS_FAULTED => true
  | _ => false

/-- The next command of an iteration that takes it out of the queue is installed, or it is
deleted: a command with a set handler only is deleted by a sandbox that has a current command,
and a command whose set handler throws is deleted by a sandbox that has an event handler too. -/
def NotLost (s : BatchCommandSandbox) (env : CheckerEnv) (next : QueuedCommand) : Prop :=
  (s.currentExecutingCommand = none → installs (s.cmd next.element) env.set = true) ∧
  ∀ current ∈ s.currentExecutingCommand,
    s.event_handler = true ∨ (s.cmd next.element).implementedHandler ≤ 1 ∨
      swaps (CHECK_RUNNING_VS_SUBMISSION env (s.cmd current).runningProperty
        (s.cmd next.element).submissionRule) = false ∨
      installs (s.cmd next.element) env.set = true

instance NotLost.decidable (s : BatchCommandSandbox) (env : CheckerEnv) (next : QueuedCommand) :
    Decidable (NotLost s env next) :=
  inferInstanceAs (Decidable ((_ → _) ∧ ∀ _ ∈ s.currentExecutingCommand, _))

/-- The set handler of a command in the hand does not move it. -/
theorem Placed.refused (h : Placed s hand lost) (c : CommandRef) (now : UInt64)
    (set : HandlerOutcome) : Placed (s.modify c (setUp · now set)) hand lost :=
  h.modify (c := c) (f := (setUp · now set)) (keeps_setUp (s.cmd c) now set)

theorem installHandler_pop {now : UInt64} {set : HandlerOutcome} (e : QueuedCommand) :
    ((s.installHandler (some c) now set).1).pop e =
      ((s.pop e).installHandler (some c) now set).1 := by
  by_cases h : installs (s.cmd c) set = true
  · rw [installHandler_of_installs h, installHandler_of_installs (s := s.pop e) h]
    rfl
  · have h' := Bool.eq_false_iff.mpr h
    rw [installHandler_of_not h', installHandler_of_not (s := s.pop e) h']
    rfl

/-- A command with a set handler only goes from the queue to the disposed ones. -/
theorem Placed.runOnlySet (h : Placed s [] lost) (env : CheckerEnv) {next : QueuedCommand}
    (hn : next ∈ s.command_submitted_queue)
    (hmask : (s.cmd next.element).implementedHandler ≤ 1) :
    Placed (s.runOnlySet env next) [] lost := by
  have hinst : installs (s.cmd next.element) env.set = false := by
    simp [installs, UInt8.not_lt.mpr hmask]
  have hu : Unbound s next.element := h.unbound_queued hn
  simp only [BatchCommandSandbox.runOnlySet, installHandler_pop,
    installHandler_of_not (s := s.pop next) hinst]
  exact (((h.pop hn).refused _ _ _).report _).dispose hu

/-- A command that was not installed leaves the hand. -/
theorem Placed.failedInstall (h : Placed s (c :: hand) lost) (hu : Unbound s c) :
    ∃ lost', Placed (s.failedInstall c) hand lost' ∧ (s.event_handler = true → lost' = lost) := by
  unfold BatchCommandSandbox.failedInstall
  by_cases he : s.event_handler = true
  · rw [if_pos he]
    refine ⟨lost, ?_, fun _ => rfl⟩
    split
    · exact (h.report _).dispose hu
    · exact h.dispose hu
  · rw [if_neg he]
    exact ⟨c :: lost, h.lose hu, fun h' => absurd h' he⟩

theorem failedInstall_current (c : CommandRef) :
    (s.failedInstall c).currentExecutingCommand = s.currentExecutingCommand := by
  unfold BatchCommandSandbox.failedInstall
  split
  · split <;> rfl
  · rfl

theorem Placed.hand_ne {d : CommandRef} (h : Placed s (c :: d :: hand) lost) : c ≠ d := by
  rintro rfl
  have h1 := h.once c
  simp only [List.count_cons, beq_self_eq_true, if_true] at h1
  split at h1 <;> omega

theorem Unbound.installed {d : CommandRef} (h : Unbound s d) (hne : c ≠ d) (now : UInt64)
    (set : HandlerOutcome) : Unbound (s.installed c now set) d := by
  constructor
  · simp only [BatchCommandSandbox.installed, BatchCommandSandbox.report, emit]
    split
    · simpa using hne
    · exact h.1
  · simp only [BatchCommandSandbox.installed, BatchCommandSandbox.report, emit]
    split
    · simpa using hne
    · exact h.2

theorem mem_active_current (hc : s.currentExecutingCommand = some c) : c ∈ s.active := by
  simp [active, hc]

/-- The current command is installed again. -/
theorem Placed.reinstall (h : Placed s hand lost) (hc : s.currentExecutingCommand = some c)
    (now : UInt64) (set : HandlerOutcome) :
    Placed (s.installHandler (some c) now set).1 hand lost := by
  have hinst := (h.ready c (mem_active_current hc)).installs set
  rw [installHandler_of_installs hinst]
  exact (h.takeCurrent hc).installed now rfl hinst

/-- The next command becomes the current one over the old one, or leaves the queue. -/
theorem Placed.stackCurrent (h : Placed s [] lost) (env : CheckerEnv) {current : CommandRef}
    {next : QueuedCommand} (hc : s.currentExecutingCommand = some current)
    (hn : next ∈ s.command_submitted_queue) :
    ∃ lost', Placed (s.stackCurrent env current next) [] lost' ∧
      (s.event_handler = true ∨ installs (s.cmd next.element) env.set = true → lost' = lost) := by
  have hready := h.ready current (mem_active_current hc)
  by_cases hinst : installs (s.cmd next.element) env.set = true
  · refine ⟨lost, ?_, fun _ => rfl⟩
    have hi := ((h.takeCurrent hc).pop hn).installed env.now rfl hinst
    have hr : Ready ((((s.pop next).installed next.element env.now env.set)).cmd current) :=
      (modify_keeps (s := s) (f := (setUp · env.now env.set)) (keeps_setUp _ _ _) current).ready
        hready
    simp only [BatchCommandSandbox.stackCurrent,
      installHandler_of_installs (s := s.pop next) hinst, if_true]
    exact (hi.pushStack hr).report _
  · have hinst' := Bool.eq_false_iff.mpr hinst
    have hu : Unbound s next.element := h.unbound_queued hn
    simp only [BatchCommandSandbox.stackCurrent, installHandler_of_not (s := s.pop next) hinst',
      Bool.false_eq_true, if_false]
    obtain ⟨lost', h', hlost⟩ := ((h.pop hn).refused _ env.now env.set).failedInstall hu
    exact ⟨lost', h', fun hk => hlost (hk.resolve_right hinst)⟩

/-- The next command takes the place of the current one, or leaves the queue. -/
theorem Placed.replaceCurrent (h : Placed s [] lost) (env : CheckerEnv) {current : CommandRef}
    {next : QueuedCommand} (ended : BatchCommandEventType)
    (hc : s.currentExecutingCommand = some current) (hn : next ∈ s.command_submitted_queue) :
    ∃ lost', Placed (s.replaceCurrent env current next ended) [] lost' ∧
      (s.event_handler = true ∨ installs (s.cmd next.element) env.set = true → lost' = lost) := by
  have hready := h.ready current (mem_active_current hc)
  have hremove := removeHandler_of_ready (s := s.pop next) hready
  by_cases hinst : installs (s.cmd next.element) env.set = true
  · refine ⟨lost, ?_, fun _ => rfl⟩
    have hp := (h.takeCurrent hc).pop hn
    have hi := (hp.unbind current).installed env.now rfl hinst
    have hu := (hp.unbound_unbind current).installed hp.hand_ne env.now env.set
    simp only [BatchCommandSandbox.replaceCurrent, hremove,
      installHandler_of_installs (s := (s.pop next).unbind current) hinst, if_true]
    exact (hi.report _).dispose hu
  · have hinst' := Bool.eq_false_iff.mpr hinst
    have hu : Unbound ((s.pop next).unbind current) next.element :=
      Unbound.unbind (s := s.pop next) (h.unbound_queued hn) current
    simp only [BatchCommandSandbox.replaceCurrent, hremove,
      installHandler_of_not (s := (s.pop next).unbind current) hinst', Bool.false_eq_true, if_false]
    obtain ⟨lost', h', hlost⟩ :=
      (((h.pop hn).unbind current).refused next.element env.now env.set).failedInstall hu
    refine ⟨lost', h'.reinstall ?_ _ _, fun hk => hlost (hk.resolve_right hinst)⟩
    rw [failedInstall_current]
    exact hc

theorem Placed.checkAgainstCurrent (h : Placed s [] lost) (env : CheckerEnv)
    {current : CommandRef} {next : QueuedCommand} (hc : s.currentExecutingCommand = some current)
    (hn : next ∈ s.command_submitted_queue) :
    ∃ lost', Placed (s.checkAgainstCurrent env current next).1 [] lost' ∧
      (NotLost s env next → lost' = lost) := by
  unfold BatchCommandSandbox.checkAgainstCurrent NotLost
  split
  · rename_i hmask
    exact ⟨lost, h.runOnlySet env hn hmask, fun _ => rfl⟩
  · rename_i hmask
    simp only [hc, hmask, false_or, reduceCtorEq, false_implies, true_and, Option.mem_def,
      Option.some.injEq, forall_eq']
    cases hd : CHECK_RUNNING_VS_SUBMISSION env (s.cmd current).runningProperty
      (s.cmd next.element).submissionRule with
    | none => exact ⟨lost, h, fun _ => rfl⟩
    | some d =>
      cases d with
      | RSR_NO_CHANGE => exact ⟨lost, h, fun _ => rfl⟩
      | RSR_TIMED_RETRY => exact ⟨lost, h, fun _ => rfl⟩
      | RSR_STACK_CURENT_COMMAND => simpa [swaps] using h.stackCurrent env hc hn
      | RSR_KILL_KURRENT_COMMAND => simpa [swaps] using h.replaceCurrent env .EVT_KILLED hc hn
      | RSR_CURRENT_CMD_HAS_ENDED => simpa [swaps] using h.replaceCurrent env .EVT_COMPLETED hc hn
      | RSR_CURRENT_CMD_HAS_FAULTED => simpa [swaps] using h.replaceCurrent env .EVT_FAULT hc hn

/-- A sandbox with no current command installs the next one, or loses it. -/
theorem Placed.installIdle (h : Placed s [] lost) (env : CheckerEnv) {next : QueuedCommand}
    (hc : s.currentExecutingCommand = none) (hn : next ∈ s.command_submitted_queue) :
    ∃ lost', Placed (((s.installHandler (some next.element) env.now env.set).1).pop next) []
      lost' ∧ (installs (s.cmd next.element) env.set = true → lost' = lost) := by
  rw [installHandler_pop]
  by_cases hinst : installs (s.cmd next.element) env.set = true
  · rw [installHandler_of_installs (s := s.pop next) hinst]
    exact ⟨lost, (h.pop hn).installed env.now hc hinst, fun _ => rfl⟩
  · have hinst' := Bool.eq_false_iff.mpr hinst
    have hu : Unbound s next.element := h.unbound_queued hn
    rw [installHandler_of_not (s := s.pop next) hinst']
    exact ⟨next.element :: lost, ((h.pop hn).refused _ _ _).lose hu, fun h' => absurd h' hinst⟩

theorem Placed.reportEnd (h : Placed s hand lost) (c : CommandRef) :
    Placed (s.reportEnd c) hand lost := by
  unfold BatchCommandSandbox.reportEnd
  split
  · exact h.report _
  · split
    · exact h.report _
    · exact h

theorem Unbound.reportEnd (h : Unbound s c) : Unbound (s.reportEnd c) c := by
  unfold BatchCommandSandbox.reportEnd
  split
  · exact h
  · split
    · exact h
    · exact h

/-- A current command that has ended goes to the disposed ones, and the top of the stack
becomes the current command. -/
theorem Placed.checkEnded (h : Placed s [] lost) (env : CheckerEnv) :
    Placed (s.checkEnded env) [] lost := by
  unfold BatchCommandSandbox.checkEnded
  cases hc : s.currentExecutingCommand with
  | none => exact h
  | some current =>
    have hready := h.ready current (mem_active_current hc)
    have ht := h.takeCurrent hc
    simp only [removeHandler_of_ready hready]
    split
    · exact h
    · cases hs : s.commandStack with
      | nil =>
        have hu : Unbound { s with
            currentExecutingCommand := none
            acquireHandlerFunctor := none
            correlationHandlerFunctor := none } current := ⟨by simp, by simp⟩
        have hcleared : Placed { s with
            currentExecutingCommand := none
            acquireHandlerFunctor := none
            correlationHandlerFunctor := none } [current] lost :=
          ⟨ht.once, ht.ready, ht.unlocked, trivial, trivial⟩
        simp only [BatchCommandSandbox.unbind, hs, installHandler]
        simp only [hs] at hu hcleared
        exact (hcleared.reportEnd current).dispose hu.reportEnd
      | cons next rest =>
        have hp := ht.takeStack hs
        have hinst := (h.ready next (by simp [active, hs])).installs env.set
        have hi := (hp.unbind current).installed env.now rfl hinst
        have hu := (hp.unbound_unbind current).installed hp.hand_ne env.now env.set
        have hsu : (s.unbind current).commandStack = next :: rest := hs
        have htail : { (s.unbind current).installed next env.now env.set with
            commandStack := s.commandStack.tail } =
            ({ s with currentExecutingCommand := none, commandStack := rest }.unbind
              current).installed next env.now env.set := by
          rw [hs]
          rfl
        simp only [hsu, installHandler_of_installs (s := s.unbind current) hinst]
        refine Eq.mp ?_ ((hi.reportEnd current).dispose hu.reportEnd)
        rw [← htail]
        rfl

/-- An iteration of the checker loses no command that is not lost by its branch. -/
theorem Placed.checkNextCommand (h : Placed s [] lost) (env : CheckerEnv) :
    ∃ lost', Placed (s.checkNextCommand env).1 [] lost' ∧
      ((∀ next ∈ s.top env.tie, NotLost s env next) → lost' = lost) := by
  unfold BatchCommandSandbox.checkNextCommand
  cases htop : s.top env.tie with
  | none => exact ⟨lost, h.checkEnded env, fun _ => rfl⟩
  | some next =>
    have hn : next ∈ s.command_submitted_queue := pqueue.top_mem htop
    cases hc : s.currentExecutingCommand with
    | none =>
      obtain ⟨lost', h', hlost⟩ := h.installIdle env hc hn
      exact ⟨lost', h', fun hk => hlost ((hk next rfl).1 hc)⟩
    | some current =>
      obtain ⟨lost', h', hlost⟩ := h.checkAgainstCurrent env hc hn
      exact ⟨lost', h', fun hk => hlost (hk next rfl)⟩

/-! ## The scheduler and the calls from outside -/

theorem Placed.callFunctor (h : Placed s hand lost) (f : Option CommandRef) (o : HandlerOutcome)
    (domain : String) : Placed (s.callFunctor f o domain) hand lost := by
  unfold BatchCommandSandbox.callFunctor
  cases f with
  | none => exact h
  | some c =>
    simp only
    split
    · exact h.modify (sameSetup_guarded o _ _ _ _).keeps
    · exact h

/-- The placement does not see the statistics. -/
theorem Placed.withStat (h : Placed s hand lost) (stat : SandboxStat) :
    Placed { s with stat := stat } hand lost :=
  ⟨h.once, h.ready, h.unlocked, h.acquire, h.correlation⟩

theorem Placed.emitSandbox (h : Placed s hand lost) (type : BatchSandboxEventType)
    (time : UInt64) : Placed (s.emitSandbox type time) hand lost :=
  ⟨h.once, h.ready, h.unlocked, h.acquire, h.correlation⟩

theorem Placed.runCommand (h : Placed s [] lost) (env : RunEnv) :
    Placed (s.runCommand env).1 [] lost := by
  unfold BatchCommandSandbox.runCommand
  split
  · split
    · exact h.withStat _
    · exact h
  · simp only
    apply Placed.modify
    · split
      · exact ((((((h.withStat _).callFunctor _ _ _).callFunctor _ _ _).emitSandbox _ _).withStat
          _).withStat _).emitSandbox _ _
      · exact ((((h.withStat _).callFunctor _ _ _).callFunctor _ _ _).emitSandbox _ _).withStat _
    · exact (sameSetup_commandPost _ _ _ _).keeps

theorem Placed.killCurrentCommand (h : Placed s [] lost) {t : BatchCommandSandbox}
    (ht : s.killCurrentCommand = some t) : Placed t [] lost := by
  obtain ⟨c, _, rfl⟩ := Option.map_eq_some_iff.mp ht
  exact h.modify (sameSetup_setRunningProperty _ _).keeps

/-- A new command comes to the queue, and every other command stays where it is. -/
theorem Placed.arrive (h : Placed s [] lost) (new : NewCommand) (priority : Int) :
    Placed { s with
      cmd := Function.update s.cmd s.enqueued new.toBatchCommand
      enqueued := s.enqueued + 1
      command_submitted_queue := ⟨priority, s.enqueued⟩ :: s.command_submitted_queue }
      [] lost := by
  have hfresh := h.once s.enqueued
  simp only [placeCount, Nat.lt_irrefl, if_false] at hfresh
  have hold : ∀ c ∈ s.active, c ≠ s.enqueued := by
    rintro c hc rfl
    have hpos := List.count_pos_iff.mpr hc
    rw [active, List.count_append] at hpos
    omega
  have hcmd : ∀ c, c ≠ s.enqueued →
      Function.update s.cmd s.enqueued new.toBatchCommand c = s.cmd c :=
    fun c hc => Function.update_of_ne hc _ _
  have hbound : ∀ {bit : UInt8} {f : Option CommandRef}, Bound s [] bit f →
      Bound { s with cmd := Function.update s.cmd s.enqueued new.toBatchCommand } [] bit f := by
    intro bit f hf
    cases f with
    | none => trivial
    | some c =>
      refine ⟨hf.1, ?_⟩
      simp only [hcmd c (hold c (by simpa using hf.1))]
      exact hf.2
  refine ⟨?_, ?_, ?_, hbound h.acquire, hbound h.correlation⟩
  · intro c
    have hc := h.once c
    simp only [placeCount, List.map_cons, List.count_cons, List.count_nil] at hc ⊢
    rcases Nat.lt_trichotomy c s.enqueued with hlt | rfl | hgt
    · have hne : (s.enqueued == c) = false := by simpa using Nat.ne_of_gt hlt
      simp only [hne, hlt, Nat.lt_succ_of_lt hlt, if_true] at hc ⊢
      simpa using hc
    · simp only [beq_self_eq_true, if_true, Nat.lt_succ_self]
      omega
    · have hne : (s.enqueued == c) = false := by simpa using Nat.ne_of_lt hgt
      have hn : ¬ c < s.enqueued + 1 := Nat.not_lt.mpr hgt
      simp only [hne, hn, Nat.lt_asymm hgt, if_false] at hc ⊢
      simpa using hc
  · intro c hc
    simp only [hcmd c (hold c hc)]
    exact h.ready c hc
  · intro c hc
    by_cases hce : c = s.enqueued
    · subst hce
      simp [BatchCommand.propertyLocked, new.unlocked]
    · simp only [hcmd c hce]
      exact h.unlocked c (Nat.lt_of_le_of_ne (Nat.lt_succ_iff.mp hc) hce)

theorem Placed.enqueueCommand (h : Placed s [] lost) (new : NewCommand) (priority : UInt32) :
    Placed (s.enqueueCommand new priority).1 [] lost := by
  have ha := h.arrive new priority.toInt32.toInt
  unfold BatchCommandSandbox.enqueueCommand
  split
  · exact h
  · exact ⟨ha.once, ha.ready, ha.unlocked, ha.acquire, ha.correlation⟩

/-! ## The end of the sandbox -/

/-- The loops of `deinit` dispose their commands, in order, and touch nothing else. -/
theorem foldl_deinitOne (l : List CommandRef) (hc : s.currentExecutingCommand = none) :
    l.foldl deinitOne s = { s with disposed := s.disposed ++ l } := by
  induction l generalizing s with
  | nil => simp
  | cons c cs ih =>
    have hone : deinitOne s c = { s with disposed := s.disposed ++ [c] } := by
      simp [deinitOne, hc, BatchCommandSandbox.dispose]
    rw [List.foldl_cons, hone, ih (s := { s with disposed := s.disposed ++ [c] }) hc]
    simp

theorem deinitCurrent_current : s.deinitCurrent.currentExecutingCommand = none := by
  unfold deinitCurrent
  split
  · assumption
  · rfl

/-- `deinit` disposes everything that the sandbox holds. -/
theorem deinit_eq : s.deinit =
    { s.deinitCurrent with
      commandStack := []
      command_submitted_queue := []
      acquireHandlerFunctor := none
      correlationHandlerFunctor := none
      disposed := s.deinitCurrent.disposed ++ s.deinitCurrent.commandStack ++
        s.deinitCurrent.command_submitted_queue.map QueuedCommand.element } := by
  have hc : s.deinitCurrent.currentExecutingCommand = none := deinitCurrent_current
  simp only [deinit, foldl_deinitOne _ hc]
  rw [foldl_deinitOne _ (by exact hc)]

theorem Placed.deinit (h : Placed s [] lost) : Placed s.deinit [] lost := by
  have hcurrent : ∀ c, s.deinitCurrent.placeCount c = s.placeCount c := by
    intro c
    unfold deinitCurrent
    split
    · rfl
    · rename_i d hd
      simp only [placeCount, hd, BatchCommandSandbox.dispose, BatchCommandSandbox.report, emit,
        List.count_append, Option.toList_none, Option.toList_some, List.count_nil]
      omega
  have hsame : s.deinitCurrent.cmd = s.cmd ∧ s.deinitCurrent.enqueued = s.enqueued := by
    unfold deinitCurrent
    split <;> exact ⟨rfl, rfl⟩
  have hnone : s.deinitCurrent.currentExecutingCommand = none := deinitCurrent_current
  rw [deinit_eq]
  refine ⟨?_, ?_, ?_, trivial, trivial⟩
  · intro c
    refine Eq.trans ?_ ((h.once c).trans (by rw [hsame.2]))
    rw [← hcurrent c]
    simp only [placeCount, hnone, List.count_append, List.map_nil, Option.toList_none,
      List.count_nil]
    omega
  · intro c hc
    simp [active, hnone] at hc
  · intro c hc
    simp only [hsame.1]
    exact h.unlocked c (hsame.2 ▸ hc)

/-! ## Every run -/

/-- A step that keeps each command that it takes out of the queue. -/
def KeepsCommands (s : BatchCommandSandbox) : SandboxCall → Prop
  | .checkNextCommand env => ∀ next ∈ s.top env.tie, NotLost s env next
  | _ => True

instance KeepsCommands.decidable : ∀ s a, Decidable (KeepsCommands s a)
  | s, .checkNextCommand env =>
    inferInstanceAs (Decidable (∀ next ∈ s.top env.tie, NotLost s env next))
  | _, .enqueueCommand _ _ | _, .runCommand _ | _, .killCurrentCommand | _, .start | _, .stop
  | _, .deinit => isTrue trivial

/-- One step of the sandbox keeps the invariant, and loses a command only where the checker
takes it out of the queue and drops it. -/
theorem placed_step (h : Placed s [] lost) {a : SandboxCall} {t : BatchCommandSandbox}
    (hstep : sandboxStep s a = some t) :
    ∃ lost', Placed t [] lost' ∧ (KeepsCommands s a → lost' = lost) := by
  cases a with
  | enqueueCommand new priority =>
    cases hstep
    exact ⟨lost, h.enqueueCommand new priority, fun _ => rfl⟩
  | checkNextCommand env =>
    cases hstep
    exact h.checkNextCommand env
  | runCommand env =>
    cases hstep
    exact ⟨lost, h.runCommand env, fun _ => rfl⟩
  | killCurrentCommand => exact ⟨lost, h.killCurrentCommand hstep, fun _ => rfl⟩
  | start =>
    cases hstep
    exact ⟨lost, ⟨h.once, h.ready, h.unlocked, h.acquire, h.correlation⟩, fun _ => rfl⟩
  | stop =>
    cases hstep
    exact ⟨lost, ⟨h.once, h.ready, h.unlocked, h.acquire, h.correlation⟩, fun _ => rfl⟩
  | deinit =>
    cases hstep
    have hd := h.deinit
    exact ⟨lost, ⟨hd.once, hd.ready, hd.unlocked, hd.acquire, hd.correlation⟩, fun _ => rfl⟩

theorem placed_create (event_handler : Bool) (cmd : CommandRef → BatchCommand) :
    Placed (create event_handler cmd) [] [] := by
  refine ⟨?_, ?_, ?_, trivial, trivial⟩
  · intro c
    simp [placeCount, create]
  · intro c hc
    simp [active, create] at hc
  · intro c hc
    simp [create] at hc

/-- A functor is NULL, or it is bound to a command that is alive: the current command, or a
command of the stack. -/
def Alive (s : BatchCommandSandbox) (f : Option CommandRef) : Prop :=
  ∀ c, f = some c → c ∈ s.active ∧ c ∉ s.disposed

theorem Placed.alive (h : Placed s [] lost) {bit : UInt8} {f : Option CommandRef}
    (hf : Bound s [] bit f) : Alive s f := by
  rintro c rfl
  have hc : c ∈ s.active := by simpa using hf.1
  exact ⟨hc, h.active_not_disposed hc⟩

/-- In every run of a sandbox, no functor is left bound to a command that was deleted. -/
theorem functors_are_never_dangling (event_handler : Bool) (cmd : CommandRef → BatchCommand)
    (calls : List SandboxCall) (s : BatchCommandSandbox)
    (hrun : runs.run sandboxStep (create event_handler cmd) calls = some s) :
    Alive s s.acquireHandlerFunctor ∧ Alive s s.correlationHandlerFunctor := by
  have hplaced : ∃ lost, Placed s [] lost := by
    refine runs.run_keeps (fun s => ∃ lost, Placed s [] lost) ?_
      ⟨[], placed_create event_handler cmd⟩ hrun
    rintro s a t ⟨lost, h⟩ hstep
    obtain ⟨lost', h', _⟩ := placed_step h hstep
    exact ⟨lost', h'⟩
  obtain ⟨lost, h⟩ := hplaced
  exact ⟨h.alive h.acquire, h.alive h.correlation⟩

/-- A command with the given handlers and submission rule, for the runs below. -/
def aCommand (implementedHandler submissionRule : UInt8) : NewCommand where
  unique_id := 0
  command_alias := ""
  already_setupped := false
  command_set_time_usec := 0
  lockFeaturePropertyFlag := 0
  commandFeatures := ⟨0, 0, 0, 0⟩
  runningProperty := RP_Normal
  submissionRule := submissionRule
  fault_description := ⟨"", 0, "", ""⟩
  implementedHandler := implementedHandler
  not_setupped := rfl
  unlocked := rfl

/-- An iteration of the checker whose set handler throws, or does nothing. -/
def aCheck (thrown : Option Thrown) : SandboxCall :=
  .checkNextCommand ⟨0, none, 0, ⟨[], thrown⟩, 0, ⟨[], none⟩⟩

/-- A command with an acquire handler only runs over a command with all the handlers: the
correlation functor stays bound to the command under it. -/
def stackedRun : List SandboxCall :=
  [.enqueueCommand (aCommand 7 SUBMIT_NORMAL) 50, aCheck none,
   .enqueueCommand (aCommand 2 SUBMIT_AND_Stack) 50, aCheck none]

theorem functors_of_stacked_run : ∃ s,
    runs.run sandboxStep (create true fun _ => (aCommand 0 0).toBatchCommand) stackedRun = some s ∧
    s.acquireHandlerFunctor = some 1 ∧ s.correlationHandlerFunctor = some 0 ∧
    Alive s s.acquireHandlerFunctor ∧ Alive s s.correlationHandlerFunctor :=
  ⟨_, rfl, by decide, by decide, functors_are_never_dangling true _ stackedRun _ rfl⟩

end chaos.batch_command
