-- The times that a sandbox reads. The pause after a step against the one that the delay of the
-- command asks for, and the time that the timeout of a command is counted from.
import Chaos.SandboxPlaces

namespace chaos.batch_command

open BatchCommandSandbox

/-! ## One step -/

/-- The sandbox after the acquire handler of a step. -/
def BatchCommandSandbox.acquired (s : BatchCommandSandbox) (env : RunEnv) : BatchCommandSandbox :=
  { s with stat := { s.stat with lastCmdStepStart := env.start } }.callFunctor
    s.acquireHandlerFunctor env.acquire "Acquisition Handler"

/-- The sandbox after both handlers of a step. -/
def BatchCommandSandbox.handled (s : BatchCommandSandbox) (env : RunEnv) : BatchCommandSandbox :=
  (s.acquired env).callFunctor (s.acquired env).correlationHandlerFunctor env.cc
    "Correlation Handler"

/-- The sandbox where a step with a current command calls `commandPost`. -/
def BatchCommandSandbox.beforePost (s : BatchCommandSandbox) (env : RunEnv) :
    BatchCommandSandbox :=
  let s := (s.handled env).emitSandbox .EVT_RUN env.start
  let s := { s with stat := { s.stat with lastCmdStepTime := env.start - env.stop } }
  if s.stat.lastHBTime + 1000 < env.start then
    { s with stat := { s.stat with lastHBTime := env.start } }.emitSandbox .EVT_HEART_BEAT env.start
  else s

variable {s : BatchCommandSandbox} {c : CommandRef}

theorem runCommand_of_current (env : RunEnv) (hc : s.currentExecutingCommand = some c) :
    (s.runCommand env).1 = (s.beforePost env).modify c
        (·.commandPost (s.beforePost env).stat env.timeout env.expired) ∧
      (s.runCommand env).2 = (s.runCommand env).1.stepPause c := by
  simp only [BatchCommandSandbox.runCommand, hc, beforePost, handled, acquired, and_self]

theorem callFunctor_stat (f : Option CommandRef) (o : HandlerOutcome) (domain : String) :
    (s.callFunctor f o domain).stat = s.stat := by
  unfold BatchCommandSandbox.callFunctor
  split
  · rfl
  · split <;> rfl

/-- The statistics that `commandPost` reads hold the times of its own step. -/
theorem beforePost_stat (env : RunEnv) : (s.beforePost env).stat.lastCmdStepStart = env.start ∧
    (s.beforePost env).stat.lastCmdStepTime = env.start - env.stop := by
  simp only [beforePost]
  split <;> simp [emitSandbox, handled, acquired, callFunctor_stat]

/-! ## What a step leaves alone -/

/-- The sandboxes have the same current command, the same stack and the same functors. -/
structure SameBinding (s t : BatchCommandSandbox) : Prop where
  current : t.currentExecutingCommand = s.currentExecutingCommand
  stack : t.commandStack = s.commandStack
  acquire : t.acquireHandlerFunctor = s.acquireHandlerFunctor
  correlation : t.correlationHandlerFunctor = s.correlationHandlerFunctor

theorem SameBinding.trans {r s t : BatchCommandSandbox} (h : SameBinding r s)
    (h' : SameBinding s t) : SameBinding r t :=
  ⟨h'.current.trans h.current, h'.stack.trans h.stack, h'.acquire.trans h.acquire,
    h'.correlation.trans h.correlation⟩

theorem SameBinding.active {s t : BatchCommandSandbox} (h : SameBinding s t) :
    t.active = s.active := by
  rw [BatchCommandSandbox.active, h.current, h.stack, BatchCommandSandbox.active]

theorem sameBinding_callFunctor (s : BatchCommandSandbox) (f : Option CommandRef)
    (o : HandlerOutcome) (domain : String) : SameBinding s (s.callFunctor f o domain) := by
  unfold callFunctor
  split
  · exact ⟨rfl, rfl, rfl, rfl⟩
  · split <;> exact ⟨rfl, rfl, rfl, rfl⟩

theorem sameBinding_beforePost (s : BatchCommandSandbox) (env : RunEnv) :
    SameBinding s (s.beforePost env) := by
  have hacquired : SameBinding s (s.acquired env) := by
    have h := sameBinding_callFunctor { s with
      stat := { s.stat with lastCmdStepStart := env.start } } s.acquireHandlerFunctor env.acquire
      "Acquisition Handler"
    exact ⟨h.current, h.stack, h.acquire, h.correlation⟩
  have h : SameBinding s (s.handled env) := hacquired.trans (sameBinding_callFunctor _ _ _ _)
  simp only [beforePost]
  split <;> exact ⟨h.current, h.stack, h.acquire, h.correlation⟩

theorem sameBinding_runCommand (s : BatchCommandSandbox) (env : RunEnv) :
    SameBinding s (s.runCommand env).1 := by
  cases hc : s.currentExecutingCommand with
  | none =>
    simp only [runCommand, hc]
    split <;> exact ⟨hc.symm ▸ rfl, rfl, rfl, rfl⟩
  | some d =>
    have h := sameBinding_beforePost s env
    rw [(runCommand_of_current env hc).1]
    exact ⟨h.current, h.stack, h.acquire, h.correlation⟩

/-- A part of a command that its handlers cannot change. -/
structure Untouched {α : Type} (p : BatchCommand → α) : Prop where
  guarded : ∀ (o : HandlerOutcome) stdCode otherCode domain b,
    p (o.guarded stdCode otherCode domain b) = p b
  post : ∀ (b : BatchCommand) stat timeout expired, p (b.commandPost stat timeout expired) = p b

section

variable {α : Type} {p : BatchCommand → α}

theorem modify_untouched {f : BatchCommand → BatchCommand} (hf : ∀ b, p (f b) = p b)
    (s : BatchCommandSandbox) (d c : CommandRef) : p ((s.modify d f).cmd c) = p (s.cmd c) := by
  unfold BatchCommandSandbox.modify
  by_cases h : c = d
  · subst h
    simp [hf]
  · simp [Function.update_of_ne h]

theorem Untouched.callFunctor (h : Untouched p) (s : BatchCommandSandbox) (f : Option CommandRef)
    (o : HandlerOutcome) (domain : String) (c : CommandRef) :
    p ((s.callFunctor f o domain).cmd c) = p (s.cmd c) := by
  unfold BatchCommandSandbox.callFunctor
  split
  · rfl
  · split
    · exact modify_untouched (h.guarded o (-1) (-2) domain) s _ c
    · rfl

theorem Untouched.beforePost (h : Untouched p) (s : BatchCommandSandbox) (env : RunEnv)
    (c : CommandRef) : p ((s.beforePost env).cmd c) = p (s.cmd c) := by
  have hacquired : p ((s.acquired env).cmd c) = p (s.cmd c) := h.callFunctor _ _ _ _ c
  have hhandled : p ((s.handled env).cmd c) = p (s.cmd c) :=
    (h.callFunctor _ _ _ _ c).trans hacquired
  simp only [BatchCommandSandbox.beforePost]
  split <;> exact hhandled

theorem Untouched.runCommand (h : Untouched p) (s : BatchCommandSandbox) (env : RunEnv)
    (c : CommandRef) : p ((s.runCommand env).1.cmd c) = p (s.cmd c) := by
  cases hc : s.currentExecutingCommand with
  | none =>
    simp only [BatchCommandSandbox.runCommand, hc]
    split <;> rfl
  | some d =>
    rw [(runCommand_of_current env hc).1]
    exact (modify_untouched (fun b => h.post b _ _ _) _ d c).trans (h.beforePost s env c)

end

/-! ## The pause after a step -/

/-- The time left of a delay, in microseconds, after a step between two times in milliseconds. -/
def restOfDelay (delay start stop : UInt64) : Int :=
  max 0 ((delay.toNat : Int) - 1000 * (stop.toNat - start.toNat))

/-- The step took no whole millisecond, and the delay fits in an `int64_t`; or the step took the
whole delay, and the sum of both is no positive `int64_t`. -/
def PauseFits (delay start stop : UInt64) : Prop :=
  let time := 1000 * (stop.toNat - start.toNat)
  start = stop ∧ delay.toNat < 2 ^ 63 ∨
    delay.toNat ≤ time ∧
      ((delay.toNat + time) % 2 ^ 64 = 0 ∨ 2 ^ 63 ≤ (delay.toNat + time) % 2 ^ 64)

instance (delay start stop : UInt64) : Decidable (PauseFits delay start stop) :=
  inferInstanceAs (Decidable (_ ∨ _))

/-- The code adds the time of the step to the delay, for it subtracts the end from the start. -/
theorem timeToWaith_toNat {delay start stop : UInt64} (h : start ≤ stop) :
    (delay - (start - stop) * 1000).toNat =
      (delay.toNat + 1000 * (stop.toNat - start.toNat)) % 2 ^ 64 := by
  have hle := UInt64.le_iff_toNat_le.mp h
  have hstart := start.toNat_lt
  have hstop := stop.toNat_lt
  have hdelay := delay.toNat_lt
  simp only [UInt64.toNat_sub, UInt64.toNat_mul, UInt64.reduceToNat]
  omega

/-- A number that is a positive `int64_t` when its 64 bits are read so, or zero. -/
def positivePart (r : Nat) : Int := if r < 2 ^ 63 then r else 0

theorem positivePart_eq (n : UInt64) :
    (if 0 < n.toInt64.toInt then n.toInt64.toInt else 0) = positivePart n.toNat := by
  have h : n.toInt64.toInt = Int.bmod n.toNat (2 ^ 64) := BitVec.toInt_eq_toNat_bmod _
  have hlt := n.toNat_lt
  have hmod : ((n.toNat : Int) % (2 ^ 64 : Nat)) = n.toNat := by omega
  rw [h, Int.bmod_def, hmod, positivePart]
  split <;> split <;> omega

/-- Where the step is shorter than the delay, the sum is the difference for no step time. -/
theorem sum_ne_difference {d t : Nat} (ht : 0 < t) (hshort : 1000 * t < d) (hlt : d < 2 ^ 64) :
    (d + 1000 * t) % 2 ^ 64 + 1000 * t ≠ d := by
  have hmod : (d + 1000 * t) % 2 ^ 64 = d + 1000 * t ∨
      (d + 1000 * t) % 2 ^ 64 + 2 ^ 64 = d + 1000 * t := by
    rcases Nat.lt_or_ge (d + 1000 * t) (2 ^ 64) with h | h
    · exact .inl (Nat.mod_eq_of_lt h)
    · right
      rw [Nat.mod_eq_sub_mod h, Nat.mod_eq_of_lt (by omega)]
      omega
  generalize (d + 1000 * t) % 2 ^ 64 = r at hmod ⊢
  omega

theorem positivePart_fits {d t r : Nat} (hd : 0 < d) (hlt : d < 2 ^ 64)
    (hr : r = (d + 1000 * t) % 2 ^ 64) :
    positivePart r = max 0 ((d : Int) - 1000 * t) ↔
      t = 0 ∧ d < 2 ^ 63 ∨ d ≤ 1000 * t ∧ (r = 0 ∨ 2 ^ 63 ≤ r) := by
  unfold positivePart
  rcases Nat.lt_or_ge (1000 * t) d with hshort | hlong
  · rw [max_eq_right (by omega)]
    rcases Nat.eq_zero_or_pos t with rfl | ht
    · rw [Nat.mul_zero, Nat.add_zero, Nat.mod_eq_of_lt hlt] at hr
      subst hr
      split <;> omega
    · have hne := sum_ne_difference ht hshort hlt
      rw [← hr] at hne
      clear hr
      split <;> omega
  · clear hr
    rw [max_eq_left (by omega)]
    split <;> omega

theorem timeToWaith_fits {delay start stop : UInt64} (h : start ≤ stop) (hpos : 0 < delay) :
    (if 0 < (delay - (start - stop) * 1000).toInt64.toInt then
        (delay - (start - stop) * 1000).toInt64.toInt else 0) = restOfDelay delay start stop ↔
      PauseFits delay start stop := by
  have hle := UInt64.le_iff_toNat_le.mp h
  have hcast : (stop.toNat : Int) - start.toNat = ((stop.toNat - start.toNat : Nat) : Int) := by
    omega
  have heq : start = stop ↔ stop.toNat - start.toNat = 0 := by
    rw [← UInt64.toNat_inj]
    omega
  rw [positivePart_eq, timeToWaith_toNat h, restOfDelay, hcast, PauseFits, heq]
  exact positivePart_fits (UInt64.lt_iff_toNat_lt.mp hpos) delay.toNat_lt rfl

/-- The command goes on after its step, so that the scheduler makes a pause. -/
def GoesOn (s : BatchCommandSandbox) (c : CommandRef) : Prop :=
  (s.cmd c).runningProperty = RP_Exsc ∨
    (s.cmd c).runningProperty = RP_Normal ∧ s.scheduleWorkFlag = true

instance (s : BatchCommandSandbox) (c : CommandRef) : Decidable (GoesOn s c) :=
  inferInstanceAs (Decidable (_ ∨ _))

/-- The pause after a step of a command that goes on, with a positive delay. -/
theorem stepPause_of_goesOn {t : BatchCommandSandbox} (hgo : GoesOn t c)
    (hdelay : 0 < (t.cmd c).commandFeatures.featureSchedulerStepsDelay) :
    t.stepPause c =
      let timeToWaith := ((t.cmd c).commandFeatures.featureSchedulerStepsDelay -
        t.stat.lastCmdStepTime * 1000).toInt64.toInt
      .waitUSec (if 0 < timeToWaith then timeToWaith else 0) := by
  simp only [stepPause]
  rcases hgo with hexsc | ⟨hnormal, hflag⟩
  · have hzero : (t.cmd c).runningProperty = 0 := hexsc
    simp [hzero, hdelay, RP_Exsc]
  · simp [hnormal, hflag, hdelay]

/-- The pause that a step asks for is the rest of the delay in the steps of no millisecond, and
in no other ones but by a coincidence of the 64 bits. -/
theorem step_pacing (s : BatchCommandSandbox) (env : RunEnv) (c : CommandRef)
    (hc : s.currentExecutingCommand = some c) (hle : env.start ≤ env.stop)
    (hgo : GoesOn (s.runCommand env).1 c)
    (hdelay : 0 < ((s.runCommand env).1.cmd c).commandFeatures.featureSchedulerStepsDelay) :
    (s.runCommand env).2 = .waitUSec (restOfDelay
        ((s.runCommand env).1.cmd c).commandFeatures.featureSchedulerStepsDelay env.start env.stop) ↔
      PauseFits ((s.runCommand env).1.cmd c).commandFeatures.featureSchedulerStepsDelay
        env.start env.stop := by
  obtain ⟨hstate, hpause⟩ := runCommand_of_current env hc
  have htime : (s.runCommand env).1.stat.lastCmdStepTime = env.start - env.stop := by
    rw [hstate]
    exact (beforePost_stat env).2
  rw [hpause, stepPause_of_goesOn hgo hdelay, htime, SchedulerPause.waitUSec.injEq]
  exact timeToWaith_fits hle hdelay

/-- A sandbox whose current command has a delay of one second between its steps. -/
def paced : BatchCommandSandbox :=
  { create false fun _ => { (aCommand 2 2).toBatchCommand with
      commandFeatures := ⟨1, 1000000, 0, 0⟩ } with
    scheduleWorkFlag := true
    enqueued := 1
    currentExecutingCommand := some 0
    acquireHandlerFunctor := some 0 }

/-- A step from one time to another, whose handlers do nothing. -/
def aStep (start stop : UInt64) : RunEnv :=
  ⟨start, stop, ⟨[], none⟩, ⟨[], none⟩, ⟨[], none⟩, false⟩

theorem step_pacing_of_short_step : (paced.runCommand (aStep 5 5)).2 =
    .waitUSec (restOfDelay 1000000 5 5) :=
  (step_pacing paced (aStep 5 5) 0 rfl (by decide) (by decide) (by decide)).mpr (by decide)

/-- A step of two seconds with a delay of one second is followed by a pause of three seconds. -/
theorem long_step_has_longer_pause :
    (paced.runCommand (aStep 0 2000)).2 = .waitUSec 3000000 ∧
      restOfDelay 1000000 0 2000 = 0 := by
  decide

end chaos.batch_command
