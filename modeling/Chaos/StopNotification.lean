-- The end of the checker thread, which `stop` waits for. The checker that leaves its loop notifies
-- with the mutex that `stop` holds until it waits, and the one that leaves before its loop notifies
-- with no mutex, so that its notification may come before the wait.
import Chaos.SandboxThreads

namespace chaos.batch_command

open BatchCommandSandbox SandboxThreads

/-! ## The invariant -/

/-- The checker holds `mutexNextCommandChecker`. -/
def CheckerPhase.holds : CheckerPhase → Bool
  | .atHead _ | .unlockingScheduler _ | .paused _ | .testing | .lastNotify | .leaving => true
  | _ => false

/-- The checker has read a cleared flag, and has not notified yet. -/
def CheckerPhase.sawCleared : CheckerPhase → Bool
  | .entering (.first canWork) | .asleep (.first canWork) | .firstTest canWork
  | .locking canWork _ | .atHead canWork => !canWork
  | .firstNotify | .lastNotify => true
  | _ => false

/-- `stop` holds `mutexNextCommandChecker`. -/
def ControlPhase.holds : ControlPhase → Bool
  | .locked | .cleared | .schedulerUnlocked | .checkerUnlocked | .joiningScheduler
  | .joiningChecker => true
  | _ => false

/-- `stop` has cleared the flag. -/
def ControlPhase.hasCleared : ControlPhase → Bool
  | .stopped | .started | .locked => false
  | _ => true

/-- `stop` is over its wait, or was not called. -/
def ControlPhase.isOver : ControlPhase → Bool
  | .stopped | .awakened | .joiningScheduler | .joiningChecker => true
  | _ => false

/-- The mutex has the owner that holds it, the flag is up until `stop` clears it, the checker saw
it cleared after that only, and a checker that has notified has woken `stop`. -/
structure Orderly (s : SandboxThreads) : Prop where
  checkerHolds : s.checker.holds = true ↔ s.mutexNextCommandChecker = some .checker
  controlHolds : s.control.holds = true ↔ s.mutexNextCommandChecker = some .stop
  atRest : s.control = .stopped → s.checker = .ended
  flag : s.control = .started ∨ s.control = .locked → s.sandbox.scheduleWorkFlag = true
  seen : s.checker.sawCleared = true → s.control.hasCleared = true
  told : s.checker = .leaving ∨ s.checker = .ended → s.control.isOver = true

variable {s t : SandboxThreads}

theorem Orderly.not_leftWaiting (h : Orderly s) : ¬ LeftWaiting s := by
  rintro ⟨hwaiting, hended⟩
  have hover := h.told (.inr hended)
  rw [hwaiting] at hover
  cases hover

/-- A checker that reads a cleared flag reads it after `stop` has cleared it. -/
theorem Orderly.hasCleared (h : Orderly s) (hchecker : s.checker ≠ .ended)
    (hflag : s.sandbox.scheduleWorkFlag = false) : s.control.hasCleared = true := by
  cases hc : s.control with
  | stopped => exact absurd (h.atRest hc) hchecker
  | started =>
    rw [h.flag (.inl hc)] at hflag
    cases hflag
  | locked =>
    rw [h.flag (.inr hc)] at hflag
    cases hflag
  | cleared | schedulerUnlocked | checkerUnlocked | waiting | awakened | joiningScheduler
  | joiningChecker => rfl

/-- The other threads leave the checker, `stop` and the mutex as they are, and the flag. -/
structure Apart (s t : SandboxThreads) : Prop where
  checker : t.checker = s.checker
  control : t.control = s.control
  mutex : t.mutexNextCommandChecker = s.mutexNextCommandChecker
  flag : t.sandbox.scheduleWorkFlag = s.sandbox.scheduleWorkFlag

theorem Orderly.of_apart (h : Orderly s) (ha : Apart s t) : Orderly t := by
  obtain ⟨hchecker, hcontrol, hmutex, hflag⟩ := ha
  refine ⟨?_, ?_, ?_, ?_, ?_, ?_⟩
  · rw [hchecker, hmutex]
    exact h.checkerHolds
  · rw [hcontrol, hmutex]
    exact h.controlHolds
  · rw [hcontrol, hchecker]
    exact h.atRest
  · rw [hcontrol, hflag]
    exact h.flag
  · rw [hchecker, hcontrol]
    exact h.seen
  · rw [hchecker, hcontrol]
    exact h.told

theorem apart_schedulerStep {env : RunEnv} {timedOut : Bool}
    (h : s.schedulerStep env timedOut = some t) : Apart s t := by
  unfold schedulerStep at h
  split at h
  · cases h
  · cases h
    exact ⟨rfl, rfl, rfl, rfl⟩
  · cases h
    exact ⟨rfl, rfl, rfl, flag_runCommand _ _⟩
  · cases h
    exact ⟨rfl, rfl, rfl, rfl⟩
  · cases h
    exact ⟨rfl, rfl, rfl, rfl⟩
  · split at h
    · cases h
      exact ⟨rfl, rfl, rfl, rfl⟩
    · cases h

theorem apart_enqueueStep {new : NewCommand} {priority : UInt32}
    (h : s.enqueueStep new priority = some t) : Apart s t := by
  unfold enqueueStep at h
  split at h
  · cases h
    refine ⟨rfl, rfl, rfl, ?_⟩
    simp only [BatchCommandSandbox.enqueueCommand]
    split <;> rfl
  · cases h

/-! ## The steps keep it -/

/-- The checker goes on with neither the mutex nor the condition variable. -/
theorem Orderly.checker_goes (h : Orderly s) {phase : CheckerPhase}
    (hchecker : t.checker = phase) (hcontrol : t.control = s.control)
    (hmutex : t.mutexNextCommandChecker = s.mutexNextCommandChecker)
    (hflag : t.sandbox.scheduleWorkFlag = s.sandbox.scheduleWorkFlag)
    (hlive : s.checker ≠ .ended) (hholds : phase.holds = s.checker.holds)
    (hseen : phase.sawCleared = true → s.control.hasCleared = true)
    (hgoes : phase ≠ .leaving ∧ phase ≠ .ended) : Orderly t := by
  refine ⟨?_, ?_, ?_, ?_, ?_, ?_⟩
  · rw [hchecker, hholds, hmutex]
    exact h.checkerHolds
  · rw [hcontrol, hmutex]
    exact h.controlHolds
  · rw [hcontrol]
    exact fun hc => absurd (h.atRest hc) hlive
  · rw [hcontrol, hflag]
    exact h.flag
  · rw [hchecker, hcontrol]
    exact hseen
  · rw [hchecker]
    exact fun hc => absurd hc (not_or.mpr hgoes)

theorem CheckerSleep.after_seen (wait : CheckerSleep) :
    wait.after.holds = false ∧
      wait.after.sawCleared = (CheckerPhase.entering wait).sawCleared ∧
      (CheckerPhase.asleep wait).sawCleared = (CheckerPhase.entering wait).sawCleared ∧
      wait.after ≠ .leaving ∧ wait.after ≠ .ended := by
  cases wait <;> simp [CheckerSleep.after, CheckerPhase.holds, CheckerPhase.sawCleared]

/-- The checker takes the mutex. -/
theorem Orderly.checker_locks (h : Orderly s) {phase : CheckerPhase}
    (hfree : s.mutexNextCommandChecker = none) (hlive : s.checker ≠ .ended)
    (hholds : phase.holds = true)
    (hseen : phase.sawCleared = true → s.control.hasCleared = true) (hgoes : phase ≠ .leaving) :
    Orderly { s with mutexNextCommandChecker := some .checker, checker := phase } where
  checkerHolds := by simp [hholds]
  controlHolds := by
    have hcontrol := h.controlHolds
    rw [hfree] at hcontrol
    simpa using hcontrol
  atRest hc := absurd (h.atRest hc) hlive
  flag := h.flag
  seen := hseen
  told hc := by
    rcases hc with hc | hc
    · exact absurd hc hgoes
    · have hnot : phase.holds = false := by
        rw [show phase = .ended from hc]
        rfl
      rw [hholds] at hnot
      cases hnot

/-- The checker gives the mutex back. -/
theorem Orderly.checker_unlocks (h : Orderly s) {phase : CheckerPhase}
    (hold : s.checker.holds = true) (hholds : phase.holds = false)
    (hseen : phase.sawCleared = false)
    (htold : phase = .leaving ∨ phase = .ended → s.control.isOver = true) :
    Orderly { s with mutexNextCommandChecker := none, checker := phase } where
  checkerHolds := by simp [hholds]
  controlHolds := by
    have hcontrol := h.controlHolds
    rw [h.checkerHolds.mp hold] at hcontrol
    simpa using hcontrol
  atRest hc := by
    rw [h.atRest hc] at hold
    cases hold
  flag := h.flag
  seen hc := by
    rw [hseen] at hc
    cases hc
  told := htold

/-- The checker notifies, and `stop` waits by then or is over its wait. -/
theorem Orderly.notified (h : Orderly s) {phase : CheckerPhase}
    (hsaw : s.checker.sawCleared = true)
    (hwaits : s.control = .waiting ∨ s.control.isOver = true)
    (hholds : phase.holds = s.checker.holds) (hseen : phase.sawCleared = false) :
    Orderly { s.notify_one with checker := phase } := by
  have hlive : s.checker ≠ .ended := by
    intro hc
    rw [hc] at hsaw
    cases hsaw
  unfold notify_one
  rcases hwaits with hwaiting | hover
  · rw [if_pos hwaiting]
    have hcontrol := h.controlHolds
    rw [hwaiting] at hcontrol
    refine ⟨?_, hcontrol, ?_, ?_, ?_, fun _ => rfl⟩
    · rw [hholds]
      exact h.checkerHolds
    · intro hc
      cases hc
    · rintro (hc | hc) <;> cases hc
    · exact fun _ => rfl
  · have hne : s.control ≠ .waiting := by
      intro hc
      rw [hc] at hover
      cases hover
    rw [if_neg hne]
    refine ⟨?_, h.controlHolds, fun hc => absurd (h.atRest hc) hlive, h.flag, ?_, fun _ => hover⟩
    · rw [hholds]
      exact h.checkerHolds
    · intro hc
      rw [hseen] at hc
      cases hc

/-- After the flag was cleared, `stop` waits, is over its wait, or has not waited yet. -/
theorem ControlPhase.waits_of_hasCleared {phase : ControlPhase} (h : phase.hasCleared = true)
    (hheld : phase ≠ .cleared ∧ phase ≠ .schedulerUnlocked ∧ phase ≠ .checkerUnlocked) :
    phase = .waiting ∨ phase.isOver = true := by
  cases phase <;> simp_all [ControlPhase.hasCleared, ControlPhase.isOver]

/-- The notification of a checker that leaves before its loop comes when `stop` waits, or later. -/
def NotifiesInTime (s : SandboxThreads) : ThreadStep → Prop
  | .checker _ _ => s.checker = .firstNotify →
    s.control ≠ .cleared ∧ s.control ≠ .schedulerUnlocked ∧ s.control ≠ .checkerUnlocked
  | _ => True

instance NotifiesInTime.decidable : ∀ s a, Decidable (NotifiesInTime s a)
  | s, .checker _ _ => inferInstanceAs (Decidable (s.checker = .firstNotify →
      s.control ≠ .cleared ∧ s.control ≠ .schedulerUnlocked ∧ s.control ≠ .checkerUnlocked))
  | _, .control | _, .spuriousWakeUp | _, .scheduler _ _ | _, .enqueueCommand _ _
  | _, .unlockChecker | _, .killCurrentCommand => isTrue trivial

theorem Orderly.checkerStep (h : Orderly s) {env : CheckerEnv} {timedOut : Bool}
    (hok : NotifiesInTime s (.checker env timedOut))
    (hstep : s.checkerStep env timedOut = some t) : Orderly t := by
  unfold SandboxThreads.checkerStep at hstep
  have hseen := h.seen
  cases hc : s.checker with
  | ended => simp [hc] at hstep
  | created =>
    simp only [hc, Option.some.injEq] at hstep
    subst hstep
    refine h.checker_goes rfl rfl rfl rfl (by simp [hc]) (by simp [hc, CheckerPhase.holds]) ?_
      ⟨by simp, by simp⟩
    intro hsaw
    exact h.hasCleared (by simp [hc]) (by simpa [CheckerPhase.sawCleared] using hsaw)
  | entering wait =>
    obtain ⟨hholds, hafter, hasleep, hgoes⟩ := wait.after_seen
    simp only [hc, Option.some.injEq] at hstep hseen
    subst hstep
    refine h.checker_goes rfl rfl rfl rfl (by simp [hc]) ?_ ?_ ?_
    · rw [hc]
      split
      · exact hholds
      · rfl
    · split
      · exact fun hsaw => hseen (hafter ▸ hsaw)
      · exact fun hsaw => hseen (hasleep ▸ hsaw)
    · split
      · exact hgoes
      · exact ⟨by simp, by simp⟩
  | asleep wait =>
    obtain ⟨hholds, hafter, hasleep, hgoes⟩ := wait.after_seen
    simp only [hc] at hstep hseen
    split at hstep
    · cases hstep
      refine h.checker_goes rfl rfl rfl rfl (by simp [hc]) ?_ ?_ hgoes
      · rw [hc]
        exact hholds
      · exact fun hsaw => hseen (hasleep.trans (hafter.symm.trans hsaw))
    · cases hstep
  | firstTest canWork =>
    simp only [hc, Option.some.injEq] at hstep hseen
    subst hstep
    refine h.checker_goes rfl rfl rfl rfl (by simp [hc]) ?_ ?_ ?_
    · split <;> simp [hc, CheckerPhase.holds]
    · split
      · exact hseen
      · rename_i hflag
        exact fun _ => h.hasCleared (by simp [hc]) (Bool.eq_false_iff.mpr hflag)
    · split <;> exact ⟨by simp, by simp⟩
  | firstNotify =>
    simp only [hc, Option.some.injEq] at hstep
    subst hstep
    have hsaw : s.checker.sawCleared = true := by rw [hc]; rfl
    exact h.notified hsaw (ControlPhase.waits_of_hasCleared (h.seen hsaw) (hok hc))
      (by rw [hc]; rfl) rfl
  | locking canWork tests =>
    simp only [hc] at hstep hseen
    split at hstep
    · rename_i hfree
      cases hstep
      refine h.checker_locks hfree (by simp [hc]) ?_ ?_ ?_
      · split <;> rfl
      · split
        · intro hsaw
          cases hsaw
        · exact hseen
      · split <;> simp
    · cases hstep
  | atHead canWork =>
    cases canWork with
    | false =>
      simp only [hc, Option.some.injEq] at hstep hseen
      subst hstep
      exact h.checker_goes rfl rfl rfl rfl (by simp [hc]) (by simp [hc, CheckerPhase.holds]) hseen
        ⟨by simp, by simp⟩
    | true =>
      simp only [hc, Option.some.injEq] at hstep
      subst hstep
      refine h.checker_goes rfl rfl rfl (flag_checkNextCommand _ _) (by simp [hc]) ?_ ?_ ?_
      · split <;> simp [hc, CheckerPhase.holds]
      · split
        · intro hsaw
          cases hsaw
        · intro hsaw
          cases hsaw
      · split <;> exact ⟨by simp, by simp⟩
  | unlockingScheduler pause =>
    simp only [hc, Option.some.injEq] at hstep
    subst hstep
    exact h.checker_goes rfl rfl rfl rfl (by simp [hc]) (by simp [hc, CheckerPhase.holds])
      (by simp [CheckerPhase.sawCleared]) ⟨by simp, by simp⟩
  | paused pause =>
    cases pause with
    | again | checkFlag =>
      simp only [hc, Option.some.injEq] at hstep
      subst hstep
      exact h.checker_goes rfl rfl rfl rfl (by simp [hc]) (by simp [hc, CheckerPhase.holds])
        (by simp [CheckerPhase.sawCleared]) ⟨by simp, by simp⟩
    | waitThenContinue _ | waitThenCheckFlag =>
      simp only [hc, Option.some.injEq] at hstep
      subst hstep
      exact h.checker_unlocks (by simp [hc, CheckerPhase.holds]) rfl rfl (by simp)
  | testing =>
    simp only [hc, Option.some.injEq] at hstep
    subst hstep
    refine h.checker_goes rfl rfl rfl rfl (by simp [hc]) (by simp [hc, CheckerPhase.holds]) ?_
      ⟨by simp, by simp⟩
    intro hsaw
    exact h.hasCleared (by simp [hc]) (by simpa [CheckerPhase.sawCleared] using hsaw)
  | lastNotify =>
    simp only [hc, Option.some.injEq] at hstep
    subst hstep
    have hsaw : s.checker.sawCleared = true := by rw [hc]; rfl
    have hheld : s.control.holds = false := by
      have hmutex := h.checkerHolds.mp (by rw [hc]; rfl)
      have hcontrol := h.controlHolds
      rw [hmutex] at hcontrol
      simpa using hcontrol
    refine h.notified hsaw (ControlPhase.waits_of_hasCleared (h.seen hsaw) ?_) (by rw [hc]; rfl) rfl
    refine ⟨?_, ?_, ?_⟩ <;>
    · intro hcontrol
      rw [hcontrol] at hheld
      cases hheld
  | leaving =>
    simp only [hc, Option.some.injEq] at hstep
    subst hstep
    exact h.checker_unlocks (by rw [hc]; rfl) rfl rfl fun _ => h.told (.inl hc)

/-- `start` or `stop` goes on with the mutex as it is. -/
theorem Orderly.control_goes (h : Orderly s) {phase : ControlPhase}
    (hcontrol : t.control = phase) (hchecker : t.checker = s.checker)
    (hmutex : t.mutexNextCommandChecker = s.mutexNextCommandChecker)
    (hholds : phase.holds = s.control.holds) (hrest : phase ≠ .stopped)
    (hflag : phase ≠ .started ∧ phase ≠ .locked)
    (hcleared : s.control.hasCleared = true → phase.hasCleared = true)
    (hover : s.control.isOver = true → phase.isOver = true) : Orderly t := by
  refine ⟨?_, ?_, ?_, ?_, ?_, ?_⟩
  · rw [hchecker, hmutex]
    exact h.checkerHolds
  · rw [hcontrol, hholds, hmutex]
    exact h.controlHolds
  · rw [hcontrol]
    exact fun hc => absurd hc hrest
  · rw [hcontrol]
    exact fun hc => absurd hc (not_or.mpr hflag)
  · rw [hchecker, hcontrol]
    exact fun hsaw => hcleared (h.seen hsaw)
  · rw [hchecker, hcontrol]
    exact fun hc => hover (h.told hc)

/-- `stop` takes the mutex. -/
theorem Orderly.control_locks (h : Orderly s) {phase : ControlPhase}
    (hfree : s.mutexNextCommandChecker = none) (hholds : phase.holds = true)
    (hflag : phase = .locked → s.control = .started)
    (hcleared : s.control.hasCleared = true → phase.hasCleared = true)
    (hover : s.control.isOver = true → phase.isOver = true) :
    Orderly { s with mutexNextCommandChecker := some .stop, control := phase } where
  checkerHolds := by
    have hchecker := h.checkerHolds
    rw [hfree] at hchecker
    simpa using hchecker
  controlHolds := by simp [hholds]
  atRest hc := by
    rw [show phase = .stopped from hc] at hholds
    cases hholds
  flag hc := by
    rcases hc with hc | hc
    · rw [show phase = .started from hc] at hholds
      cases hholds
    · exact h.flag (.inl (hflag hc))
  seen hsaw := hcleared (h.seen hsaw)
  told hc := hover (h.told hc)

/-- `stop` gives the mutex back, when it waits or when it returns. -/
theorem Orderly.control_unlocks (h : Orderly s) {phase : ControlPhase}
    (hold : s.control.holds = true) (hholds : phase.holds = false)
    (hrest : phase = .stopped → s.checker = .ended) (hstarted : phase ≠ .started)
    (hcleared : s.checker.sawCleared = true → phase.hasCleared = true)
    (hover : s.control.isOver = true → phase.isOver = true) :
    Orderly { s with mutexNextCommandChecker := none, control := phase } where
  checkerHolds := by
    have hchecker := h.checkerHolds
    rw [h.controlHolds.mp hold] at hchecker
    simpa using hchecker
  controlHolds := by simp [hholds]
  atRest := hrest
  flag hc := by
    rcases hc with hc | hc
    · exact absurd hc hstarted
    · rw [show phase = .locked from hc] at hholds
      cases hholds
  seen := hcleared
  told hc := hover (h.told hc)

theorem Orderly.controlStep (h : Orderly s) (hstep : s.controlStep = some t) : Orderly t := by
  unfold SandboxThreads.controlStep at hstep
  cases hc : s.control with
  | stopped =>
    simp only [hc, Option.some.injEq] at hstep
    subst hstep
    have hchecker := h.checkerHolds
    have hcontrol := h.controlHolds
    rw [h.atRest hc] at hchecker
    rw [hc] at hcontrol
    exact ⟨hchecker, hcontrol, by simp, fun _ => rfl, by simp [CheckerPhase.sawCleared], by simp⟩
  | started =>
    simp only [hc] at hstep
    split at hstep
    · rename_i hfree
      cases hstep
      exact h.control_locks hfree rfl (fun _ => hc) (by simp [hc, ControlPhase.hasCleared])
        (by simp [hc, ControlPhase.isOver])
    · cases hstep
  | locked | cleared | schedulerUnlocked =>
    simp only [hc, Option.some.injEq] at hstep
    subst hstep
    exact h.control_goes rfl rfl rfl (by rw [hc]; rfl) (by simp) ⟨by simp, by simp⟩
      (fun _ => rfl) (by simp [hc, ControlPhase.isOver])
  | checkerUnlocked =>
    simp only [hc, Option.some.injEq] at hstep
    subst hstep
    exact h.control_unlocks (by rw [hc]; rfl) rfl (by simp) (by simp) (fun _ => rfl)
      (by simp [hc, ControlPhase.isOver])
  | waiting => simp [hc] at hstep
  | awakened =>
    simp only [hc] at hstep
    split at hstep
    · rename_i hfree
      cases hstep
      exact h.control_locks hfree rfl (by simp) (fun _ => rfl) fun _ => rfl
    · cases hstep
  | joiningScheduler =>
    simp only [hc] at hstep
    split at hstep
    · cases hstep
      exact h.control_goes rfl rfl rfl (by rw [hc]; rfl) (by simp) ⟨by simp, by simp⟩
        (fun _ => rfl) fun _ => rfl
    · cases hstep
  | joiningChecker =>
    simp only [hc] at hstep
    split at hstep
    · rename_i hended
      cases hstep
      refine h.control_unlocks (by rw [hc]; rfl) rfl (fun _ => hended) (by simp) ?_ fun _ => rfl
      rw [hended]
      intro hsaw
      cases hsaw
    · cases hstep

theorem orderly_step (h : Orderly s) {a : ThreadStep} (hok : NotifiesInTime s a)
    (hstep : threadStep s a = some t) : Orderly t := by
  cases a with
  | control => exact h.controlStep hstep
  | checker env timedOut => exact h.checkerStep hok hstep
  | scheduler env timedOut => exact h.of_apart (apart_schedulerStep hstep)
  | enqueueCommand new priority => exact h.of_apart (apart_enqueueStep hstep)
  | spuriousWakeUp =>
    simp only [threadStep] at hstep
    split at hstep
    · rename_i hc
      cases hstep
      exact h.control_goes rfl rfl rfl (by rw [hc]; rfl) (by simp) ⟨by simp, by simp⟩
        (fun _ => rfl) fun _ => rfl
    · cases hstep
  | unlockChecker =>
    simp only [threadStep] at hstep
    split at hstep
    · cases hstep
    · cases hstep
      exact h.of_apart ⟨rfl, rfl, rfl, rfl⟩
  | killCurrentCommand =>
    obtain ⟨u, hu, rfl⟩ := Option.map_eq_some_iff.mp hstep
    obtain ⟨c, _, rfl⟩ := Option.map_eq_some_iff.mp hu
    exact h.of_apart ⟨rfl, rfl, rfl, rfl⟩

/-! ## Every run -/

theorem orderly_atRest (sandbox : BatchCommandSandbox) : Orderly (atRest sandbox) := by
  refine ⟨?_, ?_, fun _ => rfl, ?_, ?_, fun _ => rfl⟩
  · simp [atRest, CheckerPhase.holds]
  · simp [atRest, ControlPhase.holds]
  · rintro (hc | hc) <;> cases hc
  · intro hsaw
    cases hsaw

/-- In every run of the threads of a sandbox in which a checker that leaves before its loop
notifies `stop` in time, `stop` never waits for a checker that has returned. -/
theorem stop_is_never_left_waiting (sandbox : BatchCommandSandbox) (steps : List ThreadStep)
    (s : SandboxThreads) (hok : runs.RunOk threadStep NotifiesInTime (atRest sandbox) steps)
    (hrun : runs.run threadStep (atRest sandbox) steps = some s) : ¬ LeftWaiting s := by
  have hstep : ∀ s a t, Orderly s → NotifiesInTime s a → threadStep s a = some t → Orderly t :=
    fun _ _ _ h hok hstep => orderly_step h hok hstep
  exact (runs.run_keeps_of_ok Orderly hstep (orderly_atRest sandbox) hok hrun).not_leftWaiting

/-- An iteration of the checker and one of the scheduler whose handlers do nothing. -/
def checkerMoves : ThreadStep :=
  .checker ⟨0, none, 0, ⟨[], none⟩, 0, ⟨[], none⟩⟩ false

def schedulerMoves : ThreadStep :=
  .scheduler ⟨0, 0, ⟨[], none⟩, ⟨[], none⟩, ⟨[], none⟩, false⟩ false

/-- `start`, the scheduler that wakes the checker, and `stop` up to the cleared flag. -/
def stopAfterStart : List ThreadStep :=
  [.control, checkerMoves, schedulerMoves, schedulerMoves, schedulerMoves, checkerMoves, .control,
   .control]

def newSandbox : SandboxThreads :=
  atRest (create true fun _ => (aCommand 0 0).toBatchCommand)

/-- The checker leaves before its loop, after `stop` began to wait. -/
def timelyRun : List ThreadStep :=
  stopAfterStart ++ [.control, .control, .control, checkerMoves, checkerMoves]

theorem stop_of_timely_run : ∃ s, runs.run threadStep newSandbox timelyRun = some s ∧
    s.control = .awakened ∧ s.checker = .ended ∧ ¬ LeftWaiting s :=
  ⟨_, rfl, rfl, rfl, stop_is_never_left_waiting newSandbox.sandbox timelyRun _ (by decide) rfl⟩

/-- The checker finds the flag cleared, notifies and returns before `stop` waits. -/
def earlyRun : List ThreadStep :=
  stopAfterStart ++ [checkerMoves, checkerMoves, .control, .control, .control]

theorem stop_of_early_run_is_left_waiting : ∃ s,
    runs.run threadStep newSandbox earlyRun = some s ∧ LeftWaiting s :=
  ⟨_, rfl, rfl, rfl⟩

end chaos.batch_command
