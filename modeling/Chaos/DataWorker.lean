-- The worker that executes jobs with a group of threads. A consumer thread holds the mutex all the
-- time, except while it waits on the condition; a submitter pushes its job and notifies without
-- the mutex. Each operation on the queue, on the mutex and on the condition is one step.
import Chaos.Runs
import Mathlib.Data.List.Count
import Mathlib.Data.List.Nodup
import Mathlib.Data.List.Perm.Basic

namespace chaos.data_service.worker

open runs

/-! ## The state -/

/-- Where a consumer thread is: at the lock of `mutex_job`, at the test of its loop, before a pop,
after a pop that failed, after the test that follows it, waiting on `job_condition`, woken up and
at the lock again, executing a job, or out of its loop. -/
inductive ConsumerPhase where
  | entering
  | looping
  | popping
  | failed
  | toWait
  | waiting
  | woken
  | executing (job : Nat)
  | terminated
  deriving DecidableEq, Repr

/-- The thread holds `mutex_job`. -/
def ConsumerPhase.holdsMutex : ConsumerPhase → Bool
  | .looping | .popping | .failed | .toWait | .executing _ => true
  | _ => false

/-- The thread is after a pop that failed and does not wait yet. -/
def ConsumerPhase.missed : ConsumerPhase → Bool
  | .failed | .toWait => true
  | _ => false

/-- Jobs are named by the number of their acceptance. `notifying` is the number of submitters
between their push and their notification. The last three are not in the code: the number of the
accepted jobs, the jobs that were executed and those that `deinit` deleted. -/
structure DataWorker where
  work : Bool := true
  job_queue : List Nat := []
  threads : List ConsumerPhase
  notifying : Nat := 0
  deinitialized : Bool := false
  accepted : Nat := 0
  executed : List Nat := []
  deleted : List Nat := []
  deriving DecidableEq, Repr

namespace DataWorker

/-- The worker after `start`. -/
def new (job_thread_number : Nat) : DataWorker :=
  { threads := List.replicate job_thread_number .entering }

/-! ## The steps -/

def mutexFree (s : DataWorker) : Bool := s.threads.countP (·.holdsMutex) = 0

def move (s : DataWorker) (thread : Nat) (phase : ConsumerPhase) : DataWorker :=
  { s with threads := s.threads.set thread phase }

/-- The push of `submitJobInfo`. The queue may refuse the job, and the call then returns -1. -/
def push (s : DataWorker) (accepts : Bool) : Option DataWorker :=
  if s.deinitialized then none
  else if accepts then
    some { s with
      job_queue := s.job_queue ++ [s.accepted]
      accepted := s.accepted + 1
      notifying := s.notifying + 1 }
  else some s

/-- `notify_one` wakes a thread if any waits. -/
def notify (s : DataWorker) (thread : Nat) : Option DataWorker :=
  match s.notifying with
  | 0 => none
  | left + 1 =>
    if s.deinitialized then none
    else if ConsumerPhase.waiting ∈ s.threads then
      if s.threads[thread]? = some .waiting then
        some ({ s with notifying := left }.move thread .woken)
      else none
    else some { s with notifying := left }

/-- The next step of a thread in `consumeJob` and `getNextOrWait`. -/
def advance (s : DataWorker) (thread : Nat) : Option DataWorker :=
  match s.threads[thread]? with
  | some .entering => if s.mutexFree then some (s.move thread .looping) else none
  | some .looping => some (s.move thread (if s.work then .popping else .terminated))
  | some .popping =>
    match s.job_queue with
    | [] => some (s.move thread .failed)
    | job :: rest => some ({ s with job_queue := rest }.move thread (.executing job))
  -- without work the call returns NULL
  | some .failed => some (s.move thread (if s.work then .toWait else .looping))
  | some .toWait => some (s.move thread .waiting)
  | some .woken => if s.mutexFree then some (s.move thread .popping) else none
  | some (.executing job) => some ({ s with executed := s.executed ++ [job] }.move thread .looping)
  | some .waiting | some .terminated | none => none

/-- A wait may end without a notification. -/
def wakeUp (s : DataWorker) (thread : Nat) : Option DataWorker :=
  if s.threads[thread]? = some .waiting then some (s.move thread .woken) else none

/-- `notify_all` wakes every thread that waits. -/
def stop (s : DataWorker) : DataWorker :=
  { s with
    work := false
    threads := s.threads.map fun phase => if phase = .waiting then .woken else phase }

/-- `deinit` comes after `stop`, which has joined the threads. -/
def deinit (s : DataWorker) : Option DataWorker :=
  if s.work = false ∧ (∀ phase ∈ s.threads, phase = .terminated) ∧ s.deinitialized = false then
    some { s with job_queue := [], deleted := s.deleted ++ s.job_queue, deinitialized := true }
  else none

inductive Label where
  | push (accepts : Bool)
  | notify (thread : Nat)
  | advance (thread : Nat)
  | wakeUp (thread : Nat)
  | stop
  | deinit
  deriving DecidableEq, Repr

def step (s : DataWorker) : Label → Option DataWorker
  | .push accepts => s.push accepts
  | .notify thread => s.notify thread
  | .advance thread => s.advance thread
  | .wakeUp thread => s.wakeUp thread
  | .stop => some s.stop
  | .deinit => s.deinit

/-! ## What must not be reached -/

/-- A job waits, and nobody is there who will look for it. -/
def Stranded (s : DataWorker) : Prop :=
  s.job_queue ≠ [] ∧ (∀ phase ∈ s.threads, phase = .waiting) ∧ s.notifying = 0

/-- A notification is heard when some thread is not between a failed pop and its wait. -/
def Heard (s : DataWorker) : Label → Prop
  | .notify _ => s.work = true → ∃ phase ∈ s.threads, phase.missed = false
  | _ => True

instance (s : DataWorker) : ∀ a, Decidable (s.Heard a)
  | .notify _ => inferInstanceAs (Decidable (_ → _))
  | .push _ | .advance _ | .wakeUp _ | .stop | .deinit => isTrue trivial

/-! ## Every job is in one place -/

/-- How often a job is in the worker: in the queue, in a thread, executed or deleted. -/
def places (s : DataWorker) (job : Nat) : Nat :=
  s.job_queue.count job + s.threads.count (.executing job) + s.executed.count job +
    s.deleted.count job

/-- The invariant of the mutex and of the jobs. -/
structure Good (s : DataWorker) : Prop where
  one_holder : s.threads.countP (·.holdsMutex) ≤ 1
  one_place : ∀ job, s.places job = if job < s.accepted then 1 else 0
  emptied : s.deinitialized = true →
    s.job_queue = [] ∧ ∀ phase ∈ s.threads, phase = .terminated

/-- The thread will pop again before it waits. -/
def willPop : ConsumerPhase → Bool
  | .entering | .looping | .popping | .woken | .executing _ => true
  | _ => false

/-- Before `stop`, a job that nobody notifies of any more has a thread that comes for it. -/
structure Attended (s : DataWorker) : Prop where
  running : s.work = true → ConsumerPhase.terminated ∉ s.threads
  attended : s.work = true → s.job_queue ≠ [] → s.notifying = 0 →
    ∃ phase ∈ s.threads, willPop phase = true

variable {s t : DataWorker} {thread : Nat} {p q : ConsumerPhase}

/-! ## What a thread can do -/

theorem advance_cases (h : s.advance thread = some t) :
    ∃ p, s.threads[thread]? = some p ∧
      ((p = .entering ∧ s.mutexFree = true ∧ t = s.move thread .looping) ∨
      (p = .looping ∧ s.work = true ∧ t = s.move thread .popping) ∨
      (p = .looping ∧ s.work = false ∧ t = s.move thread .terminated) ∨
      (p = .popping ∧ s.job_queue = [] ∧ t = s.move thread .failed) ∨
      (p = .popping ∧ ∃ job rest, s.job_queue = job :: rest ∧
        t = { s with job_queue := rest }.move thread (.executing job)) ∨
      (p = .failed ∧ s.work = true ∧ t = s.move thread .toWait) ∨
      (p = .failed ∧ s.work = false ∧ t = s.move thread .looping) ∨
      (p = .toWait ∧ t = s.move thread .waiting) ∨
      (p = .woken ∧ s.mutexFree = true ∧ t = s.move thread .popping) ∨
      ∃ job, p = .executing job ∧
        t = { s with executed := s.executed ++ [job] }.move thread .looping) := by
  unfold advance at h
  split at h
  · rename_i hp
    split at h
    · exact ⟨_, hp, .inl ⟨rfl, ‹_›, (Option.some.inj h).symm⟩⟩
    · cases h
  · rename_i hp
    cases hwork : s.work <;> simp [hwork] at h <;> exact ⟨_, hp, by simp [h]⟩
  · rename_i hp
    split at h <;> rename_i hqueue <;> simp at h <;> exact ⟨_, hp, by simp [h, hqueue]⟩
  · rename_i hp
    cases hwork : s.work <;> simp [hwork] at h <;> exact ⟨_, hp, by simp [h]⟩
  · rename_i hp
    exact ⟨_, hp, by simp [Option.some.inj h]⟩
  · rename_i hp
    split at h
    · exact ⟨_, hp, by simp_all⟩
    · cases h
  · rename_i job hp
    exact ⟨_, hp, by simp [Option.some.inj h]⟩
  · cases h
  · cases h
  · cases h

/-- A count over the threads, after one of them has gone on. -/
theorem countP_move (f : ConsumerPhase → Bool) (hp : s.threads[thread]? = some p) :
    (s.threads.set thread q).countP f + (if f p then 1 else 0) =
      s.threads.countP f + (if f q then 1 else 0) := by
  obtain ⟨hlt, hget⟩ := List.getElem?_eq_some_iff.mp hp
  rw [← (List.getElem_cons_eraseIdx_perm hlt).countP_eq f,
    (List.set_perm_cons_eraseIdx hlt q).countP_eq f, List.countP_cons, List.countP_cons, hget]
  omega

theorem count_move (x : ConsumerPhase) (hp : s.threads[thread]? = some p) :
    (s.threads.set thread q).count x + (if p = x then 1 else 0) =
      s.threads.count x + (if q = x then 1 else 0) := by
  have h := countP_move (q := q) (· == x) hp
  simpa [List.count] using h

/-! ## The jobs -/

theorem mem_of_getElem {l : List ConsumerPhase} (hp : l[thread]? = some p) : p ∈ l :=
  List.mem_of_getElem? hp

theorem Good.live (h : Good s) (hp : s.threads[thread]? = some p) (hlive : p ≠ .terminated) :
    s.deinitialized ≠ true :=
  fun hd => hlive ((h.emptied hd).2 p (mem_of_getElem hp))

/-- A thread that goes on keeps the mutex for one, when it had it or found it free. -/
theorem Good.one_holder_move (h : Good s) (hp : s.threads[thread]? = some p)
    (hq : q.holdsMutex = true → p.holdsMutex = true ∨ s.mutexFree = true) :
    (s.threads.set thread q).countP (·.holdsMutex) ≤ 1 := by
  have hcount := countP_move (q := q) (·.holdsMutex) hp
  have hone := h.one_holder
  cases hqm : q.holdsMutex with
  | false =>
    simp only [hqm, Bool.false_eq_true, if_false] at hcount
    omega
  | true =>
    rcases hq hqm with hpm | hfree
    · simp only [hqm, hpm, if_true] at hcount
      omega
    · simp only [mutexFree, decide_eq_true_eq] at hfree
      simp only [hqm, if_true] at hcount
      omega

/-- A step that leaves the jobs where they are. -/
theorem Good.move (h : Good s) (hp : s.threads[thread]? = some p) (hlive : p ≠ .terminated)
    (hq : q.holdsMutex = true → p.holdsMutex = true ∨ s.mutexFree = true)
    (hpj : ∀ job, p ≠ .executing job) (hqj : ∀ job, q ≠ .executing job) :
    Good (s.move thread q) := by
  refine ⟨h.one_holder_move hp hq, ?_, fun hd => absurd hd (h.live hp hlive)⟩
  intro job
  have hcount := count_move (q := q) (.executing job) hp
  rw [if_neg (hpj job), if_neg (hqj job)] at hcount
  refine Eq.trans ?_ (h.one_place job)
  simp only [places, DataWorker.move]
  omega

theorem Good.take (h : Good s) {job : Nat} {rest : List Nat}
    (hp : s.threads[thread]? = some .popping) (hqueue : s.job_queue = job :: rest) :
    Good ({ s with job_queue := rest }.move thread (.executing job)) := by
  refine ⟨h.one_holder_move hp fun _ => .inl rfl, ?_,
    fun hd => absurd hd (h.live hp (by simp))⟩
  intro j
  have hcount := count_move (q := .executing job) (.executing j) hp
  refine Eq.trans ?_ (h.one_place j)
  simp only [ConsumerPhase.executing.injEq, reduceCtorEq, if_false] at hcount
  simp only [places, DataWorker.move, hqueue, List.count_cons, beq_iff_eq]
  omega

theorem Good.execute (h : Good s) {job : Nat} (hp : s.threads[thread]? = some (.executing job)) :
    Good ({ s with executed := s.executed ++ [job] }.move thread .looping) := by
  refine ⟨h.one_holder_move hp fun _ => .inl rfl, ?_,
    fun hd => absurd hd (h.live hp (by simp))⟩
  intro j
  have hcount := count_move (q := .looping) (.executing j) hp
  refine Eq.trans ?_ (h.one_place j)
  simp only [ConsumerPhase.executing.injEq, reduceCtorEq, if_false] at hcount
  simp only [places, DataWorker.move, List.count_append, List.count_singleton, beq_iff_eq]
  omega

theorem Good.advance (h : Good s) (ht : s.advance thread = some t) : Good t := by
  obtain ⟨p, hp, hcases⟩ := advance_cases ht
  rcases hcases with ⟨rfl, hfree, rfl⟩ | ⟨rfl, -, rfl⟩ | ⟨rfl, -, rfl⟩ | ⟨rfl, -, rfl⟩ |
    ⟨rfl, job, rest, hqueue, rfl⟩ | ⟨rfl, -, rfl⟩ | ⟨rfl, -, rfl⟩ | ⟨rfl, rfl⟩ |
    ⟨rfl, hfree, rfl⟩ | ⟨job, rfl, rfl⟩
  · exact h.move hp (by simp) (fun _ => .inr hfree) (by simp) (by simp)
  · exact h.move hp (by simp) (fun _ => .inl rfl) (by simp) (by simp)
  · exact h.move hp (by simp) (fun _ => .inl rfl) (by simp) (by simp)
  · exact h.move hp (by simp) (fun _ => .inl rfl) (by simp) (by simp)
  · exact h.take hp hqueue
  · exact h.move hp (by simp) (fun _ => .inl rfl) (by simp) (by simp)
  · exact h.move hp (by simp) (fun _ => .inl rfl) (by simp) (by simp)
  · exact h.move hp (by simp) (fun _ => .inl rfl) (by simp) (by simp)
  · exact h.move hp (by simp) (fun _ => .inr hfree) (by simp) (by simp)
  · exact h.execute hp

theorem Good.push (h : Good s) {accepts : Bool} (ht : s.push accepts = some t) : Good t := by
  unfold DataWorker.push at ht
  split at ht
  · cases ht
  rename_i hlive
  split at ht
  · cases ht
    refine ⟨h.one_holder, ?_, fun hd => absurd hd hlive⟩
    intro job
    have hplace := h.one_place job
    simp only [places] at hplace
    simp only [places, List.count_append, List.count_singleton, beq_iff_eq]
    split at hplace <;> split <;> split <;> omega
  · cases ht
    exact h

/-- A thread that is woken up. -/
theorem Good.woken (h : Good s) (hp : s.threads[thread]? = some .waiting) :
    Good (s.move thread .woken) :=
  h.move hp (by simp) (by simp [ConsumerPhase.holdsMutex]) (by simp) (by simp)

/-- The number of the notifications to come is nothing to the jobs. -/
theorem Good.notified (h : Good s) (notifying : Nat) : Good { s with notifying } :=
  ⟨h.one_holder, h.one_place, h.emptied⟩

/-- The two things that a notification can do. -/
theorem notify_cases (h : s.notify thread = some t) :
    ∃ left, s.notifying = left + 1 ∧
      ((s.threads[thread]? = some .waiting ∧
          t = { s with notifying := left }.move thread .woken) ∨
        (ConsumerPhase.waiting ∉ s.threads ∧ t = { s with notifying := left })) := by
  unfold DataWorker.notify at h
  split at h
  · cases h
  rename_i left hleft
  refine ⟨left, hleft, ?_⟩
  split at h
  · cases h
  · split at h
    · split at h
      · exact .inl ⟨‹_›, (Option.some.inj h).symm⟩
      · cases h
    · exact .inr ⟨‹_›, (Option.some.inj h).symm⟩

theorem Good.notify (h : Good s) (ht : s.notify thread = some t) : Good t := by
  obtain ⟨left, -, ⟨hp, rfl⟩ | ⟨-, rfl⟩⟩ := notify_cases ht
  · exact (h.notified left).woken hp
  · exact h.notified left

theorem countP_wakeAll (f : ConsumerPhase → Bool) (hf : f .waiting = f .woken)
    (l : List ConsumerPhase) :
    (l.map fun phase => if phase = .waiting then .woken else phase).countP f = l.countP f := by
  rw [List.countP_map]
  apply List.countP_congr
  intro phase _
  simp only [Function.comp_apply]
  split
  · rename_i hwaiting
    rw [hwaiting, hf]
  · rfl

theorem Good.stop (h : Good s) : Good s.stop := by
  refine ⟨?_, ?_, ?_⟩
  · exact (countP_wakeAll _ rfl _).trans_le h.one_holder
  · intro job
    have hcount : s.stop.threads.count (.executing job) = s.threads.count (.executing job) :=
      countP_wakeAll (· == .executing job) rfl s.threads
    have hplace := h.one_place job
    simp only [places] at hplace ⊢
    rw [hcount]
    exact hplace
  · intro hd
    obtain ⟨hqueue, hall⟩ := h.emptied hd
    refine ⟨hqueue, ?_⟩
    intro phase hphase
    obtain ⟨phase', hin, rfl⟩ := List.mem_map.mp hphase
    rw [hall phase' hin]
    rfl

theorem Good.deinit (h : Good s) (ht : s.deinit = some t) : Good t := by
  unfold DataWorker.deinit at ht
  split at ht
  · rename_i hstopped
    cases ht
    refine ⟨h.one_holder, ?_, fun _ => ⟨rfl, hstopped.2.1⟩⟩
    intro job
    have hplace := h.one_place job
    simp only [places] at hplace
    simp only [places, List.count_nil, List.count_append]
    omega
  · cases ht

theorem Good.step (h : Good s) {a : Label} (ht : s.step a = some t) : Good t := by
  cases a with
  | push accepts => exact h.push ht
  | notify thread => exact h.notify ht
  | advance thread => exact h.advance ht
  | wakeUp thread =>
    simp only [DataWorker.step, DataWorker.wakeUp] at ht
    split at ht
    · cases ht
      exact h.woken ‹_›
    · cases ht
  | stop =>
    cases ht
    exact h.stop
  | deinit => exact h.deinit ht

theorem new_good (job_thread_number : Nat) : Good (new job_thread_number) := by
  refine ⟨?_, ?_, nofun⟩
  · simp [new, List.countP_replicate, ConsumerPhase.holdsMutex]
  · intro job
    simp [places, new, List.count_replicate]

/-! ## No stranded job -/

/-- A thread that goes on keeps the job attended, unless it was the one to come and is not any
more while the job is still there. -/
theorem Attended.moved (h : Attended s) (hp : s.threads[thread]? = some p)
    (ht : t.threads = s.threads.set thread q) (hwork : t.work = true → s.work = true)
    (hend : t.work = true → q ≠ .terminated)
    (hcomes : t.work = true → t.job_queue ≠ [] → t.notifying = 0 →
      willPop q = true ∨ (willPop p = false ∧ s.job_queue ≠ [] ∧ s.notifying = 0)) :
    Attended t := by
  obtain ⟨hlt, -⟩ := List.getElem?_eq_some_iff.mp hp
  constructor
  · intro hw hin
    rw [ht] at hin
    rcases List.mem_or_eq_of_mem_set hin with hin | heq
    · exact h.running (hwork hw) hin
    · exact hend hw heq.symm
  · intro hw hqueue hzero
    rw [ht]
    rcases hcomes hw hqueue hzero with hq | ⟨hnot, hqueue', hzero'⟩
    · exact ⟨q, List.mem_set hlt q, hq⟩
    · obtain ⟨phase, hin, hpop⟩ := h.attended (hwork hw) hqueue' hzero'
      refine ⟨phase, ?_, hpop⟩
      obtain ⟨i, hi⟩ := List.mem_iff_getElem?.mp hin
      have hne : thread ≠ i := by
        rintro rfl
        rw [hp] at hi
        rw [← Option.some.inj hi, hnot] at hpop
        cases hpop
      exact List.mem_iff_getElem?.mpr ⟨i, by rw [List.getElem?_set_ne hne, hi]⟩

theorem Attended.advance (h : Attended s) (ht : s.advance thread = some t) : Attended t := by
  obtain ⟨p, hp, hcases⟩ := advance_cases ht
  rcases hcases with ⟨rfl, -, rfl⟩ | ⟨rfl, -, rfl⟩ | ⟨rfl, hwork, rfl⟩ | ⟨rfl, hqueue, rfl⟩ |
    ⟨rfl, job, rest, -, rfl⟩ | ⟨rfl, -, rfl⟩ | ⟨rfl, -, rfl⟩ | ⟨rfl, rfl⟩ | ⟨rfl, -, rfl⟩ |
    ⟨job, rfl, rfl⟩
  · exact h.moved hp rfl id (by simp) (fun _ _ _ => .inl rfl)
  · exact h.moved hp rfl id (by simp) (fun _ _ _ => .inl rfl)
  · have hno : (s.move thread .terminated).work ≠ true := by simp [DataWorker.move, hwork]
    exact h.moved hp rfl id (fun hw => absurd hw hno) (fun hw => absurd hw hno)
  · exact h.moved hp rfl id (by simp) (fun _ hne => absurd hqueue hne)
  · exact h.moved hp rfl id (by simp) (fun _ _ _ => .inl rfl)
  · exact h.moved hp rfl id (by simp) (fun _ hne hzero => .inr ⟨rfl, hne, hzero⟩)
  · exact h.moved hp rfl id (by simp) (fun _ _ _ => .inl rfl)
  · exact h.moved hp rfl id (by simp) (fun _ hne hzero => .inr ⟨rfl, hne, hzero⟩)
  · exact h.moved hp rfl id (by simp) (fun _ _ _ => .inl rfl)
  · exact h.moved hp rfl id (by simp) (fun _ _ _ => .inl rfl)

/-- A thread that is neither waiting nor at the end nor between a failed pop and its wait comes. -/
theorem willPop_of_heard (hmissed : p.missed = false) (hw : p ≠ .waiting)
    (ht : p ≠ .terminated) : willPop p = true := by
  cases p <;> simp_all [willPop, ConsumerPhase.missed]

theorem Attended.notify (h : Attended s) (hheard : s.Heard (.notify thread))
    (ht : s.notify thread = some t) : Attended t := by
  obtain ⟨left, -, ⟨hp, rfl⟩ | ⟨hnone, rfl⟩⟩ := notify_cases ht
  · exact h.moved hp rfl id (by simp) (fun _ _ _ => .inl rfl)
  · refine ⟨h.running, ?_⟩
    intro hwork _ _
    obtain ⟨phase, hin, hmissed⟩ := hheard hwork
    refine ⟨phase, hin, willPop_of_heard hmissed ?_ ?_⟩
    · rintro rfl
      exact hnone hin
    · rintro rfl
      exact h.running hwork hin

theorem Attended.step (h : Attended s) {a : Label} (hheard : s.Heard a)
    (ht : s.step a = some t) : Attended t := by
  cases a with
  | push accepts =>
    simp only [DataWorker.step, push] at ht
    split at ht
    · cases ht
    split at ht
    · cases ht
      exact ⟨h.running, fun _ _ hzero => absurd hzero (Nat.succ_ne_zero _)⟩
    · cases ht
      exact h
  | notify thread => exact h.notify hheard ht
  | advance thread => exact h.advance ht
  | wakeUp thread =>
    simp only [DataWorker.step, DataWorker.wakeUp] at ht
    split at ht
    · cases ht
      exact h.moved ‹_› rfl id (by simp) (fun _ _ _ => .inl rfl)
    · cases ht
  | stop =>
    cases ht
    exact ⟨fun hwork => absurd hwork (by simp [DataWorker.stop]),
      fun hwork => absurd hwork (by simp [DataWorker.stop])⟩
  | deinit =>
    simp only [DataWorker.step, DataWorker.deinit] at ht
    split at ht
    · rename_i hstopped
      cases ht
      have hno : s.work ≠ true := by simp [hstopped.1]
      exact ⟨fun hwork => absurd hwork hno, fun hwork => absurd hwork hno⟩
    · cases ht

theorem new_attended (job_thread_number : Nat) : Attended (new job_thread_number) := by
  refine ⟨fun _ hin => ?_, fun _ hne => absurd rfl hne⟩
  cases (List.mem_replicate.mp hin).2

theorem Attended.not_stranded (h : Attended s) (hwork : s.work = true) : ¬ Stranded s := by
  rintro ⟨hqueue, hall, hzero⟩
  obtain ⟨phase, hin, hpop⟩ := h.attended hwork hqueue hzero
  rw [hall phase hin] at hpop
  cases hpop

/-- No job is executed twice, and none is both executed and deleted. -/
theorem Good.once (h : Good s) : (s.executed ++ s.deleted).Nodup := by
  rw [List.nodup_iff_count_le_one]
  intro job
  have hplace := h.one_place job
  simp only [places] at hplace
  rw [List.count_append]
  split at hplace <;> omega

/-- After `deinit` every accepted job was executed or deleted. -/
theorem Good.all_gone (h : Good s) (hd : s.deinitialized = true) {job : Nat}
    (hjob : job < s.accepted) : job ∈ s.executed ∨ job ∈ s.deleted := by
  obtain ⟨hqueue, hall⟩ := h.emptied hd
  have hnone : s.threads.count (.executing job) = 0 := by
    rw [List.count_eq_zero]
    intro hin
    cases hall _ hin
  have hplace := h.one_place job
  rw [if_pos hjob, places, hqueue, hnone] at hplace
  rw [← List.count_pos_iff, ← List.count_pos_iff]
  simp only [List.count_nil] at hplace
  omega

/-- What the worker owes to its submitters: before `stop` no job is stranded, no job is executed
twice or both executed and deleted, and at `deinit` each was executed or deleted. -/
structure Serves (s : DataWorker) : Prop where
  not_stranded : s.work = true → ¬ Stranded s
  once : (s.executed ++ s.deleted).Nodup
  all_gone : s.deinitialized = true → ∀ job < s.accepted, job ∈ s.executed ∨ job ∈ s.deleted

/-- The worker serves its submitters in every run in which each notification finds a thread that is
not between a failed pop and its wait. -/
theorem no_job_is_stranded {job_thread_number : Nat} {steps : List Label}
    (hheard : RunOk step Heard (new job_thread_number) steps)
    (hr : run step (new job_thread_number) steps = some t) : Serves t := by
  have hstep : ∀ s a t, (Good s ∧ Attended s) → s.Heard a → step s a = some t →
      Good t ∧ Attended t := by
    intro s a t ⟨hgood, hatt⟩ hok ht
    exact ⟨hgood.step ht, hatt.step hok ht⟩
  obtain ⟨hgood, hatt⟩ := run_keeps_of_ok _ hstep
    ⟨new_good job_thread_number, new_attended job_thread_number⟩ hheard hr
  exact ⟨hatt.not_stranded, hgood.once, fun hd job => hgood.all_gone hd⟩

/-- One thread: it waits, is notified of a job, takes it and executes it. -/
theorem waiting_thread_is_notified :
    RunOk step Heard (new 1) [.advance 0, .advance 0, .advance 0, .advance 0, .advance 0,
        .push true, .notify 0, .advance 0, .advance 0, .advance 0] ∧
      ∃ t, run step (new 1) [.advance 0, .advance 0, .advance 0, .advance 0, .advance 0,
        .push true, .notify 0, .advance 0, .advance 0, .advance 0] = some t ∧
        t.executed = [0] ∧ Serves t := by
  have hok : RunOk step Heard (new 1) [.advance 0, .advance 0, .advance 0, .advance 0,
      .advance 0, .push true, .notify 0, .advance 0, .advance 0, .advance 0] := by decide
  exact ⟨hok, _, rfl, rfl, no_job_is_stranded hok rfl⟩

/-- One thread: the job comes after its failed pop, and the notification before its wait. -/
theorem notification_before_the_wait :
    ¬ ∀ steps t, run step (new 1) steps = some t → t.work = true → ¬ Stranded t := by
  intro h
  apply h [.advance 0, .advance 0, .advance 0, .push true, .notify 0, .advance 0, .advance 0] _ rfl
    rfl
  unfold Stranded
  decide

end DataWorker

end chaos.data_service.worker
