-- The order in which the commands of a sandbox, and the elements of the queue with priorities, come
-- out of their heaps. A submitted priority is unsigned, and the heaps compare it as an `int`.
import Chaos.ProcessingQueue
import Chaos.SandboxPlaces

namespace chaos

open heap List runs

/-! ## The priorities -/

/-- The unsigned priority of which the `int` was made. -/
def submitted (priority : Int) : Nat := (priority % 2 ^ 32).toNat

/-- The values of an `int`. -/
def IsInt (priority : Int) : Prop := -2 ^ 31 ≤ priority ∧ priority < 2 ^ 31

/-- All the submitted priorities are below 2^31, or none of them is. -/
def OneSided (priorities : List Int) : Prop :=
  (∀ p ∈ priorities, submitted p < 2 ^ 31) ∨ ∀ p ∈ priorities, 2 ^ 31 ≤ submitted p

instance (priorities : List Int) : Decidable (OneSided priorities) :=
  inferInstanceAs (Decidable (_ ∨ _))

theorem submitted_of_isInt {p : Int} (hp : IsInt p) :
    (submitted p : Int) = if 0 ≤ p then p else p + 2 ^ 32 := by
  unfold IsInt at hp
  unfold submitted
  split_ifs with hpos <;> omega

theorem isInt_toInt (b : BitVec 32) : IsInt b.toInt := by
  have hlt := b.isLt
  unfold IsInt
  rw [BitVec.toInt_eq_toNat_cond]
  split_ifs <;> omega

variable {E : Type} {priority : E → Int} {h : List E} {n : Nat}

/-- Elements that are taken from a heap of `int`s come by falling submitted priorities just when the
submitted priorities of the heap are on one side. -/
theorem falling_submitted_iff (ho : Ordered priority h) (hint : ∀ e ∈ h, IsInt (priority e))
    (hn : 0 < n) :
    Falling (submitted ∘ priority) (drain priority n h) (left priority n h) ↔
      OneSided (h.map priority) := by
  have hvalue : ∀ e ∈ h, (submitted (priority e) : Int) =
      if 0 ≤ priority e then priority e else priority e + 2 ^ 32 :=
    fun e he => submitted_of_isInt (hint e he)
  have hmem : ∀ {e : E}, e ∈ drain priority n h ++ left priority n h ↔ e ∈ h :=
    fun {e} => drain_append_left_perm.mem_iff
  unfold OneSided
  simp only [List.forall_mem_map]
  constructor
  · rintro ⟨hpairs, hleft⟩
    cases h with
    | nil => simp
    | cons a as =>
      obtain ⟨m, rfl⟩ := Nat.exists_eq_succ_of_ne_zero (Nat.ne_of_gt hn)
      -- the front comes first, before all the others
      have hfront : ∀ b ∈ a :: as, submitted (priority b) ≤ submitted (priority a) := by
        intro b hb
        rcases List.mem_append.mp (hmem.mpr hb) with hd | hl
        · rcases List.mem_cons.mp hd with rfl | hd
          · exact Nat.le_refl _
          · exact (List.pairwise_cons.mp hpairs).1 b hd
        · exact hleft a List.mem_cons_self b hl
      have ha := hvalue a List.mem_cons_self
      have haInt := hint a List.mem_cons_self
      unfold IsInt at haInt
      by_cases hpos : 0 ≤ priority a
      · left
        intro b hb
        have := hfront b hb
        rw [if_pos hpos] at ha
        omega
      · right
        intro b hb
        have hle := ho.first hb
        have hb' := hvalue b hb
        have hbInt := hint b hb
        unfold IsInt at hbInt
        rw [if_neg (by omega)] at hb'
        omega
  · intro hside
    obtain ⟨hpairs, hleft⟩ := falling_drain (n := n) ho
    -- on one side, a larger `int` is a larger submitted priority
    have hmono : ∀ a ∈ h, ∀ b ∈ h, priority b ≤ priority a →
        submitted (priority b) ≤ submitted (priority a) := by
      intro a ha b hb hle
      have ha' := hvalue a ha
      have hb' := hvalue b hb
      have haInt := hint a ha
      have hbInt := hint b hb
      unfold IsInt at haInt hbInt
      rcases hside with hlow | hhigh
      · have := hlow a ha
        have := hlow b hb
        split_ifs at ha' hb' <;> omega
      · have := hhigh a ha
        have := hhigh b hb
        split_ifs at ha' hb' <;> omega
    refine ⟨hpairs.imp_of_mem ?_, ?_⟩
    · intro a b ha hb
      exact hmono a (hmem.mp (List.mem_append_left _ ha)) b (hmem.mp (List.mem_append_left _ hb))
    · intro a ha b hb
      exact hmono a (hmem.mp (List.mem_append_left _ ha)) b
        (hmem.mp (List.mem_append_right _ hb)) (hleft a ha b hb)

/-! ## A system with a heap -/

/-- A system whose steps take elements from the front of a heap, or push one element. `takes` is
the number of the elements that a step takes. -/
structure HeapSystem (σ α E : Type) where
  step : σ → α → Option σ
  queue : σ → List E
  priority : E → Int
  takes : σ → α → Nat
  step_of_takes : ∀ {s a}, 0 < takes s a → ∃ t, step s a = some t
  queue_step : ∀ {s a t}, step s a = some t →
    queue t = left priority (takes s a) (queue s) ∨
      takes s a = 0 ∧ ∃ e, IsInt (priority e) ∧ queue t = heap.push priority (queue s) e

namespace HeapSystem

variable {σ α : Type} (q : HeapSystem σ α E) {s t : σ} {a : α}

/-- The elements that the step takes, in the order in which it pops them. -/
def taken (s : σ) (a : α) : List E := drain q.priority (q.takes s a) (q.queue s)

/-- No element that the step takes was submitted with a lower priority than one that is popped
after it, or than one that is queued after the step. -/
def TakesHighest (s : σ) (a : α) : Prop :=
  ∀ t, q.step s a = some t → Falling (submitted ∘ q.priority) (q.taken s a) (q.queue t)

/-- Where the step takes an element, the queued priorities are on one side. -/
def TakesFromOneSide (s : σ) (a : α) : Prop :=
  0 < q.takes s a → OneSided ((q.queue s).map q.priority)

instance (s : σ) (a : α) : Decidable (q.TakesFromOneSide s a) :=
  inferInstanceAs (Decidable (_ → _))

/-- The array is a heap of `int`s. -/
structure IsHeap (s : σ) : Prop where
  ordered : Ordered q.priority (q.queue s)
  int : ∀ e ∈ q.queue s, IsInt (q.priority e)

theorem IsHeap.of_nil (hqueue : q.queue s = []) : q.IsHeap s := by
  constructor <;> rw [hqueue]
  · exact ordered_nil
  · intro e he
    cases he

variable {q}

theorem IsHeap.next (h : q.IsHeap s) (hstep : q.step s a = some t) : q.IsHeap t := by
  rcases q.queue_step hstep with hleft | ⟨-, e, hint, hpush⟩
  · constructor
    · rw [hleft]
      exact ordered_left h.ordered
    · intro e he
      rw [hleft] at he
      exact h.int e (drain_append_left_perm.mem_iff.mp (List.mem_append_right _ he))
  · constructor
    · rw [hpush]
      exact ordered_push h.ordered
    · intro b hb
      rw [hpush] at hb
      rcases List.mem_cons.mp (push_perm.mem_iff.mp hb) with rfl | hb
      · exact hint
      · exact h.int b hb

theorem IsHeap.takesHighest_iff (h : q.IsHeap s) :
    q.TakesHighest s a ↔ q.TakesFromOneSide s a := by
  unfold TakesHighest TakesFromOneSide
  rcases Nat.eq_zero_or_pos (q.takes s a) with hzero | hpos
  · refine iff_of_true ?_ (by simp [hzero])
    intro t _
    rw [taken, hzero, drain_zero]
    exact falling_nil
  · obtain ⟨t, hstep⟩ := q.step_of_takes hpos
    have hleft := (q.queue_step hstep).resolve_right (by omega)
    simp only [hstep, Option.some.injEq, forall_eq', imp_iff_right hpos]
    rw [hleft]
    exact falling_submitted_iff h.ordered h.int hpos

/-- The steps of a run take the highest submitted priorities just when each of them takes from
priorities that are on one side. -/
theorem IsHeap.runOk_iff (h : q.IsHeap s) (as : List α) :
    RunOk q.step q.TakesHighest s as ↔ RunOk q.step q.TakesFromOneSide s as :=
  runOk_congr q.IsHeap (fun _ _ hs => hs.takesHighest_iff) (fun _ _ _ hs _ => hs.next) h

end HeapSystem

end chaos

/-! ## The queue with priorities -/

namespace chaos.pqueue.CObjectProcessingPriorityQueue

open heap runs

abbrev PriorityQueue := ProcessingQueue PriorityQueuedElement

/-- How many elements the step takes from the queue. -/
def takes (s : PriorityQueue) : ProcessingQueue.Label (BitVec 32 × Bool) → Nat
  | .waitAndPop thread => if s.threads[thread]?.any (·.popping) then 1 else 0
  | .clear => s.bufferQueue.length
  | _ => 0

/-- A thread that can look at the queue takes the front of it. -/
theorem waitAndPop_eq (s : PriorityQueue) (thread : Nat) :
    s.waitAndPop kind thread =
      if s.threads[thread]?.any (·.popping) then
        some (match s.bufferQueue with
          | [] => s.move thread (if s.in_deinit then .looping else .waiting)
          | e :: rest =>
            { s with
              bufferQueue := kind.pop (e :: rest)
              delivered := s.delivered ++ [(kind.element e, thread)] }.move thread (.processing e))
      else none := by
  unfold ProcessingQueue.waitAndPop
  rcases s.threads[thread]? with _ | phase
  · rfl
  · cases phase <;> cases s.bufferQueue <;> rfl

theorem bufferQueue_waitAndPop {s t : PriorityQueue} {thread : Nat}
    (hpop : s.waitAndPop kind thread = some t) :
    t.bufferQueue = left (·.priority) (takes s (.waitAndPop thread)) s.bufferQueue := by
  have hpopping : s.threads[thread]?.any (·.popping) = true := by
    by_contra hnot
    rw [waitAndPop_eq, if_neg hnot] at hpop
    cases hpop
  rw [waitAndPop_eq, if_pos hpopping] at hpop
  rw [takes, if_pos hpopping]
  cases hqueue : s.bufferQueue with
  | nil =>
    rw [hqueue] at hpop
    cases hpop
    exact hqueue
  | cons e rest =>
    rw [hqueue] at hpop
    cases hpop
    exact (@left_zero _ _ _ (fun e : PriorityQueuedElement => e.priority) _).symm

theorem step_of_takes {s : PriorityQueue} {label : ProcessingQueue.Label (BitVec 32 × Bool)}
    (htakes : 0 < takes s label) : ∃ t, ProcessingQueue.step kind s label = some t := by
  cases label with
  | push | loop | process | deinit | waitEmpty => cases htakes
  | waitAndPop thread =>
    have hpopping : s.threads[thread]?.any (·.popping) = true := by
      by_contra hnot
      rw [takes, if_neg hnot] at htakes
      cases htakes
    exact ⟨_, (waitAndPop_eq s thread).trans (if_pos hpopping)⟩
  | clear => exact ⟨_, rfl⟩

/-- What a step leaves in the queue: what is not taken, with the element that a push adds. -/
theorem bufferQueue_step {s t : PriorityQueue}
    {label : ProcessingQueue.Label (BitVec 32 × Bool)}
    (hstep : ProcessingQueue.step kind s label = some t) :
    t.bufferQueue = left (·.priority) (takes s label) s.bufferQueue ∨
      takes s label = 0 ∧ ∃ e : PriorityQueuedElement, IsInt e.priority ∧
        t.bufferQueue = heap.push (·.priority) s.bufferQueue e := by
  have hsame := (@left_zero _ _ _ (fun e : PriorityQueuedElement => e.priority) s.bufferQueue).symm
  cases label with
  | push args =>
    simp only [ProcessingQueue.step, ProcessingQueue.push, Option.some.injEq] at hstep
    split_ifs at hstep with hrefused <;> subst hstep
    · exact .inl hsame
    · exact .inr ⟨rfl, kind.wrap s.accepted args, isInt_toInt args.1, rfl⟩
  | loop thread =>
    simp only [ProcessingQueue.step, ProcessingQueue.loop] at hstep
    split at hstep <;> cases hstep
    exact .inl hsame
  | waitAndPop thread => exact .inl (bufferQueue_waitAndPop hstep)
  | process thread p =>
    simp only [ProcessingQueue.step, ProcessingQueue.process] at hstep
    split at hstep <;> cases hstep
    exact .inl hsame
  | clear =>
    cases hstep
    exact .inl (left_eq_nil (Nat.le_refl _)).symm
  | deinit waithForEmptyQueue =>
    cases hstep
    exact .inl hsame
  | waitEmpty =>
    simp only [ProcessingQueue.step, ProcessingQueue.waitEmpty] at hstep
    split at hstep <;> cases hstep
    left
    split_ifs <;> exact hsame

/-- The queue with priorities as a heap of which elements are taken. -/
def heapSystem : HeapSystem PriorityQueue (ProcessingQueue.Label (BitVec 32 × Bool))
    PriorityQueuedElement where
  step := ProcessingQueue.step kind
  queue := (·.bufferQueue)
  priority := (·.priority)
  takes := takes
  step_of_takes := step_of_takes
  queue_step := bufferQueue_step

end chaos.pqueue.CObjectProcessingPriorityQueue

/-! ## The sandbox -/

namespace chaos.batch_command

open heap runs BatchCommandSandbox RunningVSSubmissioneResult

namespace BatchCommandSandbox

/-- Here `command_submitted_queue` is the array of the `std::priority_queue`, and its top is the
front of the array. -/
def checkFront (s : BatchCommandSandbox) (env : CheckerEnv) :
    BatchCommandSandbox × CheckerPause :=
  match s.command_submitted_queue.head? with
  | none => (s.checkEnded env, .waitThenCheckFlag)
  | some next =>
    match s.currentExecutingCommand with
    | some current => s.checkAgainstCurrent env current next
    | none => (((s.installHandler (some next.element) env.now env.set).1).pop next, .checkFlag)

/-- Does the iteration take the front of the queue? -/
def takesFront (s : BatchCommandSandbox) (env : CheckerEnv) : Bool :=
  match s.command_submitted_queue.head?, s.currentExecutingCommand with
  | none, _ => false
  | some _, none => true
  | some next, some current =>
    if (s.cmd next.element).implementedHandler ≤ 1 then true
    else
      match CHECK_RUNNING_VS_SUBMISSION env (s.cmd current).runningProperty
          (s.cmd next.element).submissionRule with
      | none | some RSR_NO_CHANGE | some RSR_TIMED_RETRY => false
      | some RSR_STACK_CURENT_COMMAND | some RSR_KILL_KURRENT_COMMAND
      | some RSR_CURRENT_CMD_HAS_ENDED | some RSR_CURRENT_CMD_HAS_FAULTED => true

/-- The sandbox with another array. -/
def withQueue (s : BatchCommandSandbox) (queue : List QueuedCommand) : BatchCommandSandbox :=
  { s with command_submitted_queue := queue }

/-- A call, where the queue moves its elements as `push_heap` and `pop_heap` do. -/
def heapStep (s : BatchCommandSandbox) : SandboxCall → Option BatchCommandSandbox
  | .enqueueCommand new priority =>
    let r := s.enqueueCommand new priority
    some (r.1.withQueue
      (if r.2 then
        heap.push (·.priority) s.command_submitted_queue ⟨priority.toInt32.toInt, s.enqueued⟩
      else s.command_submitted_queue))
  | .checkNextCommand env =>
    some ((s.checkFront env).1.withQueue
      (if s.takesFront env then heap.pop (·.priority) s.command_submitted_queue
      else s.command_submitted_queue))
  | .deinit =>
    let queue := s.command_submitted_queue
    sandboxStep (s.withQueue (heap.drain (·.priority) queue.length queue)) .deinit
  | call => sandboxStep s call

variable {s : BatchCommandSandbox} {env : CheckerEnv}

/-- The front of a heap is one of the commands with the largest priority. -/
theorem checkFront_eq (hheap : Ordered (·.priority) s.command_submitted_queue) :
    s.checkFront env = s.checkNextCommand { env with tie := 0 } := by
  have htop : s.top 0 = s.command_submitted_queue.head? := by
    unfold top
    cases hqueue : s.command_submitted_queue with
    | nil => rfl
    | cons next rest =>
      rw [hqueue] at hheap
      exact pqueue.top_zero fun x hx => hheap.first hx
  unfold checkFront checkNextCommand
  rw [← htop]
  rfl

end BatchCommandSandbox

/-! ### The order of the commands -/

/-- How many commands the call takes from the queue. `deinit` takes them all. -/
def takes (s : BatchCommandSandbox) : SandboxCall → Nat
  | .checkNextCommand env => if s.takesFront env then 1 else 0
  | .deinit => s.command_submitted_queue.length
  | _ => 0

theorem heapStep_of_takes {s : BatchCommandSandbox} {call : SandboxCall}
    (htakes : 0 < takes s call) : ∃ t, s.heapStep call = some t := by
  cases call with
  | checkNextCommand env => exact ⟨_, rfl⟩
  | deinit => exact ⟨_, rfl⟩
  | enqueueCommand | runCommand | killCurrentCommand | start | stop => cases htakes

theorem queue_callFunctor (s : BatchCommandSandbox) (c : Option CommandRef) (o : HandlerOutcome)
    (domain : String) :
    (s.callFunctor c o domain).command_submitted_queue = s.command_submitted_queue := by
  unfold callFunctor
  cases c with
  | none => rfl
  | some c =>
    dsimp only
    split_ifs <;> rfl

theorem queue_runCommand (s : BatchCommandSandbox) (env : RunEnv) :
    (s.runCommand env).1.command_submitted_queue = s.command_submitted_queue := by
  unfold runCommand
  split
  · split_ifs <;> rfl
  · dsimp only [BatchCommandSandbox.modify, emitSandbox]
    split_ifs <;> exact (queue_callFunctor _ _ _ _).trans (queue_callFunctor _ _ _ _)

/-- What a call leaves in the queue. -/
theorem queue_heapStep {s t : BatchCommandSandbox} {call : SandboxCall}
    (hstep : s.heapStep call = some t) :
    t.command_submitted_queue = left (·.priority) (takes s call) s.command_submitted_queue ∨
      takes s call = 0 ∧ ∃ e : QueuedCommand, IsInt e.priority ∧
        t.command_submitted_queue = heap.push (·.priority) s.command_submitted_queue e := by
  have hsame := (@left_zero _ _ _ (fun e : QueuedCommand => e.priority)
    s.command_submitted_queue).symm
  cases call with
  | enqueueCommand new priority =>
    cases hstep
    simp only [withQueue]
    split_ifs
    · exact .inr ⟨rfl, _, isInt_toInt priority.toBitVec, rfl⟩
    · exact .inl hsame
  | checkNextCommand env =>
    cases hstep
    left
    simp only [withQueue, takes]
    split_ifs
    · cases s.command_submitted_queue with
      | nil => rfl
      | cons next rest => exact (@left_zero _ _ _ (fun e : QueuedCommand => e.priority) _).symm
    · exact hsame
  | runCommand env =>
    cases hstep
    exact .inl ((queue_runCommand s env).trans hsame)
  | killCurrentCommand =>
    simp only [heapStep, sandboxStep, killCurrentCommand, Option.map_eq_some_iff] at hstep
    obtain ⟨c, -, rfl⟩ := hstep
    exact .inl hsame
  | start | stop =>
    cases hstep
    exact .inl hsame
  | deinit =>
    cases hstep
    exact .inl (left_eq_nil (Nat.le_refl _)).symm

/-- The queue of a sandbox as a heap of which commands are taken. -/
def heapSystem : HeapSystem BatchCommandSandbox SandboxCall QueuedCommand where
  step := heapStep
  queue := (·.command_submitted_queue)
  priority := (·.priority)
  takes := takes
  step_of_takes := heapStep_of_takes
  queue_step := queue_heapStep

/-- In every run of a sandbox, and in every run of a queue with priorities, what is taken has the
highest submitted priority just when it is taken each time from priorities on one side. -/
theorem takes_highest_iff (event_handler : Bool) (cmd : CommandRef → BatchCommand)
    (calls : List SandboxCall) (threadNumber : Nat)
    (labels : List (pqueue.ProcessingQueue.Label (BitVec 32 × Bool))) :
    (RunOk heapStep heapSystem.TakesHighest (create event_handler cmd) calls ↔
      RunOk heapStep heapSystem.TakesFromOneSide (create event_handler cmd) calls) ∧
    (RunOk (pqueue.ProcessingQueue.step pqueue.CObjectProcessingPriorityQueue.kind)
        pqueue.CObjectProcessingPriorityQueue.heapSystem.TakesHighest
        (pqueue.ProcessingQueue.init threadNumber) labels ↔
      RunOk (pqueue.ProcessingQueue.step pqueue.CObjectProcessingPriorityQueue.kind)
        pqueue.CObjectProcessingPriorityQueue.heapSystem.TakesFromOneSide
        (pqueue.ProcessingQueue.init threadNumber) labels) :=
  ⟨(HeapSystem.IsHeap.of_nil heapSystem rfl).runOk_iff calls,
    (HeapSystem.IsHeap.of_nil pqueue.CObjectProcessingPriorityQueue.heapSystem rfl).runOk_iff
      labels⟩

/-- Two commands with an acquisition handler: one with the priority 2^31, and one with a low one. -/
def highThenLow : List SandboxCall :=
  [.enqueueCommand (aCommand 2 SUBMIT_NORMAL) 0x80000000,
    .enqueueCommand (aCommand 2 SUBMIT_NORMAL) 1,
    .checkNextCommand ⟨0, none, 0, ⟨[], none⟩, 0, ⟨[], none⟩⟩]

theorem low_priority_is_taken_first :
    ¬ ∀ (event_handler : Bool) (cmd : CommandRef → BatchCommand) (calls : List SandboxCall),
      RunOk heapStep heapSystem.TakesHighest (create event_handler cmd) calls := by
  intro h
  have hruns := (HeapSystem.IsHeap.of_nil heapSystem rfl).runOk_iff highThenLow |>.mp
    (h false (fun _ => (aCommand 0 0).toBatchCommand) highThenLow)
  exact absurd hruns (by decide)

end chaos.batch_command
