-- The elements of the two processing queues: each goes to one thread and has one fate in every run,
-- as long as no element is processed twice over, `clear` finds nothing that it would lose, and
-- `deinit(true)` finds a thread in `waitAndPop` for each element.
import Chaos.ProcessingQueue
import Mathlib.Data.List.Perm.Basic
import Mathlib.Data.List.Count
import Mathlib.Data.List.Nodup
import Mathlib.Tactic.Common

namespace chaos.pqueue

open runs List

namespace ProcessingQueue

variable {E A : Type} {k : QueueKind E A} {s t : ProcessingQueue E} {thread : Nat}
  {phase phase' : ThreadPhase E}

/-! ## What is counted -/

@[simp] theorem popping_processing (e : E) : (ThreadPhase.processing e).popping = false := rfl

@[simp] theorem popping_looping : (ThreadPhase.looping (E := E)).popping = false := rfl

@[simp] theorem popping_ended : (ThreadPhase.ended (E := E)).popping = false := rfl

@[simp] theorem holds_processing (e : E) (n : Nat) :
    holds k n (.processing e) = decide (k.element e = n) := rfl

/-- A thread in `waitAndPop` has no element. -/
theorem holds_of_popping (h : phase.popping = true) (n : Nat) : holds k n phase = false := by
  cases phase <;> first | rfl | cases h

/-- A count over the threads, after one of them has gone on. -/
theorem countP_move (f : ThreadPhase E → Bool) (h : s.threads[thread]? = some phase)
    (phase' : ThreadPhase E) :
    (s.threads.set thread phase').countP f + (if f phase then 1 else 0) =
      s.threads.countP f + (if f phase' then 1 else 0) := by
  obtain ⟨hlt, hget⟩ := List.getElem?_eq_some_iff.mp h
  have hpos : (if f phase then 1 else 0) ≤ s.threads.countP f := by
    split
    · exact countP_pos_iff.mpr ⟨phase, mem_of_getElem? h, ‹_›⟩
    · exact Nat.zero_le _
  rw [countP_set hlt, hget]
  omega

theorem count_push (q : List E) (e : E) (n : Nat) :
    ((k.push q e).map k.element).count n =
      (q.map k.element).count n + if k.element e = n then 1 else 0 := by
  rw [((k.push_perm q e).map k.element).count_eq n, map_cons, count_cons]
  simp

theorem count_pop (q : List E) (e : E) (n : Nat) :
    ((k.pop (e :: q)).map k.element).count n + (if k.element e = n then 1 else 0) =
      (k.element e :: q.map k.element).count n := by
  rw [((k.pop_perm e q).map k.element).count_eq n, count_cons]
  simp

/-- The fates of one element count for that element. -/
theorem count_fates (e : E) (done : List Fate) (n : Nat) :
    ((done.map (k.element e, ·)).map Prod.fst).count n =
      if k.element e = n then done.length else 0 := by
  rw [map_map, show Prod.fst ∘ (fun fate : Fate => (k.element e, fate)) =
    Function.const Fate (k.element e) from rfl, map_const, count_replicate]
  simp

theorem count_cleared {q : List E} (h : ∀ e ∈ q, (k.clear e).length = 1) (n : Nat) :
    ((q.flatMap fun e => (k.clear e).map (k.element e, ·)).map Prod.fst).count n =
      (q.map k.element).count n := by
  induction q with
  | nil => rfl
  | cons e q ih =>
    rw [flatMap_cons, map_append, count_append, count_fates, h e mem_cons_self,
      ih fun x hx => h x (mem_cons_of_mem _ hx), map_cons, count_cons]
    simp [Nat.add_comm]

/-! ## The invariant -/

/-- The elements of the queue and the delivered ones are accepted ones, each once; each accepted
element has one place; and where `deinit` waits, no element lacks a thread. -/
structure Orderly (k : QueueKind E A) (s : ProcessingQueue E) : Prop where
  once : ∀ n, (s.bufferQueue.map k.element).count n + (s.delivered.map Prod.fst).count n ≤
    if n < s.accepted then 1 else 0
  one_place : ∀ n, s.places k n = if n < s.accepted then 1 else 0
  attended : 0 < s.draining → s.in_deinit = true ∧ s.bufferQueue.length ≤ s.poppers

/-- The step gives each element that it disposes of one fate, and starts to wait only for elements
that threads are there for. -/
def Accounted (k : QueueKind E A) (s : ProcessingQueue E) : Label A → Prop
  | .process thread p => ∀ e, s.threads[thread]? = some (.processing e) →
      (k.executeOnThread e p).1.length = 1
  | .clear => ∀ e ∈ s.bufferQueue, (k.clear e).length = 1
  | .deinit true => s.bufferQueue.length ≤ s.poppers
  | _ => True

theorem Orderly.init (threadNumber : Nat) : Orderly k (init threadNumber) := by
  refine ⟨fun n => by simp [ProcessingQueue.init], fun n => ?_, fun h => absurd h (Nat.lt_irrefl 0)⟩
  have hheld : (replicate threadNumber ThreadPhase.looping).countP (holds k n) = 0 :=
    countP_eq_zero.mpr fun phase hphase => by simp [eq_of_mem_replicate hphase, holds]
  simp [places, ProcessingQueue.init, hheld]

theorem Orderly.drains (h : Orderly k s) : DrainsAndDisposes k s := by
  refine ⟨?_, fun n hn => by rw [h.one_place n, if_pos hn], ?_⟩
  · refine nodup_iff_count_le_one.mpr fun n => ?_
    have honce := h.once n
    split at honce <;> omega
  · rintro ⟨hdraining, hqueue, hended⟩
    have hattended := (h.attended hdraining).2
    have hnone : s.poppers = 0 :=
      countP_eq_zero.mpr fun phase hphase => by simp [hended phase hphase, ThreadPhase.popping]
    have hpos := length_pos_iff.mpr hqueue
    omega

/-! ## The steps -/

theorem Orderly.push (h : Orderly k s) (args : A) : Orderly k (s.push k args) := by
  unfold ProcessingQueue.push
  split
  · exact h
  rename_i hopen
  refine ⟨fun n => ?_, fun n => ?_, fun hdraining => ?_⟩
  · have honce := h.once n
    simp only [count_push, k.element_wrap]
    split at honce <;> split <;> split <;> omega
  · have hplace := h.one_place n
    simp only [places] at hplace
    simp only [places, count_push, k.element_wrap]
    split at hplace <;> split <;> split <;> omega
  · have hdeinit := (h.attended hdraining).1
    simp [hdeinit] at hopen

/-- A thread that goes on without an element, and stays in `waitAndPop` while it has to. -/
theorem Orderly.move (h : Orderly k s) (hphase : s.threads[thread]? = some phase)
    (hheld : ∀ n, holds k n phase = false) (hheld' : ∀ n, holds k n phase' = false)
    (hpopping : s.in_deinit = true → s.bufferQueue ≠ [] → phase.popping = true →
      phase'.popping = true) : Orderly k (s.move thread phase') := by
  refine ⟨h.once, fun n => ?_, fun hdraining => ?_⟩
  · have hcount := countP_move (holds k n) hphase phase'
    simp only [hheld n, hheld' n, Bool.false_eq_true, if_false] at hcount
    refine Eq.trans ?_ (h.one_place n)
    simp only [places, ProcessingQueue.move]
    omega
  · obtain ⟨hdeinit, hattended⟩ := h.attended hdraining
    refine ⟨hdeinit, ?_⟩
    rcases eq_or_ne s.bufferQueue [] with hempty | hqueue
    · simp [ProcessingQueue.move, hempty]
    · have hcount := countP_move (·.popping) hphase phase'
      have hstays := hpopping hdeinit hqueue
      simp only [poppers] at hattended
      simp only [poppers, ProcessingQueue.move]
      split at hcount
      · simp only [hstays ‹_›, if_true] at hcount
        omega
      · split at hcount <;> omega

theorem Orderly.loop (h : Orderly k s) (ht : s.loop thread = some t) : Orderly k t := by
  unfold ProcessingQueue.loop at ht
  split at ht
  · rename_i hphase
    cases ht
    refine h.move hphase (fun _ => rfl) (fun n => ?_) (fun _ _ hpopping => by cases hpopping)
    split <;> rfl
  · cases ht

theorem Orderly.take (h : Orderly k s) {e : E} {rest : List E}
    (hphase : s.threads[thread]? = some phase) (hpopping : phase.popping = true)
    (hqueue : s.bufferQueue = e :: rest) :
    Orderly k ({ s with
      bufferQueue := k.pop (e :: rest)
      delivered := s.delivered ++ [(k.element e, thread)] }.move thread (.processing e)) := by
  refine ⟨fun n => ?_, fun n => ?_, fun hdraining => ?_⟩
  · refine Nat.le_trans ?_ (h.once n)
    have hpop := count_pop (k := k) rest e n
    simp only [hqueue, ProcessingQueue.move, map_append, map_cons, map_nil, count_append,
      count_singleton, beq_iff_eq]
    omega
  · have hcount := countP_move (holds k n) hphase (.processing e)
    have hpop := count_pop (k := k) rest e n
    simp only [holds_of_popping hpopping n, Bool.false_eq_true, if_false, holds_processing,
      decide_eq_true_eq] at hcount
    refine Eq.trans ?_ (h.one_place n)
    simp only [places, ProcessingQueue.move, hqueue, map_cons]
    omega
  · obtain ⟨hdeinit, hattended⟩ := h.attended hdraining
    have hcount := countP_move (·.popping) hphase (.processing e)
    have hlength := (k.pop_perm e rest).length_eq
    simp only [hpopping, if_true, popping_processing, Bool.false_eq_true, if_false] at hcount
    simp only [poppers, hqueue, length_cons] at hattended
    refine ⟨hdeinit, ?_⟩
    simp only [poppers, ProcessingQueue.move, hlength]
    omega

theorem waitAndPop_cases (ht : s.waitAndPop k thread = some t) :
    ∃ phase, s.threads[thread]? = some phase ∧ phase.popping = true ∧
      ((s.bufferQueue = [] ∧ t = s.move thread (if s.in_deinit then .looping else .waiting)) ∨
      ∃ e rest, s.bufferQueue = e :: rest ∧ t = { s with
        bufferQueue := k.pop (e :: rest)
        delivered := s.delivered ++ [(k.element e, thread)] }.move thread (.processing e)) := by
  unfold ProcessingQueue.waitAndPop at ht
  rcases hqueue : s.bufferQueue with _ | ⟨e, rest⟩
  · simp only [hqueue] at ht
    split at ht
    · exact ⟨_, ‹_›, rfl, .inl ⟨rfl, (Option.some.inj ht).symm⟩⟩
    · exact ⟨_, ‹_›, rfl, .inl ⟨rfl, (Option.some.inj ht).symm⟩⟩
    · cases ht
  · simp only [hqueue] at ht
    split at ht
    · exact ⟨_, ‹_›, rfl, .inr ⟨e, rest, rfl, (Option.some.inj ht).symm⟩⟩
    · exact ⟨_, ‹_›, rfl, .inr ⟨e, rest, rfl, (Option.some.inj ht).symm⟩⟩
    · cases ht

theorem Orderly.waitAndPop (h : Orderly k s) (ht : s.waitAndPop k thread = some t) :
    Orderly k t := by
  obtain ⟨phase, hphase, hpopping, ⟨hqueue, rfl⟩ | ⟨e, rest, hqueue, rfl⟩⟩ := waitAndPop_cases ht
  · refine h.move hphase (holds_of_popping hpopping) (fun n => ?_) fun _ hne => absurd hqueue hne
    split <;> rfl
  · exact h.take hphase hpopping hqueue

theorem Orderly.process (h : Orderly k s) {p : Processing} (hok : Accounted k s (.process thread p))
    (ht : s.process k thread p = some t) : Orderly k t := by
  unfold ProcessingQueue.process at ht
  split at ht
  · rename_i e hphase
    cases ht
    have hone := hok e hphase
    generalize hnext : (if (k.executeOnThread e p).2 then ThreadPhase.ended else .looping) = next
    have hheld : ∀ n, holds k n next = false := by
      intro n
      rw [← hnext]
      split <;> rfl
    have hpopping : next.popping = false := by
      rw [← hnext]
      split <;> rfl
    refine ⟨h.once, fun n => ?_, fun hdraining => ?_⟩
    · have hcount := countP_move (holds k n) hphase next
      simp only [holds_processing, decide_eq_true_eq, hheld n, Bool.false_eq_true,
        if_false] at hcount
      refine Eq.trans ?_ (h.one_place n)
      simp only [places, ProcessingQueue.move, map_append, count_append, count_fates, hone]
      omega
    · obtain ⟨hdeinit, hattended⟩ := h.attended hdraining
      have hcount := countP_move (·.popping) hphase next
      simp only [hpopping, popping_processing, Bool.false_eq_true, if_false] at hcount
      simp only [poppers] at hattended
      refine ⟨hdeinit, ?_⟩
      simp only [poppers, ProcessingQueue.move]
      omega
  · cases ht

theorem Orderly.clear (h : Orderly k s) (hok : ∀ e ∈ s.bufferQueue, (k.clear e).length = 1) :
    Orderly k (s.clear k) := by
  refine ⟨fun n => ?_, fun n => ?_, fun hdraining => ?_⟩
  · refine Nat.le_trans ?_ (h.once n)
    simp only [ProcessingQueue.clear, map_nil, count_nil]
    omega
  · have hcleared := count_cleared (k := k) (q := k.drain s.bufferQueue)
      (fun e he => hok e ((k.drain_perm _).mem_iff.mp he)) n
    rw [((k.drain_perm s.bufferQueue).map k.element).count_eq n] at hcleared
    refine Eq.trans ?_ (h.one_place n)
    simp only [places, ProcessingQueue.clear, map_nil, count_nil, map_append, count_append,
      hcleared]
    omega
  · exact ⟨(h.attended hdraining).1, Nat.zero_le _⟩

theorem Orderly.deinit (h : Orderly k s) {wait : Bool}
    (hok : wait = true → s.bufferQueue.length ≤ s.poppers) : Orderly k (s.deinit wait) := by
  refine ⟨h.once, h.one_place, fun hdraining => ⟨rfl, ?_⟩⟩
  cases wait with
  | true => exact hok rfl
  | false => exact (h.attended hdraining).2

theorem Orderly.waitEmpty (h : Orderly k s) (ht : s.waitEmpty = some t) : Orderly k t := by
  unfold ProcessingQueue.waitEmpty at ht
  split at ht
  · cases ht
  · rename_i others hdraining
    cases ht
    split
    · exact ⟨h.once, h.one_place, fun _ => h.attended (by omega)⟩
    · exact h

/-- What one step preserves. -/
theorem Orderly.step {a : Label A} (h : Orderly k s) (hok : Accounted k s a)
    (ht : s.step k a = some t) : Orderly k t := by
  cases a with
  | push args =>
    cases ht
    exact h.push args
  | loop thread => exact h.loop ht
  | waitAndPop thread => exact h.waitAndPop ht
  | process thread p => exact h.process hok ht
  | clear =>
    cases ht
    exact h.clear hok
  | deinit wait =>
    cases ht
    refine h.deinit fun hwait => ?_
    subst hwait
    exact hok
  | waitEmpty => exact h.waitEmpty ht

/-! ## Threads that leave -/

/-- The number of steps to the end of a thread when the queue is in deinit and has elements. -/
def stepsLeft : ThreadPhase E → Nat
  | .entering | .waiting => 3
  | .processing _ => 2
  | .looping => 1
  | .ended => 0

/-- A step of a thread, without a listener and with a `processBufferElement` that only returns. -/
def Leaving : Label A → Prop
  | .loop _ | .waitAndPop _ => True
  | .process _ p => p = { eventListener := false }
  | _ => False

/-- A call of `deinit` waits, and more elements are in the queue than threads are there for. -/
structure Overrun (s : ProcessingQueue E) : Prop where
  draining : 0 < s.draining
  in_deinit : s.in_deinit = true
  more : s.poppers < s.bufferQueue.length

theorem sum_stepsLeft_move (h : s.threads[thread]? = some phase) (phase' : ThreadPhase E) :
    ((s.threads.set thread phase').map stepsLeft).sum + stepsLeft phase =
      (s.threads.map stepsLeft).sum + stepsLeft phase' := by
  obtain ⟨hlt, rfl⟩ := List.getElem?_eq_some_iff.mp h
  rw [((set_perm_cons_eraseIdx hlt phase').map stepsLeft).sum_nat,
    ← ((getElem_cons_eraseIdx_perm hlt).map stepsLeft).sum_nat, map_cons, map_cons, sum_cons,
    sum_cons]
  omega

/-- A thread goes on: it takes at most the element that it was there for. -/
theorem Overrun.advance (h : Overrun s) (hdone : ∀ e, (k.executeOnThread e
      { eventListener := false }).2 = false)
    (hphase : s.threads[thread]? = some phase) (hlive : phase ≠ .ended) :
    ∃ a t, Leaving a ∧ s.step k a = some t ∧ Overrun t ∧
      (t.threads.map stepsLeft).sum < (s.threads.map stepsLeft).sum := by
  obtain ⟨hdraining, hdeinit, hmore⟩ := h
  have hpop : phase.popping = true → ∃ t, s.waitAndPop k thread = some t ∧ Overrun t ∧
      (t.threads.map stepsLeft).sum + stepsLeft phase = (s.threads.map stepsLeft).sum + 2 := by
    intro hpopping
    rcases hqueue : s.bufferQueue with _ | ⟨e, rest⟩
    · simp [hqueue] at hmore
    refine ⟨{ s with
      bufferQueue := k.pop (e :: rest)
      delivered := s.delivered ++ [(k.element e, thread)] }.move thread (.processing e), ?_,
      ⟨hdraining, hdeinit, ?_⟩, sum_stepsLeft_move hphase (.processing e)⟩
    · cases phase <;> simp [ThreadPhase.popping] at hpopping <;>
        simp [ProcessingQueue.waitAndPop, hphase, hqueue]
    · have hcount := countP_move (·.popping) hphase (.processing e)
      have hlength := (k.pop_perm e rest).length_eq
      simp only [hpopping, if_true, popping_processing, Bool.false_eq_true, if_false] at hcount
      simp only [poppers, hqueue, length_cons] at hmore
      simp only [poppers, ProcessingQueue.move, hlength]
      omega
  cases phase with
  | looping =>
    have hcount := countP_move (·.popping) hphase .ended
    have hsum := sum_stepsLeft_move hphase .ended
    simp only [popping_looping, popping_ended, Bool.false_eq_true, if_false] at hcount
    simp only [stepsLeft] at hsum
    refine ⟨.loop thread, s.move thread .ended, trivial, ?_, ⟨hdraining, hdeinit, ?_⟩, ?_⟩
    · simp [step, ProcessingQueue.loop, hphase, hdeinit]
    · simp only [poppers] at hmore
      simp only [poppers, ProcessingQueue.move]
      omega
    · simp only [ProcessingQueue.move]
      omega
  | entering =>
    obtain ⟨t, ht, hover, hsum⟩ := hpop rfl
    simp only [stepsLeft] at hsum
    exact ⟨.waitAndPop thread, t, trivial, ht, hover, by omega⟩
  | waiting =>
    obtain ⟨t, ht, hover, hsum⟩ := hpop rfl
    simp only [stepsLeft] at hsum
    exact ⟨.waitAndPop thread, t, trivial, ht, hover, by omega⟩
  | processing e =>
    have hcount := countP_move (·.popping) hphase .looping
    have hsum := sum_stepsLeft_move hphase .looping
    simp only [popping_looping, popping_processing, Bool.false_eq_true, if_false] at hcount
    simp only [stepsLeft] at hsum
    refine ⟨.process thread { eventListener := false }, { s with
      fates := s.fates ++ (k.executeOnThread e { eventListener := false }).1.map
        (k.element e, ·) }.move thread .looping, rfl, ?_, ⟨hdraining, hdeinit, ?_⟩, ?_⟩
    · simp [step, ProcessingQueue.process, hphase, hdone]
    · simp only [poppers] at hmore
      simp only [poppers, ProcessingQueue.move]
      omega
    · simp only [ProcessingQueue.move]
      omega
  | ended => exact absurd rfl hlive

/-- All the threads leave, and `deinit` still waits. -/
theorem Overrun.hangs (h : Overrun s) (hdone : ∀ e, (k.executeOnThread e
      { eventListener := false }).2 = false) :
    ∃ as t, (∀ a ∈ as, Leaving a) ∧ run (step k) s as = some t ∧ t.Hanging := by
  generalize hn : (s.threads.map stepsLeft).sum = n
  induction n using Nat.strong_induction_on generalizing s with
  | _ n ih =>
    subst hn
    by_cases hall : ∀ phase ∈ s.threads, phase = .ended
    · refine ⟨[], s, by simp, rfl, h.draining, ?_, hall⟩
      have hmore := h.more
      exact length_pos_iff.mp (by omega)
    · push Not at hall
      obtain ⟨phase, hmem, hlive⟩ := hall
      obtain ⟨thread, hphase⟩ := mem_iff_getElem?.mp hmem
      obtain ⟨a, u, ha, hu, hover, hless⟩ := h.advance hdone hphase hlive
      obtain ⟨as, t, has, ht, hhang⟩ := ih _ hless hover rfl
      exact ⟨a :: as, t, by simpa using ⟨ha, has⟩, run_cons_some.mpr ⟨u, hu, ht⟩, hhang⟩

/-! ## A step that is not accounted for -/

theorem count_cleared_of_unique {q : List E} {e : E} (he : e ∈ q)
    (hone : (q.map k.element).count (k.element e) = 1) :
    ((q.flatMap fun x => (k.clear x).map (k.element x, ·)).map Prod.fst).count (k.element e) =
      (k.clear e).length := by
  induction q with
  | nil => cases he
  | cons x q ih =>
    rw [flatMap_cons, map_append, count_append, count_fates]
    rw [map_cons, count_cons] at hone
    have hrest : ∀ {r : List E}, (r.map k.element).count (k.element e) = 0 →
        ((r.flatMap fun x => (k.clear x).map (k.element x, ·)).map Prod.fst).count
          (k.element e) = 0 := by
      intro r hr
      simp only [count_eq_zero, mem_map, mem_flatMap, not_exists, not_and] at hr ⊢
      rintro ⟨_, fate⟩ ⟨y, hy, hfate⟩ heq
      obtain ⟨_, _, hpair⟩ := hfate
      cases hpair
      exact hr y hy heq
    rcases mem_cons.mp he with rfl | hmem
    · rw [if_pos rfl, hrest (by simpa using hone), Nat.add_zero]
    · have hpos : 0 < (q.map k.element).count (k.element e) :=
        count_pos_iff.mpr (mem_map_of_mem hmem)
      have hne : k.element x ≠ k.element e := by
        intro heq
        simp [heq] at hone
        omega
      rw [if_neg hne, Nat.zero_add]
      exact ih hmem (by simpa [hne] using hone)

/-- An element that some place counts is an accepted one with that place only. -/
theorem Orderly.accepted (h : Orderly k s) {n : Nat} (hn : 0 < s.places k n) :
    n < s.accepted ∧ s.places k n = 1 := by
  have hplace := h.one_place n
  split at hplace
  · exact ⟨‹_›, hplace⟩
  · omega

/-- The run goes on to a state in which the promise is broken. -/
theorem Orderly.fails {a : Label A} (h : Orderly k s) (hnot : ¬ Accounted k s a)
    (ht : s.step k a = some t)
    (hdone : ∀ e, (k.executeOnThread e { eventListener := false }).2 = false) :
    ∃ as u, (∀ b ∈ as, Leaving b) ∧ runs.run (ProcessingQueue.step k) t as = some u ∧
      ¬ DrainsAndDisposes k u := by
  cases a with
  | process thread p =>
    obtain ⟨e, hphase, hfates⟩ : ∃ e, s.threads[thread]? = some (.processing e) ∧
        (k.executeOnThread e p).1.length ≠ 1 := by
      simpa [Accounted] using hnot
    refine ⟨[], t, by simp, rfl, fun hgood => hfates ?_⟩
    simp only [ProcessingQueue.step, ProcessingQueue.process, hphase, Option.some.injEq] at ht
    subst ht
    generalize hnext : (if (k.executeOnThread e p).2 then ThreadPhase.ended else .looping) = next
      at hgood
    have hheld : holds k (k.element e) next = false := by
      rw [← hnext]
      split <;> rfl
    have hcount := countP_move (holds k (k.element e)) hphase next
    simp only [holds_processing, hheld, decide_true, if_true, Bool.false_eq_true,
      if_false] at hcount
    obtain ⟨haccepted, hplace⟩ := h.accepted (n := k.element e) (by
      simp only [places]
      omega)
    have hafter := hgood.one_place _ haccepted
    simp only [places] at hplace
    simp only [places, ProcessingQueue.move, map_append, count_append, count_fates,
      if_true] at hafter
    omega
  | clear =>
    obtain ⟨e, hmem, hfates⟩ : ∃ e ∈ s.bufferQueue, (k.clear e).length ≠ 1 := by
      simpa [Accounted] using hnot
    refine ⟨[], t, by simp, rfl, fun hgood => hfates ?_⟩
    cases ht
    have hpos : 0 < (s.bufferQueue.map k.element).count (k.element e) :=
      count_pos_iff.mpr (mem_map_of_mem hmem)
    obtain ⟨haccepted, hplace⟩ := h.accepted (n := k.element e) (by
      simp only [places]
      omega)
    have hafter := hgood.one_place _ haccepted
    simp only [places] at hplace
    have hcleared := count_cleared_of_unique (k := k) (q := k.drain s.bufferQueue)
      ((k.drain_perm _).mem_iff.mpr hmem) (by
        rw [((k.drain_perm s.bufferQueue).map k.element).count_eq]
        omega)
    simp only [places, ProcessingQueue.clear, map_nil, count_nil, map_append, count_append,
      hcleared] at hafter
    omega
  | deinit wait =>
    cases wait with
    | false => exact absurd trivial hnot
    | true =>
      have hmore : s.poppers < s.bufferQueue.length := Nat.lt_of_not_le hnot
      cases ht
      have hover : Overrun (s.deinit true) := by
        refine ⟨?_, rfl, hmore⟩
        rcases hqueue : s.bufferQueue with _ | ⟨e, rest⟩
        · simp [hqueue] at hmore
        · simp [ProcessingQueue.deinit, hqueue]
      obtain ⟨as, u, has, hu, hhang⟩ := hover.hangs hdone
      exact ⟨as, u, has, hu, fun hgood => hgood.not_hanging hhang⟩
  | push args => exact absurd trivial hnot
  | loop thread => exact absurd trivial hnot
  | waitAndPop thread => exact absurd trivial hnot
  | waitEmpty => exact absurd trivial hnot

end ProcessingQueue

/-! ## The conditions of the two queues -/

open ProcessingQueue

/-- Enough threads are in `waitAndPop` when a call of `deinit(true)` begins. -/
def EnoughPoppers {E : Type} (s : ProcessingQueue E) : Prop := s.bufferQueue.length ≤ s.poppers

/-- A condition on the element that a thread has is decided at that thread. -/
def decidableForallProcessing {E : Type} (s : ProcessingQueue E) (thread : Nat) (P : E → Prop)
    [∀ e, Decidable (P e)] : Decidable (∀ e, s.threads[thread]? = some (.processing e) → P e) :=
  match h : s.threads[thread]? with
  | some (.processing e) => decidable_of_iff (P e) (by simp)
  | some .looping | some .entering | some .waiting | some .ended | none => isTrue (by simp)

namespace CObjectProcessingQueue

/-- `processBufferElement` does not throw after it has detached the element. -/
def SingleFate (p : Processing) : Prop :=
  p.stopped = true ∨ p.elementHasBeenDetached = false ∨ p.throws = false

instance (p : Processing) : Decidable (SingleFate p) :=
  inferInstanceAs (Decidable (_ ∨ _ ∨ _))

def Safe (s : ProcessingQueue Nat) : Label Unit → Prop
  | .process thread p => ∀ n, s.threads[thread]? = some (.processing n) → SingleFate p
  | .clear => s.bufferQueue = []
  | .deinit true => EnoughPoppers s
  | _ => True

instance (s : ProcessingQueue Nat) : ∀ a, Decidable (Safe s a)
  | .process thread p => decidableForallProcessing s thread fun _ => SingleFate p
  | .clear => inferInstanceAs (Decidable (_ = _))
  | .deinit true => inferInstanceAs (Decidable (_ ≤ _))
  | .deinit false | .push _ | .loop _ | .waitAndPop _ | .waitEmpty => isTrue trivial

theorem one_fate_iff (p : Processing) : (executeOnThread p).1.length = 1 ↔ SingleFate p := by
  rcases p with ⟨listener, processed, detached, throws, discarded⟩
  cases listener <;> cases processed <;> cases detached <;> cases throws <;> cases discarded <;>
    simp [executeOnThread, SingleFate, Processing.stopped, Processing.kept, Processing.detaching]

theorem safe_iff_accounted {s : ProcessingQueue Nat} {a : Label Unit} :
    Safe s a ↔ Accounted kind s a := by
  cases a with
  | process thread p =>
    exact forall_congr' fun _ => imp_congr_right fun _ => (one_fate_iff p).symm
  | clear =>
    constructor
    · intro (h : s.bufferQueue = []) e he
      rw [h] at he
      cases he
    · intro h
      exact List.eq_nil_iff_forall_not_mem.mpr fun e he => absurd (h e he) Nat.zero_ne_one
  | deinit wait => cases wait <;> exact Iff.rfl
  | push args => exact Iff.rfl
  | loop thread => exact Iff.rfl
  | waitAndPop thread => exact Iff.rfl
  | waitEmpty => exact Iff.rfl

theorem safe_of_leaving {s : ProcessingQueue Nat} {a : Label Unit} (h : Leaving a) : Safe s a := by
  cases a with
  | process thread p =>
    cases (show p = _ from h)
    exact fun _ _ => .inr (.inl rfl)
  | loop thread => trivial
  | waitAndPop thread => trivial
  | _ => exact absurd h id

end CObjectProcessingQueue

namespace CObjectProcessingPriorityQueue

/-- The listener does not keep an element that was detached, and an exception does not come after
an element was detached that its wrapper still deletes. -/
def SingleFate (e : PriorityQueuedElement) (p : Processing) : Prop :=
  p.stopped = true ∨ p.elementHasBeenDetached = false ∨
    (p.kept = false ∧ (p.throws = false ∨ e.disposeOnDestroy = false))

instance (e : PriorityQueuedElement) (p : Processing) : Decidable (SingleFate e p) :=
  inferInstanceAs (Decidable (_ ∨ _ ∨ _))

def Safe (s : ProcessingQueue PriorityQueuedElement) : Label (BitVec 32 × Bool) → Prop
  | .process thread p => ∀ e, s.threads[thread]? = some (.processing e) → SingleFate e p
  | .deinit true => EnoughPoppers s
  | _ => True

instance (s : ProcessingQueue PriorityQueuedElement) : ∀ a, Decidable (Safe s a)
  | .process thread p => decidableForallProcessing s thread fun e => SingleFate e p
  | .deinit true => inferInstanceAs (Decidable (_ ≤ _))
  | .deinit false | .push _ | .loop _ | .waitAndPop _ | .clear | .waitEmpty => isTrue trivial

theorem one_fate_iff (e : PriorityQueuedElement) (p : Processing) :
    (executeOnThread e p).1.length = 1 ↔ SingleFate e p := by
  rcases p with ⟨listener, processed, detached, throws, discarded⟩
  rcases e with ⟨element, priority, dispose⟩
  cases listener <;> cases processed <;> cases detached <;> cases throws <;> cases discarded <;>
    cases dispose <;> simp [executeOnThread, SingleFate, Processing.stopped, Processing.kept,
      Processing.detaching, PriorityQueuedElement.destroy]

theorem safe_iff_accounted {s : ProcessingQueue PriorityQueuedElement}
    {a : Label (BitVec 32 × Bool)} : Safe s a ↔ Accounted kind s a := by
  cases a with
  | process thread p =>
    exact forall_congr' fun e => imp_congr_right fun _ => (one_fate_iff e p).symm
  | clear => exact iff_of_true trivial fun _ _ => rfl
  | deinit wait => cases wait <;> exact Iff.rfl
  | push args => exact Iff.rfl
  | loop thread => exact Iff.rfl
  | waitAndPop thread => exact Iff.rfl
  | waitEmpty => exact Iff.rfl

theorem safe_of_leaving {s : ProcessingQueue PriorityQueuedElement}
    {a : Label (BitVec 32 × Bool)} (h : Leaving a) : Safe s a := by
  cases a with
  | process thread p =>
    cases (show p = _ from h)
    exact fun _ _ => .inr (.inl rfl)
  | loop thread => trivial
  | waitAndPop thread => trivial
  | _ => exact absurd h id

end CObjectProcessingPriorityQueue

/-! ## Every run -/

section

variable {E A : Type} {k : QueueKind E A} {safe : ProcessingQueue E → Label A → Prop}
  {threadNumber : Nat} {as : List (Label A)} {s : ProcessingQueue E}

/-- What a run preserves, from the state after `init`. -/
theorem orderly_of_run (hsafe : ∀ s a, safe s a ↔ Accounted k s a)
    (hok : RunOk (step k) safe (init threadNumber) as)
    (hr : run (step k) (init threadNumber) as = some s) : Orderly k s :=
  run_keeps_of_ok (Orderly k) (fun _ _ _ h hstep ht => h.step ((hsafe _ _).mp hstep) ht)
    (.init threadNumber) hok hr

/-- After a step that does not meet the condition, steps that do meet it lead to a failure. -/
theorem failure_of_unmet_condition (hsafe : ∀ s a, safe s a ↔ Accounted k s a)
    (hleaving : ∀ s a, Leaving a → safe s a)
    (hdone : ∀ e, (k.executeOnThread e { eventListener := false }).2 = false)
    (horderly : Orderly k s) {a : Label A} {t : ProcessingQueue E} (hnotSafe : ¬ safe s a)
    (ht : step k s a = some t) :
    ∃ bs u, RunOk (step k) safe t bs ∧ run (step k) t bs = some u ∧ ¬ DrainsAndDisposes k u := by
  obtain ⟨bs, u, hbs, hu, hfails⟩ :=
    horderly.fails (fun haccounted => hnotSafe ((hsafe s a).mpr haccounted)) ht hdone
  exact ⟨bs, u, (RunOk.of_forall hbs).mono hleaving, hu, hfails⟩

/-- The queue keeps its promise in the runs whose steps meet the condition, and no weaker condition
would do: a step that does not meet it leads to a failure. -/
def KeepsPromise (k : QueueKind E A) (safe : ProcessingQueue E → Label A → Prop)
    (threadNumber : Nat) : Prop :=
  ∀ as s, RunOk (step k) safe (init threadNumber) as →
    run (step k) (init threadNumber) as = some s →
    DrainsAndDisposes k s ∧
    ∀ a t, ¬ safe s a → step k s a = some t →
      ∃ bs u, RunOk (step k) safe t bs ∧ run (step k) t bs = some u ∧ ¬ DrainsAndDisposes k u

end

theorem CObjectProcessingQueue.keepsPromise (threadNumber : Nat) :
    KeepsPromise kind Safe threadNumber := by
  intro as s hok hr
  have hkeeps := orderly_of_run (fun _ _ => safe_iff_accounted) hok hr
  exact ⟨hkeeps.drains, fun a t => failure_of_unmet_condition (fun _ _ => safe_iff_accounted)
    (fun _ _ => safe_of_leaving) (fun _ => rfl) hkeeps⟩

theorem CObjectProcessingPriorityQueue.keepsPromise (threadNumber : Nat) :
    KeepsPromise kind Safe threadNumber := by
  intro as s hok hr
  have hkeeps := orderly_of_run (fun _ _ => safe_iff_accounted) hok hr
  exact ⟨hkeeps.drains, fun a t => failure_of_unmet_condition (fun _ _ => safe_iff_accounted)
    (fun _ _ => safe_of_leaving) (fun _ => rfl) hkeeps⟩

/-- In every run of either queue, with any number of threads, whose steps all meet the condition. -/
theorem processing_queues_drain_and_dispose (threadNumber : Nat) :
    KeepsPromise CObjectProcessingQueue.kind CObjectProcessingQueue.Safe threadNumber ∧
    KeepsPromise CObjectProcessingPriorityQueue.kind CObjectProcessingPriorityQueue.Safe
      threadNumber :=
  ⟨CObjectProcessingQueue.keepsPromise threadNumber,
    CObjectProcessingPriorityQueue.keepsPromise threadNumber⟩

/-- A thread takes the only element before `deinit(true)` begins, and detaches it. -/
theorem one_element_drains_and_disposes :
    DrainsAndDisposes CObjectProcessingQueue.kind
      { in_deinit := true, threads := [.ended], accepted := 1, delivered := [(0, 0)],
        fates := [(0, .detached)] } ∧
    DrainsAndDisposes CObjectProcessingPriorityQueue.kind
      { in_deinit := true, threads := [.ended], accepted := 1, delivered := [(0, 0)],
        fates := [(0, .detached)] } :=
  ⟨((processing_queues_drain_and_dispose 1).1
      [.push (), .loop 0, .deinit true, .waitAndPop 0,
        .process 0 { eventListener := true, elementHasBeenDetached := true }, .waitEmpty, .loop 0]
      _ (by decide) rfl).1,
    ((processing_queues_drain_and_dispose 1).2
      [.push (50, true), .loop 0, .deinit true, .waitAndPop 0,
        .process 0 { eventListener := true, elementHasBeenDetached := true }, .waitEmpty, .loop 0]
      _ (by decide) rfl).1⟩

/-- The only thread of either queue leaves its loop with an element still in the queue, and
`deinit(true)` waits; `clear` of the plain queue loses an element; and an exception after
`processBufferElement` has detached an element has it deleted as well. -/
theorem deinit_waits_for_threads_that_left :
    (∃ s, run (step CObjectProcessingQueue.kind) (init 1) [.push (), .deinit true, .loop 0] =
      some s ∧ s.Hanging) ∧
    (∃ s, run (step CObjectProcessingPriorityQueue.kind) (init 1)
      [.push (50, true), .deinit true, .loop 0] = some s ∧ s.Hanging) ∧
    (∃ s, run (step CObjectProcessingQueue.kind) (init 1) [.push (), .clear] = some s ∧
      0 < s.accepted ∧ s.places CObjectProcessingQueue.kind 0 = 0) ∧
    ∃ s, run (step CObjectProcessingQueue.kind) (init 1) [.push (), .loop 0, .waitAndPop 0,
      .process 0 { eventListener := false, elementHasBeenDetached := true, throws := true }] =
        some s ∧ s.fates = [(0, .detached), (0, .deleted)] :=
  ⟨⟨_, rfl, by decide, by decide, by decide⟩, ⟨_, rfl, by decide, by decide, by decide⟩,
    ⟨_, rfl, by decide, by decide⟩, ⟨_, rfl, rfl⟩⟩

end chaos.pqueue
