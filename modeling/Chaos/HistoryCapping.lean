-- What capping and flushing do to the command history. The loops see one end of the queue only:
-- capping turns round the states that it passes over, and flushing stops at the first one that
-- is still to end.
import Chaos.CommandHistory
import Chaos.CountedPrefix

namespace chaos.batch_command

open BatchCommandExecutor chaos.utility counted_prefix

variable {e e' : BatchCommandExecutor} {queue : List StateRef} {r : StateRef}

/-! ## The shape of every history -/

/-- Has the command of this state ended? -/
def BatchCommandExecutor.isEnded (e : BatchCommandExecutor) (r : StateRef) : Bool :=
  !e.isPending r

/-- What every history keeps, also when an id is used again: the queue holds each object once,
the map holds objects of the queue under their id, and it holds every one that has ended. -/
structure HistoryShape (e : BatchCommandExecutor) (queue : List StateRef) : Prop where
  made : ∀ r ∈ queue, r < e.allocated
  nodup : queue.Nodup
  within : ∀ id r, e.getCommandState id = some r → r ∈ queue ∧ (e.state r).command_id = id
  listed : ∀ r ∈ queue, e.isEnded r = true → e.getCommandState (e.state r).command_id = some r

theorem HistoryShape.perm {queue' : List StateRef} (h : HistoryShape e queue)
    (hp : queue.Perm queue') : HistoryShape e queue' where
  made r hr := h.made r (hp.mem_iff.mpr hr)
  nodup := hp.nodup_iff.mp h.nodup
  within id r hr := (h.within id r hr).imp_left hp.mem_iff.mp
  listed r hr := h.listed r (hp.mem_iff.mpr hr)

/-- The history sees no other field of the executor. -/
theorem HistoryShape.of_same (h : HistoryShape e queue) (hstate : e'.state = e.state)
    (hallocated : e'.allocated = e.allocated)
    (hmap : e'.command_state_fast_access_map = e.command_state_fast_access_map) :
    HistoryShape e' queue := by
  have hget : e'.getCommandState = e.getCommandState := by
    funext id
    rw [getCommandState, hmap, getCommandState]
  have hended : e'.isEnded = e.isEnded := by
    funext r
    rw [isEnded, isPending, hstate, isEnded, isPending]
  refine ⟨?_, h.nodup, ?_, ?_⟩
  · rw [hallocated]
    exact h.made
  · rw [hget, hstate]
    exact h.within
  · rw [hget, hstate, hended]
    exact h.listed

/-- A state that has ended leaves the queue and the map. -/
theorem HistoryShape.eraseState (h : HistoryShape e (r :: queue)) (hr : e.isEnded r = true) :
    HistoryShape (e.eraseState r) queue := by
  have hmap : e.getCommandState (e.state r).command_id = some r :=
    h.listed r List.mem_cons_self hr
  have hnot : r ∉ queue := (List.nodup_cons.mp h.nodup).1
  refine ⟨fun q hq => h.made q (List.mem_cons_of_mem _ hq), (List.nodup_cons.mp h.nodup).2,
    ?_, ?_⟩
  · intro id q hq
    rw [getCommandState_eraseState] at hq
    split at hq
    · cases hq
    · rename_i hid
      obtain ⟨hmem, hqid⟩ := h.within id q hq
      refine ⟨(List.mem_cons.mp hmem).resolve_left ?_, hqid⟩
      rintro rfl
      exact hid hqid.symm
  · intro q hq hended
    have hq' := h.listed q (List.mem_cons_of_mem _ hq) hended
    rw [getCommandState_eraseState]
    split
    · rename_i hid
      have hid : (e.state q).command_id = (e.state r).command_id := hid
      rw [hid, hmap] at hq'
      exact absurd (Option.some.inj hq' ▸ hq) hnot
    · exact hq'

/-- The map takes a new state only where it knows no state of the id. -/
theorem getCommandState_addComamndState_eq (e : BatchCommandExecutor) (command_id id : UInt64) :
    (e.addComamndState command_id).getCommandState id =
      if id = command_id ∧ e.getCommandState command_id = none then some e.allocated
      else e.getCommandState id := by
  cases hknown : e.getCommandState command_id with
  | none =>
    rw [getCommandState_addComamndState hknown]
    simp
  | some q =>
    have hmap : (e.addComamndState command_id).command_state_fast_access_map =
        e.command_state_fast_access_map := if_pos (by rw [hknown]; rfl)
    simp [getCommandState, hmap]

theorem HistoryShape.addComamndState (h : HistoryShape e queue) (command_id : UInt64) :
    HistoryShape (e.addComamndState command_id) (queue ++ [e.allocated]) := by
  have hold : ∀ q ∈ queue, (e.addComamndState command_id).state q = e.state q := fun q hq =>
    Function.update_of_ne (Nat.ne_of_lt (h.made q hq)) _ _
  have hnew : (e.addComamndState command_id).state e.allocated =
      ⟨command_id, .EVT_QUEUED, ⟨"", 0, "", ""⟩⟩ := Function.update_self ..
  have hget : ∀ id q, (e.addComamndState command_id).getCommandState id = some q →
      e.getCommandState id = some q ∨ id = command_id ∧ q = e.allocated := by
    intro id q hq
    rw [getCommandState_addComamndState_eq] at hq
    split at hq
    · rename_i hid
      exact .inr ⟨hid.1, (Option.some.inj hq).symm⟩
    · exact .inl hq
  have hkept : ∀ id q, e.getCommandState id = some q →
      (e.addComamndState command_id).getCommandState id = some q := by
    intro id q hq
    rw [getCommandState_addComamndState_eq, if_neg]
    · exact hq
    · rintro ⟨rfl, hnone⟩
      rw [hq] at hnone
      cases hnone
  refine ⟨?_, ?_, ?_, ?_⟩
  · intro q hq
    rcases List.mem_append.mp hq with hq | hq
    · exact Nat.lt_succ_of_lt (h.made q hq)
    · exact List.mem_singleton.mp hq ▸ Nat.lt_succ_self _
  · exact numbered_list.nodup_snoc h.nodup fun hmem => Nat.lt_irrefl _ (h.made _ hmem)
  · intro id q hq
    rcases hget id q hq with hq | ⟨rfl, rfl⟩
    · obtain ⟨hmem, hid⟩ := h.within id q hq
      exact ⟨List.mem_append_left _ hmem, by rw [hold q hmem, hid]⟩
    · exact ⟨List.mem_append_right _ List.mem_cons_self, by rw [hnew]⟩
  · intro q hq hended
    rcases List.mem_append.mp hq with hq | hq
    · have hended : e.isEnded q = true := by
        simpa only [isEnded, isPending, hold q hq] using hended
      rw [hold q hq]
      exact hkept _ q (h.listed q hq hended)
    · cases List.mem_singleton.mp hq
      simp [isEnded, isPending, hnew, BatchCommandEventType.code] at hended

theorem HistoryShape.setLastEvent (h : HistoryShape e queue) (command_id : UInt64)
    (type : BatchCommandEventType) (fault : Option FaultDescription) :
    HistoryShape (e.setLastEvent command_id type fault) queue := by
  have hid := command_id_setLastEvent e command_id type fault
  have hget : (e.setLastEvent command_id type fault).getCommandState = e.getCommandState := rfl
  refine ⟨h.made, h.nodup, ?_, ?_⟩
  · intro id q hq
    rw [hid]
    exact h.within id q hq
  · intro q hq hended
    rw [hid, hget]
    cases hr : e.getCommandState command_id with
    | none =>
      have hsame : (e.setLastEvent command_id type fault).state = e.state := by
        simp only [BatchCommandExecutor.setLastEvent, hr]
      exact h.listed q hq (by simpa only [isEnded, isPending, hsame] using hended)
    | some r =>
      by_cases hqr : q = r
      · subst hqr
        rw [(h.within command_id q hr).2]
        exact hr
      · have hsame : (e.setLastEvent command_id type fault).state q = e.state q := by
          simp only [BatchCommandExecutor.setLastEvent, hr, Function.update_of_ne hqr]
        exact h.listed q hq (by simpa only [isEnded, isPending, hsame] using hended)

/-! ## Every run has the shape -/

theorem loopKept_historyShape : LoopKept HistoryShape where
  perm := HistoryShape.perm
  write h := h.of_same rfl rfl rfl
  eraseState h hr := h.eraseState (by simp [isEnded, hr])

theorem HistoryShape.handleCommandEvent (h : HistoryShape e e.command_state_queue)
    (command_id : UInt64) (type : BatchCommandEventType) (fault : FaultDescription) :
    HistoryShape (e.handleCommandEvent command_id type fault)
      (e.handleCommandEvent command_id type fault).command_state_queue := by
  cases type with
  | EVT_QUEUED => exact h.addComamndState command_id
  | EVT_WAITING | EVT_RUNNING | EVT_PAUSED | EVT_COMPLETED | EVT_FAULT | EVT_KILLED =>
    exact h.setLastEvent command_id _ _

theorem HistoryShape.submitCommand (h : HistoryShape e e.command_state_queue)
    (d : Option Submission) :
    HistoryShape (e.submitCommand d).1 (e.submitCommand d).1.command_state_queue := by
  have hid : ∀ n, HistoryShape { e with command_sequence_id := n } e.command_state_queue :=
    fun n => h.of_same rfl rfl rfl
  unfold BatchCommandExecutor.submitCommand
  split
  · exact h
  · split
    · exact h
    · split
      · exact h
      · simp only
        split
        · simp only
          split
          · exact (hid (e.command_sequence_id + 1)).handleCommandEvent _ _ _
          · exact hid _
        · exact hid _

theorem HistoryShape.init (h : HistoryShape e e.command_state_queue) {instanced : Bool}
    (hinit : e.init instanced = some e') : HistoryShape e' e'.command_state_queue := by
  unfold BatchCommandExecutor.init at hinit
  generalize (if e.sandbox_map = 0 then 1 else e.sandbox_map) = sandboxes at hinit
  simp only at hinit
  split at hinit
  · cases hinit
    exact h.of_same rfl rfl rfl
  · split at hinit
    · cases hinit
      have h' : HistoryShape { e with command_sequence_id := 1, sandbox_map := sandboxes }
          e.command_state_queue := h.of_same rfl rfl rfl
      exact h'.addComamndState 1
    · cases hinit

theorem historyShape_onService (h : HistoryShape e e.command_state_queue) {event : ServiceEvent}
    {f : BatchCommandExecutor → Option BatchCommandExecutor}
    (hf : ∀ u, f e = some u → HistoryShape u u.command_state_queue)
    (hstep : onService e event f = some e') : HistoryShape e' e'.command_state_queue := by
  unfold onService at hstep
  split at hstep
  · cases hstep
    exact h
  · obtain ⟨u, hu, rfl⟩ := Option.map_eq_some_iff.mp hstep
    exact (hf u hu).of_same rfl rfl rfl

theorem historyShape_step (h : HistoryShape e e.command_state_queue) {a : ExecutorCall}
    (hstep : executorStep e a = some e') : HistoryShape e' e'.command_state_queue := by
  cases a with
  | init instanced =>
    have hstep' : onService e .init (·.init instanced) = some e' := hstep
    exact historyShape_onService h (fun u hu => h.init hu) hstep'
  | start | stop | deinit =>
    refine historyShape_onService h (fun u hu => ?_) hstep
    cases hu
    exact h
  | setDefaultCommand command_alias sandbox_instance =>
    cases hstep
    simp only [setDefaultCommand]
    split
    · exact h
    · exact h.of_same rfl rfl rfl
  | addSandboxInstance n =>
    cases hstep
    exact h.of_same rfl rfl rfl
  | submitCommand d =>
    cases hstep
    exact h.submitCommand d
  | handleCommandEvent command_id type fault =>
    cases hstep
    exact h.handleCommandEvent command_id type fault
  | capCommanaQueue =>
    cases hstep
    exact loopKept_historyShape.capCommanaQueue h
  | flushCommandStates =>
    cases hstep
    exact loopKept_historyShape.flushCommandStates h

/-- Every history that an executor reaches has the shape, whatever the ids that are used again. -/
theorem historyShape_run {state : StateRef → CommandState} {calls : List ExecutorCall}
    (hrun : runs.run executorStep (create state) calls = some e) :
    HistoryShape e e.command_state_queue := by
  refine runs.run_keeps (fun e => HistoryShape e e.command_state_queue)
    (fun _ _ _ h hstep => historyShape_step h hstep) ?_ hrun
  refine ⟨?_, List.nodup_nil, ?_, ?_⟩
  · intro r hr
    cases hr
  · intro id r hr
    cases hr
  · intro r hr
    cases hr

/-! ## Fixed histories -/

/-- Calls that queue a command for each event, with the numbers from 1 on, and report the event. -/
def historyCalls (events : List BatchCommandEventType) : List ExecutorCall :=
  events.zipIdx.flatMap fun p =>
    [.handleCommandEvent (.ofNat (p.2 + 1)) .EVT_QUEUED ⟨"", 0, "", ""⟩,
      .handleCommandEvent (.ofNat (p.2 + 1)) p.1 ⟨"", 0, "", ""⟩]

/-- The executor of such calls. -/
def historyOf (events : List BatchCommandEventType) : Option BatchCommandExecutor :=
  runs.run executorStep (create fun _ => ⟨0, .EVT_QUEUED, ⟨"", 0, "", ""⟩⟩) (historyCalls events)

/-- The executor with another maximum size of its history. -/
def BatchCommandExecutor.withMax (e : BatchCommandExecutor) (max : UInt16) :
    BatchCommandExecutor :=
  { e with command_state_queue_max_size := max }

theorem historyShape_historyOf (events : List BatchCommandEventType)
    (h : historyOf events = some e) : HistoryShape e e.command_state_queue :=
  historyShape_run h

theorem HistoryShape.withMax (h : HistoryShape e e.command_state_queue) (max : UInt16) :
    HistoryShape (e.withMax max) (e.withMax max).command_state_queue :=
  h.of_same rfl rfl rfl

/-! ## What the loops leave -/

/-- The ids of some states. -/
def BatchCommandExecutor.idsOf (e : BatchCommandExecutor) (l : List StateRef) : List UInt64 :=
  l.map fun r => (e.state r).command_id

/-- The states of `gone` have left the map, `queue` is the queue, and the states are the same. -/
structure Leaves (e e' : BatchCommandExecutor) (gone queue : List StateRef) : Prop where
  queue : e'.command_state_queue = queue
  map : ∀ id, e'.getCommandState id = if id ∈ e.idsOf gone then none else e.getCommandState id
  state : e'.state = e.state

theorem Leaves.write (e : BatchCommandExecutor) (queue : List StateRef) :
    Leaves e { e with command_state_queue := queue } [] queue :=
  ⟨rfl, fun _ => rfl, rfl⟩

/-- The rest of a loop that has erased one state. -/
theorem Leaves.cons {gone : List StateRef} (h : Leaves (e.eraseState r) e' gone queue) :
    Leaves e e' (r :: gone) queue := by
  refine ⟨h.queue, ?_, h.state⟩
  intro id
  have hids : (e.eraseState r).idsOf gone = e.idsOf gone := rfl
  rw [h.map, getCommandState_eraseState, hids]
  have hcons : id ∈ e.idsOf (r :: gone) ↔ id = (e.state r).command_id ∨ id ∈ e.idsOf gone :=
    List.mem_cons
  by_cases hr : id = (e.state r).command_id
  · rw [if_pos (hcons.mpr (.inl hr)), if_pos hr, ite_self]
  · simp only [hcons, hr, false_or, if_false]

/-- The loop of the cap passes over the shortest prefix that has as many ended states as there
are to remove. It erases these, and puts the other ones back in the opposite order. -/
theorem capLoop_leaves (hmax : 0 < e.command_state_queue_max_size.toNat) (queue : List StateRef)
    (n : Nat) (idx : UInt64) (reinsert : List StateRef)
    (hidx : idx.toNat + 1 = e.command_state_queue_max_size.toNat + n) :
    Leaves e (e.capLoop queue idx reinsert)
      ((takeCounting e.isEnded n queue).filter e.isEnded)
      ((reinsert ++ (takeCounting e.isEnded n queue).filter e.isPending).reverse ++
        queue.drop (takeCounting e.isEnded n queue).length) := by
  induction queue generalizing e n idx reinsert with
  | nil =>
    simpa [capLoop, List.foldl_flip_cons_eq_append'] using Leaves.write e reinsert.reverse
  | cons r rest ih =>
    have hlt : idx < e.command_state_queue_max_size.toUInt64 ↔ n = 0 := by
      rw [UInt64.lt_iff_toNat_lt, UInt16.toNat_toUInt64]
      omega
    unfold capLoop
    cases n with
    | zero =>
      rw [if_pos (hlt.mpr rfl)]
      simpa [List.foldl_flip_cons_eq_append'] using Leaves.write e (reinsert.reverse ++ r :: rest)
    | succ n =>
      rw [if_neg (by simp [hlt])]
      by_cases hr : e.isPending r = true
      · have hended : e.isEnded r = false := by simp [isEnded, hr]
        have h := ih hmax (n + 1) idx (reinsert ++ [r]) hidx
        simpa [takeCounting, hended, hr] using h
      · have hended : e.isEnded r = true := by simp [isEnded, hr]
        have hidx' : (idx - 1).toNat = idx.toNat - 1 :=
          UInt64.toNat_sub_of_le _ _ (UInt64.le_iff_toNat_le.mpr (by simp; omega))
        have hstep : (idx - 1).toNat + 1 = e.command_state_queue_max_size.toNat + n := by omega
        have h := ih (e := e.eraseState r) hmax n (idx - 1) reinsert hstep
        have hsame : (e.eraseState r).isEnded = e.isEnded := rfl
        have hsame' : (e.eraseState r).isPending = e.isPending := rfl
        rw [hsame, hsame'] at h
        simpa [takeCounting, hended, hr] using h.cons

/-- The loop of the flush erases the ended states at the back of the queue. -/
theorem flushLoop_leaves (back : List StateRef) :
    Leaves e (e.flushLoop back) (back.takeWhile e.isEnded) (back.dropWhile e.isEnded).reverse := by
  induction back generalizing e with
  | nil => exact Leaves.write e []
  | cons r rest ih =>
    unfold flushLoop
    by_cases hr : e.isPending r = true
    · have hended : e.isEnded r = false := by simp [isEnded, hr]
      simpa [hr, hended] using Leaves.write e (r :: rest).reverse
    · have hended : e.isEnded r = true := by simp [isEnded, hr]
      have h := (ih (e := e.eraseState r)).cons
      have hsame : (e.eraseState r).isEnded = e.isEnded := rfl
      rw [hsame] at h
      simpa [hr, hended] using h

/-! ## Capping -/

/-- The states that a cap has to remove: the oldest ended ones, as many as the queue is too
long, or all of them. -/
def BatchCommandExecutor.toCap (e : BatchCommandExecutor) : List StateRef :=
  (e.command_state_queue.filter e.isEnded).take
    (e.command_state_queue.length - e.command_state_queue_max_size.toNat)

/-- The states that the loop of the cap takes off the front of the queue. -/
def BatchCommandExecutor.passedOver (e : BatchCommandExecutor) : List StateRef :=
  takeCounting e.isEnded (e.command_state_queue.length - e.command_state_queue_max_size.toNat)
    e.command_state_queue

/-- The states to remove are out of the queue and out of the map, and the other ones are in the
order that they had. -/
def Capped (e e' : BatchCommandExecutor) : Prop :=
  Leaves e e' e.toCap (e.command_state_queue.filter fun r => !decide (r ∈ e.toCap))

theorem filter_passedOver (e : BatchCommandExecutor) :
    e.passedOver.filter e.isEnded = e.toCap :=
  filter_takeCounting _ _

/-- A cap puts back the pending states that it passed over, the last one first. -/
theorem capCommanaQueue_leaves (hmax : 0 < e.command_state_queue_max_size.toNat)
    (hlen : e.command_state_queue.length < 2 ^ 64) :
    Leaves e e.capCommanaQueue e.toCap ((e.passedOver.filter e.isPending).reverse ++
      e.command_state_queue.drop e.passedOver.length) := by
  unfold capCommanaQueue
  split
  · rename_i hle
    simpa [toCap, passedOver, Nat.sub_eq_zero_of_le hle] using
      Leaves.write e e.command_state_queue
  · rename_i hgt
    have hidx : (UInt64.ofNat (e.command_state_queue.length - 1)).toNat + 1 =
        e.command_state_queue_max_size.toNat +
          (e.command_state_queue.length - e.command_state_queue_max_size.toNat) := by
      rw [UInt64.toNat_ofNat_of_lt' (by simp [UInt64.size]; omega)]
      omega
    have h := capLoop_leaves hmax e.command_state_queue _ _ [] hidx
    rw [List.nil_append] at h
    rw [← filter_passedOver]
    exact h

/-- The queue without the states to remove: the pending ones of the prefix, and the rest. -/
theorem filter_toCap (hnodup : e.command_state_queue.Nodup) :
    (e.command_state_queue.filter fun r => !decide (r ∈ e.toCap)) =
      e.passedOver.filter e.isPending ++ e.command_state_queue.drop e.passedOver.length := by
  have hsplit : e.passedOver ++ e.command_state_queue.drop e.passedOver.length =
      e.command_state_queue := takeCounting_append_drop _ _
  have hdisjoint := (List.nodup_append.mp (hsplit ▸ hnodup)).2.2
  have hprefix : (e.passedOver.filter fun r => !decide (r ∈ e.toCap)) =
      e.passedOver.filter e.isPending := by
    refine List.filter_congr fun r hr => ?_
    rw [← filter_passedOver]
    cases hp : e.isPending r <;> simp [List.mem_filter, hr, isEnded, hp]
  have hrest : ((e.command_state_queue.drop e.passedOver.length).filter
      fun r => !decide (r ∈ e.toCap)) = e.command_state_queue.drop e.passedOver.length := by
    refine List.filter_eq_self.mpr fun r hr => ?_
    rw [← filter_passedOver]
    have hnot : r ∉ e.passedOver := fun hmem => hdisjoint r hmem r hr rfl
    simp [List.mem_filter, hnot]
  calc (e.command_state_queue.filter fun r => !decide (r ∈ e.toCap))
      = ((e.passedOver ++ e.command_state_queue.drop e.passedOver.length).filter
          fun r => !decide (r ∈ e.toCap)) := by rw [hsplit]
    _ = _ := by rw [List.filter_append, hprefix, hrest]

/-- A cap does what it should just where it passes over at most one state that is still to end:
it turns the order of these states round. -/
theorem capping_is_exact_iff (e : BatchCommandExecutor)
    (hshape : HistoryShape e e.command_state_queue)
    (hmax : 0 < e.command_state_queue_max_size.toNat)
    (hlen : e.command_state_queue.length < 2 ^ 64) :
    Capped e e.capCommanaQueue ↔ e.passedOver.countP e.isPending ≤ 1 := by
  have h := capCommanaQueue_leaves hmax hlen
  have hnodup : (e.passedOver.filter e.isPending).Nodup :=
    (hshape.nodup.sublist (takeCounting_isPrefix _ _).sublist).filter _
  rw [List.countP_eq_length_filter, ← reverse_eq_self_iff hnodup, Capped,
    filter_toCap hshape.nodup]
  constructor
  · intro hcapped
    exact List.append_cancel_right (h.queue.symm.trans hcapped.queue)
  · intro hrev
    rw [hrev] at h
    exact h

theorem capping_of_one_running_command : ∃ e,
    historyOf [.EVT_COMPLETED, .EVT_RUNNING, .EVT_COMPLETED] = some e ∧
      Capped (e.withMax 1) (e.withMax 1).capCommanaQueue :=
  ⟨_, rfl, (capping_is_exact_iff _ ((historyShape_historyOf
    [.EVT_COMPLETED, .EVT_RUNNING, .EVT_COMPLETED] rfl).withMax 1) (by decide) (by decide)).mpr
      (by decide)⟩

/-- Two commands that run before a completed one: the cap turns their states round. -/
theorem capping_turns_round : ∃ e,
    historyOf [.EVT_RUNNING, .EVT_RUNNING, .EVT_COMPLETED] = some e ∧
      e.command_state_queue = [0, 1, 2] ∧
      (e.withMax 2).capCommanaQueue.command_state_queue = [1, 0] ∧
      ¬ Capped (e.withMax 2) (e.withMax 2).capCommanaQueue := by
  refine ⟨_, rfl, rfl, by decide, ?_⟩
  intro h
  have hqueue := h.queue
  revert hqueue
  decide

/-! ## Flushing -/

/-- No state that has ended is in the queue or in the map, and the other ones are where they
were, in the order that they had. -/
structure Flushed (e e' : BatchCommandExecutor) : Prop where
  queue : e'.command_state_queue = e.command_state_queue.filter e.isPending
  map : ∀ id r, e'.getCommandState id = some r ↔
    e.getCommandState id = some r ∧ e.isPending r = true
  state : e'.state = e.state

theorem flushCommandStates_leaves (e : BatchCommandExecutor) :
    Leaves e e.flushCommandStates (e.command_state_queue.reverse.takeWhile e.isEnded)
      (e.command_state_queue.reverse.dropWhile e.isEnded).reverse :=
  flushLoop_leaves _

/-- A flush does what it should just where no state that is still to end is behind one that has
ended. -/
theorem flushing_is_exact_iff (e : BatchCommandExecutor)
    (hshape : HistoryShape e e.command_state_queue) :
    Flushed e e.flushCommandStates ↔
      e.command_state_queue.Pairwise fun a b => e.isEnded a = true → e.isEnded b = true := by
  have h := flushCommandStates_leaves e
  have hpending : (fun r => !e.isEnded r) = e.isPending := by
    funext r
    simp [isEnded]
  have hsplit : e.command_state_queue.reverse.takeWhile e.isEnded ++
      e.command_state_queue.reverse.dropWhile e.isEnded = e.command_state_queue.reverse :=
    List.takeWhile_append_dropWhile
  rw [← reverse_dropWhile_eq_filter_iff, hpending]
  constructor
  · intro hflushed
    exact h.queue.symm.trans hflushed.queue
  · intro hqueue
    refine ⟨h.queue.trans hqueue, ?_, h.state⟩
    have hgone : ∀ r ∈ e.command_state_queue, e.isEnded r = true →
        r ∈ e.command_state_queue.reverse.takeWhile e.isEnded := by
      intro r hr hended
      have hmem : r ∈ e.command_state_queue.reverse := List.mem_reverse.mpr hr
      rw [← hsplit, List.mem_append] at hmem
      refine hmem.resolve_right fun hrest => ?_
      rw [← List.mem_reverse, hqueue, List.mem_filter] at hrest
      simp [isEnded, hrest.2] at hended
    intro id r
    rw [h.map]
    constructor
    · intro hget
      split at hget
      · cases hget
      · rename_i hid
        obtain ⟨hr, hrid⟩ := hshape.within id r hget
        refine ⟨hget, ?_⟩
        by_contra hnot
        exact hid (List.mem_map.mpr ⟨r, hgone r hr (by simpa [isEnded] using hnot), hrid⟩)
    · rintro ⟨hget, hr⟩
      rw [if_neg]
      · exact hget
      · intro hid
        obtain ⟨q, hq, hqid⟩ := List.mem_map.mp hid
        have hended : e.isEnded q = true := List.all_eq_true.mp List.all_takeWhile q hq
        have hqueue : q ∈ e.command_state_queue := by
          rw [← List.mem_reverse, ← hsplit]
          exact List.mem_append_left _ hq
        have hlisted := hshape.listed q hqueue hended
        rw [hqid, hget] at hlisted
        cases hlisted
        simp [isEnded, hr] at hended

theorem flushing_of_old_ended_commands : ∃ e,
    historyOf [.EVT_RUNNING, .EVT_COMPLETED, .EVT_KILLED] = some e ∧
      Flushed e e.flushCommandStates :=
  ⟨_, rfl, (flushing_is_exact_iff _ (historyShape_historyOf
    [.EVT_RUNNING, .EVT_COMPLETED, .EVT_KILLED] rfl)).mpr (by decide)⟩

/-- A completed command before one that runs: the flush removes nothing. -/
theorem flushing_stops_at_running_command : ∃ e,
    historyOf [.EVT_COMPLETED, .EVT_RUNNING] = some e ∧
      e.flushCommandStates.command_state_queue = [0, 1] ∧
      ¬ Flushed e e.flushCommandStates := by
  refine ⟨_, rfl, by decide, ?_⟩
  intro h
  have hqueue := h.queue
  revert hqueue
  decide

end chaos.batch_command
