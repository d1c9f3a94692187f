-- The laws of the command history of an executor. The queue and the map of the states hold
-- the same objects, and the map knows the last event of each command, as long as no command
-- is queued with an id that is still in the history.
import Mathlib.Data.List.Perm.Basic
import Mathlib.Data.List.Nodup
import Chaos.Executor
import Chaos.NumberedList
import Chaos.Runs

namespace chaos.batch_command

open BatchCommandExecutor chaos.utility

/-! ## The invariant -/

/-- The history agrees with the states of `queue`. The loops take states out of the queue
before they write it back, so the queue is a parameter here. -/
structure HistoryGood (e : BatchCommandExecutor) (queue : List StateRef) : Prop where
  made : ∀ r ∈ queue, r < e.allocated
  distinct : (queue.map fun r => (e.state r).command_id).Nodup
  lookup : ∀ id r, e.getCommandState id = some r ↔ r ∈ queue ∧ (e.state r).command_id = id
  told : ∀ id, e.reported id = (e.getCommandState id).map fun r => (r, (e.state r).last_event)

variable {e : BatchCommandExecutor} {queue queue' : List StateRef} {r : StateRef}

theorem HistoryGood.perm (h : HistoryGood e queue) (hp : queue.Perm queue') :
    HistoryGood e queue' where
  made r hr := h.made r (hp.mem_iff.mpr hr)
  distinct := ((hp.map _).nodup_iff).mp h.distinct
  lookup id r := by rw [h.lookup id r, hp.mem_iff]
  told := h.told

/-- The loops write the queue back. -/
theorem HistoryGood.write (h : HistoryGood e queue) :
    HistoryGood { e with command_state_queue := queue } queue :=
  ⟨h.made, h.distinct, h.lookup, h.told⟩

/-- An id that the map does not know is the id of no state. -/
theorem HistoryGood.absent (h : HistoryGood e queue) {id : UInt64}
    (hfresh : e.getCommandState id = none) : ∀ q ∈ queue, (e.state q).command_id ≠ id := by
  intro q hq heq
  have hsome := (h.lookup id q).mpr ⟨hq, heq⟩
  rw [hfresh] at hsome
  cases hsome

theorem getCommandState_eraseState (e : BatchCommandExecutor) (r : StateRef) (id : UInt64) :
    (e.eraseState r).getCommandState id =
      if id = (e.state r).command_id then none else e.getCommandState id := by
  simp only [getCommandState, BatchCommandExecutor.eraseState, Function.update_apply]

/-- A state that leaves the queue leaves the map too. -/
theorem HistoryGood.eraseState (h : HistoryGood e (r :: queue)) :
    HistoryGood (e.eraseState r) queue := by
  have hr : e.getCommandState (e.state r).command_id = some r :=
    (h.lookup _ r).mpr ⟨List.mem_cons_self, rfl⟩
  have htold : (e.reported (e.state r).command_id).map Prod.fst = some r := by
    rw [h.told, hr]
    rfl
  have hnot : ∀ q ∈ queue, (e.state q).command_id ≠ (e.state r).command_id := by
    intro q hq heq
    have hd := List.nodup_cons.mp h.distinct
    exact hd.1 (List.mem_map.mpr ⟨q, hq, heq⟩)
  refine ⟨fun q hq => h.made q (List.mem_cons_of_mem _ hq),
    (List.nodup_cons.mp h.distinct).2, ?_, ?_⟩
  · intro id q
    rw [getCommandState_eraseState]
    by_cases hid : id = (e.state r).command_id
    · subst hid
      simp only [if_true, reduceCtorEq, false_iff]
      rintro ⟨hq, heq⟩
      exact hnot q hq heq
    · rw [if_neg hid, h.lookup id q]
      constructor
      · rintro ⟨hq, rfl⟩
        refine ⟨(List.mem_cons.mp hq).resolve_left ?_, rfl⟩
        rintro rfl
        exact hid rfl
      · rintro ⟨hq, rfl⟩
        exact ⟨List.mem_cons_of_mem _ hq, rfl⟩
  · intro id
    rw [getCommandState_eraseState]
    simp only [BatchCommandExecutor.eraseState, htold, if_true, Function.update_apply]
    by_cases hid : id = (e.state r).command_id
    · simp [hid]
    · simp only [if_neg hid]
      exact h.told id

theorem getCommandState_addComamndState {command_id : UInt64}
    (hfresh : e.getCommandState command_id = none) (id : UInt64) :
    (e.addComamndState command_id).getCommandState id =
      if id = command_id then some e.allocated else e.getCommandState id := by
  have hmap : (e.addComamndState command_id).command_state_fast_access_map =
      Function.update e.command_state_fast_access_map command_id (some e.allocated) :=
    if_neg (by simp [hfresh])
  rw [getCommandState, hmap, Function.update_apply]
  rfl

/-- The states of the history are older than the one that is made. -/
theorem HistoryGood.state_addComamndState (h : HistoryGood e queue) (command_id : UInt64) :
    ∀ q ∈ queue, (e.addComamndState command_id).state q = e.state q := by
  intro q hq
  exact Function.update_of_ne (Nat.ne_of_lt (h.made q hq)) _ _

/-- A command that is queued with an id that the history does not know. -/
theorem HistoryGood.addComamndState (h : HistoryGood e queue) {command_id : UInt64}
    (hfresh : e.getCommandState command_id = none) :
    HistoryGood (e.addComamndState command_id) (queue ++ [e.allocated]) := by
  have hold := h.state_addComamndState command_id
  have habsent := h.absent hfresh
  have hnew : ((e.addComamndState command_id).state e.allocated).command_id = command_id := by
    simp [BatchCommandExecutor.addComamndState]
  have hget := getCommandState_addComamndState hfresh
  have hids : (queue.map fun q => ((e.addComamndState command_id).state q).command_id) =
      queue.map fun q => (e.state q).command_id := by
    refine List.map_congr_left ?_
    intro q hq
    rw [hold q hq]
  refine ⟨?_, ?_, ?_, ?_⟩
  · intro q hq
    rcases List.mem_append.mp hq with hq | hq
    · exact Nat.lt_succ_of_lt (h.made q hq)
    · rw [List.mem_singleton.mp hq]
      exact Nat.lt_succ_self _
  · rw [List.map_append, hids, List.map_singleton, hnew]
    apply numbered_list.nodup_snoc h.distinct
    intro hid
    obtain ⟨q, hq, heq⟩ := List.mem_map.mp hid
    exact habsent q hq heq
  · intro id q
    rw [hget]
    by_cases hid : id = command_id
    · subst hid
      simp only [if_true, Option.some.injEq, List.mem_append, List.mem_singleton]
      constructor
      · rintro rfl
        exact ⟨Or.inr rfl, hnew⟩
      · rintro ⟨hq | rfl, hq'⟩
        · rw [hold q hq] at hq'
          exact absurd hq' (habsent q hq)
        · rfl
    · rw [if_neg hid, h.lookup id q, List.mem_append, List.mem_singleton]
      constructor
      · rintro ⟨hq, hq'⟩
        exact ⟨Or.inl hq, by rw [hold q hq, hq']⟩
      · rintro ⟨hq | rfl, hq'⟩
        · exact ⟨hq, by rw [← hold q hq, hq']⟩
        · exact absurd (hq'.symm.trans hnew) hid
  · intro id
    rw [hget]
    by_cases hid : id = command_id
    · simp [hid, BatchCommandExecutor.addComamndState]
    · have hrep : (e.addComamndState command_id).reported id = e.reported id :=
        Function.update_of_ne hid _ _
      rw [if_neg hid, hrep, h.told id]
      cases hid' : e.getCommandState id with
      | none => rfl
      | some q => simp [hold q ((h.lookup id q).mp hid').1]

theorem command_id_setLastEvent (e : BatchCommandExecutor) (command_id : UInt64)
    (type : BatchCommandEventType) (fault : Option FaultDescription) (q : StateRef) :
    ((e.setLastEvent command_id type fault).state q).command_id = (e.state q).command_id := by
  unfold BatchCommandExecutor.setLastEvent
  cases e.getCommandState command_id with
  | none => rfl
  | some r =>
    simp only
    by_cases hq : q = r
    · simp [hq]
    · rw [Function.update_of_ne hq]

/-- The state of another id is not written. -/
theorem HistoryGood.state_setLastEvent (h : HistoryGood e queue) {id command_id : UInt64}
    (hid : id ≠ command_id) {q : StateRef} (hq : e.getCommandState id = some q)
    (type : BatchCommandEventType) (fault : Option FaultDescription) :
    (e.setLastEvent command_id type fault).state q = e.state q := by
  unfold BatchCommandExecutor.setLastEvent
  cases hr : e.getCommandState command_id with
  | none => rfl
  | some r =>
    refine Function.update_of_ne ?_ _ _
    rintro rfl
    exact hid (((h.lookup id q).mp hq).2.symm.trans ((h.lookup command_id q).mp hr).2)

/-- An event of a command is written in its state. -/
theorem HistoryGood.setLastEvent (h : HistoryGood e queue) (command_id : UInt64)
    (type : BatchCommandEventType) (fault : Option FaultDescription) :
    HistoryGood (e.setLastEvent command_id type fault) queue := by
  have hid := command_id_setLastEvent e command_id type fault
  refine ⟨h.made, ?_, ?_, ?_⟩
  · simpa only [hid] using h.distinct
  · intro id q
    rw [hid]
    exact h.lookup id q
  · intro id
    have htold := h.told id
    have hget : (e.setLastEvent command_id type fault).getCommandState id = e.getCommandState id :=
      rfl
    rw [hget]
    by_cases hc : id = command_id
    · subst hc
      simp only [BatchCommandExecutor.setLastEvent, Function.update_self, htold]
      cases hr : e.getCommandState id with
      | none => rfl
      | some r => simp
    · have hrep : (e.setLastEvent command_id type fault).reported id = e.reported id :=
        Function.update_of_ne hc _ _
      rw [hrep, htold]
      cases hr : e.getCommandState id with
      | none => rfl
      | some q => simp [h.state_setLastEvent hc hr]

theorem HistoryGood.handleCommandEvent (h : HistoryGood e e.command_state_queue)
    {command_id : UInt64} {type : BatchCommandEventType} (fault : FaultDescription)
    (hfresh : type = .EVT_QUEUED → e.getCommandState command_id = none) :
    HistoryGood (e.handleCommandEvent command_id type fault)
      (e.handleCommandEvent command_id type fault).command_state_queue := by
  cases type with
  | EVT_QUEUED => exact h.addComamndState (hfresh rfl)
  | EVT_FAULT => exact h.setLastEvent command_id _ _
  | EVT_WAITING => exact h.setLastEvent command_id _ _
  | EVT_RUNNING => exact h.setLastEvent command_id _ _
  | EVT_PAUSED => exact h.setLastEvent command_id _ _
  | EVT_COMPLETED => exact h.setLastEvent command_id _ _
  | EVT_KILLED => exact h.setLastEvent command_id _ _

/-! ## The loops -/

/-- A property of a history and its queue that the loops keep: it does not see the order of the
queue, and it holds again when a state that has ended leaves the queue. -/
structure LoopKept (Q : BatchCommandExecutor → List StateRef → Prop) : Prop where
  perm : ∀ {e queue queue'}, Q e queue → queue.Perm queue' → Q e queue'
  write : ∀ {e queue}, Q e queue → Q { e with command_state_queue := queue } queue
  eraseState : ∀ {e r queue}, Q e (r :: queue) → ¬ e.isPending r = true → Q (e.eraseState r) queue

section

variable {Q : BatchCommandExecutor → List StateRef → Prop}

/-- What the loop of the cap has seen is erased, or waits to be pushed to the front again. -/
theorem LoopKept.capLoop (hQ : LoopKept Q) (queue : List StateRef) (idx : UInt64)
    (reinsert : List StateRef) (h : Q e (queue ++ reinsert)) :
    Q (e.capLoop queue idx reinsert) (e.capLoop queue idx reinsert).command_state_queue := by
  induction queue generalizing e idx reinsert with
  | nil =>
    simp only [BatchCommandExecutor.capLoop, List.foldl_flip_cons_eq_append', List.append_nil]
    exact hQ.write (hQ.perm h (List.reverse_perm reinsert).symm)
  | cons r rest ih =>
    unfold BatchCommandExecutor.capLoop
    split
    · simp only [List.foldl_flip_cons_eq_append']
      refine hQ.write (hQ.perm h ?_)
      exact List.perm_append_comm.trans ((List.reverse_perm reinsert).symm.append_right _)
    · split
      · refine ih idx (reinsert ++ [r]) (hQ.perm h ?_)
        rw [List.cons_append, ← List.append_assoc]
        exact (List.perm_append_singleton r (rest ++ reinsert)).symm
      · rename_i hr
        exact ih (idx - 1) reinsert (hQ.eraseState h hr)

theorem LoopKept.capCommanaQueue (hQ : LoopKept Q) (h : Q e e.command_state_queue) :
    Q e.capCommanaQueue e.capCommanaQueue.command_state_queue := by
  unfold BatchCommandExecutor.capCommanaQueue
  split
  · exact h
  · exact hQ.capLoop _ _ [] (by simpa using h)

theorem LoopKept.flushLoop (hQ : LoopKept Q) (back : List StateRef) (h : Q e back) :
    Q (e.flushLoop back) (e.flushLoop back).command_state_queue := by
  induction back generalizing e with
  | nil => exact hQ.write h
  | cons r rest ih =>
    unfold BatchCommandExecutor.flushLoop
    split
    · exact hQ.write (hQ.perm h (List.reverse_perm (r :: rest)).symm)
    · rename_i hr
      exact ih (hQ.eraseState h hr)

theorem LoopKept.flushCommandStates (hQ : LoopKept Q) (h : Q e e.command_state_queue) :
    Q e.flushCommandStates e.flushCommandStates.command_state_queue :=
  hQ.flushLoop _ (hQ.perm h (List.reverse_perm _).symm)

end

theorem loopKept_historyGood : LoopKept HistoryGood where
  perm := HistoryGood.perm
  write := HistoryGood.write
  eraseState h _ := h.eraseState

/-! ## Every run -/

/-- The id of the command that the call queues, if it queues one. -/
def queuedId (e : BatchCommandExecutor) : ExecutorCall → Option UInt64
  | .init _ =>
    if (process_event e.serviceState .init).isSome ∧ e.default_command_alias ≠ "" then some 1
    else none
  | .submitCommand (some d) =>
    if e.serviceState = .SS_STARTED ∧
      e.hasSandbox (d.execution_channel.getD COMMAND_BASE_SANDOXX_ID) = true ∧
      d.instanced = true ∧ d.accepted = true then
      some (d.described_id.getD (e.command_sequence_id + 1)) else none
  | .handleCommandEvent command_id .EVT_QUEUED _ => some command_id
  | _ => none

/-- A command is queued only with an id that the history does not hold. -/
def FreshId (e : BatchCommandExecutor) (a : ExecutorCall) : Prop :=
  ∀ id ∈ queuedId e a, e.getCommandState id = none

instance FreshId.decidable (e : BatchCommandExecutor) (a : ExecutorCall) :
    Decidable (FreshId e a) :=
  -- named, since the ids are finitely many and could also be tried one by one
  Option.decidableForallMem (p := fun id => e.getCommandState id = none) (queuedId e a)

/-- The history sees no other field of the executor. -/
theorem HistoryGood.of_same {e e' : BatchCommandExecutor} (h : HistoryGood e queue)
    (hstate : e'.state = e.state) (hallocated : e'.allocated = e.allocated)
    (hmap : e'.command_state_fast_access_map = e.command_state_fast_access_map)
    (hreported : e'.reported = e.reported) : HistoryGood e' queue := by
  refine ⟨?_, ?_, ?_, ?_⟩
  · rw [hallocated]
    exact h.made
  · rw [hstate]
    exact h.distinct
  · intro id r
    rw [hstate, getCommandState, hmap]
    exact h.lookup id r
  · intro id
    rw [hstate, hreported, getCommandState, hmap]
    exact h.told id

theorem history_submit (h : HistoryGood e e.command_state_queue)
    {d : Option Submission} (hfresh : FreshId e (.submitCommand d)) :
    HistoryGood (e.submitCommand d).1 (e.submitCommand d).1.command_state_queue := by
  cases d with
  | none => exact h
  | some d =>
    unfold submitCommand
    simp only
    split
    · exact h
    · rename_i hstarted
      split
      · exact h
      · rename_i hsandbox
        split
        · rename_i hinst
          split
          · rename_i hacc
            have hnone : e.getCommandState
                (d.described_id.getD (e.command_sequence_id + 1)) = none := by
              refine hfresh _ ?_
              simp only [queuedId]
              rw [if_pos ⟨by simpa using hstarted, by simpa using hsandbox, hinst, hacc⟩]
              rfl
            have h' : HistoryGood { e with command_sequence_id := e.command_sequence_id + 1 }
                e.command_state_queue := h.of_same rfl rfl rfl rfl
            exact h'.addComamndState hnone
          · exact h.of_same rfl rfl rfl rfl
        · exact h.of_same rfl rfl rfl rfl

theorem history_init (h : HistoryGood e e.command_state_queue) {instanced : Bool}
    {e' : BatchCommandExecutor}
    (hfresh : e.default_command_alias ≠ "" → e.getCommandState 1 = none)
    (hinit : e.init instanced = some e') : HistoryGood e' e'.command_state_queue := by
  unfold BatchCommandExecutor.init at hinit
  generalize (if e.sandbox_map = 0 then 1 else e.sandbox_map) = sandboxes at hinit
  simp only at hinit
  split at hinit
  · cases hinit
    exact h.of_same rfl rfl rfl rfl
  · rename_i halias
    split at hinit
    · cases hinit
      have h' : HistoryGood { e with command_sequence_id := 1, sandbox_map := sandboxes }
          e.command_state_queue := h.of_same rfl rfl rfl rfl
      exact h'.addComamndState (hfresh halias)
    · cases hinit

theorem history_service (h : HistoryGood e e.command_state_queue) {event : ServiceEvent}
    {f : BatchCommandExecutor → Option BatchCommandExecutor} {e' : BatchCommandExecutor}
    (hf : ∀ t, (process_event e.serviceState event).isSome = true → f e = some t →
      HistoryGood t t.command_state_queue)
    (hstep : onService e event f = some e') : HistoryGood e' e'.command_state_queue := by
  unfold onService at hstep
  split at hstep
  · cases hstep
    exact h
  · rename_i next hnext
    obtain ⟨t, ht, rfl⟩ := Option.map_eq_some_iff.mp hstep
    exact (hf t (by simp [hnext]) ht).of_same rfl rfl rfl rfl

/-- One call keeps the history good, when it queues no command with a known id. -/
theorem history_step (h : HistoryGood e e.command_state_queue) {a : ExecutorCall}
    {e' : BatchCommandExecutor} (hfresh : FreshId e a) (hstep : executorStep e a = some e') :
    HistoryGood e' e'.command_state_queue := by
  cases a with
  | init instanced =>
    have hstep' : onService e .init (·.init instanced) = some e' := hstep
    refine history_service h ?_ hstep'
    intro t hevent ht
    refine history_init h ?_ ht
    intro halias
    refine hfresh 1 ?_
    simp only [queuedId]
    rw [if_pos ⟨hevent, halias⟩]
    rfl
  | start =>
    refine history_service h ?_ hstep
    rintro t _ ⟨⟩
    exact h
  | stop =>
    refine history_service h ?_ hstep
    rintro t _ ⟨⟩
    exact h
  | deinit =>
    refine history_service h ?_ hstep
    rintro t _ ⟨⟩
    exact h
  | setDefaultCommand command_alias sandbox_instance =>
    cases hstep
    unfold setDefaultCommand
    split
    · exact h
    · exact h.of_same rfl rfl rfl rfl
  | addSandboxInstance n =>
    cases hstep
    exact h.of_same rfl rfl rfl rfl
  | submitCommand d =>
    cases hstep
    exact history_submit h hfresh
  | handleCommandEvent command_id type fault =>
    cases hstep
    refine h.handleCommandEvent fault ?_
    rintro rfl
    exact hfresh command_id rfl
  | capCommanaQueue =>
    cases hstep
    exact loopKept_historyGood.capCommanaQueue h
  | flushCommandStates =>
    cases hstep
    exact loopKept_historyGood.flushCommandStates h

/-- The queue and the map hold the same states, no two states have the same id, and the state
of an id has the last event that was reported for the last command with this id. -/
structure HistoryAgrees (e : BatchCommandExecutor) : Prop where
  same_states : ∀ r, r ∈ e.command_state_queue ↔ ∃ id, e.command_state_fast_access_map id = some r
  distinct_ids : (e.command_state_queue.map fun r => (e.state r).command_id).Nodup
  last_event : ∀ id, ((e.getCommandState id).map fun r => (e.state r).last_event) =
    (e.reported id).map Prod.snd

/-- In every run that queues no command with an id of the history, the history agrees. -/
theorem command_history_agrees (state : StateRef → CommandState) (calls : List ExecutorCall)
    (e : BatchCommandExecutor)
    (hok : runs.RunOk executorStep FreshId (BatchCommandExecutor.create state) calls)
    (hrun : runs.run executorStep (BatchCommandExecutor.create state) calls = some e) :
    HistoryAgrees e := by
  have hgood : HistoryGood e e.command_state_queue := by
    refine runs.run_keeps_of_ok (fun e => HistoryGood e e.command_state_queue) ?_ ?_ hok hrun
    · intro e a e' h hfresh hstep
      exact history_step h hfresh hstep
    · refine ⟨?_, List.nodup_nil, ?_, ?_⟩
      · intro r hr
        simp [BatchCommandExecutor.create] at hr
      · intro id r
        simp [BatchCommandExecutor.create, getCommandState]
      · intro id
        rfl
  refine ⟨?_, hgood.distinct, ?_⟩
  · intro r
    constructor
    · intro hr
      exact ⟨_, (hgood.lookup _ r).mpr ⟨hr, rfl⟩⟩
    · rintro ⟨id, hid⟩
      exact ((hgood.lookup id r).mp hid).1
  · intro id
    rw [hgood.told id, Option.map_map]
    rfl

/-- A life cycle of an executor in which one command is submitted and completed. -/
def oneLife : List ExecutorCall :=
  [.init false, .start, .submitCommand (some ⟨none, true, true, none⟩),
   .handleCommandEvent 1 .EVT_RUNNING ⟨"", 0, "", ""⟩,
   .handleCommandEvent 1 .EVT_COMPLETED ⟨"", 0, "", ""⟩, .stop, .deinit]

def noState : StateRef → CommandState := fun _ => ⟨0, .EVT_QUEUED, ⟨"", 0, "", ""⟩⟩

/-- A history that is flushed before the second life knows the second command with id 1. -/
theorem history_of_flushed_lives : ∃ e,
    runs.run executorStep (BatchCommandExecutor.create noState)
      (oneLife ++ .flushCommandStates :: oneLife) = some e ∧
    e.command_state_queue = [1] ∧ HistoryAgrees e :=
  ⟨_, rfl, by decide, command_history_agrees noState (oneLife ++ .flushCommandStates :: oneLife) _
    (by decide) rfl⟩

/-- The ids start again with the second life, and the history still has a command with id 1. -/
theorem second_life_reuses_an_id :
    ¬ ∀ (state : StateRef → CommandState) (calls : List ExecutorCall) (e : BatchCommandExecutor),
      runs.run executorStep (BatchCommandExecutor.create state) calls = some e →
      HistoryAgrees e := by
  intro h
  have hids := (h noState (oneLife ++ oneLife) _ rfl).distinct_ids
  exact absurd hids (by decide)

end chaos.batch_command
