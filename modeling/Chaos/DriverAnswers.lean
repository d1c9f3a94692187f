-- What becomes of the messages that are submitted to a driver. The thread answers each with its own
-- id in the queue that it names, but the poll of the asynchronous responses pops the queue of the
-- synchronous ones, and the thread leaves its loop with messages still in the command queue.
import Chaos.DriverCommands

namespace chaos.cu.driver_manager.driver

open runs

namespace Driver

variable {s t : Driver}

/-! ## What is claimed -/

/-- A poll gives one of the completed calls, and nothing only when there is none. -/
def Poll.Right (p : Poll) : Prop :=
  match p.result with
  | none => p.completed = []
  | some r => ∃ a ∈ p.completed, r = ⟨a.id, a.call⟩

structure Kept (s : Driver) : Prop where
  /-- each call is on its way or answered, and once -/
  once : ∀ call < s.calls.length,
    (s.onTheirWay.map (·.call)).count (some call) + (s.answers.map (·.call)).count (some call) = 1
  /-- an answer has the id of its call, and is in the queue of its accessor and its mode -/
  own : ∀ r ∈ s.answers, ∃ call, r.call = some call ∧
    s.calls[call]? = some ⟨r.accessor, r.mq, r.id⟩
  /-- no call is left in the command queue without a thread -/
  popped : s.phase = .terminated → ∀ c ∈ s.command_queue, c.call = none
  /-- a `send` that waits is on its way, or its response lies in the queue that it waits on -/
  awaited : ∀ call ∈ s.sending, ∃ k, s.calls[call]? = some k ∧ k.mq = .accessor_sync_mq ∧
    (some call ∈ s.onTheirWay.map (·.call) ∨ ⟨k.id, some call⟩ ∈ (s.accessors k.accessor).sync_mq)
  /-- what a `send` has popped is the response to its own message -/
  sent : ∀ e ∈ s.sent, ∃ k, s.calls[e.1]? = some k ∧ k.mq = .accessor_sync_mq ∧
    e.2 = ⟨k.id, some e.1⟩
  polled : ∀ p ∈ s.polls, Poll.Right p

/-! ## The condition -/

/-- A message is submitted while a thread is there, and it is not changed while it is on its way;
a `send` finds no other response in its queue; a poll comes while the accessor has no response at
all; and no call waits in the command queue when the thread leaves its loop. -/
def InTurn (s : Driver) : Label → Prop
  | .send _ cmd _ | .sendAsync _ cmd _ =>
    s.phase ≠ .terminated ∧ cmd ∉ s.onTheirWay.map (·.cmd)
  | .sendReturns call _ => ∀ k, s.calls[call]? = some k →
    ∀ r ∈ (s.accessors k.accessor).sync_mq, r.call = some call
  | .getLastAsyncMsg accessor _ =>
    (s.accessors accessor).sync_mq = [] ∧ (s.accessors accessor).async_mq = []
  | .write cmd _ => cmd ∉ s.onTheirWay.map (·.cmd)
  | .test => ∀ cmd, s.phase = .testing cmd →
    (s.messages cmd).opcode = OP_DEINIT ∨ s.driverNeedtoDeinitialize = true →
    ∀ c ∈ s.command_queue, c.call = none
  | _ => True

instance (s : Driver) : ∀ a, Decidable (InTurn s a)
  | .send _ _ _ | .sendAsync _ _ _ | .getLastAsyncMsg _ _ => inferInstanceAs (Decidable (_ ∧ _))
  | .write _ _ => inferInstanceAs (Decidable (_ ∉ _))
  | .sendReturns call _ =>
    match h : s.calls[call]? with
    | none => isTrue fun _ hk => by rw [h] at hk; cases hk
    | some k =>
      decidable_of_iff (∀ r ∈ (s.accessors k.accessor).sync_mq, r.call = some call)
        ⟨fun hr _ hk => Option.some.inj (h.symm.trans hk) ▸ hr, fun hr => hr k h⟩
  | .test =>
    match h : s.phase with
    | .testing cmd =>
      decidable_of_iff ((s.messages cmd).opcode = OP_DEINIT ∨ s.driverNeedtoDeinitialize = true →
          ∀ c ∈ s.command_queue, c.call = none)
        ⟨fun hr _ hk => ScanPhase.testing.inj (h.symm.trans hk) ▸ hr, fun hr => hr cmd h⟩
    | .waiting | .executing _ | .terminated => isTrue fun _ hk => by rw [h] at hk; cases hk
  | .deinit | .deinitMessage _ | .pop _ | .execOpcode _ | .driverAnswers _ => isTrue trivial

/-! ## The invariant -/

structure Good (s : Driver) : Prop extends Kept s where
  /-- no two commands share their memory -/
  apart : (s.onTheirWay.map (·.cmd)).Nodup
  /-- the memory of a command is as its call has filled it -/
  filled : ∀ c ∈ s.onTheirWay, ∀ call, c.call = some call → ∃ k, s.calls[call]? = some k ∧
    (s.messages c.cmd).id = k.id ∧ (s.messages c.cmd).drvResponseMQ = some (k.accessor, k.mq)
  unnamed : ∀ c ∈ s.onTheirWay, c.call = none → (s.messages c.cmd).drvResponseMQ = none
  responses : ∀ a, ∀ r ∈ (s.accessors a).sync_mq, ∃ call, r.call = some call ∧
    s.calls[call]? = some ⟨a, .accessor_sync_mq, r.id⟩
  /-- no poll has taken an asynchronous response -/
  untaken : ∀ r ∈ s.answers, r.mq = .accessor_async_mq →
    ⟨r.id, r.call⟩ ∈ (s.accessors r.accessor).async_mq
  waiting : s.sending.Nodup

/-! ## The queues -/

theorem responseTop_mem {q : List Response} {tie : Nat} {r : Response}
    (h : responseTop q tie = some r) : r ∈ q := pqueue.top_mem h

theorem responseTop_nil (tie : Nat) : responseTop [] tie = none := rfl

/-- A number that no call has yet is nowhere. -/
theorem Good.call_lt (h : Good s) {c : Command} (hc : c ∈ s.onTheirWay) {call : Nat}
    (hcall : c.call = some call) : call < s.calls.length := by
  obtain ⟨k, hk, -⟩ := h.filled c hc call hcall
  exact (List.getElem?_eq_some_iff.mp hk).1

theorem Kept.answered_lt (h : Kept s) {r : Answer} (hr : r ∈ s.answers) {call : Nat}
    (hcall : r.call = some call) : call < s.calls.length := by
  obtain ⟨n, hn, hk⟩ := h.own r hr
  rw [hcall, Option.some.injEq] at hn
  subst hn
  exact (List.getElem?_eq_some_iff.mp hk).1

/-! ## Commands that move -/

/-- The commands on their way only change their places. -/
theorem Good.moved (h : Good s) {q d : List Command} {p : ScanPhase}
    (hperm : (q ++ p.commands ++ d).Perm s.onTheirWay)
    (hpop : p = .terminated → ∀ c ∈ q, c.call = none) :
    Good { s with command_queue := q, phase := p, dispatched := d } := by
  have hcalls := hperm.map (·.call)
  refine
    { once := ?_, own := h.own, popped := hpop, awaited := ?_, sent := h.sent
      polled := h.polled, apart := ?_, filled := ?_, unnamed := ?_, responses := h.responses
      untaken := h.untaken, waiting := h.waiting }
  · intro call hlt
    rw [← h.once call hlt, onTheirWay, hcalls.count_eq]
  · intro call hs
    obtain ⟨k, hk, hmq, hplace⟩ := h.awaited call hs
    exact ⟨k, hk, hmq, hplace.imp hcalls.mem_iff.mpr id⟩
  · exact (hperm.map (·.cmd)).nodup_iff.mpr h.apart
  · intro c hc
    exact h.filled c (hperm.mem_iff.mp hc)
  · intro c hc
    exact h.unnamed c (hperm.mem_iff.mp hc)

/-- The message of `deinit` is executed, and nobody is told. -/
theorem Good.unanswered (h : Good s) {c : Command} {d : List Command} {p : ScanPhase}
    (hperm : (c :: (s.command_queue ++ p.commands ++ d)).Perm s.onTheirWay)
    (hcall : c.call = none) (hp : p = .terminated → s.phase = .terminated) :
    Good { s with phase := p, dispatched := d } := by
  have hcalls := hperm.map (·.call)
  refine
    { once := ?_, own := h.own, popped := fun hd => h.popped (hp hd), awaited := ?_
      sent := h.sent, polled := h.polled, apart := ?_, filled := ?_, unnamed := ?_
      responses := h.responses, untaken := h.untaken, waiting := h.waiting }
  · intro call hlt
    have := hcalls.count_eq (some call)
    rw [List.map_cons, hcall, List.count_cons_of_ne (by simp)] at this
    rw [← h.once call hlt, onTheirWay, this]
  · intro call hs
    obtain ⟨k, hk, hmq, hplace⟩ := h.awaited call hs
    refine ⟨k, hk, hmq, hplace.imp (fun hm => ?_) id⟩
    have := hcalls.mem_iff.mpr hm
    simpa [hcall, onTheirWay] using this
  · exact ((hperm.map (·.cmd)).nodup_iff.mpr h.apart).of_cons
  · intro x hx
    exact h.filled x (hperm.mem_iff.mp (List.mem_cons_of_mem c hx))
  · intro x hx
    exact h.unnamed x (hperm.mem_iff.mp (List.mem_cons_of_mem c hx))

theorem answer_of_named {c : Command} {a : Nat} {mq : AccessorQueue}
    (h : (s.messages c.cmd).drvResponseMQ = some (a, mq)) :
    s.answer c = { s with
      accessors := Function.update s.accessors a
        (pushResponse (s.accessors a) ⟨(s.messages c.cmd).id, c.call⟩ mq)
      answers := s.answers ++ [⟨c.call, a, mq, (s.messages c.cmd).id⟩] } := by
  simp [answer, h]

theorem answer_places (c : Command) :
    (s.answer c).phase = s.phase ∧ (s.answer c).dispatched = s.dispatched := by
  cases hmq : (s.messages c.cmd).drvResponseMQ <;> simp [answer, hmq]

theorem mem_pushResponse_sync {a : DriverAccessor} {r x : Response} {mq : AccessorQueue} :
    x ∈ (pushResponse a r mq).sync_mq ↔ x ∈ a.sync_mq ∨ x = r ∧ mq = .accessor_sync_mq := by
  cases mq <;> simp [pushResponse]

theorem mem_pushResponse_async {a : DriverAccessor} {r x : Response} {mq : AccessorQueue} :
    x ∈ (pushResponse a r mq).async_mq ↔ x ∈ a.async_mq ∨ x = r ∧ mq = .accessor_async_mq := by
  cases mq <;> simp [pushResponse]

/-- The message of a call is executed, and its id goes in the queue of its mode. -/
theorem Good.answered (h : Good s) {c : Command} {call : Nat} {d : List Command} {p : ScanPhase}
    (hperm : (c :: (s.command_queue ++ p.commands ++ d)).Perm s.onTheirWay)
    (hcall : c.call = some call) (hp : p = .terminated → s.phase = .terminated) :
    Good { s.answer c with phase := p, dispatched := d } := by
  have hc : c ∈ s.onTheirWay := hperm.mem_iff.mp List.mem_cons_self
  obtain ⟨k, hk, hid, hmq⟩ := h.filled c hc call hcall
  rw [answer_of_named hmq, hid, hcall]
  have hcalls := hperm.map (·.call)
  refine
    { once := ?_, own := ?_, popped := fun hd => h.popped (hp hd), awaited := ?_
      sent := h.sent, polled := h.polled, apart := ?_, filled := ?_, unnamed := ?_
      responses := ?_, untaken := ?_, waiting := h.waiting }
  · intro n hlt
    have hcount := hcalls.count_eq (some n)
    have honce := h.once n hlt
    rw [List.map_cons, hcall, List.count_cons] at hcount
    simp only [onTheirWay, List.map_append, List.count_append, List.map_cons, List.map_nil,
      List.count_cons, List.count_nil] at hcount honce ⊢
    omega
  · intro r hr
    rcases List.mem_append.mp hr with hr | hr
    · exact h.own r hr
    · rw [List.mem_singleton.mp hr]
      exact ⟨call, rfl, hk⟩
  · intro n hs
    obtain ⟨k', hk', hsync, hplace⟩ := h.awaited n hs
    refine ⟨k', hk', hsync, ?_⟩
    by_cases hn : n = call
    · subst hn
      rw [hk, Option.some.injEq] at hk'
      subst hk'
      right
      simp [mem_pushResponse_sync, hsync]
    · refine hplace.imp (fun hm => ?_) (fun hm => ?_)
      · have := hcalls.mem_iff.mpr hm
        simpa [hcall, hn, onTheirWay] using this
      · rcases eq_or_ne k'.accessor k.accessor with ha | ha
        · rw [ha] at hm ⊢
          simp only [Function.update_self, mem_pushResponse_sync]
          exact .inl hm
        · simpa only [Function.update_of_ne ha] using hm
  · exact ((hperm.map (·.cmd)).nodup_iff.mpr h.apart).of_cons
  · intro x hx
    exact h.filled x (hperm.mem_iff.mp (List.mem_cons_of_mem c hx))
  · intro x hx
    exact h.unnamed x (hperm.mem_iff.mp (List.mem_cons_of_mem c hx))
  · intro a r hr
    rcases eq_or_ne a k.accessor with rfl | ha
    · simp only [Function.update_self, mem_pushResponse_sync] at hr
      rcases hr with hr | ⟨rfl, hs⟩
      · exact h.responses _ r hr
      · refine ⟨call, rfl, ?_⟩
        rw [hk, ← hs]
    · simp only [Function.update_of_ne ha] at hr
      exact h.responses a r hr
  · intro r hr hasync
    rcases List.mem_append.mp hr with hr | hr
    · have := h.untaken r hr hasync
      rcases eq_or_ne r.accessor k.accessor with ha | ha
      · rw [ha] at this ⊢
        simp only [Function.update_self, mem_pushResponse_async]
        exact .inl this
      · simpa only [Function.update_of_ne ha] using this
    · rw [List.mem_singleton.mp hr] at hasync ⊢
      simp only [Function.update_self, mem_pushResponse_async]
      exact .inr ⟨trivial, hasync⟩

/-! ## The calls of an accessor -/

/-- A submission adds a call, and a command that has its memory for itself. -/
theorem Good.submitted (h : Good s) {a cmd : Nat} {mq : AccessorQueue} (inc : UInt32)
    (hrun : s.phase ≠ .terminated) (hfree : cmd ∉ s.onTheirWay.map (·.cmd)) :
    Good (s.submit a cmd mq inc) := by
  have hother : ∀ c ∈ s.onTheirWay, c.cmd ≠ cmd := by
    intro c hc he
    exact hfree (List.mem_map.mpr ⟨c, hc, he⟩)
  have hold : ∀ {n : Nat} {k : Call}, s.calls[n]? = some k →
      (s.submit a cmd mq inc).calls[n]? = some k := by
    intro n k hk
    have hlt := (List.getElem?_eq_some_iff.mp hk).1
    simpa [submit, List.getElem?_append_left hlt] using hk
  have hperm : (s.submit a cmd mq inc).onTheirWay.Perm
      (⟨cmd, priority (s.accessors a).base_opcode_priority inc, some s.calls.length⟩ ::
        s.onTheirWay) := by
    simp only [onTheirWay, submit, List.append_assoc, List.singleton_append]
    exact List.perm_middle
  have hresp : ∀ b, ((s.submit a cmd mq inc).accessors b).sync_mq = (s.accessors b).sync_mq ∧
      ((s.submit a cmd mq inc).accessors b).async_mq = (s.accessors b).async_mq := by
    intro b
    rcases eq_or_ne b a with rfl | hb
    · simp [submit]
    · simp [submit, Function.update_of_ne hb]
  have hmem := fun c => hperm.mem_iff (a := c)
  refine
    { once := ?_, own := ?_, popped := fun hd => absurd hd hrun, awaited := ?_, sent := ?_
      polled := h.polled, apart := ?_, filled := ?_, unnamed := ?_, responses := ?_
      untaken := ?_, waiting := h.waiting }
  · intro n hlt
    rw [(hperm.map (·.call)).count_eq, List.map_cons]
    rcases Nat.lt_succ_iff_lt_or_eq.mp (by simpa [submit] using hlt) with hn | rfl
    · rw [List.count_cons_of_ne (by simpa using Nat.ne_of_gt hn)]
      exact h.once n hn
    · have hway : (s.onTheirWay.map (·.call)).count (some s.calls.length) = 0 := by
        refine List.count_eq_zero.mpr fun hm => ?_
        obtain ⟨c, hc, hcall⟩ := List.mem_map.mp hm
        exact Nat.lt_irrefl _ (h.call_lt hc hcall)
      have hans : (s.answers.map (·.call)).count (some s.calls.length) = 0 := by
        refine List.count_eq_zero.mpr fun hm => ?_
        obtain ⟨r, hr, hcall⟩ := List.mem_map.mp hm
        exact Nat.lt_irrefl _ (h.answered_lt hr hcall)
      simp [hway, hans, submit]
  · intro r hr
    obtain ⟨call, hcall, hk⟩ := h.own r hr
    exact ⟨call, hcall, hold hk⟩
  · intro call hs
    obtain ⟨k, hk, hsync, hplace⟩ := h.awaited call hs
    refine ⟨k, hold hk, hsync, hplace.imp (fun hm => ?_) (fun hm => ?_)⟩
    · exact (hperm.map (·.call)).mem_iff.mpr (List.mem_cons_of_mem _ hm)
    · rwa [(hresp k.accessor).1]
  · intro e he
    obtain ⟨k, hk, hsync, heq⟩ := h.sent e he
    exact ⟨k, hold hk, hsync, heq⟩
  · refine (hperm.map (·.cmd)).nodup_iff.mpr ?_
    exact List.nodup_cons.mpr ⟨hfree, h.apart⟩
  · intro c hc call hcall
    rcases List.mem_cons.mp ((hmem c).mp hc) with rfl | hc
    · refine ⟨⟨a, mq, (s.accessors a).messages_count⟩, ?_, ?_⟩
      · cases hcall
        simp [submit]
      · simp [submit]
    · obtain ⟨k, hk, hid, hmq⟩ := h.filled c hc call hcall
      refine ⟨k, hold hk, ?_⟩
      simpa [submit, Function.update_of_ne (hother c hc)] using ⟨hid, hmq⟩
  · intro c hc hcall
    rcases List.mem_cons.mp ((hmem c).mp hc) with rfl | hc
    · cases hcall
    · simpa [submit, Function.update_of_ne (hother c hc)] using h.unnamed c hc hcall
  · intro b r hr
    rw [(hresp b).1] at hr
    obtain ⟨call, hcall, hk⟩ := h.responses b r hr
    exact ⟨call, hcall, hold hk⟩
  · intro r hr hasync
    rw [(hresp r.accessor).2]
    exact h.untaken r hr hasync

theorem Good.send (h : Good s) {a cmd : Nat} {inc : UInt32} (hok : InTurn s (.send a cmd inc)) :
    Good (s.send a cmd inc) := by
  have hsub : Good (s.submit a cmd .accessor_sync_mq inc) := h.submitted inc hok.1 hok.2
  have hlt : ∀ n ∈ s.sending, n < s.calls.length := by
    intro n hn
    obtain ⟨k, hk, -⟩ := h.awaited n hn
    exact (List.getElem?_eq_some_iff.mp hk).1
  refine { hsub with awaited := ?_, waiting := ?_ }
  · intro call hs
    rcases List.mem_append.mp hs with hs | hs
    · exact hsub.awaited call hs
    · rw [List.mem_singleton.mp hs]
      refine ⟨⟨a, .accessor_sync_mq, (s.accessors a).messages_count⟩, ?_, rfl, .inl ?_⟩
      · simp [Driver.send, submit]
      · simp [Driver.send, submit, onTheirWay]
  · refine List.nodup_append.mpr ⟨h.waiting, List.nodup_singleton _, ?_⟩
    intro n hn m hm
    rw [List.mem_singleton.mp hm]
    exact Nat.ne_of_lt (hlt n hn)

theorem Good.sendReturns (h : Good s) {call tie : Nat} (hok : InTurn s (.sendReturns call tie))
    (ht : s.sendReturns call tie = some t) : Good t := by
  unfold Driver.sendReturns at ht
  split_ifs at ht with hs
  obtain ⟨k, hk, ht⟩ := Option.bind_eq_some_iff.mp ht
  obtain ⟨r, hr, rfl⟩ := Option.map_eq_some_iff.mp ht
  have hmem := responseTop_mem hr
  obtain ⟨n, hn, hnk⟩ := h.responses _ r hmem
  rw [hok k hk r hmem, Option.some.injEq] at hn
  subst hn
  rw [hk, Option.some.injEq] at hnk
  have hkept : ∀ b, ((Function.update s.accessors k.accessor
      { s.accessors k.accessor with sync_mq := (s.accessors k.accessor).sync_mq.erase r }) b).async_mq =
        (s.accessors b).async_mq := by
    intro b
    rcases eq_or_ne b k.accessor with rfl | hb
    · simp
    · simp [Function.update_of_ne hb]
  refine
    { once := h.once, own := h.own, popped := h.popped, awaited := ?_, sent := ?_
      polled := h.polled, apart := h.apart, filled := h.filled, unnamed := h.unnamed
      responses := ?_, untaken := ?_, waiting := h.waiting.erase call }
  · intro m hm
    have hne : m ≠ call := fun he => h.waiting.not_mem_erase (he ▸ hm)
    obtain ⟨k', hk', hsync, hplace⟩ := h.awaited m (List.mem_of_mem_erase hm)
    refine ⟨k', hk', hsync, hplace.imp id fun hin => ?_⟩
    -- the response to another call cannot lie beside the one that is popped
    rcases eq_or_ne k'.accessor k.accessor with ha | ha
    · rw [ha] at hin
      have := hok k hk _ hin
      exact absurd (Option.some.inj this) hne
    · simpa [Function.update_of_ne ha] using hin
  · intro e he
    rcases List.mem_append.mp he with he | he
    · exact h.sent e he
    · rw [List.mem_singleton.mp he]
      refine ⟨k, hk, by rw [hnk], ?_⟩
      rw [hnk, ← hok k hk r hmem]
  · intro b x hx
    rcases eq_or_ne b k.accessor with rfl | hb
    · simp only [Function.update_self] at hx
      exact h.responses _ x (List.mem_of_mem_erase hx)
    · simp only [Function.update_of_ne hb] at hx
      exact h.responses b x hx
  · intro x hx hasync
    rw [hkept]
    exact h.untaken x hx hasync

/-- A poll that comes while the accessor has no response says so, and is right. -/
theorem Good.getLastAsyncMsg (h : Good s) {a tie : Nat}
    (hok : InTurn s (.getLastAsyncMsg a tie)) : Good (s.getLastAsyncMsg a tie) := by
  have hnone : s.completed a = [] := by
    refine List.filter_eq_nil_iff.mpr fun r hr hcond => ?_
    obtain ⟨rfl, hasync, -⟩ := of_decide_eq_true hcond
    have := h.untaken r hr hasync
    rw [hok.2] at this
    exact List.not_mem_nil this
  simp only [Driver.getLastAsyncMsg, hok.1, responseTop_nil]
  refine { h with polled := ?_ }
  intro p hp
  rcases List.mem_append.mp hp with hp | hp
  · exact h.polled p hp
  · rw [List.mem_singleton.mp hp]
    exact hnone

theorem Good.write (h : Good s) {cmd : Nat} {msg : DrvMsg} (hok : InTurn s (.write cmd msg)) :
    Good (s.write cmd msg) := by
  have hother : ∀ c ∈ s.onTheirWay, (s.write cmd msg).messages c.cmd = s.messages c.cmd := by
    intro c hc
    refine Function.update_of_ne ?_ ..
    intro he
    exact hok (List.mem_map.mpr ⟨c, hc, he⟩)
  refine { h with filled := ?_, unnamed := ?_ }
  · intro c hc call hcall
    rw [hother c hc]
    exact h.filled c hc call hcall
  · intro c hc hcall
    rw [hother c hc]
    exact h.unnamed c hc hcall

/-! ## The driver and its thread -/

theorem Good.deinitMessage (h : Good s) {cmd : Nat} (ht : s.deinitMessage cmd = some t) :
    Good t := by
  unfold Driver.deinitMessage at ht
  split_ifs at ht with hfree
  cases ht
  have hother : ∀ c ∈ s.onTheirWay, c.cmd ≠ cmd := by
    intro c hc he
    exact hfree.2 (List.mem_map.mpr ⟨c, hc, he⟩)
  let c₀ : Command := ⟨cmd, 50, none⟩
  have hperm : (s.command_queue ++ [c₀] ++ s.phase.commands ++ s.dispatched).Perm
      (c₀ :: s.onTheirWay) := by
    simp only [onTheirWay, List.append_assoc, List.singleton_append]
    exact List.perm_middle
  have hcalls := hperm.map (·.call)
  have hmem := fun c : Command => hperm.mem_iff (a := c)
  refine
    { once := ?_, own := h.own, popped := ?_, awaited := ?_, sent := h.sent
      polled := h.polled, apart := ?_, filled := ?_, unnamed := ?_, responses := h.responses
      untaken := h.untaken, waiting := h.waiting }
  · intro n hlt
    rw [onTheirWay, hcalls.count_eq, List.map_cons, List.count_cons_of_ne (by simp)]
    exact h.once n hlt
  · intro hd c hc
    rcases List.mem_append.mp hc with hc | hc
    · exact h.popped hd c hc
    · rw [List.mem_singleton.mp hc]
  · intro call hs
    obtain ⟨k, hk, hsync, hplace⟩ := h.awaited call hs
    refine ⟨k, hk, hsync, hplace.imp (fun hm => ?_) id⟩
    exact hcalls.mem_iff.mpr (List.mem_cons_of_mem _ hm)
  · exact (hperm.map (·.cmd)).nodup_iff.mpr (List.nodup_cons.mpr ⟨hfree.2, h.apart⟩)
  · intro c hc call hcall
    rcases List.mem_cons.mp ((hmem c).mp hc) with rfl | hc
    · cases hcall
    · simpa only [Function.update_of_ne (hother c hc)] using h.filled c hc call hcall
  · intro c hc hcall
    rcases List.mem_cons.mp ((hmem c).mp hc) with rfl | hc
    · simp [c₀]
    · simpa only [Function.update_of_ne (hother c hc)] using h.unnamed c hc hcall

theorem Good.pop (h : Good s) {tie : Nat} (ht : s.pop tie = some t) : Good t := by
  unfold Driver.pop at ht
  split_ifs at ht with hphase
  obtain ⟨c, hc, rfl⟩ := Option.map_eq_some_iff.mp ht
  have hperm : (s.command_queue.erase c ++ [c] ++ s.dispatched).Perm s.onTheirWay := by
    rw [onTheirWay, hphase]
    refine List.Perm.append_right _ ?_
    refine (List.perm_append_singleton c _).trans ?_
    simpa [ScanPhase.commands] using (List.perm_cons_erase (pqueue.top_mem hc)).symm
  exact h.moved hperm (by simp)

/-- An answer, or none for the message of `deinit`. -/
theorem Good.answer (h : Good s) {c : Command} {d : List Command} {p : ScanPhase}
    (hperm : (c :: (s.command_queue ++ p.commands ++ d)).Perm s.onTheirWay)
    (hp : p = .terminated → s.phase = .terminated) :
    Good { s.answer c with phase := p, dispatched := d } := by
  rcases hcall : c.call with _ | call
  · have hmq := h.unnamed c (hperm.mem_iff.mp List.mem_cons_self) hcall
    have : s.answer c = s := by simp [Driver.answer, hmq]
    rw [this]
    exact h.unanswered hperm hcall hp
  · exact h.answered hperm hcall hp

theorem Good.execOpcode (h : Good s) {result : MsgManagmentResult}
    (ht : s.execOpcode result = some t) : Good t := by
  unfold Driver.execOpcode at ht
  split at ht
  · rename_i c hphase
    have hanswered : Good { s.answer c with phase := .testing c.cmd } := by
      have hperm : (c :: (s.command_queue ++ [] ++ s.dispatched)).Perm s.onTheirWay := by
        simpa [onTheirWay, hphase, ScanPhase.commands] using List.perm_middle.symm
      have := h.answer (p := .testing c.cmd) hperm (by simp)
      rwa [← (answer_places c).2] at this
    cases result with
    | MMR_EXECUTED =>
      cases ht
      exact hanswered
    | MMR_ERROR =>
      cases ht
      exact hanswered
    | MMR_THREAD_DISPATCHED =>
      cases ht
      refine h.moved ?_ (by simp)
      simpa [onTheirWay, hphase, ScanPhase.commands] using
        (List.perm_append_singleton c s.dispatched).append_left s.command_queue
  · cases ht

theorem Good.test (h : Good s) (hok : InTurn s .test) (ht : s.test = some t) : Good t := by
  unfold Driver.test at ht
  split at ht
  · rename_i cmd hphase
    cases ht
    refine h.moved ?_ ?_
    · rw [onTheirWay, hphase]
      split <;> rfl
    · intro hd
      refine hok cmd hphase ?_
      by_contra hcond
      rw [if_pos (by simpa using hcond)] at hd
      cases hd
  · cases ht

theorem Good.driverAnswers (h : Good s) {i : Nat} (ht : s.driverAnswers i = some t) :
    Good t := by
  obtain ⟨c, hc, rfl⟩ := Option.map_eq_some_iff.mp ht
  obtain ⟨hi, rfl⟩ := List.getElem?_eq_some_iff.mp hc
  have hperm : (s.dispatched[i] :: (s.command_queue ++ s.phase.commands ++
      s.dispatched.eraseIdx i)).Perm s.onTheirWay :=
    List.perm_middle.symm.trans ((List.getElem_cons_eraseIdx_perm hi).append_left _)
  have := h.answer (p := s.phase) hperm id
  rwa [← (answer_places s.dispatched[i]).1] at this

theorem good_new (base : Nat → UInt32) : Good (new base) := by
  constructor <;> simp [new, onTheirWay, ScanPhase.commands]
  constructor <;> simp [onTheirWay, ScanPhase.commands]

theorem step_good (hs : Good s) (a : Label) (hok : InTurn s a) (ht : step s a = some t) :
    Good t := by
  cases a with
  | send accessor cmd inc_priority =>
    cases ht
    exact hs.send hok
  | sendReturns call tie => exact hs.sendReturns hok ht
  | sendAsync accessor cmd inc_priority =>
    cases ht
    exact hs.submitted inc_priority hok.1 hok.2
  | getLastAsyncMsg accessor tie =>
    cases ht
    exact hs.getLastAsyncMsg hok
  | write cmd msg =>
    cases ht
    exact hs.write hok
  | deinit =>
    cases ht
    exact { hs with }
  | deinitMessage cmd => exact hs.deinitMessage ht
  | pop tie => exact hs.pop ht
  | execOpcode result => exact hs.execOpcode ht
  | test => exact hs.test hok ht
  | driverAnswers i => exact hs.driverAnswers ht

/-! ## What holds of the runs -/

/-- The property that is claimed holds in every state of a run whose steps meet the condition. -/
theorem driver_messages_are_answered (base : Nat → UInt32) (as : List Label)
    (hok : RunOk step InTurn (new base) as) (hr : run step (new base) as = some t) : Kept t :=
  (run_keeps_of_ok Good (fun _ a _ hs hstep ht => step_good hs a hstep ht) (good_new base) hok
    hr).toKept

/-- Two accessors, an asynchronous message that is dispatched, a `send`, and then `deinit`. -/
def lifeOfDriver : List Label :=
  [.sendAsync 0 10 0, .send 1 11 5, .getLastAsyncMsg 0 0, .pop 0, .execOpcode .MMR_EXECUTED, .test,
    .sendReturns 1 0, .pop 0, .execOpcode .MMR_THREAD_DISPATCHED, .deinit, .deinitMessage 12,
    .test, .driverAnswers 0]

theorem driver_messages_are_answered_through_deinit :
    ∃ t, run step (new fun _ => 50) lifeOfDriver = some t ∧ Kept t :=
  ⟨_, rfl, driver_messages_are_answered (fun _ => 50) lifeOfDriver (by decide) rfl⟩

/-- A completed asynchronous message is not found; a poll takes the response of a `send`, which
then waits for ever; and a message that is queued behind `deinit` is not answered. -/
theorem driver_messages_are_not_answered :
    (∃ t, run step (new fun _ => 50) [.sendAsync 0 10 0, .pop 0, .execOpcode .MMR_EXECUTED, .test,
      .getLastAsyncMsg 0 0] = some t ∧ ¬ Kept t) ∧
    (∃ t, run step (new fun _ => 50) [.send 0 10 0, .pop 0, .execOpcode .MMR_EXECUTED, .test,
      .getLastAsyncMsg 0 0] = some t ∧ ¬ Kept t) ∧
    ∃ t, run step (new fun _ => 50) [.sendAsync 0 10 0, .sendAsync 0 11 0, .pop 0, .deinit,
      .execOpcode .MMR_EXECUTED, .test] = some t ∧ ¬ Kept t := by
  refine ⟨⟨_, rfl, ?_⟩, ⟨_, rfl, ?_⟩, ⟨_, rfl, ?_⟩⟩
  · intro h
    have := h.polled ⟨[⟨some 0, 0, .accessor_async_mq, 0⟩], none⟩ List.mem_cons_self
    simp [Poll.Right] at this
  · intro h
    have := h.polled ⟨[], some ⟨0, some 0⟩⟩ List.mem_cons_self
    simp [Poll.Right] at this
  · intro h
    have := h.popped rfl ⟨11, 50, some 1⟩ List.mem_cons_self
    cases this

end Driver

end chaos.cu.driver_manager.driver
